import Fybrik.Select.Search
import Fybrik.Select.Validate
import Fybrik.Config.Evaluator
import Fybrik.Config.Independence
import Fybrik.Lib.Gather
import Fybrik.Utils.Names
import Fybrik.Lib.OptimisticStore
import Fybrik.Utils.Updates
import Fybrik.Api.Resources
import Fybrik.Plotter.Generator
import Fybrik.Lib.MapLoops
import Fybrik.Plotter.Blueprints
import Fybrik.Plotter.Translation
import Fybrik.Plotter.Endpoint
import Fybrik.Plotter.Governance
import Fybrik.Application.Conditions
import Fybrik.Application.Reconcile
import Fybrik.Application.Controller
import Fybrik.Application.Access
import Fybrik.Application.Runs
import Fybrik.Blueprint.Controller
import Fybrik.Blueprint.Runs
import Fybrik.Blueprint.Convergence
import Fybrik.Plotter.Controller
import Fybrik.Plotter.Runs
import Fybrik.Plotter.Convergence
import Fybrik.Lib.Tally
import Fybrik.Plotter.AssetStates
import Fybrik.Multicluster.Managers
import Fybrik.Plotter.Cleanup
import Fybrik.Application.Calls
import Fybrik.Application.Readiness
import Fybrik.Application.Shared
import Fybrik.Application.Convergence
import Fybrik.Lib.Stages
import Fybrik.Storage.Provisioning
import Fybrik.Application.Cleanup
import Fybrik.Plotter.Storage
import Fybrik.Application.Storage
import Fybrik.Blueprint.Cleanup
import Fybrik.Blueprint.ModuleStates
import Fybrik.Blueprint.Failures
import Fybrik.Lib.Nested
import Fybrik.Lib.Layers
import Fybrik.Blueprint.ChartValues
import Fybrik.Application.Names
import Fybrik.Lib.OrderedSearch
import Fybrik.Select.Choices
import Fybrik.Plotter.Assets
import Fybrik.Plotter.Selection
import Fybrik.Plotter.Copies
import Fybrik.Plotter.Isolation
import Fybrik.Lib.Heap
import Fybrik.Plotter.Memory
import Fybrik.Plotter.Credentials
import Fybrik.Connectors.Grpc
import Fybrik.Connectors.RoundTrip
import Fybrik.Lib.Assoc
import Fybrik.Taxonomy.Schema
import Fybrik.Taxonomy.Transform
import Fybrik.Taxonomy.Visits
import Fybrik.Taxonomy.Frame
import Fybrik.Taxonomy.References
import Fybrik.Taxonomy.Codegen
import Fybrik.Taxonomy.Validation
import Fybrik.Taxonomy.Union
import Fybrik.Taxonomy.Confluence
import Fybrik.Lib.Commute
import Fybrik.Taxonomy.Merging
import Fybrik.Lib.Descent
import Fybrik.Connectors.Decisions
import Fybrik.Connectors.Catalog
import Fybrik.Connectors.Decoding
import Fybrik.Lib.Decimal
import Fybrik.Multicluster.Channels
import Fybrik.Multicluster.Recovery
import Fybrik.Config.Copying
import Fybrik.Application.Bookkeeping
import Fybrik.System.ControlPlane
