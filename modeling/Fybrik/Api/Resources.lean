import Fybrik.Api.Services

/-!
# The custom resources of the control plane, part 2: plotters and blueprints

The data types of `plotter_types.go`, `blueprint_types.go` and
`datacatalog_types.go`: what the manager generates for an application, and what
is handed to the clusters.
-/

namespace Fybrik

/-! ## Data stores -/

/-- The text of a flow type, which is also a key of the credentials of a data
store. -/
def DataFlow.text : DataFlow → String
  | .readFlow => "read"
  | .writeFlow => "write"
  | .deleteFlow => "delete"
  | .copyFlow => "copy"

/-- Where the credentials for a data store are kept. -/
structure Vault where
  role : String
  secretPath : String
  address : String
  authPath : String
  deriving DecidableEq, Inhabited, Repr

/-- How to access data, with credentials for each kind of access. -/
structure DataStore where
  vault : GoMap String Vault
  connection : Connection
  format : DataFormat
  deriving DecidableEq, Inhabited

/-! ## Plotters -/

/-- `AssetDetails`. -/
structure AssetDetails where
  advertisedAssetID : String
  dataStore : DataStore
  deriving DecidableEq, Inhabited

/-- `StepSource`. -/
structure StepSource where
  assetID : String
  api : Option ResourceDetails
  deriving DecidableEq, Inhabited

/-- `StepSink`. -/
structure StepSink where
  assetID : String
  deriving DecidableEq, Inhabited, Repr

/-- `StepParameters`. -/
structure StepParameters where
  source : Option StepSource
  sink : Option StepSink
  api : Option ResourceDetails
  actions : List Action
  deriving DecidableEq, Inhabited

/-- `DataFlowStep`. -/
structure DataFlowStep where
  name : String
  cluster : String
  template : String
  parameters : Option StepParameters
  deriving DecidableEq, Inhabited

/-- `SubFlowTrigger`. -/
inductive SubFlowTrigger where
  | initTrigger
  | workloadTrigger
  | timerTrigger
  deriving DecidableEq, Inhabited, Repr

/-- `SubFlow`: parallel sequences of steps. -/
structure SubFlow where
  name : String
  flowType : DataFlow
  triggers : List SubFlowTrigger
  steps : List (List DataFlowStep)
  deriving DecidableEq, Inhabited

/-- `Flow`: what happens to one asset. -/
structure Flow where
  name : String
  flowType : DataFlow
  assetID : String
  subFlows : List SubFlow
  deriving DecidableEq, Inhabited

/-- `ModuleInfo`: a module as a template names it. -/
structure ModuleInfo where
  name : String
  type : String
  chart : ChartSpec
  scope : CapabilityScope
  deriving DecidableEq, Inhabited

/-- `Template`. -/
structure Template where
  name : String
  modules : List ModuleInfo
  deriving DecidableEq, Inhabited

/-- `PlotterSpec`. -/
structure PlotterSpec where
  selector : Selector
  assets : GoMap String AssetDetails
  flows : List Flow
  modulesNamespace : String
  templates : GoMap String Template
  deriving DecidableEq, Inhabited

/-- `ObservedState`. -/
structure ObservedState where
  ready : Bool
  error : String
  deriving DecidableEq, Inhabited, Repr

/-- The plotter object as far as its consumers read it. -/
structure Plotter where
  labels : GoMap String String
  spec : PlotterSpec
  observedState : ObservedState
  finalizers : List String
  /-- A deletion time is scheduled. -/
  beingDeleted : Bool
  deriving DecidableEq, Inhabited

/-- The labels that name the application a resource was generated for. -/
def applicationNamespaceLabel : String := "app.fybrik.io/app-namespace"
@[inherit_doc applicationNamespaceLabel]
def applicationNameLabel : String := "app.fybrik.io/app-name"

/-- `ownerLabels`. -/
def ownerLabels (id : NamespacedName) : GoMap String String :=
  GoMap.ofList [(applicationNamespaceLabel, id.namespace), (applicationNameLabel, id.name)]

/-- The labels of the plotter of an application. -/
def plotterLabels (application : FybrikApplication) : GoMap String String :=
  application.labels.setAll (ownerLabels ⟨application.name, application.namespace⟩).pairs

/-! ## Blueprints -/

/-- `CopyModuleArgs`. -/
structure CopyModuleArgs where
  source : DataStore
  destination : DataStore
  assetID : String
  transformations : List Action
  deriving DecidableEq, Inhabited

/-- `ReadModuleArgs`. -/
structure ReadModuleArgs where
  source : DataStore
  assetID : String
  transformations : List Action
  deriving DecidableEq, Inhabited

/-- `WriteModuleArgs`. -/
structure WriteModuleArgs where
  destination : DataStore
  assetID : String
  transformations : List Action
  deriving DecidableEq, Inhabited

/-- `ModuleArguments`. -/
structure ModuleArguments where
  labels : GoMap String String
  appSelector : LabelSelector
  copy : Option CopyModuleArgs
  read : List ReadModuleArgs
  write : List WriteModuleArgs
  deriving DecidableEq, Inhabited

/-- `BlueprintModule`: a module instance. -/
structure BlueprintModule where
  name : String
  chart : ChartSpec
  arguments : ModuleArguments
  assetIDs : List String
  deriving DecidableEq, Inhabited

/-- `BlueprintSpec`: the module instances of a cluster, by instance name. -/
structure BlueprintSpec where
  cluster : String
  modulesNamespace : String
  modules : GoMap String BlueprintModule
  deriving DecidableEq, Inhabited

/-- `BlueprintStatus`. -/
structure BlueprintStatus where
  observedState : ObservedState
  observedGeneration : ℕ
  /-- The state of each module instance. -/
  modulesState : GoMap String ObservedState
  /-- The releases, with the generation of the blueprint each was last part of. -/
  releases : GoMap String ℕ
  deriving DecidableEq, Inhabited

/-- The blueprint object as the API server of a cluster stores it. -/
structure Blueprint where
  name : String
  «namespace» : String
  labels : GoMap String String
  annotations : GoMap String String
  generation : ℕ
  finalizers : List String
  /-- A deletion time is scheduled. -/
  beingDeleted : Bool
  spec : BlueprintSpec
  status : BlueprintStatus
  deriving DecidableEq, Inhabited

/-- `MetaBlueprint`: what a plotter records of a blueprint. -/
structure MetaBlueprint where
  name : String
  «namespace» : String
  status : BlueprintStatus
  deriving DecidableEq, Inhabited

/-- `CreateMetaBlueprint`. -/
def createMetaBlueprint (blueprint : Blueprint) : MetaBlueprint :=
  { name := blueprint.name, «namespace» := blueprint.namespace, status := blueprint.status }

/-- `CreateMetaBlueprintWithoutState`. -/
def createMetaBlueprintWithoutState (blueprint : Blueprint) : MetaBlueprint :=
  { name := blueprint.name, «namespace» := blueprint.namespace, status := default }

/-- The labels that name the blueprint an instance belongs to. -/
def blueprintNamespaceLabel : String := "app.fybrik.io/blueprint-namespace"
@[inherit_doc blueprintNamespaceLabel]
def blueprintNameLabel : String := "app.fybrik.io/blueprint-name"

/-- The annotation with the identifier of the application, used for logging. -/
def fybrikAppUUID : String := "app.fybrik.io/app-uuid"

/-- `GetFybrikApplicationUUIDfromAnnotations`. -/
def getFybrikApplicationUUIDfromAnnotations (annotations : GoMap String String) : String :=
  (annotations.lookup fybrikAppUUID).getD "UUID missing"

end Fybrik
