import Fybrik.Lib.Json

/-!
# The custom resources of the control plane, part 1: modules and applications

The data types of `pkg/model`, `pkg/multicluster` and `manager/apis/app/v1alpha1`
that describe what is asked for and what is available: actions, connections and
interfaces of the taxonomy, the capabilities a `FybrikModule` declares, the
clusters, the configuration decisions of the administrator and the
`FybrikApplication` with its status.

The derived `Inhabited` instance of every type is its Go zero value.  Fields
that no modelled function reads are left out.
-/

namespace Fybrik

/-! ## The taxonomy (`pkg/model/taxonomy`) -/

abbrev Capability := String
abbrev ActionName := String
abbrev ConnectionType := String
abbrev DataFormat := String

/-- A governance action: its name and whatever else the policy attached to it. -/
structure Action where
  name : ActionName
  additionalProperties : GoMap String Json
  deriving DecidableEq, Inhabited

/-- A connection: its type and the properties specific to that type. -/
structure Connection where
  name : ConnectionType
  additionalProperties : GoMap String Json
  deriving DecidableEq, Inhabited

/-- A protocol and a data format (`taxonomy.Interface`). -/
structure InterfaceDetails where
  protocol : ConnectionType
  dataFormat : DataFormat
  deriving DecidableEq, Inhabited, Repr

/-- What a flow of data is for (`DataFlow`). -/
inductive DataFlow where
  | readFlow
  | writeFlow
  | deleteFlow
  | copyFlow
  deriving DecidableEq, Inhabited, Repr

/-! ## The data catalog (`pkg/model/datacatalog`) -/

/-- A column of a tabular asset. -/
structure ResourceColumn where
  name : String
  tags : Option (GoMap String Json)
  deriving DecidableEq, Inhabited

/-- What the catalog knows about an asset apart from how to reach it. -/
structure ResourceMetadata where
  name : String
  owner : String
  geography : String
  tags : Option (GoMap String Json)
  columns : List ResourceColumn
  deriving DecidableEq, Inhabited

/-- How an asset, or the service of a module, is reached. -/
structure ResourceDetails where
  connection : Connection
  dataFormat : DataFormat
  deriving DecidableEq, Inhabited

/-- The answer of the data catalog. -/
structure GetAssetResponse where
  resourceMetadata : ResourceMetadata
  details : ResourceDetails
  credentials : String
  deriving DecidableEq, Inhabited

/-! ## Modules (`fybrikmodule_types.go`) -/

/-- At what level a capability is used.  A manifest may leave the scope out. -/
inductive CapabilityScope where
  | unset
  | asset
  | workload
  | cluster
  deriving DecidableEq, Inhabited, Repr

/-- One way data goes through a module: where it comes from, where it goes. -/
structure ModuleInOut where
  source : Option InterfaceDetails
  sink : Option InterfaceDetails
  deriving DecidableEq, Inhabited, Repr

/-- A data transformation the module declares, by name. -/
structure ModuleSupportedAction where
  name : ActionName
  deriving DecidableEq, Inhabited, Repr

/-- What a module knows how to do. -/
structure ModuleCapability where
  capability : Capability
  scope : CapabilityScope
  supportedInterfaces : List ModuleInOut
  api : Option ResourceDetails
  actions : List ModuleSupportedAction
  deriving DecidableEq, Inhabited

/-- The Helm chart that deploys a module. -/
structure ChartSpec where
  name : String
  chartPullSecret : String
  values : GoMap String String
  deriving DecidableEq, Inhabited

/-- `FybrikModuleSpec`. -/
structure FybrikModuleSpec where
  type : String
  capabilities : List ModuleCapability
  chart : ChartSpec
  deriving DecidableEq, Inhabited

/-- A registered module. -/
structure FybrikModule where
  name : String
  spec : FybrikModuleSpec
  deriving DecidableEq, Inhabited

/-! ## Clusters (`pkg/multicluster`) -/

/-- `multicluster.ClusterMetadata`. -/
structure ClusterMetadata where
  region : String
  zone : String
  vaultAuthPath : String
  deriving DecidableEq, Inhabited, Repr

/-- A cluster modules can be deployed in. -/
structure Cluster where
  name : String
  metadata : ClusterMetadata
  deriving DecidableEq, Inhabited, Repr

/-! ## Configuration decisions (`pkg/model/adminrules`, `pkg/adminconfig`) -/

/-- A decision about deployment: require, forbid or allow; a rule may say
nothing. -/
inductive DeploymentStatus where
  | unset
  | statusTrue
  | statusFalse
  | statusUnknown
  deriving DecidableEq, Inhabited, Repr

/-- For each restricted property, the list of values it may take; a rule that
restricts nothing leaves the map nil. -/
abbrev Restriction := Option (GoMap String (List String))

/-- The entries of a restriction in the order of a `range` loop. -/
def Restriction.pairs (r : Restriction) : List (String × List String) :=
  (r.getD ∅).pairs

/-- The justification of a decision. -/
structure DecisionPolicy where
  id : String
  policySetID : String
  description : String
  version : String
  deriving DecidableEq, Inhabited, Repr

/-- Where a capability may be deployed. -/
structure Restrictions where
  clusters : Restriction
  modules : Restriction
  storageAccounts : Restriction
  deriving DecidableEq, Inhabited

/-- The decision of one rule, or of several merged rules, about a capability. -/
structure Decision where
  deploy : DeploymentStatus
  deploymentRestrictions : Restrictions
  policy : DecisionPolicy
  deriving DecidableEq, Inhabited

/-- What a rule says about a capability. -/
structure DecisionPerCapability where
  capability : Capability
  decision : Decision
  deriving DecidableEq, Inhabited

/-- What the configuration evaluator answers for a dataset. -/
structure EvaluatorOutput where
  valid : Bool
  datasetID : String
  uuid : String
  policySetID : String
  configDecisions : GoMap Capability Decision
  policies : List DecisionPolicy
  deriving DecidableEq, Inhabited

/-! ## Applications (`fybrikapplication_types.go`) -/

/-- `metav1.LabelSelectorRequirement`. -/
structure LabelSelectorRequirement where
  key : String
  operator : String
  values : List String
  deriving DecidableEq, Inhabited, Repr

/-- `metav1.LabelSelector`. -/
structure LabelSelector where
  matchLabels : GoMap String String
  matchExpressions : List LabelSelectorRequirement
  deriving DecidableEq, Inhabited

/-- `Size() > 0`: the selector says something. -/
def LabelSelector.isSet (s : LabelSelector) : Bool :=
  !(s.matchLabels.entries.isEmpty && s.matchExpressions.isEmpty)

/-- The workload an application belongs to. -/
structure Selector where
  clusterName : String
  workloadSelector : LabelSelector
  deriving DecidableEq, Inhabited

/-- `CopyRequirements`, with the identifier of its `CatalogRequirements`. -/
structure CopyRequirements where
  required : Bool
  catalogID : String
  deriving DecidableEq, Inhabited, Repr

/-- `DataRequirements`. -/
structure DataRequirements where
  interface : InterfaceDetails
  copy : CopyRequirements
  deriving DecidableEq, Inhabited, Repr

/-- One dataset an application asks for. -/
structure DataContext where
  dataSetID : String
  requirements : DataRequirements
  deriving DecidableEq, Inhabited, Repr

/-- `FybrikApplicationSpec`. -/
structure FybrikApplicationSpec where
  selector : Selector
  secretRef : String
  appInfo : GoMap String Json
  data : List DataContext
  deriving DecidableEq, Inhabited

/-- `ConditionType`. -/
inductive ConditionType where
  | ready
  | deny
  | error
  deriving DecidableEq, Inhabited, Repr

/-- `corev1.ConditionStatus`, or nothing yet. -/
inductive ConditionStatus where
  | unset
  | conditionTrue
  | conditionFalse
  | conditionUnknown
  deriving DecidableEq, Inhabited, Repr

/-- A condition of an asset. -/
structure Condition where
  type : ConditionType
  status : ConditionStatus
  message : String
  deriving DecidableEq, Inhabited, Repr

/-- The state of one asset of an application. -/
structure AssetState where
  conditions : List Condition
  catalogedAsset : String
  endpoint : Connection
  deriving DecidableEq, Inhabited

/-- A reference to a generated resource and the generation it was made for. -/
structure ResourceReference where
  name : String
  «namespace» : String
  kind : String
  appVersion : ℕ
  deriving DecidableEq, Inhabited, Repr

/-- A provisioned bucket as the status remembers it. -/
structure DatasetDetails where
  datasetRef : String
  secretRef : String
  deriving DecidableEq, Inhabited, Repr

/-- `FybrikApplicationStatus`. -/
structure FybrikApplicationStatus where
  ready : Bool
  errorMessage : String
  assetStates : GoMap String AssetState
  observedGeneration : ℕ
  validatedGeneration : ℕ
  validApplication : ConditionStatus
  generated : Option ResourceReference
  provisionedStorage : GoMap String DatasetDetails
  deriving DecidableEq, Inhabited

/-- The application object as the API server stores it. -/
structure FybrikApplication where
  name : String
  «namespace» : String
  uid : String
  labels : GoMap String String
  generation : ℕ
  finalizers : List String
  /-- A deletion time is scheduled. -/
  beingDeleted : Bool
  spec : FybrikApplicationSpec
  status : FybrikApplicationStatus
  deriving DecidableEq, Inhabited

/-- The texts of the errors users are informed of (`fybrikapplication_types.go`). -/
def invalidAssetID : String := "the asset does not exist"
@[inherit_doc invalidAssetID]
def readAccessDenied : String := "governance policies forbid access to the data"
@[inherit_doc invalidAssetID]
def copyNotAllowed : String :=
  "copy of the data is required but can not be done according to the governance policies"
@[inherit_doc invalidAssetID]
def writeNotAllowed : String := "governance policies forbid writing of the data"
@[inherit_doc invalidAssetID]
def invalidClusterConfiguration : String :=
  "cluster configuration does not support the requirements"
@[inherit_doc invalidAssetID]
def invalidAssetDataStore : String := "the asset data store is not supported"

end Fybrik
