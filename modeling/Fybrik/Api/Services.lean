import Fybrik.Api.Types

/-!
# What the control plane talks to

The services behind the interfaces of the manager, each given by the answers it
gives during one reconcile, and the settings read from the environment of the
manager process.  An error is its text.

* `Settings` — the environment variables of `controllers/utils`.
* `PolicyManager` — the policy manager connector (`pkg/model/policymanager`).
* `DataCatalog` — the data catalog connector (`pkg/model/datacatalog`).
* `Taxonomy` — the JSON schema checks of `pkg/taxonomy/validate`.
* `ProvisionInterface` — dynamic storage allocation (`pkg/storage`).
* `ApiFailures` — what goes wrong in calls to the API server.
* `TemplateEngine` — the text templates of the API descriptions of modules.
* `Sha512` — the digest the names are hashed with.
-/

namespace Fybrik

/-- `types.NamespacedName`. -/
structure NamespacedName where
  name : String
  «namespace» : String
  deriving DecidableEq, Inhabited, Repr

/-! ## Settings (`controllers/utils`) -/

/-- The environment of the manager process. -/
structure Settings where
  /-- The namespace of the control plane (`GetSystemNamespace`); it has a default. -/
  systemNamespace : String
  systemNamespace_ne : systemNamespace ≠ ""
  vaultEnabled : Bool
  modulesRole : String
  vaultAddress : String
  /-- The value of `GetDataPathMaxSize`. -/
  dataPathMaxSize : ℤ
  /-- The variable `MODULES_NAMESPACE`. -/
  modulesNamespace : String
  /-- The variable `ENABLE_WEBHOOKS` is `"true"`. -/
  webhooksEnabled : Bool

instance : Inhabited Settings :=
  ⟨{ systemNamespace := "fybrik-system", systemNamespace_ne := by decide, vaultEnabled := false
     modulesRole := "", vaultAddress := "", dataPathMaxSize := 0, modulesNamespace := ""
     webhooksEnabled := false }⟩

/-- `GetDefaultModulesNamespace`. -/
def Settings.getDefaultModulesNamespace (s : Settings) : String :=
  if s.modulesNamespace = "" then "fybrik-blueprints" else s.modulesNamespace

/-- `GetAuthPath`. -/
def getAuthPath (authPath : String) : String :=
  if authPath = "" then "" else "/v1/auth/" ++ authPath ++ "/login"

/-- `vault.PathForReadingKubeSecret`. -/
def pathForReadingKubeSecret (secretNamespace secretName : String) : String :=
  "/v1/kubernetes-secrets/" ++ secretName ++ "?namespace=" ++ secretNamespace

/-! ## The policy manager (`pkg/model/policymanager`) -/

/-- `RequestActionType`. -/
inductive RequestActionType where
  | read
  | write
  | delete
  deriving DecidableEq, Inhabited, Repr

/-- The operation a decision is asked for. -/
structure RequestAction where
  actionType : RequestActionType
  processingLocation : String
  destination : String
  deriving DecidableEq, Inhabited, Repr

/-- `GetPolicyDecisionsRequest`; the metadata of the resource is always sent
empty and is left out. -/
structure GetPolicyDecisionsRequest where
  context : GoMap String Json
  action : RequestAction
  resourceID : String
  deriving DecidableEq, Inhabited

/-- One decision: an action and the policy it follows from. -/
structure ResultItem where
  policy : String
  action : Action
  deriving DecidableEq, Inhabited

/-- `GetPolicyDecisionsResponse`. -/
structure GetPolicyDecisionsResponse where
  decisionID : String
  result : List ResultItem
  deriving DecidableEq, Inhabited

/-- The policy manager: its answer to a request made with some credentials. -/
structure PolicyManager where
  getPoliciesDecisions : GetPolicyDecisionsRequest → String →
    Except String GetPolicyDecisionsResponse
  deriving Inhabited

/-! ## The data catalog (`pkg/model/datacatalog`) -/

/-- `GetAssetRequest`. -/
structure GetAssetRequest where
  assetID : String
  operationType : String
  deriving DecidableEq, Inhabited, Repr

/-- The data catalog: its answer to a request made with some credentials. -/
structure DataCatalog where
  getAssetInfo : GetAssetRequest → String → Except String GetAssetResponse
  deriving Inhabited

/-! ## Validation against the taxonomy -/

/-- The checks against the JSON schemas under `/tmp/taxonomy`: the error of a
failed check. -/
structure Taxonomy where
  validatePolicyDecisionsResponse : GetPolicyDecisionsResponse → Option String
  /-- The check of the description of a dataset. -/
  validateAssetResponse : GetAssetResponse → String → Option String
  validateFybrikApplication : FybrikApplication → Option String
  deriving Inhabited

/-! ## Storage (`pkg/storage`, `fybrikstorageaccount_types.go`) -/

/-- A storage account: a secret and an endpoint for each region. -/
structure FybrikStorageAccount where
  secretRef : String
  endpoints : GoMap String String
  deriving DecidableEq, Inhabited

/-- A bucket to be provisioned. -/
structure ProvisionedBucket where
  name : String
  endpoint : String
  secretRef : NamespacedName
  deriving DecidableEq, Inhabited

/-- `ProvisionedStorageStatus`. -/
structure ProvisionedStorageStatus where
  provisioned : Bool
  errorMsg : String
  deriving DecidableEq, Inhabited, Repr

/-- The outcomes of the storage provisioning calls. -/
structure ProvisionInterface where
  createDataset : NamespacedName → ProvisionedBucket → NamespacedName → Option String
  deleteDataset : NamespacedName → Option String
  getDatasetStatus : NamespacedName → Except String ProvisionedStorageStatus
  setPersistent : NamespacedName → Bool → Option String
  deriving Inhabited

/-! ## The API server -/

/-- The calls to the API server that fail during a reconcile, with their error. -/
structure ApiFailures where
  readPlotter : Option String
  writePlotter : Option String
  deletePlotter : Option String
  updateFinalizers : Option String
  updateStatus : Option String
  deriving DecidableEq, Inhabited, Repr

/-! ## Templates -/

/-- A Helm release, as far as templates can refer to it. -/
structure Release where
  name : String
  «namespace» : String
  deriving DecidableEq, Inhabited, Repr

/-- What a template is executed with: the release and the labels. -/
structure APITemplateArgs where
  release : Release
  labels : GoMap String String
  deriving DecidableEq, Inhabited

/-- Parsing a text as a template yields an error or nothing, executing it the
resulting text. -/
structure TemplateEngine where
  parse : String → Option String
  execute : String → APITemplateArgs → Except String String
  deriving Inhabited

/-! ## Hashing -/

/-- The hexadecimal SHA-512 digest of a text: always 128 characters. -/
structure Sha512 where
  hexDigest : String → String
  length_hexDigest : ∀ value, (hexDigest value).length = 128

instance : Inhabited Sha512 :=
  ⟨⟨fun _ => String.ofList (List.replicate 128 '0'), fun _ => by
    rw [String.length_ofList, List.length_replicate]⟩⟩

end Fybrik
