import Fybrik.Select.Search

/-!
# Module selection, part 2: governance actions, storage regions and clusters

The second half of `select_modules.go` and the policy lookup it uses
(`policy_compiler_interface.go`).  The data paths found by the search are walked
from the data source: each edge gets the actions it has to perform, a storage
region the policy manager lets it write to, and a cluster the administrator does
not exclude.

* `lookupPolicyDecisions` — what the policy manager says about an operation.
* `validate`, `findPaths` — the walk, and the selection as a whole.  The source
  fills in the edges in place; here `validate` returns the filled-in solution.
* `Governed` — what the walk guarantees about a path; `findPaths_governed` says
  that every selected path has it.
* `findPaths_approved_iff` — for which policy managers and regions every selected
  path only writes where writing was approved.
-/

namespace Fybrik

/-! ## Asking the policy manager -/

/-- `ConstructOpenAPIReq`. -/
def constructOpenAPIReq (datasetID : String) (input : FybrikApplication)
    (operation : RequestAction) : GetPolicyDecisionsRequest :=
  { context := input.spec.appInfo, action := operation, resourceID := datasetID }

/-- `IsDenied`. -/
def isDenied (actionName : ActionName) : Bool := actionName == "Deny"

/-- The message of the error returned when an operation is denied. -/
def denialMessage : RequestActionType → String
  | .read => readAccessDenied
  | .write => writeNotAllowed
  | .delete => ""

/-- The loop of `LookupPolicyDecisions` over the result items.  Where it meets a
denial it returns the actions collected so far together with the error. -/
def collectActions (actionType : RequestActionType) :
    List Action → List ResultItem → List Action × Option String
  | actions, [] => (actions, none)
  | actions, item :: result =>
    if isDenied item.action.name then (actions, some (denialMessage actionType))
    else collectActions actionType (actions ++ [item.action]) result

/-- The credentials for the policy manager: where to find the secret of the
application, if it names one and vault is in use. -/
def policyManagerCreds (settings : Settings) (application : FybrikApplication) : String :=
  if application.spec.secretRef != "" && settings.vaultEnabled then
    settings.vaultAddress ++
      pathForReadingKubeSecret application.namespace application.spec.secretRef
  else ""

/-- `LookupPolicyDecisions`: the governance actions for a dataset and an
operation, and the error. -/
def lookupPolicyDecisions (settings : Settings) (taxonomy : Taxonomy) (datasetID : String)
    (policyManager : PolicyManager) (application : FybrikApplication) (op : RequestAction) :
    List Action × Option String :=
  match policyManager.getPoliciesDecisions (constructOpenAPIReq datasetID application op)
      (policyManagerCreds settings application) with
  | .error err => ([], some err)
  | .ok response =>
    match taxonomy.validatePolicyDecisionsResponse response with
    | some err => ([], some ("Validation error: " ++ err))
    | none => collectActions op.actionType [] response.result

/-! ## Actions and clusters of an edge -/

/-- `supportsGovernanceAction`: the capability declares an action of that name. -/
def supportsGovernanceAction (edge : Edge) (action : Action) : Bool :=
  edge.capability.actions.any fun act => act.name == action.name

/-- `supportsGovernanceActions`. -/
def supportsGovernanceActions (edge : Edge) (actions : List Action) : Bool :=
  actions.all (supportsGovernanceAction edge)

/-- The pseudo capability that stands for performing actions. -/
def transform : Capability := "transform"

/-- A member of a JSON object that is left out when it is empty. -/
def omitEmpty (key value : String) : List (String × Json) :=
  if value = "" then [] else [(key, .str value)]

/-- `StructToMap` of a cluster: its JSON form. -/
def Cluster.structToMap (cluster : Cluster) : Json :=
  .obj [("name", .str cluster.name),
    ("metadata", .obj (("region", .str cluster.metadata.region) ::
      omitEmpty "zone" cluster.metadata.zone ++
      omitEmpty "vaultAuthPath" cluster.metadata.vaultAuthPath))]

/-- `HasString`. -/
def hasString (value : String) (values : List String) : Bool := values.any (· == value)

/-- One turn of the loop of `validateClusterRestrictionsPerCapability`: the
property named by `key` is found in the cluster, with one of the values. -/
def satisfiesRestriction (cluster : Cluster) (key : String) (values : List String) : Bool :=
  match cluster.structToMap.nestedString (splitDots key) with
  | .ok (some value) => hasString value values
  | _ => false

/-- The loop itself, over a map of restrictions. -/
def satisfiesRestrictions (restrictions : Restriction) (cluster : Cluster) : Bool :=
  restrictions.pairs.all fun kv => satisfiesRestriction cluster kv.1 kv.2

/-- `validateClusterRestrictionsPerCapability`. -/
def validateClusterRestrictionsPerCapability (item : DataInfo) (capability : Capability)
    (cluster : Cluster) : Bool :=
  satisfiesRestrictions
    (item.configuration.configDecisions.get capability).deploymentRestrictions.clusters cluster

/-- `validateClusterRestrictions`. -/
def validateClusterRestrictions (item : DataInfo) (edge : ResolvedEdge) (cluster : Cluster) :
    Bool :=
  if !validateClusterRestrictionsPerCapability item edge.capability.capability cluster then false
  else if !edge.actions.isEmpty then
    validateClusterRestrictionsPerCapability item transform cluster
  else true

namespace PlotterGenerator

variable (p : PlotterGenerator) (item : DataInfo) (application : FybrikApplication)

/-- `findCluster`: the first cluster that satisfies the restrictions. -/
def findCluster (element : ResolvedEdge) : Option String :=
  (p.clusters.find? (validateClusterRestrictions item element)).map Cluster.name

/-! ## The walk along a data path -/

/-- The request to write data to a region. -/
def writeOperation (region : String) : RequestAction :=
  { actionType := .write, processingLocation := region, destination := region }

/-- What the policy manager says about writing a dataset to a region. -/
def lookupWrite (datasetID region : String) : List Action × Option String :=
  lookupPolicyDecisions p.settings p.taxonomy datasetID p.policyManager application
    (writeOperation region)

/-- One turn of the region loop of `validate`: it keeps the actions and the
region chosen so far, or overwrites both. -/
def tryRegion (edge : Edge) (chosen : List Action × String) (region : String) :
    List Action × String :=
  let decisions := p.lookupWrite application item.context.dataSetID region
  if decisions.2 = some writeNotAllowed then chosen
  else if !supportsGovernanceActions edge decisions.1 then chosen
  else (decisions.1, region)

/-- The region loop: the actions on write and the storage region of an edge. -/
def selectRegion (element : ResolvedEdge) : List Action × String :=
  if element.sink.virtual then ([], element.storageAccountRegion)
  else p.storageAccountRegions.foldl (p.tryRegion item application element.toEdge)
    ([], element.storageAccountRegion)

/-- One turn of the loop of `validate`: the edge with its actions, region and
cluster filled in, and the required actions that are forwarded to the next
edge. -/
def validateElement (requiredActions : List Action) (element : ResolvedEdge) :
    Option (ResolvedEdge × List Action) :=
  let chosen := p.selectRegion item application element
  if !element.sink.virtual && chosen.2 == "" then none
  else
    let supported := requiredActions.filter fun a => supportsGovernanceAction element.toEdge a
    let unsupported := requiredActions.filter fun a => !supportsGovernanceAction element.toEdge a
    let resolved := { element with
      actions := chosen.1 ++ supported, storageAccountRegion := chosen.2 }
    match p.findCluster item resolved with
    | none => none
    | some cluster => some ({ resolved with cluster := cluster }, unsupported)

/-- The loop of `validate` over the edges of a path. -/
def validateElements : List Action → List ResolvedEdge → Option (List ResolvedEdge × List Action)
  | requiredActions, [] => some ([], requiredActions)
  | requiredActions, element :: path =>
    match p.validateElement item application requiredActions element with
    | none => none
    | some (resolved, unsupported) =>
      match validateElements unsupported path with
      | none => none
      | some (path', left) => some (resolved :: path', left)

/-- The capabilities that have to be deployed occur on the path. -/
def deploysRequired (path : List ResolvedEdge) : Bool :=
  item.configuration.configDecisions.pairs.all fun cd =>
    cd.2.deploy != .statusTrue || path.any fun e => e.capability.capability == cd.1

/-- `validate`: the solution with its edges filled in, or nothing if it is not
valid. -/
def validate (solution : Solution) : Option Solution :=
  match p.validateElements item application item.actions solution.dataPath with
  | none => none
  | some (path, left) =>
    if !left.isEmpty then none
    else if deploysRequired item path then some ⟨path⟩
    else none

/-- `validSolutions`. -/
def validSolutions (solutions : List Solution) : List Solution :=
  solutions.filterMap (p.validate item application)

/-- Where the data is: the source node of a dataset. -/
def sourceNode : Node :=
  ⟨some ⟨item.dataDetails.details.connection.name, item.dataDetails.details.dataFormat⟩, false⟩

/-- Where the data is wanted: an endpoint for a workload, or a data store. -/
def destinationNode : Node :=
  ⟨some item.context.requirements.interface, application.spec.selector.workloadSelector.isSet⟩

/-- `FindPaths`. -/
def findPaths : List Solution :=
  p.validSolutions item application
    (p.findPathsWithinLimit item (sourceNode item) (destinationNode item application)
      p.settings.dataPathMaxSize)

/-! ## What one turn of each loop does -/

variable {p item application} {datasetID : String}

/-- A failed lookup yields no actions, unless it failed because of a denial. -/
theorem lookupWrite_failed {region err : String}
    (h : (p.lookupWrite application datasetID region).2 = some err) (hne : err ≠ writeNotAllowed) :
    (p.lookupWrite application datasetID region).1 = [] := by
  have hcollect : ∀ (result : List ResultItem) (acc : List Action),
      (collectActions .write acc result).2 = some err → err = writeNotAllowed := by
    intro result
    induction result with
    | nil => intro acc h; exact absurd h (by simp [collectActions])
    | cons r result ih =>
      intro acc h
      rw [collectActions] at h
      split at h
      · exact (Option.some.inj h).symm
      · exact ih _ h
  unfold lookupWrite lookupPolicyDecisions at h ⊢
  split at h
  · rfl
  · split at h
    · rfl
    · exact absurd (hcollect _ _ h) hne

/-- The region loop takes this region for this edge. -/
def acceptsRegion (p : PlotterGenerator) (application : FybrikApplication) (datasetID : String)
    (edge : Edge) (region : String) : Bool :=
  let decisions := p.lookupWrite application datasetID region
  decisions.2 != some writeNotAllowed && supportsGovernanceActions edge decisions.1

variable {element : ResolvedEdge}

/-- The region loop ends with the last region it takes. -/
theorem selectRegion_eq (h : element.sink.virtual = false) :
    p.selectRegion item application element
      = ((p.storageAccountRegions.filter (p.acceptsRegion application item.context.dataSetID
          element.toEdge)).getLast?).elim ([], element.storageAccountRegion)
        fun r => ((p.lookupWrite application item.context.dataSetID r).1, r) := by
  rw [← Loops.foldl_overwrite, selectRegion, h, if_neg Bool.false_ne_true]
  congr 1
  funext chosen region
  unfold tryRegion acceptsRegion
  by_cases hw : (p.lookupWrite application item.context.dataSetID region).2 = some writeNotAllowed
  · simp [hw]
  · cases hs : supportsGovernanceActions element.toEdge
        (p.lookupWrite application item.context.dataSetID region).1 <;> simp [hw, hs]

/-- What the walk has done to an edge that was handed the actions `reads`. -/
structure ResolvedFrom (p : PlotterGenerator) (item : DataInfo) (application : FybrikApplication)
    (reads : List Action) (element resolved : ResolvedEdge) : Prop where
  toEdge_eq : resolved.toEdge = element.toEdge
  actions_eq : resolved.actions = (p.selectRegion item application element).1 ++ reads
  region_eq : resolved.storageAccountRegion = (p.selectRegion item application element).2
  region_ne : element.sink.virtual = false → resolved.storageAccountRegion ≠ ""
  cluster : ∃ c ∈ p.clusters, resolved.cluster = c.name ∧
    validateClusterRestrictions item resolved c = true

variable {required : List Action}

theorem validateElement_eq_some {unsupported : List Action} {resolved : ResolvedEdge}
    (h : p.validateElement item application required element = some (resolved, unsupported)) :
    ResolvedFrom p item application
      (required.filter fun a => supportsGovernanceAction element.toEdge a) element resolved ∧
    unsupported = required.filter fun a => !supportsGovernanceAction element.toEdge a := by
  unfold validateElement at h
  simp only at h
  split at h
  · cases h
  · rename_i hregion
    split at h
    · cases h
    · rename_i cluster hcluster
      cases h
      obtain ⟨c, hfind, hname⟩ := Option.map_eq_some_iff.1 hcluster
      refine ⟨⟨rfl, rfl, rfl, ?_, c, List.mem_of_find?_eq_some hfind, hname.symm,
        List.find?_some hfind⟩, rfl⟩
      intro hvirtual hempty
      refine hregion ?_
      rw [hvirtual, show (p.selectRegion item application element).2 = "" from hempty]
      rfl

variable {e : ResolvedEdge} {path path' : List ResolvedEdge} {left : List Action}

/-- The walk past the first edge. -/
theorem validateElements_cons_eq_some :
    p.validateElements item application required (e :: path) = some (path', left) ↔
      ∃ resolved unsupported rest,
        p.validateElement item application required e = some (resolved, unsupported) ∧
        p.validateElements item application unsupported path = some (rest, left) ∧
        path' = resolved :: rest := by
  rw [validateElements]
  cases helement : p.validateElement item application required e with
  | none => simp
  | some walked =>
    obtain ⟨resolved, unsupported⟩ := walked
    cases hrest : p.validateElements item application unsupported path with
    | none => simp [hrest]
    | some walked =>
      obtain ⟨rest, left'⟩ := walked
      simp only [hrest, Option.some.injEq, Prod.mk.injEq]
      constructor
      · rintro ⟨rfl, rfl⟩
        exact ⟨resolved, unsupported, rest, ⟨rfl, rfl⟩, hrest, rfl⟩
      · rintro ⟨_, _, rest', ⟨rfl, rfl⟩, hrest', rfl⟩
        obtain ⟨rfl, rfl⟩ := Prod.mk.inj (Option.some.inj (hrest.symm.trans hrest'))
        exact ⟨rfl, rfl⟩

/-- The walk as a whole: each edge stays and gets its share of the required actions, and
what no edge supports is left over. -/
theorem validateElements_eq_some
    (h : p.validateElements item application required path = some (path', left)) :
    path'.map ResolvedEdge.toEdge = path.map ResolvedEdge.toEdge ∧
    left = Loops.leftover supportsGovernanceAction (path'.map ResolvedEdge.toEdge) required ∧
    ∀ (j : ℕ) (e' : ResolvedEdge), path'[j]? = some e' → ∃ e reads, path[j]? = some e ∧
      (Loops.shares supportsGovernanceAction (path'.map ResolvedEdge.toEdge) required)[j]?
        = some reads ∧ ResolvedFrom p item application reads e e' := by
  induction path generalizing required path' left with
  | nil =>
    cases h
    exact ⟨rfl, rfl, fun j e' he' => by simp at he'⟩
  | cons element path ih =>
    obtain ⟨resolved, unsupported, rest, helement, hrest, rfl⟩ := validateElements_cons_eq_some.1 h
    obtain ⟨hres, rfl⟩ := validateElement_eq_some helement
    obtain ⟨hedges, hleft, hshares⟩ := ih hrest
    refine ⟨by rw [List.map_cons, List.map_cons, hres.toEdge_eq, hedges], ?_⟩
    simp only [List.map_cons, Loops.shares, Loops.leftover, hres.toEdge_eq]
    refine ⟨hleft, fun j e' he' => ?_⟩
    cases j with
    | zero =>
      obtain rfl := Option.some.inj he'
      exact ⟨element, _, rfl, rfl, hres⟩
    | succ j => exact hshares j e' he'

theorem deploysRequired_congr (h : path'.map ResolvedEdge.toEdge = path.map ResolvedEdge.toEdge) :
    deploysRequired item path' = deploysRequired item path := by
  have hany : ∀ (l : List ResolvedEdge) (c : Capability),
      (l.any fun e => e.capability.capability == c)
        = (l.map ResolvedEdge.toEdge).any fun e => e.capability.capability == c := by
    intro l c
    rw [List.any_map]
    rfl
  simp only [deploysRequired, hany, h]

variable {s : Solution}

/-- What `validate` returns: the same edges, each filled in. -/
theorem validate_eq_some_iff :
    p.validate item application ⟨path⟩ = some s ↔
      p.validateElements item application item.actions path = some (s.dataPath, []) ∧
        deploysRequired item path = true := by
  unfold validate
  cases hwalk : p.validateElements item application item.actions path with
  | none => simp
  | some walked =>
    obtain ⟨path', left⟩ := walked
    obtain ⟨dataPath⟩ := s
    rw [← deploysRequired_congr (validateElements_eq_some hwalk).1]
    cases left with
    | cons a left => simp
    | nil => simp [and_comm]

/-- A selected solution is a path of the search, filled in. -/
theorem mem_findPaths_iff : s ∈ p.findPaths item application ↔
    ∃ path, ⟨path⟩ ∈ p.findPathsWithinLimit item (sourceNode item)
        (destinationNode item application) p.settings.dataPathMaxSize ∧
      p.validate item application ⟨path⟩ = some s := by
  rw [findPaths, validSolutions, List.mem_filterMap]
  exact ⟨fun ⟨⟨path⟩, h⟩ => ⟨path, h⟩, fun ⟨path, h⟩ => ⟨⟨path⟩, h⟩⟩

/-- What is known of every selected solution: its edges were created by the
search and filled in by the walk, and no required action is left over. -/
theorem findPaths_resolved (hs : s ∈ p.findPaths item application) :
    Loops.leftover supportsGovernanceAction (s.dataPath.map ResolvedEdge.toEdge) item.actions
      = [] ∧
    ∀ (j : ℕ) (e' : ResolvedEdge), s.dataPath[j]? = some e' → ∃ e reads, e.storageAccountRegion = "" ∧
      (Loops.shares supportsGovernanceAction (s.dataPath.map ResolvedEdge.toEdge)
        item.actions)[j]? = some reads ∧ ResolvedFrom p item application reads e e' := by
  obtain ⟨path, hfound, hvalid⟩ := mem_findPaths_iff.1 hs
  obtain ⟨hpath, -⟩ := found_iff.1 hfound
  obtain ⟨-, hleft, hshares⟩ := validateElements_eq_some (validate_eq_some_iff.1 hvalid).1
  refine ⟨hleft.symm, fun j e' he' => ?_⟩
  obtain ⟨e, reads, he, hreads, hres⟩ := hshares j e' he'
  exact ⟨e, reads, (hpath.unresolved e (List.mem_of_getElem? he)).2.2, hreads, hres⟩

/-! ## Governance along a path -/

/-- The position of the first edge from the data source whose capability
declares an action of that name. -/
def firstDeclaring (path : List ResolvedEdge) (a : Action) : Option ℕ :=
  path.findIdx? fun e => supportsGovernanceAction e.toEdge a

/-- The actions on read that are assigned to the `j`-th edge. -/
def readShare (item : DataInfo) (path : List ResolvedEdge) (j : ℕ) : List Action :=
  item.actions.filter fun a => firstDeclaring path a = some j

/-- The actions on write of an edge: those the policy manager requires for its
storage region, and none where the sink is not a data store. -/
def writeShare (p : PlotterGenerator) (item : DataInfo) (application : FybrikApplication)
    (e : ResolvedEdge) : List Action :=
  if e.sink.virtual then []
  else (p.lookupWrite application item.context.dataSetID e.storageAccountRegion).1

/-- A path that loses and duplicates no governance action, and whose edges run
where they may. -/
structure Governed (p : PlotterGenerator) (item : DataInfo) (application : FybrikApplication)
    (path : List ResolvedEdge) : Prop where
  /-- Some edge declares each action on read. -/
  carried : ∀ a ∈ item.actions, ∃ j < path.length, firstDeclaring path a = some j
  /-- Each occurrence of an action on read is in the share of exactly one edge. -/
  once : ((List.range path.length).flatMap (readShare item path)).Perm item.actions
  actions_eq : ∀ (j : ℕ) (e : ResolvedEdge), path[j]? = some e →
    e.actions = p.writeShare item application e ++ readShare item path j
  declared : ∀ e ∈ path, ∀ a ∈ e.actions, ∃ act ∈ e.capability.actions, act.name = a.name
  cluster : ∀ e ∈ path, ∃ c ∈ p.clusters, e.cluster = c.name ∧
    validateClusterRestrictionsPerCapability item e.capability.capability c = true ∧
    (e.actions ≠ [] → validateClusterRestrictionsPerCapability item transform c = true)

theorem keeper_map_toEdge (path : List ResolvedEdge) (a : Action) :
    Loops.keeper supportsGovernanceAction (path.map ResolvedEdge.toEdge) a
      = firstDeclaring path a := by
  rw [Loops.keeper, firstDeclaring, List.findIdx?_map]
  rfl

variable {reads : List Action} {e' : ResolvedEdge}

/-- The region of a writing edge is the last one the loop takes for it, and its
actions on write are those of that region. -/
theorem ResolvedFrom.region (h : ResolvedFrom p item application reads e e')
    (hempty : e.storageAccountRegion = "") (hvirtual : e'.sink.virtual = false) :
    (p.storageAccountRegions.filter (p.acceptsRegion application item.context.dataSetID
      e'.toEdge)).getLast? = some e'.storageAccountRegion ∧
    (p.selectRegion item application e).1
      = (p.lookupWrite application item.context.dataSetID e'.storageAccountRegion).1 := by
  rw [h.toEdge_eq] at hvirtual
  have hne := h.region_ne hvirtual
  have hregion := h.region_eq
  rw [selectRegion_eq hvirtual, ← h.toEdge_eq] at hregion ⊢
  cases hlast : (p.storageAccountRegions.filter (p.acceptsRegion application
      item.context.dataSetID e'.toEdge)).getLast? with
  | none =>
    -- no region was taken: the walk would have given up
    rw [hlast] at hregion
    exact absurd (hregion.trans hempty) hne
  | some r =>
    rw [hlast] at hregion
    rw [hregion]
    exact ⟨rfl, rfl⟩

theorem ResolvedFrom.writeShare_eq (h : ResolvedFrom p item application reads e e')
    (hempty : e.storageAccountRegion = "") :
    (p.selectRegion item application e).1 = p.writeShare item application e' := by
  unfold writeShare
  cases hvirtual : e'.sink.virtual with
  | true =>
    rw [h.toEdge_eq] at hvirtual
    rw [selectRegion, if_pos hvirtual, if_pos rfl]
  | false => exact (h.region hempty hvirtual).2

/-- The actions on write are declared by the capability that writes. -/
theorem ResolvedFrom.supports_writeShare (h : ResolvedFrom p item application reads e e')
    (hempty : e.storageAccountRegion = "") {a : Action}
    (ha : a ∈ p.writeShare item application e') :
    supportsGovernanceAction e'.toEdge a = true := by
  unfold writeShare at ha
  cases hvirtual : e'.sink.virtual with
  | true =>
    rw [if_pos hvirtual] at ha
    cases ha
  | false =>
    rw [hvirtual, if_neg Bool.false_ne_true] at ha
    have hmem := List.mem_of_getLast? (h.region hempty hvirtual).1
    have haccepts := (List.mem_filter.1 hmem).2
    unfold acceptsRegion at haccepts
    exact List.all_eq_true.1 (Bool.and_eq_true_iff.1 haccepts).2 a ha

theorem supportsGovernanceAction_iff {edge : Edge} {a : Action} :
    supportsGovernanceAction edge a = true ↔ ∃ act ∈ edge.capability.actions, act.name = a.name := by
  simp [supportsGovernanceAction]

/-- Along every selected path, each governance action on read is carried by
exactly one edge, the first that declares it; each edge performs the actions on
write of its region and its share of the actions on read, all of which its
capability declares; and it runs in a cluster that the restrictions of its
capability admit, and those on transformations if it performs any action. -/
theorem findPaths_governed (p : PlotterGenerator) (item : DataInfo)
    (application : FybrikApplication) (s : Solution) (hs : s ∈ p.findPaths item application) :
    Governed p item application s.dataPath := by
  obtain ⟨hleft, hresolved⟩ := findPaths_resolved hs
  have hlength : (s.dataPath.map ResolvedEdge.toEdge).length = s.dataPath.length :=
    List.length_map _
  -- an action without a carrier would be left over
  have hcarried : ∀ a ∈ item.actions, ∃ j < s.dataPath.length,
      firstDeclaring s.dataPath a = some j := by
    intro a ha
    cases hfirst : firstDeclaring s.dataPath a with
    | some j => exact ⟨j, (List.findIdx?_eq_some_iff_getElem.1 hfirst).1, rfl⟩
    | none =>
      rw [Loops.leftover_eq, List.filter_eq_nil_iff] at hleft
      exact absurd (by rw [keeper_map_toEdge, hfirst]; rfl) (hleft a ha)
  have hactions : ∀ (j : ℕ) (e : ResolvedEdge), s.dataPath[j]? = some e →
      e.actions = p.writeShare item application e ++ readShare item s.dataPath j := by
    intro j e' he'
    obtain ⟨e, reads, hempty, hreads, hres⟩ := hresolved j e' he'
    have hj : j < s.dataPath.length := (List.getElem?_eq_some_iff.1 he').1
    rw [Loops.getElem?_shares _ _ _ (hlength ▸ hj)] at hreads
    rw [hres.actions_eq, hres.writeShare_eq hempty, ← Option.some.inj hreads]
    simp only [keeper_map_toEdge]
    rfl
  refine ⟨hcarried, ?_, hactions, ?_, ?_⟩
  · have hperm := Loops.shares_perm supportsGovernanceAction
      (s.dataPath.map ResolvedEdge.toEdge) item.actions
    rw [hleft, List.append_nil, Loops.shares_eq_map, hlength] at hperm
    simp only [keeper_map_toEdge] at hperm
    exact hperm
  · intro e' he' a ha
    obtain ⟨j, hj⟩ := List.mem_iff_getElem?.1 he'
    obtain ⟨e, reads, hempty, _, hres⟩ := hresolved j e' hj
    rw [← supportsGovernanceAction_iff]
    rw [hactions j e' hj, List.mem_append] at ha
    rcases ha with ha | ha
    · exact hres.supports_writeShare hempty ha
    · obtain ⟨_, hfirst⟩ := List.mem_filter.1 ha
      obtain ⟨hlt, hsup, _⟩ := List.findIdx?_eq_some_iff_getElem.1 (of_decide_eq_true hfirst)
      rw [List.getElem?_eq_getElem hlt] at hj
      rwa [Option.some.inj hj] at hsup
  · intro e' he'
    obtain ⟨j, hj⟩ := List.mem_iff_getElem?.1 he'
    obtain ⟨_, _, _, _, hres⟩ := hresolved j e' hj
    obtain ⟨c, hc, hname, hvalid⟩ := hres.cluster
    refine ⟨c, hc, hname, ?_⟩
    unfold validateClusterRestrictions at hvalid
    cases hcap : validateClusterRestrictionsPerCapability item e'.capability.capability c with
    | false => simp [hcap] at hvalid
    | true =>
      refine ⟨rfl, fun hne => ?_⟩
      simpa [hcap, hne] using hvalid

/-- A generator with a module that moves data between formats and can redact and
encrypt it, and a module that serves it and can filter it.  Writing to
neverland is denied, writing to the shire requires encryption. -/
def shireGenerator : PlotterGenerator :=
  { (default : PlotterGenerator) with
    settings := { (default : Settings) with dataPathMaxSize := 2 }
    modules := GoMap.ofList
      [("mover", ⟨"mover", ⟨"service", [⟨"copy", .asset,
          [⟨some ⟨"s3", "parquet"⟩, some ⟨"s3", "csv"⟩⟩], none, [⟨"redact"⟩, ⟨"encrypt"⟩]⟩],
          default⟩⟩),
       ("server", ⟨"server", ⟨"service", [⟨"read", .workload,
          [⟨some ⟨"s3", "csv"⟩, none⟩], some ⟨⟨"arrow-flight", ∅⟩, "arrow"⟩, [⟨"filter"⟩]⟩],
          default⟩⟩)]
    clusters := [⟨"lagoon", ⟨"neverland", "", ""⟩⟩, ⟨"hobbiton", ⟨"theshire", "", ""⟩⟩]
    policyManager := ⟨fun request _ =>
      if request.action.destination = "neverland" then .ok ⟨"1", [⟨"no export", ⟨"Deny", ∅⟩⟩]⟩
      else .ok ⟨"2", [⟨"protect at rest", ⟨"encrypt", ∅⟩⟩]⟩⟩
    taxonomy := ⟨fun _ => none, fun _ _ => none, fun _ => none⟩
    storageAccountRegions := ["theshire", "neverland"] }

/-- A parquet file in an object store, wanted over arrow-flight, filtered and
redacted; transformations are restricted to the shire. -/
def shireItem : DataInfo :=
  { (default : DataInfo) with
    dataDetails := { (default : GetAssetResponse) with details := ⟨⟨"s3", ∅⟩, "parquet"⟩ }
    context := ⟨"xxx", ⟨⟨"arrow-flight", "arrow"⟩, default⟩⟩
    configuration := { (default : EvaluatorOutput) with
      configDecisions := GoMap.ofList [("transform", { (default : Decision) with
        deploymentRestrictions := ⟨some (GoMap.ofList [("metadata.region", ["theshire"])]), none, none⟩ })] }
    actions := [⟨"filter", ∅⟩, ⟨"redact", ∅⟩] }

/-- A workload that asks for data. -/
def shireApplication : FybrikApplication :=
  { (default : FybrikApplication) with
    spec := { (default : FybrikApplicationSpec) with
      selector := ⟨"hobbiton", ⟨GoMap.ofList [("app", "notebook")], []⟩⟩ } }

theorem findPaths_governed_shire : ∃ s ∈ shireGenerator.findPaths shireItem shireApplication,
    s.dataPath.length = 2 ∧ Governed shireGenerator shireItem shireApplication s.dataPath := by
  have hfound : ∃ s ∈ shireGenerator.findPaths shireItem shireApplication,
      s.dataPath.length = 2 := by decide
  obtain ⟨s, hs, hlength⟩ := hfound
  exact ⟨s, hs, hlength, findPaths_governed shireGenerator shireItem shireApplication s hs⟩

/-! ## Are the regions approved? -/

/-- Writing a dataset where the edge writes it was allowed, and the edge performs
all actions this requires. -/
def Approved (p : PlotterGenerator) (application : FybrikApplication) (datasetID : String)
    (e : ResolvedEdge) : Prop :=
  (p.lookupWrite application datasetID e.storageAccountRegion).2 = none ∧
    ∀ a ∈ (p.lookupWrite application datasetID e.storageAccountRegion).1, a ∈ e.actions

/-- The region loop takes this region whatever the edge can do: writing there was
not denied and no actions are required, because writing is allowed or because
the lookup failed. -/
def acceptsAnyEdge (p : PlotterGenerator) (application : FybrikApplication)
    (datasetID region : String) : Bool :=
  let decisions := p.lookupWrite application datasetID region
  decisions.2 != some writeNotAllowed && decisions.1.isEmpty

theorem acceptsRegion_of_acceptsAnyEdge {region : String} (edge : Edge)
    (h : p.acceptsAnyEdge application datasetID region = true) :
    p.acceptsRegion application datasetID edge region = true := by
  unfold acceptsAnyEdge at h
  obtain ⟨hdeny, hempty⟩ := Bool.and_eq_true_iff.1 h
  refine Bool.and_eq_true_iff.2 ⟨hdeny, ?_⟩
  rw [List.isEmpty_iff.1 hempty]
  rfl

/-- A writing edge whose region was not approved got it from a failed lookup,
and no region after it was one that the loop takes for every edge. -/
theorem approved_or_failed (hs : s ∈ p.findPaths item application) (he : e ∈ s.dataPath)
    (hvirtual : e.sink.virtual = false) :
    p.Approved application item.context.dataSetID e ∨ e.storageAccountRegion ≠ "" ∧
      (p.lookupWrite application item.context.dataSetID e.storageAccountRegion).2 ≠ none ∧
      (p.storageAccountRegions.filter
        (p.acceptsAnyEdge application item.context.dataSetID)).getLast?
        = some e.storageAccountRegion := by
  obtain ⟨_, hresolved⟩ := findPaths_resolved hs
  obtain ⟨j, hj⟩ := List.mem_iff_getElem?.1 he
  obtain ⟨e₀, reads, hempty, _, hres⟩ := hresolved j e hj
  obtain ⟨hlast, hactions⟩ := hres.region hempty hvirtual
  cases hlookup : (p.lookupWrite application item.context.dataSetID
      e.storageAccountRegion).2 with
  | none =>
    refine Or.inl ⟨hlookup, fun a ha => ?_⟩
    rw [hres.actions_eq, hactions]
    exact List.mem_append_left _ ha
  | some err =>
    have haccepts := (List.mem_filter.1 (List.mem_of_getLast? hlast)).2
    have hdeny : err ≠ writeNotAllowed := by
      intro hdeny
      simp [acceptsRegion, hlookup, hdeny] at haccepts
    refine Or.inr ⟨hres.region_ne (hres.toEdge_eq ▸ hvirtual), by simp, ?_⟩
    refine Loops.getLast?_filter_of_imp
      (fun r hr => acceptsRegion_of_acceptsAnyEdge e.toEdge hr) hlast ?_
    simp [acceptsAnyEdge, hlookup, hdeny, lookupWrite_failed hlookup hdeny]

/-- A module that passes data on without transforming it. -/
def relayModule : FybrikModule :=
  { name := "relay"
    spec :=
      { type := "service"
        capabilities := [⟨"copy", .asset, [⟨some default, some default⟩], none, []⟩]
        chart := default } }

/-- Where nothing is required and nothing restricted, a path of one writing edge
is selected as soon as there are a region and a cluster for it. -/
theorem mem_findPaths_single {c : Cluster} {w : List Action} {r : String}
    (hfound : ⟨[e]⟩ ∈ p.findPathsWithinLimit item (sourceNode item)
      (destinationNode item application) p.settings.dataPathMaxSize) (hactions : item.actions = [])
    (hconfig : item.configuration.configDecisions = ∅) (hclusters : p.clusters = [c])
    (hregion : p.selectRegion item application e = (w, r)) (hne : r ≠ "") :
    ⟨[{ e with actions := w, cluster := c.name, storageAccountRegion := r }]⟩
      ∈ p.findPaths item application := by
  refine List.mem_filterMap.2 ⟨_, hfound, ?_⟩
  have hcap : ∀ capability, validateClusterRestrictionsPerCapability item capability c = true := by
    intro capability
    rw [validateClusterRestrictionsPerCapability, hconfig]
    rfl
  have hcluster : ∀ element, p.findCluster item element = some c.name := by
    intro element
    have hvalid : validateClusterRestrictions item element c = true := by
      simp [validateClusterRestrictions, hcap]
    rw [findCluster, hclusters, List.find?_cons_of_pos hvalid, Option.map_some]
  have helement : p.validateElement item application [] e
      = some ({ e with actions := w, cluster := c.name, storageAccountRegion := r }, []) := by
    unfold validateElement
    simp [hregion, hne, hcluster]
  have hrequired : ∀ path, deploysRequired item path = true := by
    intro path
    rw [deploysRequired, hconfig]
    rfl
  simp [validate, validateElements, hactions, helement, hrequired]

/-- With the relay, a dataset ends up in the last region that is taken for every
edge. -/
theorem relay_writes_to_last {r : String}
    (hr : (p.storageAccountRegions.filter (p.acceptsAnyEdge application datasetID)).getLast?
      = some r) (hne : r ≠ "") :
    ∃ s ∈ ({ p with
        modules := GoMap.ofList [("relay", relayModule)], clusters := [default] }).findPaths
        { (default : DataInfo) with context := ⟨datasetID, default⟩ }
        { application with spec := { application.spec with selector := default } },
      ∃ e ∈ s.dataPath, e.sink.virtual = false ∧ e.storageAccountRegion = r := by
  let e := newEdge relayModule ⟨0, by decide⟩ ⟨some default, false⟩ ⟨some default, false⟩
  -- the relay declares no actions, so it gets the regions every edge gets
  have haccepts : ∀ region, p.acceptsRegion application datasetID e.toEdge region
      = p.acceptsAnyEdge application datasetID region := by
    intro region
    have hnone : ∀ actions, supportsGovernanceActions e.toEdge actions = actions.isEmpty := by
      intro actions
      cases actions <;> rfl
    simp only [acceptsRegion, acceptsAnyEdge, hnone]
  refine ⟨_, mem_findPaths_single (e := e) (c := default) (r := r)
    (w := (p.lookupWrite application datasetID r).1) ?_ rfl rfl rfl ?_ hne,
    _, List.mem_singleton_self _, rfl, rfl⟩
  · exact mem_findPathsWithinLimit_recombined (m := relayModule) (i := ⟨some default, some default⟩)
      (j := ⟨some default, some default⟩) (List.mem_singleton_self _) ⟨0, by decide⟩ _ rfl
      (List.mem_singleton_self _) (List.mem_singleton_self _) (by simp) (by simp)
  · rw [selectRegion_eq rfl]
    have hfilter : p.storageAccountRegions.filter (p.acceptsRegion application datasetID e.toEdge)
        = p.storageAccountRegions.filter (p.acceptsAnyEdge application datasetID) :=
      List.filter_congr fun region _ => haccepts region
    rw [← hfilter] at hr
    exact congrArg (Option.elim · _ _) hr

/-- For which policy managers and storage regions data is only written where the
policy manager has approved it, whatever is deployed and requested: of the
regions that are taken for every edge, because writing there is allowed without
conditions or because the lookup failed with anything but a denial, the last one
is not one of a failed lookup.  A region with an empty name counts as none. -/
theorem findPaths_approved_iff (p : PlotterGenerator) :
    (∀ (modules : GoMap String FybrikModule) (clusters : List Cluster) (item : DataInfo)
        (application : FybrikApplication),
      ∀ s ∈ ({ p with modules := modules, clusters := clusters }).findPaths item application,
      ∀ e ∈ s.dataPath, e.sink.virtual = false →
        p.Approved application item.context.dataSetID e) ↔
    ∀ (application : FybrikApplication) (datasetID r : String),
      (p.storageAccountRegions.filter (p.acceptsAnyEdge application datasetID)).getLast? = some r →
        r = "" ∨ (p.lookupWrite application datasetID r).2 = none := by
  constructor
  · intro h application datasetID r hr
    by_cases hne : r = ""
    · exact Or.inl hne
    · obtain ⟨s, hs, e, he, hvirtual, hregion⟩ := relay_writes_to_last hr hne
      have happroved := (h _ _ _ _ s hs e he hvirtual).1
      rw [hregion] at happroved
      exact Or.inr happroved
  · intro h modules clusters item application s hs e he hvirtual
    rcases approved_or_failed hs he hvirtual with happroved | ⟨hne, hfailed, hlast⟩
    · exact happroved
    · rcases h application item.context.dataSetID e.storageAccountRegion hlast with hr | hr
      · exact absurd hr hne
      · exact absurd hr hfailed

/-- A policy manager that cannot be reached. -/
def unreachableGenerator : PlotterGenerator :=
  { (default : PlotterGenerator) with
    modules := GoMap.ofList [("relay", relayModule)]
    clusters := [⟨"hobbiton", ⟨"theshire", "", ""⟩⟩]
    policyManager := ⟨fun _ _ => .error "connection refused"⟩
    storageAccountRegions := ["theshire"] }

/-- The data is copied to the shire although the policy manager never answered. -/
theorem findPaths_unreachable_not_approved :
    ∃ s ∈ unreachableGenerator.findPaths default default, ∃ e ∈ s.dataPath,
      e.sink.virtual = false ∧ e.storageAccountRegion = "theshire" ∧
      (unreachableGenerator.lookupWrite default (default : DataInfo).context.dataSetID
        "theshire").2 = some "connection refused" := by
  decide

end PlotterGenerator

end Fybrik
