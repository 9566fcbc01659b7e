import Fybrik.Select.Validate

/-!
# Module selection, part 3: what the walk decides and what it misses

The walk along a data path settles an edge before it looks at the next one: the region
is the last one that is accepted, an action goes to the first edge that declares it,
and the cluster comes after both.

* `exists_validate_iff` — for which paths the walk succeeds.
* `findPaths_respectsDecisions_iff` — when a selected path keeps to what the
  administrator decided about deploying capabilities.
* `Plan`, `Plan.Feasible` — regions, clusters and edges for actions that would make a
  path valid, chosen in any way.
* `findPaths_complete_iff` — for which paths with a feasible plan the walk finds one.
* `findPaths_reconfigured` — what other modules and a larger bound add to the paths found.
-/

namespace Fybrik

namespace PlotterGenerator

variable {p : PlotterGenerator} {item : DataInfo} {application : FybrikApplication}

/-! ## When the walk succeeds -/

/-- The walk can fill in an edge that is handed the actions `reads`. -/
structure Resolvable (p : PlotterGenerator) (item : DataInfo) (application : FybrikApplication)
    (reads : List Action) (e : ResolvedEdge) : Prop where
  region : e.sink.virtual = false → (p.selectRegion item application e).2 ≠ ""
  cluster : ∃ c ∈ p.clusters,
    validateClusterRestrictionsPerCapability item e.capability.capability c = true ∧
    ((p.selectRegion item application e).1 ++ reads ≠ [] →
      validateClusterRestrictionsPerCapability item transform c = true)

theorem validateClusterRestrictions_iff {e : ResolvedEdge} {c : Cluster} :
    validateClusterRestrictions item e c = true ↔
      validateClusterRestrictionsPerCapability item e.capability.capability c = true ∧
        (e.actions ≠ [] → validateClusterRestrictionsPerCapability item transform c = true) := by
  unfold validateClusterRestrictions
  cases validateClusterRestrictionsPerCapability item e.capability.capability c with
  | false => simp
  | true => cases e.actions <;> simp

theorem exists_validateElement_iff {required : List Action} {e : ResolvedEdge} :
    (∃ resolved left, p.validateElement item application required e = some (resolved, left)) ↔
      Resolvable p item application
        (required.filter fun a => supportsGovernanceAction e.toEdge a) e := by
  constructor
  · rintro ⟨resolved, left, h⟩
    obtain ⟨hres, -⟩ := validateElement_eq_some h
    obtain ⟨c, hc, -, hvalid⟩ := hres.cluster
    rw [validateClusterRestrictions_iff, hres.actions_eq, hres.toEdge_eq] at hvalid
    exact ⟨fun hvirtual => hres.region_eq ▸ hres.region_ne hvirtual, c, hc, hvalid⟩
  · rintro ⟨hregion, c, hc, hvalid⟩
    have hstorage : ¬ (!e.sink.virtual && (p.selectRegion item application e).2 == "") = true := by
      simpa using hregion
    have hcluster : ∃ name, p.findCluster item { e with
        actions := (p.selectRegion item application e).1 ++
          required.filter fun a => supportsGovernanceAction e.toEdge a
        storageAccountRegion := (p.selectRegion item application e).2 } = some name := by
      rw [← Option.isSome_iff_exists, findCluster, Option.isSome_map, List.find?_isSome]
      exact ⟨c, hc, validateClusterRestrictions_iff.2 hvalid⟩
    obtain ⟨name, hname⟩ := hcluster
    unfold validateElement
    simp only [if_neg hstorage, hname]
    exact ⟨_, _, rfl⟩

variable {path : List ResolvedEdge}

/-- The walk succeeds if every edge can be filled in with its share of the actions. -/
theorem exists_validateElements_iff {required : List Action} :
    (∃ path' left, p.validateElements item application required path = some (path', left)) ↔
      List.Forall₂ (Resolvable p item application)
        (Loops.shares supportsGovernanceAction (path.map ResolvedEdge.toEdge) required) path := by
  induction path generalizing required with
  | nil => simp [validateElements, Loops.shares]
  | cons e path ih =>
    rw [List.map_cons, Loops.shares, List.forall₂_cons, ← ih, ← exists_validateElement_iff]
    simp only [validateElements_cons_eq_some]
    constructor
    · rintro ⟨path', left, resolved, unsupported, rest, helement, hrest, -⟩
      obtain ⟨-, rfl⟩ := validateElement_eq_some helement
      exact ⟨⟨_, _, helement⟩, _, _, hrest⟩
    · rintro ⟨⟨resolved, unsupported, helement⟩, rest, left, hrest⟩
      obtain ⟨-, rfl⟩ := validateElement_eq_some helement
      exact ⟨resolved :: rest, left, resolved, _, rest, helement, hrest, rfl⟩

/-- The capabilities that have to be deployed are those of some edges. -/
theorem deploysRequired_iff : deploysRequired item path = true ↔
    ∀ c, (item.configuration.configDecisions.get c).deploy = .statusTrue →
      ∃ e ∈ path, e.capability.capability = c := by
  simp only [deploysRequired, List.all_eq_true, Bool.or_eq_true, bne_iff_ne, List.any_eq_true,
    beq_iff_eq, Prod.forall, GoMap.mem_pairs]
  constructor
  · intro h c hc
    cases hlookup : item.configuration.configDecisions.lookup c with
    | none =>
      rw [GoMap.get_of_lookup_none hlookup] at hc
      exact absurd hc (by decide)
    | some d =>
      rw [GoMap.get_of_lookup hlookup] at hc
      exact (h c d hlookup).resolve_left (not_not_intro hc)
  · intro h c d hlookup
    by_cases hd : d.deploy = .statusTrue
    · exact Or.inr (h c (by rw [GoMap.get_of_lookup hlookup]; exact hd))
    · exact Or.inl hd

/-- The actions that are handed to an edge are those that no earlier edge declares. -/
theorem shares_getElem? {j : ℕ} {e : ResolvedEdge} (h : path[j]? = some e) :
    (Loops.shares supportsGovernanceAction (path.map ResolvedEdge.toEdge) item.actions)[j]?
      = some (readShare item path j) := by
  have hj : j < (path.map ResolvedEdge.toEdge).length := by
    rw [List.length_map]
    exact (List.getElem?_eq_some_iff.1 h).1
  rw [Loops.getElem?_shares _ _ _ hj]
  simp only [keeper_map_toEdge]
  rfl

theorem resolvable_shares_iff :
    List.Forall₂ (Resolvable p item application)
        (Loops.shares supportsGovernanceAction (path.map ResolvedEdge.toEdge) item.actions) path ↔
      ∀ (j : ℕ) (e : ResolvedEdge), path[j]? = some e →
        Resolvable p item application (readShare item path j) e := by
  have hlength : (Loops.shares supportsGovernanceAction (path.map ResolvedEdge.toEdge)
      item.actions).length = path.length := by
    rw [Loops.length_shares, List.length_map]
  rw [List.forall₂_iff_get, and_iff_right hlength]
  constructor
  · intro h j e he
    obtain ⟨hj, hget⟩ := List.getElem?_eq_some_iff.1 he
    obtain ⟨hj', hshare⟩ := List.getElem?_eq_some_iff.1 (shares_getElem? he)
    have hres := h j hj' hj
    rw [List.get_eq_getElem, List.get_eq_getElem, hshare, hget] at hres
    exact hres
  · intro h j hj hj'
    have he : path[j]? = some path[j] := List.getElem?_eq_getElem hj'
    obtain ⟨_, hshare⟩ := List.getElem?_eq_some_iff.1 (shares_getElem? he)
    rw [List.get_eq_getElem, List.get_eq_getElem, hshare]
    exact h j _ he

theorem leftover_eq_nil_iff :
    Loops.leftover supportsGovernanceAction (path.map ResolvedEdge.toEdge) item.actions = [] ↔
      ∀ a ∈ item.actions, ∃ e ∈ path, supportsGovernanceAction e.toEdge a = true := by
  rw [Loops.leftover_eq, List.filter_eq_nil_iff]
  refine forall₂_congr fun a _ => ?_
  rw [keeper_map_toEdge, firstDeclaring, decide_eq_true_eq, List.findIdx?_eq_none_iff]
  simp

/-- For which paths the walk succeeds: every edge can be filled in with the actions that
fall to it, every action is declared by some edge, and every required capability is the
one of some edge. -/
theorem exists_validate_iff :
    (∃ s, p.validate item application ⟨path⟩ = some s) ↔
      (∀ (j : ℕ) (e : ResolvedEdge), path[j]? = some e →
        Resolvable p item application (readShare item path j) e) ∧
      (∀ a ∈ item.actions, ∃ e ∈ path, supportsGovernanceAction e.toEdge a = true) ∧
      ∀ c, (item.configuration.configDecisions.get c).deploy = .statusTrue →
        ∃ e ∈ path, e.capability.capability = c := by
  rw [← resolvable_shares_iff, ← leftover_eq_nil_iff, ← deploysRequired_iff,
    ← exists_validateElements_iff]
  simp only [validate_eq_some_iff]
  constructor
  · rintro ⟨s, hwalk, hdeploys⟩
    obtain ⟨hedges, hleft, -⟩ := validateElements_eq_some hwalk
    rw [hedges] at hleft
    exact ⟨⟨_, _, hwalk⟩, hleft.symm, hdeploys⟩
  · rintro ⟨⟨path', left, hwalk⟩, hnil, hdeploys⟩
    obtain ⟨hedges, hleft, -⟩ := validateElements_eq_some hwalk
    rw [hedges, hnil] at hleft
    subst hleft
    exact ⟨⟨path'⟩, hwalk, hdeploys⟩

theorem validate_edges {s : Solution} (h : p.validate item application ⟨path⟩ = some s) :
    s.dataPath.map ResolvedEdge.toEdge = path.map ResolvedEdge.toEdge :=
  (validateElements_eq_some (validate_eq_some_iff.1 h).1).1

end PlotterGenerator

/-! ## Are deploy decisions respected? -/

/-- What an edge deploys: its own capability, and the one to transform data if it
performs actions. -/
def ResolvedEdge.Deploys (e : ResolvedEdge) (c : Capability) : Prop :=
  c = e.capability.capability ∨ e.actions ≠ [] ∧ c = transform

/-- A path that keeps to the decisions of the administrator. -/
structure RespectsDecisions (item : DataInfo) (path : List ResolvedEdge) : Prop where
  required : ∀ c, (item.configuration.configDecisions.get c).deploy = .statusTrue →
    ∃ e ∈ path, e.Deploys c
  forbidden : ∀ c, (item.configuration.configDecisions.get c).deploy = .statusFalse →
    ∀ e ∈ path, ¬ e.Deploys c

namespace PlotterGenerator

variable {p : PlotterGenerator} {item : DataInfo} {application : FybrikApplication}

/-- The search keeps forbidden capabilities off the path, the walk requires the required
ones to be on it. -/
theorem findPaths_capabilities {s : Solution} (hs : s ∈ p.findPaths item application) :
    (∀ e ∈ s.dataPath,
      (item.configuration.configDecisions.get e.capability.capability).deploy ≠ .statusFalse) ∧
    ∀ c, (item.configuration.configDecisions.get c).deploy = .statusTrue →
      ∃ e ∈ s.dataPath, e.capability.capability = c := by
  obtain ⟨path, hfound, hvalid⟩ := mem_findPaths_iff.1 hs
  obtain ⟨hpath, -⟩ := found_iff.1 hfound
  have hedges := validate_edges hvalid
  constructor
  · intro e he
    have hmem : e.toEdge ∈ path.map ResolvedEdge.toEdge := hedges ▸ List.mem_map_of_mem he
    obtain ⟨e₀, he₀, heq⟩ := List.mem_map.1 hmem
    exact heq ▸ hpath.allowed e₀ he₀
  · rw [← deploysRequired_iff, deploysRequired_congr hedges]
    exact (validate_eq_some_iff.1 hvalid).2

/-- No edge performs actions exactly if none are required: on reading the data, or on
writing it to a region that was selected. -/
theorem Governed.no_actions_iff {path : List ResolvedEdge} (h : Governed p item application path) :
    (∀ e ∈ path, e.actions = []) ↔
      item.actions = [] ∧ ∀ e ∈ path, p.writeShare item application e = [] := by
  constructor
  · intro hnone
    have hshares : ∀ (j : ℕ) (e : ResolvedEdge), path[j]? = some e →
        p.writeShare item application e = [] ∧ readShare item path j = [] := by
      intro j e he
      have hactions := h.actions_eq j e he
      rw [hnone e (List.mem_of_getElem? he)] at hactions
      exact List.append_eq_nil_iff.1 hactions.symm
    constructor
    · refine List.eq_nil_iff_forall_not_mem.2 fun a ha => ?_
      obtain ⟨j, hj, hfirst⟩ := h.carried a ha
      have hread := (hshares j path[j] (List.getElem?_eq_getElem hj)).2
      have hmem : a ∈ readShare item path j := List.mem_filter.2 ⟨ha, decide_eq_true hfirst⟩
      rw [hread] at hmem
      cases hmem
    · intro e he
      obtain ⟨j, hj⟩ := List.mem_iff_getElem?.1 he
      exact (hshares j e hj).1
  · rintro ⟨hitem, hwrite⟩ e he
    obtain ⟨j, hj⟩ := List.mem_iff_getElem?.1 he
    rw [h.actions_eq j e hj, hwrite e he, readShare, hitem]
    rfl

/-- When a selected path keeps to the decisions of the administrator: unless
transformations are forbidden and some action is required, on reading the data or on
writing it where the path writes it. -/
theorem findPaths_respectsDecisions_iff (p : PlotterGenerator) (item : DataInfo)
    (application : FybrikApplication) (s : Solution) (hs : s ∈ p.findPaths item application) :
    RespectsDecisions item s.dataPath ↔
      (item.configuration.configDecisions.get transform).deploy ≠ .statusFalse ∨
        (item.actions = [] ∧ ∀ e ∈ s.dataPath, p.writeShare item application e = []) := by
  obtain ⟨hallowed, hrequired⟩ := findPaths_capabilities hs
  rw [← (findPaths_governed p item application s hs).no_actions_iff]
  constructor
  · intro h
    by_cases hfalse : (item.configuration.configDecisions.get transform).deploy = .statusFalse
    · refine Or.inr fun e he => ?_
      by_contra hne
      exact h.forbidden transform hfalse e he (Or.inr ⟨hne, rfl⟩)
    · exact Or.inl hfalse
  · intro h
    refine ⟨fun c hc => ?_, fun c hc e he hdeploys => ?_⟩
    · obtain ⟨e, he, rfl⟩ := hrequired c hc
      exact ⟨e, he, Or.inl rfl⟩
    · rcases hdeploys with rfl | ⟨hne, rfl⟩
      · exact hallowed e he hc
      · rcases h with h | h
        · exact h hc
        · exact hne (h e he)

theorem findPaths_shire_respectsDecisions :
    ∃ s ∈ shireGenerator.findPaths shireItem shireApplication,
      RespectsDecisions shireItem s.dataPath := by
  have hfound : ∃ s, s ∈ shireGenerator.findPaths shireItem shireApplication :=
    List.exists_mem_of_length_pos (by decide)
  obtain ⟨s, hs⟩ := hfound
  exact ⟨s, hs, (findPaths_respectsDecisions_iff shireGenerator shireItem shireApplication s hs).2
    (Or.inl (by decide))⟩

/-- The dataset of the shire where transformations are not to be deployed at all. -/
def untransformedItem : DataInfo :=
  { shireItem with
    configuration := { (default : EvaluatorOutput) with
      configDecisions := GoMap.ofList
        [("transform", { (default : Decision) with deploy := .statusFalse })] } }

/-- The data is filtered and redacted all the same. -/
theorem findPaths_untransformed_not_respectsDecisions :
    ∃ s ∈ shireGenerator.findPaths untransformedItem shireApplication,
      ¬ RespectsDecisions untransformedItem s.dataPath := by
  have hfound : ∃ s ∈ shireGenerator.findPaths untransformedItem shireApplication,
      ∃ e ∈ s.dataPath, e.actions ≠ [] := by decide
  obtain ⟨s, hs, e, he, hne⟩ := hfound
  exact ⟨s, hs, fun h => h.forbidden transform (by decide) e he (Or.inr ⟨hne, rfl⟩)⟩

end PlotterGenerator

/-! ## Is every valid path found? -/

/-- Choices for a path, made in any way: for the position of an action on read the
position of the edge that is to perform it, and for the position of an edge a storage
region and a cluster. -/
structure Plan where
  edgeOf : ℕ → ℕ
  regionOf : ℕ → String
  clusterOf : ℕ → Cluster

namespace Plan

variable (plan : Plan) (p : PlotterGenerator) (item : DataInfo) (application : FybrikApplication)

/-- The actions on read that fall to the `j`-th edge. -/
def reads (j : ℕ) : List Action :=
  (item.actions.zipIdx.filter fun ai => plan.edgeOf ai.2 = j).map Prod.fst

/-- The actions on write of the `j`-th edge. -/
def writes (j : ℕ) (e : ResolvedEdge) : List Action :=
  if e.sink.virtual then []
  else (p.lookupWrite application item.context.dataSetID (plan.regionOf j)).1

/-- The choices make the path valid. -/
structure Feasible (path : List ResolvedEdge) : Prop where
  declared : ∀ (i : ℕ) (a : Action), item.actions[i]? = some a →
    ∃ e, path[plan.edgeOf i]? = some e ∧ supportsGovernanceAction e.toEdge a = true
  region : ∀ (j : ℕ) (e : ResolvedEdge), path[j]? = some e → e.sink.virtual = false →
    plan.regionOf j ∈ p.storageAccountRegions ∧
    (p.lookupWrite application item.context.dataSetID (plan.regionOf j)).2 = none ∧
    supportsGovernanceActions e.toEdge
      (p.lookupWrite application item.context.dataSetID (plan.regionOf j)).1 = true
  cluster : ∀ (j : ℕ) (e : ResolvedEdge), path[j]? = some e → plan.clusterOf j ∈ p.clusters ∧
    validateClusterRestrictionsPerCapability item e.capability.capability (plan.clusterOf j)
      = true ∧
    (plan.writes p item application j e ++ plan.reads item j ≠ [] →
      validateClusterRestrictionsPerCapability item transform (plan.clusterOf j) = true)
  required : ∀ c, (item.configuration.configDecisions.get c).deploy = .statusTrue →
    ∃ e ∈ path, e.capability.capability = c

end Plan

namespace PlotterGenerator

variable {p : PlotterGenerator} {item : DataInfo} {application : FybrikApplication}

/-- The actions that the walk gives to the `j`-th edge. -/
def walkActions (p : PlotterGenerator) (item : DataInfo) (application : FybrikApplication)
    (path : List ResolvedEdge) (j : ℕ) (e : ResolvedEdge) : List Action :=
  (p.selectRegion item application e).1 ++ readShare item path j

/-- The search fills in nothing, so its paths are determined by their edges. -/
theorem eq_of_edges_eq {path path' : List ResolvedEdge}
    (h : ∀ e ∈ path, e.actions = [] ∧ e.cluster = "" ∧ e.storageAccountRegion = "")
    (h' : ∀ e ∈ path', e.actions = [] ∧ e.cluster = "" ∧ e.storageAccountRegion = "")
    (hedges : path'.map ResolvedEdge.toEdge = path.map ResolvedEdge.toEdge) : path' = path := by
  have hself : ∀ l : List ResolvedEdge,
      (∀ e ∈ l, e.actions = [] ∧ e.cluster = "" ∧ e.storageAccountRegion = "") →
        (l.map ResolvedEdge.toEdge).map (fun e => { toEdge := e }) = l := by
    intro l hl
    rw [List.map_map]
    conv_rhs => rw [← List.map_id l]
    exact List.map_congr_left fun e he => (eq_newEdge (hl e he)).symm
  rw [← hself path h, ← hself path' h', hedges]

/-- A path is selected if some solution has its edges. -/
theorem exists_mem_findPaths_iff {path : List ResolvedEdge}
    (hfound : ⟨path⟩ ∈ p.findPathsWithinLimit item (sourceNode item)
      (destinationNode item application) p.settings.dataPathMaxSize) :
    (∃ s ∈ p.findPaths item application,
      s.dataPath.map ResolvedEdge.toEdge = path.map ResolvedEdge.toEdge) ↔
      ∃ s, p.validate item application ⟨path⟩ = some s := by
  constructor
  · rintro ⟨s, hs, hedges⟩
    obtain ⟨path', hfound', hvalid⟩ := mem_findPaths_iff.1 hs
    obtain ⟨hpath, -⟩ := found_iff.1 hfound
    obtain ⟨hpath', -⟩ := found_iff.1 hfound'
    have hsame := eq_of_edges_eq hpath.unresolved hpath'.unresolved
      ((validate_edges hvalid).symm.trans hedges)
    exact ⟨s, hsame ▸ hvalid⟩
  · rintro ⟨s, hvalid⟩
    exact ⟨s, mem_findPaths_iff.2 ⟨path, hfound, hvalid⟩, validate_edges hvalid⟩

/-- For which paths with a feasible plan `FindPaths` returns a solution.  The walk does
not choose: for each edge, its region has a name, and if the walk gives it actions, there
is a cluster where its capability may run together with transformations. -/
theorem findPaths_complete_iff (p : PlotterGenerator) (item : DataInfo)
    (application : FybrikApplication) (path : List ResolvedEdge) (plan : Plan)
    (hfound : ⟨path⟩ ∈ p.findPathsWithinLimit item (sourceNode item)
      (destinationNode item application) p.settings.dataPathMaxSize)
    (hfeasible : plan.Feasible p item application path) :
    (∃ s ∈ p.findPaths item application,
      s.dataPath.map ResolvedEdge.toEdge = path.map ResolvedEdge.toEdge) ↔
    ∀ (j : ℕ) (e : ResolvedEdge), path[j]? = some e →
      (e.sink.virtual = false → (p.selectRegion item application e).2 ≠ "") ∧
      (p.walkActions item application path j e ≠ [] → ∃ c ∈ p.clusters,
        validateClusterRestrictionsPerCapability item e.capability.capability c = true ∧
          validateClusterRestrictionsPerCapability item transform c = true) := by
  rw [exists_mem_findPaths_iff hfound, exists_validate_iff]
  have hdeclared : ∀ a ∈ item.actions, ∃ e ∈ path, supportsGovernanceAction e.toEdge a = true := by
    intro a ha
    obtain ⟨i, hi⟩ := List.mem_iff_getElem?.1 ha
    obtain ⟨e, he, hsupports⟩ := hfeasible.declared i a hi
    exact ⟨e, List.mem_of_getElem? he, hsupports⟩
  rw [and_iff_left ⟨hdeclared, hfeasible.required⟩]
  constructor
  · intro h j e he
    obtain ⟨hregion, c, hc, hcap, htransform⟩ := h j e he
    exact ⟨hregion, fun hne => ⟨c, hc, hcap, htransform hne⟩⟩
  · intro h j e he
    obtain ⟨hregion, hcluster⟩ := h j e he
    refine ⟨hregion, ?_⟩
    by_cases hnone : p.walkActions item application path j e = []
    · -- without actions, the cluster of the plan will do
      obtain ⟨hc, hcap, -⟩ := hfeasible.cluster j e he
      exact ⟨_, hc, hcap, fun hne => absurd hnone hne⟩
    · obtain ⟨c, hc, hcap, htransform⟩ := hcluster hnone
      exact ⟨c, hc, hcap, fun _ => htransform⟩

/-- A module that moves data between formats. -/
def redactingMover : FybrikModule :=
  ⟨"mover", ⟨"service", [⟨"copy", .asset,
    [⟨some ⟨"s3", "parquet"⟩, some ⟨"s3", "csv"⟩⟩], none, [⟨"redact"⟩]⟩], default⟩⟩

/-- A module that serves data. -/
def redactingServer : FybrikModule :=
  ⟨"server", ⟨"service", [⟨"read", .workload,
    [⟨some ⟨"s3", "csv"⟩, none⟩], some ⟨⟨"arrow-flight", ∅⟩, "arrow"⟩, [⟨"redact"⟩]⟩], default⟩⟩

/-- Both modules can redact data, and writing is allowed everywhere. -/
def redactingGenerator : PlotterGenerator :=
  { shireGenerator with
    modules := GoMap.ofList [("mover", redactingMover), ("server", redactingServer)]
    policyManager := ⟨fun _ _ => .ok ⟨"1", []⟩⟩ }

/-- The mover copies the data. -/
def moverEdge : ResolvedEdge :=
  newEdge redactingMover ⟨0, by decide⟩
    ⟨some ⟨"s3", "parquet"⟩, false⟩ ⟨some ⟨"s3", "csv"⟩, false⟩

/-- The server serves the copy. -/
def serverEdge : ResolvedEdge :=
  newEdge redactingServer ⟨0, by decide⟩
    ⟨some ⟨"s3", "csv"⟩, false⟩ ⟨some ⟨"arrow-flight", "arrow"⟩, true⟩

theorem forall_redactingPath {P : ℕ → ResolvedEdge → Prop} (hmover : P 0 moverEdge)
    (hserver : P 1 serverEdge) (j : ℕ) (e : ResolvedEdge)
    (h : [moverEdge, serverEdge][j]? = some e) : P j e := by
  match j with
  | 0 => exact Option.some.inj h ▸ hmover
  | 1 => exact Option.some.inj h ▸ hserver
  | j + 2 => cases h

/-- A dataset to be redacted, with restrictions on the clusters of some capabilities. -/
def redactedItem (regions : List (Capability × String)) : DataInfo :=
  { shireItem with
    configuration := { (default : EvaluatorOutput) with
      configDecisions := GoMap.ofList (regions.map fun cr => (cr.1, { (default : Decision) with
        deploymentRestrictions :=
          ⟨some (GoMap.ofList [("metadata.region", [cr.2])]), none, none⟩ })) }
    actions := [⟨"redact", ∅⟩] }

/-- The server redacts the data in the shire; the mover is elsewhere. -/
def redactingPlan (mover : Cluster) : Plan where
  edgeOf _ := 1
  regionOf _ := "theshire"
  clusterOf j := if j = 0 then mover else ⟨"hobbiton", ⟨"theshire", "", ""⟩⟩

theorem redactingPlan_declared {regions : List (Capability × String)} {mover : Cluster} (i : ℕ)
    (a : Action) (h : (redactedItem regions).actions[i]? = some a) :
    ∃ e, [moverEdge, serverEdge][(redactingPlan mover).edgeOf i]? = some e ∧
      supportsGovernanceAction e.toEdge a = true := by
  have ha : a = ⟨"redact", ∅⟩ := List.mem_singleton.1 (List.mem_of_getElem? h)
  exact ⟨serverEdge, rfl, ha ▸ by decide⟩

/-- Where only transformations are restricted, the mover redacts the data and the path
is selected. -/
theorem findPaths_transform_complete :
    ∃ s ∈ redactingGenerator.findPaths (redactedItem [("transform", "theshire")]) shireApplication,
      s.dataPath.map ResolvedEdge.toEdge = [moverEdge, serverEdge].map ResolvedEdge.toEdge := by
  refine (findPaths_complete_iff redactingGenerator (redactedItem [("transform", "theshire")])
    shireApplication [moverEdge, serverEdge] (redactingPlan ⟨"hobbiton", ⟨"theshire", "", ""⟩⟩)
    (by decide) ⟨redactingPlan_declared, ?_, ?_, deploysRequired_iff.1 (by decide)⟩).2 ?_
  · exact forall_redactingPath (by decide) (by decide)
  · exact forall_redactingPath (by decide) (by decide)
  · exact forall_redactingPath (by decide) (by decide)

/-- Copies are restricted to neverland, transformations to the shire. -/
def separatedItem : DataInfo := redactedItem [("copy", "neverland"), ("transform", "theshire")]

/-- The server could redact the data in the shire.  But the mover comes first, and has no
cluster where it may. -/
theorem findPaths_separated_incomplete :
    ⟨[moverEdge, serverEdge]⟩ ∈ redactingGenerator.findPathsWithinLimit separatedItem
      (sourceNode separatedItem) (destinationNode separatedItem shireApplication)
      redactingGenerator.settings.dataPathMaxSize ∧
    (redactingPlan ⟨"lagoon", ⟨"neverland", "", ""⟩⟩).Feasible redactingGenerator separatedItem
      shireApplication [moverEdge, serverEdge] ∧
    redactingGenerator.findPaths separatedItem shireApplication = [] := by
  refine ⟨by decide,
    ⟨redactingPlan_declared, ?_, ?_, deploysRequired_iff.1 (by decide)⟩, by decide⟩
  · exact forall_redactingPath (by decide) (by decide)
  · exact forall_redactingPath (by decide) (by decide)

/-! ## Other modules, longer paths -/

/-- The generator where these modules are registered and paths may have this length. -/
def reconfigured (p : PlotterGenerator) (modules : GoMap String FybrikModule) (size : ℤ) :
    PlotterGenerator :=
  { p with modules := modules, settings := { p.settings with dataPathMaxSize := size } }

theorem validate_reconfigured {modules : GoMap String FybrikModule} {size : ℤ} :
    (p.reconfigured modules size).validate item application = p.validate item application := by
  have hwalk : ∀ path required,
      (p.reconfigured modules size).validateElements item application required path
        = p.validateElements item application required path := by
    intro path
    induction path with
    | nil => exact fun _ => rfl
    | cons e path ih =>
      intro required
      have he : (p.reconfigured modules size).validateElement item application required e
          = p.validateElement item application required e := rfl
      simp only [validateElements, he, ih]
  funext s
  simp only [validate, hwalk]

/-- **Registering modules and allowing longer paths loses no data path.**  What is found in
addition has a module that is new, or is longer than paths could be before. -/
theorem findPaths_reconfigured (p : PlotterGenerator) (item : DataInfo)
    (application : FybrikApplication) (modules : GoMap String FybrikModule) (size : ℤ)
    (hmodules : p.moduleList ⊆ (p.reconfigured modules size).moduleList)
    (hsize : p.settings.dataPathMaxSize ≤ size) (s : Solution) :
    s ∈ p.findPaths item application ↔
      s ∈ (p.reconfigured modules size).findPaths item application ∧
        (∀ e ∈ s.dataPath, e.module ∈ p.moduleList) ∧
        (s.dataPath.length : ℤ) ≤ max 1 p.settings.dataPathMaxSize := by
  have hedges : ∀ path, p.validate item application ⟨path⟩ = some s →
      s.dataPath.length = path.length ∧
        ((∀ e ∈ s.dataPath, e.module ∈ p.moduleList) ↔ ∀ e ∈ path, e.module ∈ p.moduleList) := by
    intro path hvalid
    have hmap := validate_edges hvalid
    have hmem := congrArg (fun edges => ∀ e ∈ edges, Edge.module e ∈ p.moduleList) hmap
    exact ⟨by simpa using congrArg List.length hmap,
      by simpa only [List.forall_mem_map, eq_iff_iff] using hmem⟩
  rw [mem_findPaths_iff, mem_findPaths_iff, validate_reconfigured]
  simp only [found_iff]
  constructor
  · rintro ⟨path, ⟨h, hle⟩, hvalid⟩
    refine ⟨⟨path, ⟨⟨h.ne_nil, fun e he => hmodules (h.registered e he), h.allowed, h.starts,
      h.ends, h.linked, h.unresolved⟩, ?_⟩, hvalid⟩, ?_⟩
    · change _ ≤ size.toNat - 1 + 1
      omega
    · rw [(hedges path hvalid).1, (hedges path hvalid).2]
      exact ⟨h.registered, by omega⟩
  · rintro ⟨⟨path, ⟨h, -⟩, hvalid⟩, hregistered, hle⟩
    rw [(hedges path hvalid).1] at hle
    exact ⟨path, ⟨⟨h.ne_nil, (hedges path hvalid).2.1 hregistered, h.allowed, h.starts, h.ends,
      h.linked, h.unresolved⟩, by omega⟩, hvalid⟩

/-- If only one module may be used, the path over both modules is not found. -/
theorem findPaths_reconfigured_shire :
    ∃ s ∈ shireGenerator.findPaths shireItem shireApplication,
      s ∉ (shireGenerator.reconfigured shireGenerator.modules 1).findPaths shireItem
        shireApplication := by
  obtain ⟨s, hs, hlength⟩ : ∃ s ∈ shireGenerator.findPaths shireItem shireApplication,
      s.dataPath.length = 2 := by decide
  refine ⟨s, hs, fun hshort => ?_⟩
  have hle := ((findPaths_reconfigured (shireGenerator.reconfigured shireGenerator.modules 1)
    shireItem shireApplication shireGenerator.modules 2 (fun _ h => h) (by decide) s).1 hshort).2.2
  rw [hlength] at hle
  exact absurd hle (by decide)

end PlotterGenerator

end Fybrik
