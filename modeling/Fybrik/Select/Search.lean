import Fybrik.Api.Services
import Fybrik.Lib.BoundedSearch
import Fybrik.Lib.Loops
import Mathlib.Data.List.Chain
import Mathlib.Data.List.FinRange

/-!
# Module selection, part 1: the search for data paths

The first half of `select_modules.go`: which chains of module capabilities lead
from where the data is to where the workload wants it.  A `Node` is an access
point to data, an `Edge` a module capability between two nodes.

* `findPathsWithinLimit` — the search of the source, backwards from the sink over
  every module, capability and interface.
* `pathNetwork` — the same search as an instance of the library's `Network`;
  `findPathsUpTo_eq_search` connects the two.
* `IsDataPath` — what a chain of edges has to satisfy, said without a search.
* `mem_findPathsWithinLimit` — the search returns exactly those chains.
* `Edge.Converts` — one entry of the capability takes the data from the source
  of the edge to its sink; `findPathsWithinLimit_converts_iff` says for which
  module maps every edge of every path found has it.
-/

namespace Fybrik

/-! ## Nodes, edges and the generator -/

/-- An access point to data: a data store, or an endpoint the workload calls. -/
structure Node where
  connection : Option InterfaceDetails
  virtual : Bool
  deriving DecidableEq, Inhabited, Repr

/-- What is known about a dataset of an application when its path is searched. -/
structure DataInfo where
  dataDetails : GetAssetResponse
  context : DataContext
  configuration : EvaluatorOutput
  workloadCluster : Cluster
  actions : List Action
  deriving DecidableEq, Inhabited

/-- A module capability that gets data at `source` and hands it on at `sink`.
The index of the capability is in range, so an edge always has a capability. -/
structure Edge where
  source : Node
  sink : Node
  module : FybrikModule
  capabilityIndex : ℕ
  index_lt : capabilityIndex < module.spec.capabilities.length
  deriving DecidableEq

/-- The capability the edge stands for. -/
def Edge.capability (e : Edge) : ModuleCapability :=
  e.module.spec.capabilities.get ⟨e.capabilityIndex, e.index_lt⟩

/-- An edge with the actions to perform, the cluster to run in and the region
of the storage to write to.  The search leaves all three empty. -/
structure ResolvedEdge extends Edge where
  actions : List Action := []
  cluster : String := ""
  storageAccountRegion : String := ""
  deriving DecidableEq

/-- A full data flow from the data source to the workload. -/
structure Solution where
  dataPath : List ResolvedEdge
  deriving DecidableEq

/-- The generator of plotters: what is deployed, the services it asks and the
settings it runs with. -/
structure PlotterGenerator where
  settings : Settings
  taxonomy : Taxonomy
  modules : GoMap String FybrikModule
  clusters : List Cluster
  owner : NamespacedName
  policyManager : PolicyManager
  provision : ProvisionInterface
  /-- The result of listing the storage accounts. -/
  storageAccounts : Except String (List FybrikStorageAccount)
  storageAccountRegions : List String
  templateEngine : TemplateEngine
  sha512 : Sha512
  deriving Inhabited

/-- The modules in the order the module map is walked. -/
def PlotterGenerator.moduleList (p : PlotterGenerator) : List FybrikModule :=
  p.modules.pairs.map Prod.snd

/-! ## What a capability supports -/

/-- `match`: both interfaces are given, and they are the same. -/
def matchInterfaces (source sink : Option InterfaceDetails) : Bool :=
  match source, sink with
  | some a, some b => a.dataFormat == b.dataFormat && a.protocol == b.protocol
  | _, _ => false

/-- The interface a module offers to the workload. -/
def ResourceDetails.interface (api : ResourceDetails) : InterfaceDetails :=
  ⟨api.connection.name, api.dataFormat⟩

/-- The API of a capability matches a virtual node. -/
def matchesAPI (capability : ModuleCapability) (node : Node) : Bool :=
  match capability.api with
  | some api => node.virtual && matchInterfaces (some api.interface) node.connection
  | none => false

/-- `supportsSourceInterface`. -/
def supportsSourceInterface (capability : ModuleCapability) (source : Node) : Bool :=
  matchesAPI capability source ||
    capability.supportedInterfaces.any fun inter => matchInterfaces inter.source source.connection

/-- `supportsSinkInterface`. -/
def supportsSinkInterface (capability : ModuleCapability) (sink : Node) : Bool :=
  matchesAPI capability sink ||
    capability.supportedInterfaces.any fun inter => matchInterfaces inter.sink sink.connection

/-- `allowCapability`: the administrator does not forbid it. -/
def allowCapability (item : DataInfo) (capability : Capability) : Bool :=
  (item.configuration.configDecisions.get capability).deploy != .statusFalse

/-- `validateModuleRestrictions` accepts every module: the check is still to be
written in the source. -/
def validateModuleRestrictions (_item : DataInfo) (_module : FybrikModule) (_index : ℕ) : Bool :=
  true

theorem matchInterfaces_iff {a b : Option InterfaceDetails} :
    matchInterfaces a b = true ↔ ∃ i, a = some i ∧ b = some i := by
  cases a with
  | none => simp [matchInterfaces]
  | some a =>
    cases b with
    | none => simp [matchInterfaces]
    | some b =>
      obtain ⟨pa, fa⟩ := a
      obtain ⟨pb, fb⟩ := b
      simp only [matchInterfaces, Bool.and_eq_true, beq_iff_eq, Option.some.injEq,
        exists_eq_left', InterfaceDetails.mk.injEq]
      constructor
      · rintro ⟨hf, hp⟩; exact ⟨hp.symm, hf.symm⟩
      · rintro ⟨hp, hf⟩; exact ⟨hf.symm, hp.symm⟩

variable {capability : ModuleCapability}

theorem supportsSinkInterface_iff {sink : Node} :
    supportsSinkInterface capability sink = true ↔ matchesAPI capability sink = true ∨
      ∃ inter ∈ capability.supportedInterfaces, ∃ i, inter.sink = some i ∧
        sink.connection = some i := by
  simp only [supportsSinkInterface, Bool.or_eq_true, List.any_eq_true, matchInterfaces_iff]

theorem supportsSourceInterface_iff {source : Node} :
    supportsSourceInterface capability source = true ↔ matchesAPI capability source = true ∨
      ∃ inter ∈ capability.supportedInterfaces, ∃ i, inter.source = some i ∧
        source.connection = some i := by
  simp only [supportsSourceInterface, Bool.or_eq_true, List.any_eq_true, matchInterfaces_iff]

theorem matchesAPI_of_not_virtual {node : Node} (h : node.virtual = false) :
    matchesAPI capability node = false := by
  unfold matchesAPI
  cases capability.api with
  | none => rfl
  | some api => simp [h]

/-! ## The search -/

namespace PlotterGenerator

variable (p : PlotterGenerator) (item : DataInfo) (source : Node)

/-- The edge of the `i`-th capability of a module between two nodes, as the
search creates it. -/
def newEdge (module : FybrikModule) (i : Fin module.spec.capabilities.length)
    (source sink : Node) : ResolvedEdge :=
  { source := source, sink := sink, module := module, capabilityIndex := i, index_lt := i.2 }

/-- The body of the two loops of `findPathsWithinLimit`: the paths to `sink`
that end with the `i`-th capability of `module`.  `deeper` is the recursive
call. -/
def pathsThrough (deeper : Node → List Solution) (sink : Node) (module : FybrikModule)
    (i : Fin module.spec.capabilities.length) : List Solution :=
  let capability := module.spec.capabilities.get i
  if !allowCapability item capability.capability then []
  else if !validateModuleRestrictions item module i then []
  else if !supportsSinkInterface capability sink then []
  else
    -- a capability that supports both interfaces ends the recursion
    (if supportsSourceInterface capability source then
      [⟨[newEdge module i source sink]⟩] else []) ++
    capability.supportedInterfaces.flatMap fun inter =>
      (deeper ⟨inter.source, false⟩).map fun path =>
        ⟨path.dataPath ++ [newEdge module i ⟨inter.source, false⟩ sink]⟩

/-- `findPathsWithinLimit` for a bound that is not negative. -/
def findPathsUpTo : ℕ → Node → List Solution
  | n + 2, sink => p.moduleList.flatMap fun module =>
      (List.finRange module.spec.capabilities.length).flatMap
        (pathsThrough item source (findPathsUpTo (n + 1)) sink module)
  | _, sink => p.moduleList.flatMap fun module =>
      (List.finRange module.spec.capabilities.length).flatMap
        (pathsThrough item source (fun _ => []) sink module)

/-- `findPathsWithinLimit`: all data paths of at most `n` capabilities.  A bound
below one acts like one, because the recursion is only entered for `n > 1`. -/
def findPathsWithinLimit (sink : Node) (n : ℤ) : List Solution :=
  p.findPathsUpTo item source n.toNat sink

/-- The branch structure of the source: below `n = 2` there is no recursive
call, above it one with `n - 1`. -/
theorem findPathsWithinLimit_eq (sink : Node) (n : ℤ) :
    p.findPathsWithinLimit item source sink n = p.moduleList.flatMap fun module =>
      (List.finRange module.spec.capabilities.length).flatMap (pathsThrough item source
        (fun c => if 1 < n then p.findPathsWithinLimit item source c (n - 1) else [])
        sink module) := by
  unfold findPathsWithinLimit
  by_cases hn : 1 < n
  · obtain ⟨k, hk⟩ : ∃ k : ℕ, n.toNat = k + 2 := ⟨n.toNat - 2, by omega⟩
    have hk' : (n - 1).toNat = k + 1 := by omega
    simp only [hk, hk', if_pos hn, findPathsUpTo]
  · have hn' : n.toNat = 0 ∨ n.toNat = 1 := by omega
    rcases hn' with h | h <;> simp only [h, if_neg hn, findPathsUpTo]

/-! ## The search as an instance of the library -/

/-- The backward search problem of `findPathsWithinLimit`: targets are sinks,
candidates the capabilities that may be used and support the sink. -/
def pathNetwork : Network Node ((m : FybrikModule) × Fin m.spec.capabilities.length)
    ResolvedEdge where
  candidates sink := p.moduleList.flatMap fun module =>
    ((List.finRange module.spec.capabilities.length).filter fun i =>
      allowCapability item (module.spec.capabilities.get i).capability &&
        supportsSinkInterface (module.spec.capabilities.get i) sink).map fun i => ⟨module, i⟩
  finish sink c :=
    if supportsSourceInterface (c.1.spec.capabilities.get c.2) source then
      [newEdge c.1 c.2 source sink] else []
  hops sink c := (c.1.spec.capabilities.get c.2).supportedInterfaces.map fun inter =>
    (⟨inter.source, false⟩, newEdge c.1 c.2 ⟨inter.source, false⟩ sink)

variable {item source}

/-- The body of the loops, for a capability that is not skipped. -/
theorem pathsThrough_eq (deeper : Node → List Solution) (sink : Node) (module : FybrikModule)
    (i : Fin module.spec.capabilities.length) :
    pathsThrough item source deeper sink module i =
      if allowCapability item (module.spec.capabilities.get i).capability &&
          supportsSinkInterface (module.spec.capabilities.get i) sink then
        (if supportsSourceInterface (module.spec.capabilities.get i) source then
          [⟨[newEdge module i source sink]⟩] else []) ++
        (module.spec.capabilities.get i).supportedInterfaces.flatMap fun inter =>
          (deeper ⟨inter.source, false⟩).map fun path =>
            ⟨path.dataPath ++ [newEdge module i ⟨inter.source, false⟩ sink]⟩
      else [] := by
  unfold pathsThrough validateModuleRestrictions
  generalize module.spec.capabilities.get i = capability
  cases ha : allowCapability item capability.capability with
  | false => simp [ha]
  | true =>
    cases hs : supportsSinkInterface capability sink with
    | false => simp [ha, hs]
    | true => simp [ha, hs]

/-- One level of the loops is one level of the network. -/
theorem loops_eq_level (deeper : Node → List (List ResolvedEdge)) (sink : Node) :
    (p.moduleList.flatMap fun module =>
      (List.finRange module.spec.capabilities.length).flatMap
        (pathsThrough item source (fun c => (deeper c).map Solution.mk) sink module))
      = ((p.pathNetwork item source).level deeper sink).map Solution.mk := by
  simp only [Network.level, pathNetwork, List.flatMap_assoc, List.map_flatMap]
  refine List.flatMap_congr fun module _ => ?_
  rw [List.flatMap_map, show pathsThrough item source (fun c => (deeper c).map Solution.mk) sink
    module = _ from funext fun i => pathsThrough_eq _ sink module i,
    Loops.flatMap_ite_nil]
  refine List.flatMap_congr fun i _ => ?_
  rw [List.map_append]
  congr 1
  · split <;> rfl
  · rw [List.map_flatMap, List.flatMap_map]
    refine List.flatMap_congr fun inter _ => ?_
    rw [List.map_map, List.map_map]
    rfl

/-- The search of the source is the bounded search of the library. -/
theorem findPathsUpTo_eq_search (n : ℕ) (sink : Node) :
    p.findPathsUpTo item source n sink
      = ((p.pathNetwork item source).search (n - 1) sink).map Solution.mk := by
  induction n generalizing sink with
  | zero => exact p.loops_eq_level (fun _ => []) sink
  | succ n ih =>
    cases n with
    | zero => exact p.loops_eq_level (fun _ => []) sink
    | succ n =>
      have hdeeper : p.findPathsUpTo item source (n + 1)
          = fun c => ((p.pathNetwork item source).search n c).map Solution.mk := funext ih
      rw [findPathsUpTo, hdeeper]
      exact p.loops_eq_level _ sink

end PlotterGenerator

/-! ## What a data path is -/

/-- Two neighbouring edges fit together: some interface of the second names as
its source the connection at which the first, as a data store and not as an
endpoint, hands the data over; and the first can write there. -/
def Linked (e e' : ResolvedEdge) : Prop :=
  ∃ inter ∈ e'.capability.supportedInterfaces,
    e'.source = ⟨inter.source, false⟩ ∧ e.sink = ⟨inter.source, false⟩ ∧
      supportsSinkInterface e.capability e.sink = true

/-- A chain of edges that takes the data from `source` to `sink`: every edge is
a capability of a registered module that the administrator does not forbid, the
first one supports the source, the last one the sink, and neighbours fit
together.  Nothing is decided yet about actions, clusters and storage. -/
structure IsDataPath (p : PlotterGenerator) (item : DataInfo) (source sink : Node)
    (path : List ResolvedEdge) : Prop where
  ne_nil : path ≠ []
  registered : ∀ e ∈ path, e.module ∈ p.moduleList
  allowed : ∀ e ∈ path,
    (item.configuration.configDecisions.get e.capability.capability).deploy ≠ .statusFalse
  starts : ∀ e ∈ path.head?, e.source = source ∧
    supportsSourceInterface e.capability source = true
  ends : ∀ e ∈ path.getLast?, e.sink = sink ∧ supportsSinkInterface e.capability sink = true
  linked : path.IsChain Linked
  unresolved : ∀ e ∈ path, e.actions = [] ∧ e.cluster = "" ∧ e.storageAccountRegion = ""

theorem allowCapability_iff {item : DataInfo} {c : Capability} :
    allowCapability item c = true ↔
      (item.configuration.configDecisions.get c).deploy ≠ .statusFalse := by
  simp [allowCapability]

/-- The edge the search creates for a capability is the edge it stands for. -/
theorem eq_newEdge {e : ResolvedEdge}
    (h : e.actions = [] ∧ e.cluster = "" ∧ e.storageAccountRegion = "") :
    e = PlotterGenerator.newEdge e.module ⟨e.capabilityIndex, e.index_lt⟩ e.source e.sink := by
  obtain ⟨⟨source, sink, module, index, hlt⟩, actions, cluster, region⟩ := e
  obtain ⟨ha, hc, hr⟩ := h
  simp only at ha hc hr
  subst ha hc hr
  rfl

namespace PlotterGenerator

variable {p : PlotterGenerator} {item : DataInfo} {source sink : Node}

theorem mem_candidates {c : (m : FybrikModule) × Fin m.spec.capabilities.length} :
    c ∈ (p.pathNetwork item source).candidates sink ↔ c.1 ∈ p.moduleList ∧
      allowCapability item (c.1.spec.capabilities.get c.2).capability = true ∧
        supportsSinkInterface (c.1.spec.capabilities.get c.2) sink = true := by
  obtain ⟨m, i⟩ := c
  simp only [pathNetwork, List.mem_flatMap, List.mem_map, List.mem_filter, List.mem_finRange,
    true_and, Bool.and_eq_true]
  constructor
  · rintro ⟨m', hm', i', hi', heq⟩
    obtain ⟨rfl, hi⟩ := Sigma.mk.inj_iff.1 heq
    obtain rfl := eq_of_heq hi
    exact ⟨hm', hi'⟩
  · rintro ⟨hm, hi⟩
    exact ⟨m, hm, i, hi, rfl⟩

variable {path : List ResolvedEdge}

theorem isDataPath_of_route (h : (p.pathNetwork item source).Route sink path) :
    IsDataPath p item source sink path := by
  induction h with
  | @finish sink c e hc he =>
    obtain ⟨hm, ha, hs⟩ := mem_candidates.1 hc
    simp only [pathNetwork] at he
    split at he
    · rename_i hsrc
      obtain rfl := List.mem_singleton.1 he
      refine ⟨by simp, ?_, ?_, ?_, ?_, List.isChain_singleton _, ?_⟩ <;>
        simp only [List.mem_singleton, forall_eq, List.head?_cons, List.getLast?_singleton,
          Option.mem_def, Option.some.injEq, forall_eq']
      · exact hm
      · exact allowCapability_iff.1 ha
      · exact ⟨rfl, hsrc⟩
      · exact ⟨rfl, hs⟩
      · exact ⟨rfl, rfl, rfl⟩
    · cases he
  | @hop sink c hp path hc hhp _ ih =>
    obtain ⟨hm, ha, hs⟩ := mem_candidates.1 hc
    obtain ⟨inter, hinter, rfl⟩ := List.mem_map.1 hhp
    -- the new last edge starts where the shorter path ends
    refine ⟨by simp, ?_, ?_, ?_, ?_, ?_, ?_⟩
    · intro e he
      rcases List.mem_append.1 he with he | he
      · exact ih.registered e he
      · obtain rfl := List.mem_singleton.1 he
        exact hm
    · intro e he
      rcases List.mem_append.1 he with he | he
      · exact ih.allowed e he
      · obtain rfl := List.mem_singleton.1 he
        exact allowCapability_iff.1 ha
    · rw [List.head?_append_of_ne_nil _ ih.ne_nil]
      exact ih.starts
    · simp only [List.getLast?_append, List.getLast?_singleton, Option.some_or, Option.mem_def,
        Option.some.injEq, forall_eq']
      exact ⟨rfl, hs⟩
    · refine ih.linked.append (List.isChain_singleton _) ?_
      intro e he e' he'
      simp only [List.head?_cons, Option.mem_def, Option.some.injEq] at he'
      subst he'
      obtain ⟨hsink, hsup⟩ := ih.ends e he
      exact ⟨inter, hinter, rfl, hsink, by rw [hsink]; exact hsup⟩
    · intro e he
      rcases List.mem_append.1 he with he | he
      · exact ih.unresolved e he
      · obtain rfl := List.mem_singleton.1 he
        exact ⟨rfl, rfl, rfl⟩

theorem route_of_isDataPath (h : IsDataPath p item source sink path) :
    (p.pathNetwork item source).Route sink path := by
  induction path using List.reverseRecOn generalizing sink with
  | nil => exact absurd rfl h.ne_nil
  | append_singleton path e ih =>
    have hmem : e ∈ path ++ [e] := List.mem_append_right _ (List.mem_singleton_self e)
    obtain ⟨hsink, hsup⟩ := h.ends e (by simp)
    have hc : (⟨e.module, ⟨e.capabilityIndex, e.index_lt⟩⟩ :
        (m : FybrikModule) × Fin m.spec.capabilities.length)
        ∈ (p.pathNetwork item source).candidates sink :=
      mem_candidates.2 ⟨h.registered e hmem, allowCapability_iff.2 (h.allowed e hmem), hsup⟩
    have he := eq_newEdge (h.unresolved e hmem)
    rw [hsink] at he
    rcases List.eq_nil_or_concat path with rfl | ⟨init, prev, hpath⟩
    · -- a single edge: it also supports the source
      obtain ⟨hsrc, hsup'⟩ := h.starts e (by simp)
      rw [hsrc] at he
      refine Network.Route.finish hc ?_
      show e ∈ if supportsSourceInterface e.capability source then _ else _
      rw [if_pos hsup', ← he]
      exact List.mem_singleton_self e
    · -- otherwise the rest is a shorter data path to where this edge starts
      have hchain := List.isChain_append.1 h.linked
      have hprev : prev ∈ path.getLast? := by rw [hpath]; simp
      obtain ⟨inter, hinter, hesrc, hprevsink, hprevsup⟩ :=
        hchain.2.2 prev hprev e (by simp)
      have hne : path ≠ [] := by rw [hpath]; simp
      have hrest : IsDataPath p item source ⟨inter.source, false⟩ path := by
        refine ⟨hne, fun x hx => h.registered x (List.mem_append_left _ hx),
          fun x hx => h.allowed x (List.mem_append_left _ hx), ?_, ?_, hchain.1,
          fun x hx => h.unresolved x (List.mem_append_left _ hx)⟩
        · have := h.starts
          rwa [List.head?_append_of_ne_nil _ hne] at this
        · intro x hx
          obtain rfl : x = prev := Option.some.inj (hx.symm.trans hprev)
          exact ⟨hprevsink, by rw [← hprevsink]; exact hprevsup⟩
      rw [hesrc] at he
      have hhop : ((⟨inter.source, false⟩ : Node), e)
          ∈ (p.pathNetwork item source).hops sink ⟨e.module, ⟨e.capabilityIndex, e.index_lt⟩⟩ := by
        refine List.mem_map.2 ⟨inter, hinter, ?_⟩
        rw [← he]
      exact Network.Route.hop hc hhop (ih hrest)

theorem found_iff {n : ℤ} :
    ⟨path⟩ ∈ p.findPathsWithinLimit item source sink n ↔
      IsDataPath p item source sink path ∧ path.length ≤ n.toNat - 1 + 1 := by
  rw [findPathsWithinLimit, findPathsUpTo_eq_search,
    List.mem_map_of_injective fun _ _ => Solution.mk.inj, Network.mem_search]
  exact and_congr_left' ⟨isDataPath_of_route, route_of_isDataPath⟩

/-- Path search is exact: for every module map, configuration, source, sink and
bound `n`, the paths returned are the data paths of at most `max 1 n` edges, no
others and none missing. -/
theorem mem_findPathsWithinLimit (p : PlotterGenerator) (item : DataInfo) (source sink : Node)
    (n : ℤ) (path : List ResolvedEdge) :
    ⟨path⟩ ∈ p.findPathsWithinLimit item source sink n ↔
      IsDataPath p item source sink path ∧ 1 ≤ path.length ∧ (path.length : ℤ) ≤ max 1 n := by
  rw [findPathsWithinLimit, findPathsUpTo_eq_search]
  have hmk : (⟨path⟩ : Solution) ∈ ((p.pathNetwork item source).search (n.toNat - 1) sink).map
      Solution.mk ↔ path ∈ (p.pathNetwork item source).search (n.toNat - 1) sink := by
    simp
  rw [hmk, Network.mem_search]
  constructor
  · rintro ⟨hroute, hlen⟩
    have hpos := hroute.length_pos
    exact ⟨isDataPath_of_route hroute, by omega, by omega⟩
  · rintro ⟨hpath, hpos, hlen⟩
    exact ⟨route_of_isDataPath hpath, by omega⟩

end PlotterGenerator

/-! ## Do the selected modules support the conversion they are selected for? -/

/-- The capability of the edge declares what the edge does: a single entry of
its interfaces leads from the source of the edge to its sink.  Where the sink is
the API of the capability, an entry for the source is enough. -/
def Edge.Converts (e : Edge) : Prop :=
  if matchesAPI e.capability e.sink then
    ∃ inter ∈ e.capability.supportedInterfaces,
      matchInterfaces inter.source e.source.connection = true
  else
    ∃ inter ∈ e.capability.supportedInterfaces,
      matchInterfaces inter.source e.source.connection = true ∧
        matchInterfaces inter.sink e.sink.connection = true

instance (e : Edge) : Decidable e.Converts :=
  inferInstanceAs (Decidable (ite _ _ _))

/-- Every source of the capability can be combined with every sink of it. -/
def ModuleCapability.InterfacesClosed (c : ModuleCapability) : Prop :=
  ∀ i ∈ c.supportedInterfaces, ∀ j ∈ c.supportedInterfaces, i.source ≠ none → j.sink ≠ none →
    ∃ k ∈ c.supportedInterfaces, k.source = i.source ∧ k.sink = j.sink

namespace PlotterGenerator

variable {p : PlotterGenerator} {item : DataInfo} {source sink : Node}

/-- Each edge of a data path has an entry for its source, and supports its
sink: two separate facts, about possibly different entries. -/
theorem edge_supports {path : List ResolvedEdge} (h : IsDataPath p item source sink path)
    (hsource : source.virtual = false) {e : ResolvedEdge} (he : e ∈ path) :
    (∃ inter ∈ e.capability.supportedInterfaces, ∃ i, inter.source = some i ∧
      e.source.connection = some i) ∧ supportsSinkInterface e.capability e.sink = true := by
  obtain ⟨before, after, rfl⟩ := List.append_of_mem he
  have hchain := List.isChain_append.1 h.linked
  constructor
  · rcases List.eq_nil_or_concat before with rfl | ⟨init, prev, rfl⟩
    · obtain ⟨hsrc, hsup⟩ := h.starts e (by simp)
      rw [supportsSourceInterface_iff, matchesAPI_of_not_virtual hsource] at hsup
      rw [hsrc]
      exact hsup.resolve_left Bool.false_ne_true
    · obtain ⟨inter, hinter, hesrc, hsink, hsup⟩ := hchain.2.2 prev (by simp) e (by simp)
      -- what the previous edge writes to is a connection, not a missing one
      rw [supportsSinkInterface_iff, matchesAPI_of_not_virtual (by rw [hsink])] at hsup
      obtain ⟨_, _, i, _, hi⟩ := hsup.resolve_left Bool.false_ne_true
      rw [hsink] at hi
      exact ⟨inter, hinter, i, hi, by rw [hesrc]; exact hi⟩
  · cases after with
    | nil =>
      obtain ⟨hsink, hsup⟩ := h.ends e (by simp)
      rw [hsink]
      exact hsup
    | cons next rest =>
      obtain ⟨_, _, _, _, hsup⟩ := (List.isChain_cons_cons.1 hchain.2.1).1
      exact hsup

/-- If the interfaces of every capability are closed under recombination, the
two separate checks of the search amount to one entry that does both. -/
theorem converts_of_interfacesClosed {path : List ResolvedEdge}
    (hclosed : ∀ m ∈ p.moduleList, ∀ c ∈ m.spec.capabilities, c.InterfacesClosed)
    (h : IsDataPath p item source sink path) (hsource : source.virtual = false)
    {e : ResolvedEdge} (he : e ∈ path) : e.toEdge.Converts := by
  obtain ⟨⟨inter, hinter, i, hi, hei⟩, hsup⟩ := edge_supports h hsource he
  unfold Edge.Converts
  split
  · exact ⟨inter, hinter, matchInterfaces_iff.2 ⟨i, hi, hei⟩⟩
  · rename_i hapi
    obtain ⟨inter', hinter', j, hj, hej⟩ := (supportsSinkInterface_iff.1 hsup).resolve_left hapi
    obtain ⟨k, hk, hks, hkt⟩ := hclosed e.module (h.registered e he) e.capability
      (List.get_mem _ _) inter hinter inter' hinter' (by simp [hi]) (by simp [hj])
    exact ⟨k, hk, matchInterfaces_iff.2 ⟨i, hks.trans hi, hei⟩,
      matchInterfaces_iff.2 ⟨j, hkt.trans hj, hej⟩⟩

/-- A source and a sink taken from two entries of one capability are joined by
an edge as soon as the capability is not forbidden. -/
theorem mem_findPathsWithinLimit_recombined {m : FybrikModule} (hm : m ∈ p.moduleList)
    (x : Fin m.spec.capabilities.length) (n : ℤ) {i j : ModuleInOut}
    (hallow : allowCapability item (m.spec.capabilities.get x).capability = true)
    (hi : i ∈ (m.spec.capabilities.get x).supportedInterfaces)
    (hj : j ∈ (m.spec.capabilities.get x).supportedInterfaces)
    (hsrc : i.source ≠ none) (hsink : j.sink ≠ none) :
    ⟨[newEdge m x ⟨i.source, false⟩ ⟨j.sink, false⟩]⟩
      ∈ p.findPathsWithinLimit item ⟨i.source, false⟩ ⟨j.sink, false⟩ n := by
  rw [found_iff]
  refine ⟨⟨by simp, ?_, ?_, ?_, ?_, List.isChain_singleton _, ?_⟩, by simp⟩ <;>
    simp only [List.mem_singleton, forall_eq, List.head?_cons, List.getLast?_singleton,
      Option.mem_def, Option.some.injEq, forall_eq']
  · exact hm
  · exact allowCapability_iff.1 hallow
  · obtain ⟨s, hs⟩ := Option.ne_none_iff_exists'.1 hsrc
    exact ⟨rfl, supportsSourceInterface_iff.2 (Or.inr ⟨i, hi, s, hs, hs⟩)⟩
  · obtain ⟨t, ht⟩ := Option.ne_none_iff_exists'.1 hsink
    exact ⟨rfl, supportsSinkInterface_iff.2 (Or.inr ⟨j, hj, t, ht, ht⟩)⟩
  · exact ⟨rfl, rfl, rfl⟩

/-- For which module maps every selected module supports the conversion it is
selected for: exactly those whose capabilities declare an entry for every
combination of one of their sources with one of their sinks.  The source of a
search is a data store, as in every call of the manager. -/
theorem findPathsWithinLimit_converts_iff (p : PlotterGenerator) :
    (∀ (item : DataInfo) (source sink : Node) (n : ℤ), source.virtual = false →
      ∀ s ∈ p.findPathsWithinLimit item source sink n, ∀ e ∈ s.dataPath, e.toEdge.Converts) ↔
    ∀ m ∈ p.moduleList, ∀ c ∈ m.spec.capabilities, c.InterfacesClosed := by
  constructor
  · intro h m hm c hc i hi j hj hsrc hsink
    obtain ⟨x, rfl⟩ := List.get_of_mem hc
    have hedge := h default ⟨i.source, false⟩ ⟨j.sink, false⟩ 1 rfl _
      (mem_findPathsWithinLimit_recombined hm x 1 rfl hi hj hsrc hsink) _ (List.mem_singleton_self _)
    unfold Edge.Converts at hedge
    rw [if_neg (by rw [matchesAPI_of_not_virtual]; exact Bool.false_ne_true; rfl)] at hedge
    obtain ⟨k, hk, hks, hkt⟩ := hedge
    obtain ⟨s, hks, his⟩ := matchInterfaces_iff.1 hks
    obtain ⟨t, hkt, hjt⟩ := matchInterfaces_iff.1 hkt
    exact ⟨k, hk, hks.trans his.symm, hkt.trans hjt.symm⟩
  · intro hclosed item source sink n hsource s hs e he
    obtain ⟨hpath, _⟩ := (p.mem_findPathsWithinLimit item source sink n s.dataPath).1 hs
    exact converts_of_interfacesClosed hclosed hpath hsource he

/-- A module that copies from a database to an object store, and from the
object store to a message queue. -/
def copierModule : FybrikModule :=
  { name := "copier"
    spec :=
      { type := "service"
        capabilities :=
          [{ capability := "copy"
             scope := .asset
             supportedInterfaces :=
               [⟨some ⟨"db2", ""⟩, some ⟨"s3", "parquet"⟩⟩,
                ⟨some ⟨"s3", "csv"⟩, some ⟨"kafka", "json"⟩⟩]
             api := none
             actions := [] }]
        chart := default } }

/-- The copier is selected to copy from the database to the message queue, which
no entry of its interfaces does. -/
theorem findPathsWithinLimit_copier_not_converts :
    ∃ s ∈ ({ (default : PlotterGenerator) with
        modules := GoMap.ofList [("copier", copierModule)] }).findPathsWithinLimit default
        ⟨some ⟨"db2", ""⟩, false⟩ ⟨some ⟨"kafka", "json"⟩, false⟩ 2,
      ∃ e ∈ s.dataPath, ¬ e.toEdge.Converts := by
  decide

end PlotterGenerator

end Fybrik
