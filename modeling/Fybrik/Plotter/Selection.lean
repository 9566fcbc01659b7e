import Fybrik.Lib.OrderedSearch
import Fybrik.Plotter.Endpoint
import Fybrik.Select.Choices

/-!
# Which data path becomes the flow

`AddFlowInfoForAsset` takes the first of the solutions that `FindPaths` returns.  The
search behind it goes through the map of modules, and each of its recursive calls does so
in an order of its own.

* `findPathsIn`, `selectPathIn` — the search and the selection for given orders;
  `findPathsIn_fixed` and `selectPathIn_fixed` are the case of one order for all calls.
* `pathSearch` — the search as an instance of the library's `GroupedSearch`.
* `leadingPaths` — the paths that are selected for some orders.
* `selectPathIn_shortest_iff` — when the selected path is a shortest one in every order.
-/

namespace Fybrik

/-- The orders in which the calls of `findPathsWithinLimit` go through the modules.  A call
is named by the modules, capabilities and interfaces it was made for. -/
abbrev PlotterGenerator.ModuleOrders (p : PlotterGenerator) : Type :=
  Schedule (ℕ × ℕ) p.modules.pairs

namespace PlotterGenerator

variable (p : PlotterGenerator) (item : DataInfo) (source : Node) (application : FybrikApplication)

/-! ## The search in given orders -/

/-- The body of the loops of `findPathsWithinLimit`, as in `pathsThrough`.  `deeper` are the
recursive calls, one for each interface. -/
def pathsThroughIn (deeper : ℕ → Node → List Solution) (sink : Node) (module : FybrikModule)
    (i : Fin module.spec.capabilities.length) : List Solution :=
  let capability := module.spec.capabilities.get i
  if !allowCapability item capability.capability then []
  else if !validateModuleRestrictions item module i then []
  else if !supportsSinkInterface capability sink then []
  else
    (if supportsSourceInterface capability source then
      [⟨[newEdge module i source sink]⟩] else []) ++
    capability.supportedInterfaces.zipIdx.flatMap fun inter =>
      (deeper inter.2 ⟨inter.1.source, false⟩).map fun path =>
        ⟨path.dataPath ++ [newEdge module i ⟨inter.1.source, false⟩ sink]⟩

/-- `findPathsWithinLimit` for a bound that is not negative. -/
def findPathsUpToIn : ℕ → p.ModuleOrders → Node → List Solution
  | n + 2, orders, sink => (orders.order []).flatMap fun km =>
      (List.finRange km.2.spec.capabilities.length).flatMap fun i =>
        pathsThroughIn item source
          (fun k => findPathsUpToIn (n + 1) (orders.after km (i.val, k))) sink km.2 i
  | _, orders, sink => (orders.order []).flatMap fun km =>
      (List.finRange km.2.spec.capabilities.length).flatMap fun i =>
        pathsThroughIn item source (fun _ _ => []) sink km.2 i

/-- `FindPaths`. -/
def findPathsIn (orders : p.ModuleOrders) : List Solution :=
  p.validSolutions item application
    (p.findPathsUpToIn item (sourceNode item) p.settings.dataPathMaxSize.toNat orders
      (destinationNode item application))

/-- The data path chosen by `AddFlowInfoForAsset`: the first one found. -/
def selectPathIn (orders : p.ModuleOrders) : Option (List ResolvedEdge) :=
  (p.findPathsIn item application orders).head?.map Solution.dataPath

variable {p item source application}

/-! ## One order for all calls -/

theorem pathsThroughIn_const (deeper : Node → List Solution) (sink : Node)
    (module : FybrikModule) (i : Fin module.spec.capabilities.length) :
    pathsThroughIn item source (fun _ => deeper) sink module i
      = pathsThrough item source deeper sink module i := by
  have hinterfaces : ∀ l : List ModuleInOut,
      (l.zipIdx.flatMap fun inter => (deeper ⟨inter.1.source, false⟩).map fun path =>
        (⟨path.dataPath ++ [newEdge module i ⟨inter.1.source, false⟩ sink]⟩ : Solution))
        = l.flatMap fun inter => (deeper ⟨inter.source, false⟩).map fun path =>
          ⟨path.dataPath ++ [newEdge module i ⟨inter.source, false⟩ sink]⟩ := by
    intro l
    conv_rhs => rw [← List.zipIdx_map_fst 0 l, List.flatMap_map]
  simp only [pathsThroughIn, pathsThrough, hinterfaces]

theorem findPathsUpToIn_fixed (n : ℕ) (sink : Node) :
    p.findPathsUpToIn item source n (Schedule.fixed p.modules.pairs) sink
      = p.findPathsUpTo item source n sink := by
  induction n generalizing sink with
  | zero =>
    simp only [findPathsUpToIn, findPathsUpTo, pathsThroughIn_const, moduleList, List.flatMap_map]
    rfl
  | succ n ih =>
    cases n with
    | zero =>
      simp only [findPathsUpToIn, findPathsUpTo, pathsThroughIn_const, moduleList, List.flatMap_map]
      rfl
    | succ n =>
      have hcalls : ∀ km label, p.findPathsUpToIn item source (n + 1)
          ((Schedule.fixed p.modules.pairs).after km label)
            = p.findPathsUpTo item source (n + 1) := fun _ _ => funext ih
      simp only [findPathsUpToIn, findPathsUpTo, hcalls, pathsThroughIn_const, moduleList,
        List.flatMap_map]
      rfl

theorem findPathsIn_fixed :
    p.findPathsIn item application (Schedule.fixed p.modules.pairs)
      = p.findPaths item application := by
  rw [findPathsIn, findPathsUpToIn_fixed]
  rfl

theorem selectPathIn_fixed :
    p.selectPathIn item application (Schedule.fixed p.modules.pairs)
      = p.selectPath application item := by
  rw [selectPathIn, findPathsIn_fixed]
  rfl

/-! ## The search as an instance of the library -/

/-- The moves of a capability, in the order of the source: it completes a path if it
supports the source, and then asks for the paths to each of its interfaces. -/
def capabilityMoves (item : DataInfo) (source sink : Node) (module : FybrikModule)
    (i : Fin module.spec.capabilities.length) : List (Move Node (ℕ × ℕ) ResolvedEdge) :=
  if allowCapability item (module.spec.capabilities.get i).capability &&
      supportsSinkInterface (module.spec.capabilities.get i) sink then
    (if supportsSourceInterface (module.spec.capabilities.get i) source then
      [.last (newEdge module i source sink)] else []) ++
    (module.spec.capabilities.get i).supportedInterfaces.zipIdx.map fun inter =>
      .further (i.val, inter.2) (newEdge module i ⟨inter.1.source, false⟩ sink)
        ⟨inter.1.source, false⟩
  else []

/-- The search for data paths, with the modules as groups of moves. -/
def pathSearch (p : PlotterGenerator) (item : DataInfo) (source : Node) :
    GroupedSearch Node (String × FybrikModule) (ℕ × ℕ) ResolvedEdge where
  groups := p.modules.pairs
  moves sink km := (List.finRange km.2.spec.capabilities.length).flatMap
    (capabilityMoves item source sink km.2)

theorem pathsThroughIn_eq (deeper : ℕ × ℕ → Node → List (List ResolvedEdge)) (sink : Node)
    (module : FybrikModule) (i : Fin module.spec.capabilities.length) :
    pathsThroughIn item source (fun k c => (deeper (i.val, k) c).map Solution.mk) sink module i
      = ((capabilityMoves item source sink module i).flatMap
          (GroupedSearch.through deeper)).map Solution.mk := by
  unfold pathsThroughIn validateModuleRestrictions capabilityMoves
  generalize module.spec.capabilities.get i = capability
  cases ha : allowCapability item capability.capability with
  | false => simp [ha]
  | true =>
    cases hs : supportsSinkInterface capability sink with
    | false => simp [ha, hs]
    | true =>
      simp only [ha, hs, Bool.not_true, Bool.false_eq_true, if_false, Bool.and_true, if_true]
      rw [List.flatMap_append, List.map_append]
      congr 1
      · split <;> rfl
      · rw [List.flatMap_map, List.map_flatMap]
        refine List.flatMap_congr fun inter _ => ?_
        rw [GroupedSearch.through, List.map_map, List.map_map]
        rfl

/-- One level of the loops is one level of the library's search. -/
theorem loopsIn_eq_level (call : p.ModuleOrders → Node → List (List ResolvedEdge))
    (orders : p.ModuleOrders) (sink : Node) :
    ((orders.order []).flatMap fun km =>
      (List.finRange km.2.spec.capabilities.length).flatMap fun i =>
        pathsThroughIn item source
          (fun k c => (call (orders.after km (i.val, k)) c).map Solution.mk) sink km.2 i)
      = ((p.pathSearch item source).level call orders sink).map Solution.mk := by
  simp only [GroupedSearch.level, pathSearch, List.map_flatMap, List.flatMap_assoc]
  refine List.flatMap_congr fun km _ => List.flatMap_congr fun i _ => ?_
  rw [pathsThroughIn_eq fun label => call (orders.after km label), List.map_flatMap]

/-- The search of the source is the one of the library. -/
theorem findPathsUpToIn_eq_search (n : ℕ) (orders : p.ModuleOrders) (sink : Node) :
    p.findPathsUpToIn item source n orders sink
      = ((p.pathSearch item source).search (n - 1) orders sink).map Solution.mk := by
  induction n generalizing orders sink with
  | zero => exact loopsIn_eq_level (fun _ _ => []) orders sink
  | succ n ih =>
    cases n with
    | zero => exact loopsIn_eq_level (fun _ _ => []) orders sink
    | succ n =>
      have hcalls : p.findPathsUpToIn item source (n + 1) = fun orders sink =>
          ((p.pathSearch item source).search n orders sink).map Solution.mk :=
        funext fun orders => funext fun sink => ih orders sink
      rw [findPathsUpToIn, hcalls]
      exact loopsIn_eq_level _ orders sink

/-! ## Which paths can be selected -/

/-- The path can be filled in. -/
def isValid (p : PlotterGenerator) (item : DataInfo) (application : FybrikApplication)
    (path : List ResolvedEdge) : Bool :=
  (p.validate item application ⟨path⟩).isSome

/-- The paths along which every module is entered by the first of its moves that leads to
a valid path. -/
def leadingPaths (p : PlotterGenerator) (item : DataInfo) (application : FybrikApplication) :
    List (List ResolvedEdge) :=
  (p.pathSearch item (sourceNode item)).leading (p.settings.dataPathMaxSize.toNat - 1)
    (p.isValid item application) (destinationNode item application)

/-- `FindPaths` returns the same solutions in all orders. -/
theorem mem_findPathsIn {orders : p.ModuleOrders} {s : Solution} :
    s ∈ p.findPathsIn item application orders ↔ s ∈ p.findPaths item application := by
  rw [← findPathsIn_fixed, findPathsIn, findPathsIn, validSolutions, validSolutions,
    List.mem_filterMap, List.mem_filterMap]
  refine exists_congr fun solution => and_congr_left fun _ => ?_
  obtain ⟨path⟩ := solution
  rw [findPathsUpToIn_eq_search, findPathsUpToIn_eq_search]
  simp only [List.mem_map, Solution.mk.injEq, exists_eq_right]
  exact GroupedSearch.mem_search_iff _ _

theorem head?_filterMap_eq_some_iff {α β : Type} {l : List α} {f : α → Option β} {b : β} :
    (l.filterMap f).head? = some b ↔
      ∃ a, l.find? (fun a => (f a).isSome) = some a ∧ f a = some b := by
  induction l with
  | nil => simp
  | cons a l ih =>
    rw [List.filterMap_cons, List.find?_cons]
    cases hf : f a with
    | none => exact ih
    | some b' => simp [hf]

/-- The selected path is the first valid one of the search, filled in. -/
theorem selectPathIn_eq_some_iff {orders : p.ModuleOrders} {path : List ResolvedEdge} :
    p.selectPathIn item application orders = some path ↔ ∃ found,
      ((p.pathSearch item (sourceNode item)).search (p.settings.dataPathMaxSize.toNat - 1) orders
        (destinationNode item application)).find? (p.isValid item application) = some found ∧
      p.validate item application ⟨found⟩ = some ⟨path⟩ := by
  have hhead : p.selectPathIn item application orders = some path ↔
      (p.findPathsIn item application orders).head? = some ⟨path⟩ := by
    rw [selectPathIn, Option.map_eq_some_iff]
    exact ⟨fun ⟨⟨_⟩, hs, heq⟩ => heq ▸ hs, fun hs => ⟨_, hs, rfl⟩⟩
  rw [hhead, findPathsIn, validSolutions, head?_filterMap_eq_some_iff, findPathsUpToIn_eq_search,
    List.find?_map]
  constructor
  · rintro ⟨s, hs, hvalid⟩
    obtain ⟨found, hfound, rfl⟩ := Option.map_eq_some_iff.1 hs
    exact ⟨found, hfound, hvalid⟩
  · rintro ⟨found, hfound, hvalid⟩
    exact ⟨_, Option.map_eq_some_iff.2 ⟨found, hfound, rfl⟩, hvalid⟩

theorem length_of_validate {found path : List ResolvedEdge}
    (h : p.validate item application ⟨found⟩ = some ⟨path⟩) : path.length = found.length := by
  have hlength := congrArg List.length (validate_edges h)
  rwa [List.length_map, List.length_map] at hlength

/-- When the selected path is a shortest one, whatever the orders in which the modules are
taken: exactly if the leading paths are.  Within a module the search prefers the first
capability, a direct path and the first interface; between modules it does not choose. -/
theorem selectPathIn_shortest_iff (p : PlotterGenerator) (item : DataInfo)
    (application : FybrikApplication) :
    (∀ (orders : p.ModuleOrders) (path : List ResolvedEdge),
      p.selectPathIn item application orders = some path →
        ∀ s ∈ p.findPathsIn item application orders, path.length ≤ s.dataPath.length) ↔
    ∀ path ∈ p.leadingPaths item application, ∀ s ∈ p.findPaths item application,
      path.length ≤ s.dataPath.length := by
  constructor
  · intro h path hpath s hs
    -- some orders make the search return this path first
    obtain ⟨orders, hfirst⟩ := GroupedSearch.exists_find?_iff.2 hpath
    have hsome : p.isValid item application path = true := List.find?_some hfirst
    obtain ⟨⟨filled⟩, hvalid⟩ := Option.isSome_iff_exists.1 hsome
    rw [← length_of_validate hvalid]
    exact h orders filled (selectPathIn_eq_some_iff.2 ⟨path, hfirst, hvalid⟩) s
      (mem_findPathsIn.2 hs)
  · intro h orders path hpath s hs
    obtain ⟨found, hfirst, hvalid⟩ := selectPathIn_eq_some_iff.1 hpath
    rw [length_of_validate hvalid]
    exact h found (GroupedSearch.exists_find?_iff.1 ⟨orders, hfirst⟩) s (mem_findPathsIn.1 hs)

/-- A mover with a server for what it copies, and a module that serves the original. -/
def detourGenerator : PlotterGenerator :=
  { copyGenerator with
    modules := GoMap.ofList (("table-server", readerModule "table-server" ⟨"db2", "table"⟩) ::
      copyGenerator.modules.pairs) }

/-- The table is copied and the copy is served, although it could be served itself. -/
theorem detour_not_shortest :
    ∃ info, detourGenerator.generateFlow shireApplication (arrowItem "xxx" ⟨"db2", "table"⟩)
        = .ok info ∧ info.flow.subFlows.length = 2 ∧
      (detourGenerator.selectPathIn (arrowItem "xxx" ⟨"db2", "table"⟩) shireApplication
        (Schedule.fixed detourGenerator.modules.pairs)).map List.length = some 2 ∧
      ∃ s ∈ detourGenerator.findPaths (arrowItem "xxx" ⟨"db2", "table"⟩) shireApplication,
        s.dataPath.length = 1 := by
  refine ⟨_, rfl, by decide, by decide, by decide⟩

end PlotterGenerator

end Fybrik
