import Fybrik.Lib.Tally
import Fybrik.Plotter.Controller

/-!
# The state of assets

While `reconcile` goes through the clusters of a plotter it collects the states of the
module instances into states of assets.  Two functions write to that map: one merges what
has been reported by a blueprint, the other overwrites.

* `AssetCall` — a call of one of them; `Contributes` says what it has to say about an
  asset.
* `applyCalls_ready_iff` — an asset is ready exactly if all contributions to it are, in
  whatever order they come.
* `clusterCall` — the call that is made for a cluster; `assets_reconcile` says that
  `reconcile` ends with the contributions of all clusters, unless it is left early.
* `reconcile_assetsReported_iff` — when an asset that is ready means that all its module
  instances are.
-/

namespace Fybrik

/-! ## Contributions -/

/-- A call by which the state of assets is collected. -/
inductive AssetCall where
  | update (blueprint : Blueprint)
  | setToFalse (blueprintSpec : BlueprintSpec) (errMsg : String)
  deriving DecidableEq

namespace AssetCall

/-- What the call does to the map of states. -/
def apply (assets : GoMap String ObservedState) : AssetCall → GoMap String ObservedState
  | update blueprint => updatePlotterAssetsState assets blueprint
  | setToFalse blueprintSpec errMsg =>
    setPlotterAssetsReadyStateToFalse assets blueprintSpec errMsg

/-- What the call has to say about an asset: that it is ready or not, once for every state
reported of an instance that processes it, or that it is not, once for every such instance
of the specification. -/
def Contributes (call : AssetCall) (assetID : String) (ready : Bool) : Prop :=
  match call with
  | update blueprint => ∃ instanceName moduleState,
      blueprint.status.modulesState.lookup instanceName = some moduleState ∧
      assetID ∈ (blueprint.spec.modules.get instanceName).assetIDs ∧ moduleState.ready = ready
  | setToFalse blueprintSpec _ => ∃ instanceName module,
      blueprintSpec.modules.lookup instanceName = some module ∧ assetID ∈ module.assetIDs ∧
      ready = false

/-- The contributions in the order in which the maps are walked. -/
def contributions : AssetCall → List (String × Bool)
  | update blueprint => blueprint.status.modulesState.pairs.flatMap fun im =>
      (blueprint.spec.modules.get im.1).assetIDs.flatMap fun assetID => [(assetID, im.2.ready)]
  | setToFalse blueprintSpec _ => blueprintSpec.modules.pairs.flatMap fun im =>
      im.2.assetIDs.flatMap fun assetID => [(assetID, false)]

theorem mem_contributions {call : AssetCall} {assetID : String} {ready : Bool} :
    (assetID, ready) ∈ call.contributions ↔ call.Contributes assetID ready := by
  cases call with
  | update blueprint =>
    simp only [contributions, Contributes, List.mem_flatMap, List.mem_singleton, Prod.mk.injEq,
      Prod.exists, GoMap.mem_pairs]
    constructor
    · rintro ⟨i, state, hstate, a, ha, rfl, rfl⟩
      exact ⟨i, state, hstate, ha, rfl⟩
    · rintro ⟨i, state, hstate, ha, rfl⟩
      exact ⟨i, state, hstate, assetID, ha, rfl, rfl⟩
  | setToFalse blueprintSpec errMsg =>
    simp only [contributions, Contributes, List.mem_flatMap, List.mem_singleton, Prod.mk.injEq,
      Prod.exists, GoMap.mem_pairs]
    constructor
    · rintro ⟨i, module, hmodule, a, ha, rfl, rfl⟩
      exact ⟨i, module, hmodule, ha, rfl⟩
    · rintro ⟨i, module, hmodule, ha, rfl⟩
      exact ⟨i, module, hmodule, assetID, ha, rfl, rfl⟩

end AssetCall

variable {contributions : List (String × Bool)} {assets : GoMap String ObservedState}

/-- One contribution of a module instance. -/
theorem tallies_contributeState (h : Tallies ObservedState.ready contributions assets)
    (moduleState : ObservedState) (assetID : String) :
    Tallies ObservedState.ready (contributions ++ [(assetID, moduleState.ready)])
      (contributeState moduleState assets assetID) := by
  unfold contributeState
  split
  · rename_i hnone
    exact h.start hnone
  · rename_i state hstate
    cases hready : moduleState.ready with
    | true => exact h.keep hstate
    | false => exact h.spoil rfl

/-- One call: its contributions are added to those so far. -/
theorem tallies_apply (h : Tallies ObservedState.ready contributions assets) (call : AssetCall) :
    Tallies ObservedState.ready (contributions ++ call.contributions) (call.apply assets) := by
  cases call with
  | update blueprint =>
    refine h.foldl (fun contributions assets im h => ?_) blueprint.status.modulesState.pairs
    exact h.foldl (fun _ _ assetID h => tallies_contributeState h im.2 assetID) _
  | setToFalse blueprintSpec errMsg =>
    refine h.foldl (fun contributions assets im h => ?_) blueprintSpec.modules.pairs
    exact h.foldl (fun _ _ assetID h => h.spoil rfl) _

theorem tallies_applyCalls (calls : List AssetCall) :
    Tallies ObservedState.ready (calls.flatMap AssetCall.contributions)
      (calls.foldl AssetCall.apply ∅) :=
  Tallies.empty.foldl (fun _ _ call h => tallies_apply h call) calls

/-- The map has exactly the assets something is contributed to. -/
theorem isSome_lookup_applyCalls (calls : List AssetCall) (assetID : String) :
    ((calls.foldl AssetCall.apply ∅).lookup assetID).isSome = true ↔
      ∃ call ∈ calls, ∃ ready, call.Contributes assetID ready := by
  rw [(tallies_applyCalls calls).isSome_iff]
  simp only [List.mem_flatMap, AssetCall.mem_contributions]
  constructor
  · rintro ⟨ready, call, hcall, h⟩
    exact ⟨call, hcall, ready, h⟩
  · rintro ⟨call, hcall, ready, h⟩
    exact ⟨ready, call, hcall, h⟩

theorem ready_of_lookup_applyCalls {calls : List AssetCall} {assetID : String}
    {state : ObservedState} (h : (calls.foldl AssetCall.apply ∅).lookup assetID = some state) :
    state.ready = true ↔
      ∀ call ∈ calls, ∀ ready, call.Contributes assetID ready → ready = true := by
  rw [(tallies_applyCalls calls).good_iff assetID state h]
  simp only [List.mem_flatMap, AssetCall.mem_contributions]
  constructor
  · intro hall call hcall ready hready
    exact hall ready ⟨call, hcall, hready⟩
  · rintro hall ready ⟨call, hcall, hready⟩
    exact hall call hcall ready hready

/-- After any calls, in any order and whatever the order in which they walk their maps, the
map has exactly the assets something is contributed to, and an asset is ready exactly if
every contribution to it says so. -/
theorem applyCalls_ready_iff (calls : List AssetCall) (assetID : String) :
    (((calls.foldl AssetCall.apply ∅).lookup assetID).isSome = true ↔
      ∃ call ∈ calls, ∃ ready, call.Contributes assetID ready) ∧
    ∀ state, (calls.foldl AssetCall.apply ∅).lookup assetID = some state →
      (state.ready = true ↔
        ∀ call ∈ calls, ∀ ready, call.Contributes assetID ready → ready = true) :=
  ⟨isSome_lookup_applyCalls calls assetID, fun _ h => ready_of_lookup_applyCalls h⟩

namespace PlotterReconciler

/-! ## The calls of a reconcile -/

/-- The call that is made for a cluster, unless its blueprint cannot be fetched. -/
def clusterCall (r : PlotterReconciler) (plotter : PlotterResource)
    (desired : String × BlueprintSpec) : Option AssetCall :=
  match plotter.blueprints.lookup desired.1 with
  | none =>
    match r.clusterManager.createBlueprint desired.1 (newBlueprint plotter desired.2) with
    | some err => some (.setToFalse desired.2 err)
    | none => some (.setToFalse desired.2 "Blueprint just created")
  | some blueprint =>
    match r.clusterManager.getBlueprint desired.1 blueprint.key with
    | .error _ => none
    | .ok none => some (.setToFalse desired.2 "Could not yet find remote blueprint")
    | .ok (some remote) =>
      if desired.2 ≠ remote.spec ∧ plotter.generation ≠ plotter.observedGeneration then
        match r.clusterManager.updateBlueprint desired.1
            { remote with spec := desired.2, annotations := ∅ } with
        | some err => some (.setToFalse desired.2 err)
        | none => some (.setToFalse desired.2 "Blueprint changes just applied")
      else some (.update remote)

section

variable {r : PlotterReconciler} {plotter : PlotterResource} {desired : String × BlueprintSpec}
  {st st' : Rollout}

theorem assets_createRemote (hlookup : plotter.blueprints.lookup desired.1 = none) :
    ∃ call, r.clusterCall plotter desired = some call ∧
      (r.createRemote plotter st desired.1 desired.2).assets = call.apply st.assets := by
  unfold clusterCall createRemote
  rw [hlookup]
  cases r.clusterManager.createBlueprint desired.1 (newBlueprint plotter desired.2) with
  | some err => exact ⟨_, rfl, rfl⟩
  | none => exact ⟨_, rfl, rfl⟩

theorem assets_reconcileRemote {blueprint : MetaBlueprint} {remote : Blueprint}
    (hlookup : plotter.blueprints.lookup desired.1 = some blueprint)
    (hget : r.clusterManager.getBlueprint desired.1 blueprint.key = .ok (some remote)) :
    ∃ call, r.clusterCall plotter desired = some call ∧
      (r.reconcileRemote plotter st desired.1 desired.2 remote).assets = call.apply st.assets := by
  unfold clusterCall reconcileRemote
  rw [hlookup]
  simp only [hget]
  by_cases hspec : desired.2 = remote.spec
  · rw [if_neg (not_not.2 hspec), if_neg fun h => h.1 hspec]
    exact ⟨_, rfl, rfl⟩
  · rw [if_pos hspec]
    by_cases hgeneration : plotter.generation = plotter.observedGeneration
    · rw [if_neg (not_not.2 hgeneration), if_neg fun h => h.2 hgeneration]
      exact ⟨_, rfl, rfl⟩
    · rw [if_pos hgeneration, if_pos ⟨hspec, hgeneration⟩]
      cases r.clusterManager.updateBlueprint desired.1
          { remote with spec := desired.2, annotations := ∅ } with
      | some err => exact ⟨_, rfl, rfl⟩
      | none => exact ⟨_, rfl, rfl⟩

/-- One round of the loop over the clusters makes one call. -/
theorem assets_reconcileCluster
    (hfresh : st.blueprints.lookup desired.1 = plotter.blueprints.lookup desired.1)
    (h : r.reconcileCluster plotter st desired = .ok st') :
    ∃ call, r.clusterCall plotter desired = some call ∧ st'.assets = call.apply st.assets := by
  cases hlookup : plotter.blueprints.lookup desired.1 with
  | none =>
    rw [reconcileCluster_unrecorded (hfresh.trans hlookup)] at h
    cases h
    exact assets_createRemote hlookup
  | some blueprint =>
    cases hget : r.clusterManager.getBlueprint desired.1 blueprint.key with
    | error err =>
      rw [reconcileCluster_error (hfresh.trans hlookup) hget] at h
      cases h
    | ok found =>
      cases found with
      | none =>
        rw [reconcileCluster_missing (hfresh.trans hlookup) hget] at h
        cases h
        refine ⟨.setToFalse desired.2 "Could not yet find remote blueprint", ?_, rfl⟩
        simp only [clusterCall, hlookup, hget]
      | some remote =>
        rw [reconcileCluster_fetched (hfresh.trans hlookup) hget] at h
        cases h
        exact assets_reconcileRemote hlookup hget

/-- The state of assets after a reconcile: as before if a blueprint could not be fetched,
and otherwise what the calls for all clusters contribute. -/
theorem assets_reconcile {s s' : PlotterSite} {blueprintsMap : GoMap String BlueprintSpec}
    {errors : List String} (hmap : r.desiredBlueprints s.plotter = some blueprintsMap)
    (h : r.reconcile s = some (s', errors)) :
    ((∃ d ∈ blueprintsMap.pairs, r.FetchFails s.plotter d) ∧
      s'.plotter.assets = s.plotter.assets) ∨
    ((∀ d ∈ blueprintsMap.pairs, ¬ r.FetchFails s.plotter d) ∧ s'.plotter.assets =
      (blueprintsMap.pairs.filterMap (r.clusterCall s.plotter)).foldl AssetCall.apply ∅) := by
  have hround : ∀ walked st d st', st.blueprints.lookup d.1 = s.plotter.blueprints.lookup d.1 →
      st.assets = (walked.filterMap (r.clusterCall s.plotter)).foldl AssetCall.apply ∅ →
      r.reconcileCluster s.plotter st d = .ok st' →
      st'.assets = ((walked ++ [d]).filterMap (r.clusterCall s.plotter)).foldl
        AssetCall.apply ∅ := by
    intro walked st d st' hfresh hst hok
    obtain ⟨call, hcall, hassets⟩ := assets_reconcileCluster hfresh hok
    rw [hassets, hst, List.filterMap_append, List.foldl_append]
    simp [hcall]
  rcases reconcile_cases (P := fun walked st => st.assets =
      (walked.filterMap (r.clusterCall s.plotter)).foldl AssetCall.apply ∅) hround rfl hmap h
    with ⟨hfails, st, rfl⟩ | ⟨hfetched, st, hst, rfl⟩
  · exact Or.inl ⟨hfails, rfl⟩
  · refine Or.inr ⟨hfetched, ?_⟩
    change (st.blueprints.pairs.foldl (r.tidyUp blueprintsMap) st).assets = _
    rw [frame_tidyUp Rollout.assets fun _ _ _ _ => rfl, hst]

end

/-! ## What a ready asset means -/

section Reported

variable (r : PlotterReconciler) (plotter : PlotterResource)

/-- What the blueprint found in a cluster is, if one is recorded there and found. -/
def Fetched (cluster : String) (remote : Blueprint) : Prop :=
  ∃ blueprint, plotter.blueprints.lookup cluster = some blueprint ∧
    r.clusterManager.getBlueprint cluster blueprint.key = .ok (some remote)

/-- The blueprint of the cluster reports that the module instance is ready. -/
def ModuleReady (cluster instanceName : String) : Prop :=
  ∃ remote state, r.Fetched plotter cluster remote ∧
    remote.status.modulesState.lookup instanceName = some state ∧ state.ready = true

/-- Every module instance of a desired blueprint that processes the asset is reported to be
ready. -/
def AssetReported (blueprintsMap : GoMap String BlueprintSpec) (assetID : String) : Prop :=
  ∀ d ∈ blueprintsMap.pairs, ∀ instanceName module,
    d.2.modules.lookup instanceName = some module → assetID ∈ module.assetIDs →
    r.ModuleReady plotter d.1 instanceName

/-- The round of a cluster contributes to an asset. -/
def ClusterContributes (desired : String × BlueprintSpec) (assetID : String) (ready : Bool) :
    Prop :=
  ∃ call, r.clusterCall plotter desired = some call ∧ call.Contributes assetID ready

/-- The blueprint found in a cluster has no state of the module instance, or the instance
does not process the asset there. -/
def LeftOut (cluster instanceName assetID : String) : Prop :=
  ∃ remote, r.Fetched plotter cluster remote ∧
    (remote.status.modulesState.lookup instanceName = none ∨
      assetID ∉ (remote.spec.modules.get instanceName).assetIDs)

/-- What must not happen for the state of an asset to mean anything: that a blueprint cannot
be fetched while an asset still has the state ready, and that all that is contributed to an
asset is that it is ready, while an instance that is not reported to be ready is left out. -/
structure AssetsCovered (blueprintsMap : GoMap String BlueprintSpec) : Prop where
  fetched : (∃ d ∈ blueprintsMap.pairs, r.FetchFails plotter d) →
    ∀ assetID state, plotter.assets.lookup assetID = some state → state.ready = true →
      r.AssetReported plotter blueprintsMap assetID
  reported : (∀ d ∈ blueprintsMap.pairs, ¬ r.FetchFails plotter d) →
    ∀ d ∈ blueprintsMap.pairs, ∀ instanceName module assetID,
      d.2.modules.lookup instanceName = some module → assetID ∈ module.assetIDs →
      r.LeftOut plotter d.1 instanceName assetID → ¬ r.ModuleReady plotter d.1 instanceName →
      (∀ d' ∈ blueprintsMap.pairs, ¬ r.ClusterContributes plotter d' assetID true) ∨
        ∃ d' ∈ blueprintsMap.pairs, r.ClusterContributes plotter d' assetID false

variable {r plotter}

/-- What is collected from all clusters: an asset is ready if some cluster says so and none
says that it is not. -/
theorem ready_calls_iff (l : List (String × BlueprintSpec)) (assetID : String) :
    (∃ state, ((l.filterMap (r.clusterCall plotter)).foldl AssetCall.apply ∅).lookup assetID
        = some state ∧ state.ready = true) ↔
      (∃ d ∈ l, r.ClusterContributes plotter d assetID true) ∧
        ∀ d ∈ l, ¬ r.ClusterContributes plotter d assetID false := by
  have hcalls : ∀ ready,
      (∃ call ∈ l.filterMap (r.clusterCall plotter), call.Contributes assetID ready) ↔
        ∃ d ∈ l, r.ClusterContributes plotter d assetID ready := by
    intro ready
    simp only [List.mem_filterMap, ClusterContributes]
    constructor
    · rintro ⟨call, ⟨d, hd, hcall⟩, h⟩
      exact ⟨d, hd, call, hcall, h⟩
    · rintro ⟨d, hd, call, hcall, h⟩
      exact ⟨call, ⟨d, hd, hcall⟩, h⟩
  constructor
  · rintro ⟨state, hlookup, hready⟩
    have hall := (ready_of_lookup_applyCalls hlookup).1 hready
    obtain ⟨call, hcall, ready, h⟩ :=
      (isSome_lookup_applyCalls _ assetID).1 (Option.isSome_iff_exists.2 ⟨state, hlookup⟩)
    refine ⟨(hcalls true).1 ⟨call, hcall, hall call hcall ready h ▸ h⟩, fun d hd hfalse => ?_⟩
    obtain ⟨call, hcall, h⟩ := (hcalls false).2 ⟨d, hd, hfalse⟩
    exact absurd (hall call hcall false h) Bool.false_ne_true
  · rintro ⟨htrue, hfalse⟩
    obtain ⟨call, hcall, h⟩ := (hcalls true).2 htrue
    obtain ⟨state, hlookup⟩ := Option.isSome_iff_exists.1
      ((isSome_lookup_applyCalls _ assetID).2 ⟨call, hcall, true, h⟩)
    refine ⟨state, hlookup, (ready_of_lookup_applyCalls hlookup).2 fun call hcall ready h => ?_⟩
    cases ready with
    | true => rfl
    | false =>
      obtain ⟨d, hd, hcontributes⟩ := (hcalls false).1 ⟨call, hcall, h⟩
      exact absurd hcontributes (hfalse d hd)

/-- If the round of a cluster does not contribute that an asset is not ready, then an instance
that processes the asset is reported to be ready or left out. -/
theorem moduleReady_or_leftOut {d : String × BlueprintSpec} {instanceName assetID : String}
    {module : BlueprintModule} (hfetch : ¬ r.FetchFails plotter d)
    (hmodule : d.2.modules.lookup instanceName = some module) (hasset : assetID ∈ module.assetIDs)
    (hnot : ¬ r.ClusterContributes plotter d assetID false) :
    r.ModuleReady plotter d.1 instanceName ∨ r.LeftOut plotter d.1 instanceName assetID := by
  -- the round does not set the assets of the specification to not ready
  have hset : ∀ errMsg, r.clusterCall plotter d ≠ some (.setToFalse d.2 errMsg) :=
    fun errMsg hcall => hnot ⟨_, hcall, instanceName, module, hmodule, hasset, rfl⟩
  cases hlookup : plotter.blueprints.lookup d.1 with
  | none =>
    exfalso
    simp only [clusterCall, hlookup] at hset
    split at hset
    · exact hset _ rfl
    · exact hset _ rfl
  | some blueprint =>
    cases hget : r.clusterManager.getBlueprint d.1 blueprint.key with
    | error err => exact absurd ⟨blueprint, err, hlookup, hget⟩ hfetch
    | ok found =>
      cases found with
      | none =>
        exfalso
        simp only [clusterCall, hlookup, hget] at hset
        exact hset _ rfl
      | some remote =>
        have hcall : r.clusterCall plotter d = some (.update remote) := by
          simp only [clusterCall, hlookup, hget] at hset ⊢
          split
          · rename_i hdiffers
            rw [if_pos hdiffers] at hset
            exfalso
            split at hset
            · exact hset _ rfl
            · exact hset _ rfl
          · rfl
        by_cases hprocesses : assetID ∈ (remote.spec.modules.get instanceName).assetIDs
        · cases hstate : remote.status.modulesState.lookup instanceName with
          | none => exact Or.inr ⟨remote, ⟨blueprint, hlookup, hget⟩, Or.inl hstate⟩
          | some state =>
            refine Or.inl ⟨remote, state, ⟨blueprint, hlookup, hget⟩, hstate, ?_⟩
            by_contra hnotReady
            exact hnot ⟨_, hcall, instanceName, state, hstate, hprocesses,
              (Bool.not_eq_true _).mp hnotReady⟩
        · exact Or.inr ⟨remote, ⟨blueprint, hlookup, hget⟩, Or.inr hprocesses⟩

end Reported

/-- When an asset that is ready after a reconcile means that every module instance of a
desired blueprint that processes it is reported to be ready. -/
theorem reconcile_assetsReported_iff (r : PlotterReconciler) (s s' : PlotterSite)
    (blueprintsMap : GoMap String BlueprintSpec) (errors : List String)
    (hmap : r.desiredBlueprints s.plotter = some blueprintsMap)
    (h : r.reconcile s = some (s', errors)) :
    (∀ assetID state, s'.plotter.assets.lookup assetID = some state → state.ready = true →
      r.AssetReported s.plotter blueprintsMap assetID) ↔
      r.AssetsCovered s.plotter blueprintsMap := by
  rcases assets_reconcile hmap h with ⟨hfails, hassets⟩ | ⟨hfetched, hassets⟩
  · rw [hassets]
    constructor
    · intro hall
      refine ⟨fun _ => hall, fun hnone => ?_⟩
      obtain ⟨d, hd, hfails⟩ := hfails
      exact absurd hfails (hnone d hd)
    · intro hcovered
      exact hcovered.fetched hfails
  · rw [hassets]
    have hready := @ready_calls_iff r s.plotter blueprintsMap.pairs
    constructor
    · intro hall
      refine ⟨fun hfails => ?_, fun _ d hd i module assetID hmodule hasset _ hnot => ?_⟩
      · obtain ⟨d, hd, hfails⟩ := hfails
        exact absurd hfails (hfetched d hd)
      · by_contra hcontributes
        simp only [not_or, not_forall, not_not, not_exists, not_and] at hcontributes
        obtain ⟨⟨d', hd', htrue⟩, hfalse⟩ := hcontributes
        obtain ⟨state, hlookup, hstate⟩ := (hready assetID).2 ⟨⟨d', hd', htrue⟩, hfalse⟩
        exact hnot (hall assetID state hlookup hstate d hd i module hmodule hasset)
    · intro hcovered assetID state hlookup hstate d hd i module hmodule hasset
      obtain ⟨⟨d', hd', htrue⟩, hfalse⟩ := (hready assetID).1 ⟨state, hlookup, hstate⟩
      rcases moduleReady_or_leftOut (hfetched d hd) hmodule hasset (hfalse d hd) with hok | hleft
      · exact hok
      · by_contra hnot
        rcases hcovered.reported hfetched d hd i module assetID hmodule hasset hleft hnot with
          hnone | ⟨d'', hd'', hbad⟩
        · exact hnone d' hd' htrue
        · exact hfalse d'' hd'' hbad

/-- A plotter whose asset is processed by a reader and a masker. -/
def maskedPlotter : PlotterResource :=
  { readerPlotter with
    spec := { readerPlotter.spec with
      templates := GoMap.ofList [("read", ⟨"read",
        [⟨"reader", "service", default, .workload⟩, ⟨"masker", "service", default, .workload⟩]⟩)] } }

/-- A module instance of this plotter. -/
def maskedInstance (moduleName : String) : ModuleInstanceSpec :=
  { chart := default, args := commonArguments maskedPlotter.toPlotter, assetIDs := ["xxx"]
    clusterName := "hobbiton", moduleName := moduleName, scope := .workload
    assetIDs_ne_nil := readAssets_ne_nil }

/-- The blueprint it asks for. -/
def maskedBlueprintSpec : BlueprintSpec :=
  generateBlueprint default [maskedInstance "masker", maskedInstance "reader"] "hobbiton"
    maskedPlotter.toPlotter

/-- That blueprint with the states of some instances. -/
def maskedBlueprint (modulesState : List (String × ObservedState)) : Blueprint :=
  { newBlueprint maskedPlotter maskedBlueprintSpec with
    generation := 1
    status := { (default : BlueprintStatus) with modulesState := GoMap.ofList modulesState } }

/-- The plotter with the blueprint recorded and the states of some assets. -/
def maskedSite (blueprint : Blueprint) (assets : List (String × ObservedState)) : PlotterSite :=
  { plotter := { maskedPlotter with
      observedGeneration := 1
      assets := GoMap.ofList assets
      blueprints := GoMap.ofList [("hobbiton", createMetaBlueprint blueprint)] }
    remotes := ∅ }

/-- Both instances have been reported to be ready. -/
def bothReported : Blueprint :=
  maskedBlueprint [("masker", ⟨true, ""⟩), ("reader", ⟨true, ""⟩)]

/-- The masker has not been reported yet. -/
def readerReported : Blueprint := maskedBlueprint [("reader", ⟨true, ""⟩)]

/-- The asset is ready once both of its instances are. -/
theorem bothReported_assetsReported :
    ((plotterReconciler (clustersWith bothReported)).desiredBlueprints
        (maskedSite bothReported []).plotter
          = some (GoMap.ofList [("hobbiton", maskedBlueprintSpec)]) ∧
      (plotterReconciler (clustersWith bothReported)).reconcile (maskedSite bothReported [])
        = some (maskedSite bothReported [("xxx", ⟨true, ""⟩)], [])) ∧
    (plotterReconciler (clustersWith bothReported)).AssetsCovered
      (maskedSite bothReported []).plotter (GoMap.ofList [("hobbiton", maskedBlueprintSpec)]) := by
  have hmap : (plotterReconciler (clustersWith bothReported)).desiredBlueprints
      (maskedSite bothReported []).plotter
        = some (GoMap.ofList [("hobbiton", maskedBlueprintSpec)]) := by
    decide +kernel
  have hreconcile : (plotterReconciler (clustersWith bothReported)).reconcile
      (maskedSite bothReported [])
        = some (maskedSite bothReported [("xxx", ⟨true, ""⟩)], []) := by
    decide +kernel
  refine ⟨⟨hmap, hreconcile⟩, (reconcile_assetsReported_iff _ _ _ _ _ hmap hreconcile).1 ?_⟩
  intro assetID state hlookup hready d hd instanceName module hmodule hasset
  have hstates : ∀ im ∈ maskedBlueprintSpec.modules.pairs,
      bothReported.status.modulesState.lookup im.1 = some ⟨true, ""⟩ := by decide +kernel
  obtain rfl := List.mem_singleton.1 hd
  exact ⟨bothReported, ⟨true, ""⟩, ⟨createMetaBlueprint bothReported, by decide +kernel, rfl⟩,
    hstates _ (GoMap.mem_pairs.2 hmodule), rfl⟩

/-- The asset is ready before anything is known of the masker. -/
theorem readerReported_not_assetsReported :
    (plotterReconciler (clustersWith readerReported)).desiredBlueprints
        (maskedSite readerReported []).plotter
          = some (GoMap.ofList [("hobbiton", maskedBlueprintSpec)]) ∧
    (plotterReconciler (clustersWith readerReported)).reconcile (maskedSite readerReported [])
        = some (maskedSite readerReported [("xxx", ⟨true, ""⟩)], []) ∧
    (maskedSite readerReported [("xxx", ⟨true, ""⟩)]).plotter.assets.lookup "xxx"
        = some ⟨true, ""⟩ ∧
    ¬ (plotterReconciler (clustersWith readerReported)).AssetReported
        (maskedSite readerReported []).plotter
        (GoMap.ofList [("hobbiton", maskedBlueprintSpec)]) "xxx" := by
  refine ⟨by decide +kernel, by decide +kernel, by decide, fun hreported => ?_⟩
  obtain ⟨remote, state, ⟨blueprint, -, hget⟩, hstate, -⟩ :=
    hreported ("hobbiton", maskedBlueprintSpec) (by decide +kernel) "masker"
      (maskedInstance "masker").blueprintModule (by decide +kernel) (by decide +kernel)
  obtain rfl := Option.some.inj (Except.ok.inj hget)
  have hnone : readerReported.status.modulesState.lookup "masker" = none := by decide
  cases hnone.symm.trans hstate

end PlotterReconciler

end Fybrik
