import Fybrik.Plotter.Runs

/-!
# Plotters settle

What a call of the controller of plotters achieves if all the calls it makes succeed: the
blueprints are put in place, and once they are ready, so is the plotter.

* `Succeeds` — every call made during a reconcile succeeds, and the answers are true.
* `Asks` — the plotter is in order and asks for certain blueprints.
* `RolledOut` — the blueprints a plotter asks for are recorded and in the clusters.
* `rolledOut_reconcileRequest` — a successful call puts them there, and afterwards the
  blueprints are left alone (`RolledOut.lookup_reconcileRequest`).
* `RolledOut.ready_reconcileRequest` — a plotter whose blueprints are ready becomes ready.
-/

namespace Fybrik

namespace PlotterReconciler

variable {r : PlotterReconciler} {s s' : PlotterSite} {d : String × BlueprintSpec}
  {blueprintsMap : GoMap String BlueprintSpec} {errors : List String} {err : Option String}
  {sha : Sha512} {clusters : List Cluster}

/-- Every call made during a reconcile succeeds, and the answers are true. -/
structure Succeeds (r : PlotterReconciler) (sha : Sha512) (clusters : List Cluster)
    (s : PlotterSite) : Prop where
  faithful : r.Faithful sha clusters s.remotes
  calls : r.CallsSucceed clusters s
  updateStatus : r.updateStatus = none

/-- The plotter is in order and asks for certain blueprints.  None of those that have its
name is being deleted. -/
structure Asks (sha : Sha512) (clusters : List Cluster) (blueprintsMap : GoMap String BlueprintSpec)
    (s : PlotterSite) : Prop where
  kept : WellKept s
  delivered : Delivered sha clusters s
  wanted : getBlueprintsMap sha clusters s.plotter.toPlotter = some blueprintsMap
  alive : ∀ cluster remote, s.remotes.lookup (cluster, s.plotter.key) = some remote →
    remote.beingDeleted = false

/-- The blueprints a plotter asks for are recorded and in the clusters. -/
structure RolledOut (blueprintsMap : GoMap String BlueprintSpec) (s : PlotterSite) : Prop where
  observed : s.plotter.observedGeneration = s.plotter.generation
  recorded : ∀ d ∈ blueprintsMap.pairs, (s.plotter.blueprints.lookup d.1).isSome = true
  converged : Converged s.plotter blueprintsMap s.remotes

/-- The plotter stays in order if its blueprints only change in what their own controllers
write. -/
theorem Asks.of_remotes (hasks : Asks sha clusters blueprintsMap s) {remotes : Remotes}
    (h : ∀ k remote, remotes.lookup k = some remote → ∃ before, s.remotes.lookup k = some before ∧
      remote.key = before.key ∧ remote.spec = before.spec ∧
        remote.beingDeleted = before.beingDeleted) :
    Asks sha clusters blueprintsMap { s with remotes := remotes } := by
  refine ⟨⟨hasks.kept.notDeleted, hasks.kept.observed, fun k remote hremote => ?_,
    hasks.kept.keyed⟩, ?_, hasks.wanted, fun cluster remote hremote => ?_⟩
  · obtain ⟨before, hbefore, hkey, -⟩ := h k remote hremote
    exact hkey.trans (hasks.kept.named k before hbefore)
  · intro hobserved m hwanted d hd hrecord remote hremote
    obtain ⟨before, hbefore, -, hspec, -⟩ := h _ remote hremote
    exact hspec.trans (hasks.delivered hobserved m hwanted d hd hrecord before hbefore)
  · obtain ⟨before, hbefore, -, -, halive⟩ := h _ remote hremote
    exact halive.trans (hasks.alive cluster before hbefore)

/-! ## The rounds of a reconcile -/

theorem CallsSucceed.not_fetchFails (h : r.CallsSucceed clusters s) (d : String × BlueprintSpec) :
    ¬ r.FetchFails s.plotter d := by
  rintro ⟨blueprint, err, hrecord, herr⟩
  obtain ⟨remote, hremote⟩ := h.getBlueprint _ _ hrecord
  cases herr.symm.trans hremote

theorem CallsSucceed.specsDelivered (h : r.CallsSucceed clusters s) :
    r.SpecsDelivered clusters s := by
  refine ⟨h.getClusters, fun _ blueprintsMap _ _ d _ blueprint hrecord => ?_⟩
  obtain ⟨remote, hremote⟩ := h.getBlueprint _ _ hrecord
  exact ⟨remote, hremote, fun _ => h.updateBlueprint _ _⟩

section Rounds

variable (hasks : Asks sha clusters blueprintsMap s) (hsucceeds : r.Succeeds sha clusters s)
include hasks hsucceeds

/-- After its round, the blueprint of a cluster is recorded. -/
theorem Asks.recorded_of_handled {v : ClusterView} (h : r.Handled s d v)
    (hd : d ∈ blueprintsMap.pairs) : v.record.isSome = true := by
  have hsome : ∀ {key}, v.record.map MetaBlueprint.key = some key → v.record.isSome = true := by
    intro key hkey
    obtain ⟨blueprint, hrecord, -⟩ := Option.map_eq_some_iff.1 hkey
    rw [hrecord]
    rfl
  cases h with
  | created _ _ hkey => exact hsome hkey
  | notCreated hfails =>
    have hnone := hfails.2
    rw [hsucceeds.calls.createBlueprint] at hnone
    cases hnone
  | missing hrecord hget =>
    obtain ⟨remote, hremote⟩ := hsucceeds.calls.getBlueprint _ _ hrecord
    cases hget.symm.trans hremote
  | inPlace _ _ _ hkey => exact hsome hkey
  | updated _ _ _ hkey => exact hsome hkey
  | refused _ _ _ _ hfails => exact absurd (hsucceeds.calls.updateBlueprint _ _) hfails
  | outOfStep hrecord hget hspec heq =>
    obtain ⟨hlookup, -⟩ := lookup_of_fetched hasks.kept hsucceeds.faithful hrecord hget
    have hdelivered := hasks.delivered heq.symm blueprintsMap hasks.wanted d hd
      (by rw [hrecord]; rfl) _ hlookup
    exact absurd hdelivered hspec

/-- What a reconcile leaves behind if no call fails. -/
theorem Asks.reconcile_rounds (h : r.reconcile s = some (s', errors)) :
    s'.plotter.observedGeneration = s.plotter.generation ∧
      ∀ d ∈ blueprintsMap.pairs, r.Handled s d (s'.view d.1) := by
  have hdesired := desiredBlueprints_of_known hsucceeds.faithful.sha512 hsucceeds.calls.getClusters
    s.plotter
  rcases PlotterReconciler.reconcile_rounds (hdesired.trans hasks.wanted) h with
    ⟨⟨d, -, hfails⟩, -⟩ | hrounds
  · exact absurd hfails (hsucceeds.calls.not_fetchFails d)
  · exact hrounds

theorem Asks.rolledOut_reconcile (h : r.reconcile s = some (s', errors)) :
    RolledOut blueprintsMap s' := by
  obtain ⟨hobserved, hrounds⟩ := hasks.reconcile_rounds hsucceeds h
  have hconverged := hasks.delivered.converges hasks.kept hsucceeds.faithful hsucceeds.calls
    hasks.wanted h
  obtain ⟨_, _, _, _, hplotter⟩ := plotter_reconcile h
  refine ⟨hobserved.trans (by rw [hplotter]), fun d hd => ?_, fun d hd => ?_⟩
  · exact hasks.recorded_of_handled hsucceeds (hrounds d hd) hd
  · rw [key_reconcile h]
    exact hconverged d hd

/-- Blueprints that are in place are left alone. -/
theorem RolledOut.remote_of_handled (hrolled : RolledOut blueprintsMap s) {v : ClusterView}
    (h : r.Handled s d v) (hd : d ∈ blueprintsMap.pairs) : v.remote = (s.view d.1).remote := by
  have hrecorded := hrolled.recorded d hd
  obtain ⟨remote, hremote, hspec⟩ := hrolled.converged d hd
  have hsame : ∀ {blueprint found}, s.plotter.blueprints.lookup d.1 = some blueprint →
      r.clusterManager.getBlueprint d.1 blueprint.key = .ok (some found) → found.spec = d.2 := by
    intro blueprint found hrecord hget
    obtain ⟨hlookup, -⟩ := lookup_of_fetched hasks.kept hsucceeds.faithful hrecord hget
    rw [← Option.some.inj (hremote.symm.trans hlookup)]
    exact hspec
  cases h with
  | created hnone =>
    rw [hnone] at hrecorded
    cases hrecorded
  | notCreated hfails =>
    rw [hfails.1] at hrecorded
    cases hrecorded
  | missing _ _ hv => rw [hv]
  | inPlace _ _ _ _ hkept => exact hkept
  | updated hrecord hget hdiffers => exact absurd (hsame hrecord hget) hdiffers
  | refused hrecord hget hdiffers => exact absurd (hsame hrecord hget) hdiffers
  | outOfStep hrecord hget hdiffers => exact absurd (hsame hrecord hget) hdiffers

end Rounds

/-! ## The state of the plotter -/

variable (r) in
/-- The blueprint of a cluster is fetched and reports no error. -/
def ReportsNoError (plotter : PlotterResource) (desired : String × BlueprintSpec) : Prop :=
  ∀ blueprint remote, plotter.blueprints.lookup desired.1 = some blueprint →
    r.clusterManager.getBlueprint desired.1 blueprint.key = .ok (some remote) →
      remote.status.observedState.error = ""

theorem error_reconcileCluster {plotter : PlotterResource} {st st' : Rollout}
    (hfresh : st.blueprints.lookup d.1 = plotter.blueprints.lookup d.1)
    (hnone : r.ReportsNoError plotter d) (h : r.reconcileCluster plotter st d = .ok st') :
    st'.error = st.error := by
  unfold reconcileCluster at h
  split at h
  · cases h
    unfold createRemote
    split <;> rfl
  · rename_i blueprint hrecord
    split at h
    · cases h
    · cases h
      rfl
    · rename_i remote hget
      cases h
      have herror := hnone blueprint remote (hfresh.symm.trans hrecord) hget
      unfold reconcileRemote
      dsimp only
      split
      · split
        · split <;> rfl
        · rfl
      · simp only [herror, ne_eq, not_true_eq_false, if_false]

/-- If all blueprints are ready and there are no errors, neither the plotter has one. -/
theorem observedState_reconcile (hmap : r.desiredBlueprints s.plotter = some blueprintsMap)
    (hready : ∀ d ∈ blueprintsMap.pairs, r.ReportedReady s.plotter d)
    (herrors : ∀ d ∈ blueprintsMap.pairs, r.ReportsNoError s.plotter d)
    (h : r.reconcile s = some (s', errors)) : s'.plotter.observedState = ⟨true, ""⟩ := by
  have hround : ∀ walked st d st', st.blueprints.lookup d.1 = s.plotter.blueprints.lookup d.1 →
      ((∀ d' ∈ walked, r.ReportsNoError s.plotter d') → st.error = "") →
      r.reconcileCluster s.plotter st d = .ok st' →
      (∀ d' ∈ walked ++ [d], r.ReportsNoError s.plotter d') → st'.error = "" := by
    intro walked st d st' hfresh hst hok hall
    rw [List.forall_mem_append, List.forall_mem_singleton] at hall
    exact (error_reconcileCluster hfresh hall.2 hok).trans (hst hall.1)
  have hisReady : s'.plotter.observedState.ready = true := by
    rcases ready_reconcile hmap h with ⟨⟨d, hd, hfails⟩, -⟩ | ⟨-, hiff⟩
    · exact absurd (hready d hd) hfails.not_reportedReady
    · exact hiff.2 fun d hd => Or.inl (hready d hd)
  rcases reconcile_cases (P := fun walked st =>
      (∀ d' ∈ walked, r.ReportsNoError s.plotter d') → st.error = "") hround (fun _ => rfl) hmap h
    with ⟨⟨d, hd, hfails⟩, -⟩ | ⟨-, st, herror, rfl⟩
  · exact absurd (hready d hd) hfails.not_reportedReady
  · have hfinal : (st.blueprints.pairs.foldl (r.tidyUp blueprintsMap) st).isReady = true := hisReady
    simp only [complete, finalError, hfinal, herror herrors,
      frame_tidyUp Rollout.error fun _ _ _ _ => rfl]
    rfl

/-! ## Calls of the controller -/

/-- If all calls succeed, a call of the controller ends with what `reconcile` leaves
behind. -/
theorem Asks.exists_reconcile (hasks : Asks sha clusters blueprintsMap s)
    (hsucceeds : r.Succeeds sha clusters s) (h : r.reconcileRequest s = some (s', err)) :
    ∃ finalizers errors, r.reconcile (s.withFinalizers finalizers) = some (s', errors) := by
  obtain ⟨finalizers, ferr, heq, hferr⟩ := reconcileFinalizers_eq r hasks.kept.notDeleted
  have hnotDeleted : ¬ (s.withFinalizers finalizers).plotter.beingDeleted = true := by
    change ¬ s.plotter.beingDeleted = true
    rw [hasks.kept.notDeleted]
    exact Bool.false_ne_true
  unfold reconcileRequest at h
  rw [heq, hferr hsucceeds.calls.updateFinalizers] at h
  simp only [if_neg hnotDeleted] at h
  cases hres : r.reconcile (s.withFinalizers finalizers) with
  | none =>
    rw [hres] at h
    cases h
  | some res =>
    refine ⟨finalizers, res.2, ?_⟩
    simp only [hres, hsucceeds.updateStatus] at h
    rw [← (Prod.mk.inj (Option.some.inj h)).1]
    exact hres

/-- None of the blueprints of the plotter is deleted by a reconcile that does not remove
it. -/
theorem alive_of_moves {plotter : PlotterResource} {c c' : GoMap String MetaBlueprint × Remotes}
    (hmoves : Relation.ReflTransGen (r.Move plotter) c c') {key : NamespacedName}
    (h : ∀ cluster remote, c.2.lookup (cluster, key) = some remote → remote.beingDeleted = false) :
    ∀ cluster remote, c'.2.lookup (cluster, key) = some remote → remote.beingDeleted = false := by
  have hput : ∀ {remotes : Remotes} (cluster' : String) (blueprint : Blueprint),
      (∀ cluster remote, remotes.lookup (cluster, key) = some remote →
        remote.beingDeleted = false) →
      ∀ cluster remote, (remotes.put cluster' blueprint).lookup (cluster, key) = some remote →
        remote.beingDeleted = false := by
    intro remotes cluster' blueprint halive cluster remote hlookup
    by_cases hk : (cluster, key) = (cluster', blueprint.key)
    · rw [hk] at hlookup
      obtain ⟨b, hb, -, ⟨-, hnot, -⟩ | ⟨existing, hexisting, -, hsame, -⟩⟩ :=
        Remotes.lookup_put remotes cluster' blueprint
      · rw [Option.some.inj (hlookup.symm.trans hb), hnot]
      · rw [Option.some.inj (hlookup.symm.trans hb), hsame]
        exact halive cluster existing (hk ▸ hexisting)
    · rw [Remotes.lookup_put_ne hk] at hlookup
      exact halive cluster remote hlookup
  induction hmoves with
  | refl => exact h
  | tail _ hmove ih =>
    cases hmove with
    | create cluster spec => exact hput _ _ ih
    | update spec => exact hput _ _ ih
    | record => exact ih
    | delete cluster key' =>
      exact fun c b hb => ih c b (GoMap.lookup_of_delete hb)
    | forget cluster => exact ih

section Calls

variable (hasks : Asks sha clusters blueprintsMap s) (hsucceeds : r.Succeeds sha clusters s)

include hasks in
theorem Asks.withFinalizers (finalizers : List String) :
    Asks sha clusters blueprintsMap (s.withFinalizers finalizers) :=
  ⟨⟨hasks.kept.notDeleted, hasks.kept.observed, hasks.kept.named, hasks.kept.keyed⟩,
    hasks.delivered, hasks.wanted, hasks.alive⟩

include hsucceeds in
theorem Succeeds.withFinalizers (finalizers : List String) :
    r.Succeeds sha clusters (s.withFinalizers finalizers) :=
  ⟨hsucceeds.faithful, ⟨hsucceeds.calls.getClusters, hsucceeds.calls.getBlueprint,
    hsucceeds.calls.createBlueprint, hsucceeds.calls.updateBlueprint,
    hsucceeds.calls.deleteBlueprint, hsucceeds.calls.updateFinalizers⟩, hsucceeds.updateStatus⟩

variable (h : r.reconcileRequest s = some (s', err))
include hasks hsucceeds h

theorem Asks.key_reconcileRequest : s'.plotter.key = s.plotter.key := by
  obtain ⟨finalizers, errors, hres⟩ := hasks.exists_reconcile hsucceeds h
  have hkey := key_reconcile hres
  exact hkey

theorem Asks.reconcileRequest : Asks sha clusters blueprintsMap s' := by
  have hkey := hasks.key_reconcileRequest hsucceeds h
  obtain ⟨finalizers, errors, hres⟩ := hasks.exists_reconcile hsucceeds h
  refine ⟨hasks.kept.reconcileRequest hsucceeds.faithful h, hasks.delivered.reconcileRequest
    hasks.kept hsucceeds.faithful hsucceeds.calls.specsDelivered h, ?_, ?_⟩
  · rw [getBlueprintsMap_reconcile hres]
    exact hasks.wanted
  · rw [hkey]
    exact alive_of_moves (moves_reconcile hres) hasks.alive

/-- A successful call puts the blueprints in place. -/
theorem Asks.rolledOut_reconcileRequest : RolledOut blueprintsMap s' := by
  obtain ⟨finalizers, errors, hres⟩ := hasks.exists_reconcile hsucceeds h
  exact (hasks.withFinalizers finalizers).rolledOut_reconcile (hsucceeds.withFinalizers _) hres

/-- Once they are in place, they are left alone. -/
theorem RolledOut.lookup_reconcileRequest (hrolled : RolledOut blueprintsMap s)
    (hd : d ∈ blueprintsMap.pairs) (key : NamespacedName) :
    s'.remotes.lookup (d.1, key) = s.remotes.lookup (d.1, key) := by
  obtain ⟨finalizers, errors, hres⟩ := hasks.exists_reconcile hsucceeds h
  have hasks₁ := hasks.withFinalizers finalizers
  have hsucceeds₁ := hsucceeds.withFinalizers finalizers
  have hrolled₁ : RolledOut blueprintsMap (s.withFinalizers finalizers) :=
    ⟨hrolled.observed, hrolled.recorded, hrolled.converged⟩
  have hview := hrolled₁.remote_of_handled hasks₁ hsucceeds₁
    ((hasks₁.reconcile_rounds hsucceeds₁ hres).2 d hd) hd
  exact congrFun hview key

/-- A plotter whose blueprints are ready becomes ready. -/
theorem RolledOut.ready_reconcileRequest (hrolled : RolledOut blueprintsMap s)
    (hready : ∀ d ∈ blueprintsMap.pairs, ∀ remote,
      s.remotes.lookup (d.1, s.plotter.key) = some remote →
        remote.status.observedState = ⟨true, ""⟩) :
    s'.plotter.observedState = ⟨true, ""⟩ := by
  obtain ⟨finalizers, errors, hres⟩ := hasks.exists_reconcile hsucceeds h
  have hsucceeds₁ := hsucceeds.withFinalizers finalizers
  -- what is fetched is what is in place
  have hfetched : ∀ d ∈ blueprintsMap.pairs, ∀ blueprint found,
      s.plotter.blueprints.lookup d.1 = some blueprint →
      r.clusterManager.getBlueprint d.1 blueprint.key = .ok (some found) →
        found.spec = d.2 ∧ found.status.observedState = ⟨true, ""⟩ := by
    intro d hd blueprint found hrecord hget
    obtain ⟨hlookup, -⟩ := lookup_of_fetched hasks.kept hsucceeds.faithful hrecord hget
    obtain ⟨remote, hremote, hspec⟩ := hrolled.converged d hd
    obtain rfl := Option.some.inj (hremote.symm.trans hlookup)
    exact ⟨hspec, hready d hd _ hlookup⟩
  have hdesired := desiredBlueprints_of_known hsucceeds.faithful.sha512 hsucceeds.calls.getClusters
    (s.withFinalizers finalizers).plotter
  refine observedState_reconcile (hdesired.trans hasks.wanted) (fun d hd => ?_)
    (fun d hd blueprint found hrecord hget => ?_) hres
  · obtain ⟨blueprint, hrecord⟩ := Option.isSome_iff_exists.1 (hrolled.recorded d hd)
    obtain ⟨remote, hget⟩ := hsucceeds.calls.getBlueprint _ _ hrecord
    obtain ⟨hspec, hstate⟩ := hfetched d hd blueprint remote hrecord hget
    exact ⟨blueprint, remote, hrecord, hget, hspec, by rw [hstate]⟩
  · rw [(hfetched d hd blueprint found hrecord hget).2]

end Calls

end PlotterReconciler

end Fybrik
