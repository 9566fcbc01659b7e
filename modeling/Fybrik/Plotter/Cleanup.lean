import Fybrik.Multicluster.Managers
import Mathlib.Logic.Relation

/-!
# Deleting a plotter

A plotter that is being deleted keeps its finalizer until `reconcileFinalizers` has
deleted the blueprints it has recorded.  An attempt may fail half-way and is then
repeated, with the same records.

* `plotter_of_attempts` — attempts that fail leave the plotter as it is.
* `cleanUp_succeeds_iff` — an attempt in which nothing but a missing blueprint can go
  wrong succeeds exactly if all recorded blueprints are still there, whatever the
  cluster manager.
* `secondAttempt_fails` — so with Razee an attempt that has deleted one of two
  blueprints cannot be made up for.
-/

namespace Fybrik

namespace PlotterReconciler

variable {r : PlotterReconciler} {σ : Type} {plotter : PlotterResource} {env : σ}

/-- The blueprints a plotter has recorded. -/
def recordedBlueprints (plotter : PlotterResource) : List (String × NamespacedName) :=
  plotter.blueprints.pairs.map fun cb => (cb.1, cb.2.key)

/-- A failed attempt to delete the blueprints of a plotter leaves the plotter as it is. -/
theorem plotter_of_failed {delete : σ → String × NamespacedName → σ × Option String}
    (hdeleted : plotter.beingDeleted = true)
    (hfailed : (r.reconcileFinalizersWith delete plotter env).2 ≠ none) :
    (r.reconcileFinalizersWith delete plotter env).1.1 = plotter := by
  unfold reconcileFinalizersWith at hfailed ⊢
  rw [if_pos hdeleted] at hfailed ⊢
  split at hfailed
  · rename_i hfinalizer
    rw [if_pos hfinalizer]
    cases hremove : Removal.removeUntilError delete env
        (plotter.blueprints.pairs.map fun cb => (cb.1, cb.2.key)) with
    | mk env' err =>
      cases err with
      | some err => rfl
      | none =>
        rw [hremove] at hfailed
        unfold storeFinalizers at hfailed ⊢
        cases hupdate : r.updateFinalizers with
        | some err => rfl
        | none =>
          simp only [hupdate] at hfailed
          exact absurd rfl hfailed
  · exact absurd rfl hfailed

/-- A failed attempt to delete the blueprints of a plotter, with any cluster manager,
which may have done anything to the clusters. -/
def FailedAttempt (s s' : PlotterResource × σ) : Prop :=
  ∃ (r : PlotterReconciler) (delete : σ → String × NamespacedName → σ × Option String),
    (r.reconcileFinalizersWith delete s.1 s.2).2 ≠ none ∧
      s' = (r.reconcileFinalizersWith delete s.1 s.2).1

/-- However many attempts fail, the plotter and its records stay as they are. -/
theorem plotter_of_attempts {s s' : PlotterResource × σ} (hdeleted : s.1.beingDeleted = true)
    (hrun : Relation.ReflTransGen FailedAttempt s s') : s'.1 = s.1 := by
  induction hrun with
  | refl => rfl
  | tail _ hattempt ih =>
    obtain ⟨r, delete, hfailed, rfl⟩ := hattempt
    rw [plotter_of_failed (by rw [ih]; exact hdeleted) hfailed]
    exact ih

/-- One more attempt to delete the blueprints of a plotter after any number of failed ones,
in which nothing fails but deleting what is gone: it succeeds, and the finalizer is
removed, exactly if all recorded blueprints are still there. -/
theorem cleanUp_succeeds_iff (r : PlotterReconciler) (σ τ : Type)
    (manager : Removal.Remover σ (String × NamespacedName) τ String)
    (s s' : PlotterResource × σ) (hdeleted : s.1.beingDeleted = true)
    (hfinalizer : s.1.finalizers.contains r.finalizerName = true)
    (hrun : Relation.ReflTransGen FailedAttempt s s') (hupdate : r.updateFinalizers = none) :
    ((r.reconcileFinalizersWith manager.remove s'.1 s'.2).2 = none ∧
      r.finalizerName ∉ (r.reconcileFinalizersWith manager.remove s'.1 s'.2).1.1.finalizers) ↔
      manager.AllThere s'.2 (recordedBlueprints s.1) := by
  rw [plotter_of_attempts hdeleted hrun, ← manager.removeUntilError_iff, recordedBlueprints]
  unfold reconcileFinalizersWith
  rw [if_pos hdeleted, if_pos hfinalizer]
  cases Removal.removeUntilError manager.remove s'.2
      (s.1.blueprints.pairs.map fun cb => (cb.1, cb.2.key)) with
  | mk env' err =>
    cases err with
    | some err => simp
    | none =>
      simp only [storeFinalizers, hupdate]
      simp

/-! ## A plotter with two clusters -/

/-- A plotter that is being deleted, with blueprints in two clusters. -/
def deletedPlotter : PlotterResource :=
  { (default : PlotterResource) with
    name := "notebook-default"
    «namespace» := "fybrik-system"
    finalizers := ["plotter.finalizer"]
    beingDeleted := true
    blueprints := GoMap.ofList
      [("hobbiton", createMetaBlueprint readyBlueprint), ("bree", createMetaBlueprint readyBlueprint)] }

/-- A channel with one version and a subscription to it. -/
def subscribedChannel (uuid cluster : String) : Channel :=
  { uuid := uuid, name := channelName cluster "notebook-default"
    subscriptions := [⟨uuid ++ "-subscription", uuid ++ "-version"⟩]
    versions := [⟨uuid ++ "-version", "0", "blueprint"⟩] }

/-- The channels of the two blueprints. -/
def twoChannels : Razee where
  channels := [subscribedChannel "1" "bree", subscribedChannel "2" "hobbiton"]
  names_nodup := by decide +kernel
  uuids_nodup := by decide +kernel

/-- Razee cannot be reached. -/
def unreachableRazee : RazeeClusterManager :=
  { RazeeClusterManager.undisturbed with channelByName := fun _ => some "timeout" }

/-- The first attempt deletes nothing, and the second one everything. -/
theorem twoChannels_cleanUp_succeeds :
    let first := (plotterReconciler default).reconcileFinalizersWith
      unreachableRazee.deleteBlueprint deletedPlotter twoChannels
    let second := (plotterReconciler default).reconcileFinalizersWith
      RazeeClusterManager.razeeRemover.remove first.1.1 first.1.2
    first.2 = some "timeout" ∧ second.2 = none ∧
      (plotterReconciler default).finalizerName ∉ second.1.1.finalizers := by
  intro first second
  have hfirst : first.1 = (deletedPlotter, twoChannels) ∧ first.2 = some "timeout" := ⟨rfl, rfl⟩
  have hrun : Relation.ReflTransGen FailedAttempt (deletedPlotter, twoChannels) first.1 :=
    .single ⟨plotterReconciler default, unreachableRazee.deleteBlueprint, by
      rw [hfirst.2]
      exact Option.some_ne_none _, rfl⟩
  refine ⟨hfirst.2, (cleanUp_succeeds_iff (plotterReconciler default) Razee String
    RazeeClusterManager.razeeRemover (deletedPlotter, twoChannels) first.1 rfl
    (by decide) hrun rfl).2 ?_⟩
  rw [hfirst.1]
  refine ⟨by decide +kernel, ?_⟩
  show ∀ k ∈ recordedBlueprints deletedPlotter,
    channelName k.1 k.2.name ∈ twoChannels.index.map Prod.snd
  decide +kernel

/-- Razee cannot be reached any more when the second channel is looked up. -/
def firstChannelOnly : RazeeClusterManager :=
  { RazeeClusterManager.undisturbed with
    channelByName := fun name =>
      if name = channelName "hobbiton" "notebook-default" then some "timeout" else none }

/-- The first attempt deletes the channel of one of the blueprints and fails at the other.
In the second attempt everything would be deleted, but the blueprint that is gone
makes it fail. -/
theorem secondAttempt_fails :
    let first := (plotterReconciler default).reconcileFinalizersWith
      firstChannelOnly.deleteBlueprint deletedPlotter twoChannels
    first.1.1 = deletedPlotter ∧ first.2 = some "timeout" ∧
      ((plotterReconciler default).reconcileFinalizersWith RazeeClusterManager.razeeRemover.remove
        first.1.1 first.1.2).2 =
        some (channelNotFound ++ " " ++ channelName "bree" "notebook-default") := by
  decide +kernel

end PlotterReconciler

end Fybrik
