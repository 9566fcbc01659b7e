import Fybrik.Blueprint.Runs

/-!
# Deleting a blueprint

A blueprint that is being deleted has a finalizer, so that its releases can be
uninstalled before it disappears.  An attempt that cannot store the list of finalizers is
repeated.

* `helm_deleteExternalResources` — which releases an attempt uninstalls.
* `BlueprintDeletion` — a blueprint that is being deleted, with the releases that have
  been uninstalled so far; `Attempt` is one more call of the controller.
* `run_leavesNothing_iff` — after any number of attempts, the next one removes the
  finalizer with all releases uninstalled exactly if Helm happens to uninstall those that
  are left: the controller does not look at the errors.
* `reader_uninstall_fails` — so a release can survive its blueprint.
-/

namespace Fybrik

/-- A blueprint that is being deleted, its cluster, and the releases that attempts to
delete it have uninstalled. -/
structure BlueprintDeletion extends BlueprintSite where
  uninstalled : List Release

namespace BlueprintReconciler

/-! ## One attempt -/

/-- The releases that the status of a blueprint records. -/
def recordedReleases (blueprint : Blueprint) : List Release :=
  blueprint.status.releases.pairs.map fun entry => ⟨entry.1, blueprint.spec.modulesNamespace⟩

/-- The releases that an attempt uninstalls: those for which Helm succeeds. -/
def uninstalledBy (calls : BlueprintCalls) (blueprint : Blueprint) : List Release :=
  (recordedReleases blueprint).filter fun release => (calls.uninstall release).isNone

theorem mem_uninstalledBy {blueprint : Blueprint} {release : Release} :
    release ∈ uninstalledBy calls blueprint ↔
      release ∈ recordedReleases blueprint ∧ calls.uninstall release = none := by
  rw [uninstalledBy, List.mem_filter, Option.isNone_iff_eq_none]

/-- The loop over the recorded releases goes on after an error, so it uninstalls all it can. -/
theorem helm_deleteExternalResources (calls : BlueprintCalls) (s : BlueprintSite) :
    (deleteExternalResources calls s).1
      = (uninstalledBy calls s.blueprint).foldl Helm.uninstall s.helm := by
  rw [uninstalledBy, recordedReleases, List.foldl_filter, List.foldl_map]
  refine (List.foldl_hom Prod.fst fun st entry => ?_).symm
  cases calls.uninstall ⟨entry.1, s.blueprint.spec.modulesNamespace⟩ <;> simp

/-- A release that an attempt uninstalls is gone, and no other one is. -/
theorem mem_installed_foldl_uninstall (releases : List Release) (helm : Helm) {release : Release} :
    release ∈ (releases.foldl Helm.uninstall helm).installed ↔
      release ∈ helm.installed ∧ release ∉ releases := by
  induction releases generalizing helm with
  | nil => simp
  | cons other releases ih =>
    rw [List.foldl_cons, ih, Helm.uninstall, List.mem_filter, List.mem_cons, not_or]
    simp only [ne_eq, decide_not, Bool.not_eq_true', decide_eq_false_iff_not, and_assoc]

variable (r : BlueprintReconciler)

/-- One more attempt to delete a blueprint: the controller is called. -/
def attempt (calls : BlueprintCalls) (d : BlueprintDeletion) : BlueprintDeletion :=
  { toBlueprintSite := (r.reconcileRequest calls d.toBlueprintSite).1
    uninstalled := d.uninstalled ++
      if d.blueprint.finalizers.contains r.finalizerName then uninstalledBy calls d.blueprint
      else [] }

variable {r} {calls : BlueprintCalls} {s : BlueprintSite}

/-- What a call of the controller does to a blueprint that is being deleted and has the
finalizer.  The errors of Helm play no part in it. -/
theorem reconcileRequest_deleted (hdeleted : s.blueprint.beingDeleted = true)
    (hpresent : r.finalizerName ∈ s.blueprint.finalizers) :
    (r.reconcileRequest calls s).1 =
      { blueprint := { s.blueprint with
          finalizers := if calls.updateFinalizers.isNone then
            s.blueprint.finalizers.filter fun f => f != r.finalizerName else s.blueprint.finalizers }
        helm := (uninstalledBy calls s.blueprint).foldl Helm.uninstall s.helm } := by
  have hcontains : s.blueprint.finalizers.contains r.finalizerName = true := by simpa using hpresent
  unfold reconcileRequest reconcileFinalizers updateFinalizers
  rw [if_pos hdeleted, if_pos hcontains, helm_deleteExternalResources]
  cases calls.updateFinalizers with
  | some err => rfl
  | none =>
    simp only [if_pos hdeleted]
    rfl

/-! ## Whole runs -/

variable (r) in
/-- The deletion begins: the finalizer is there, and nothing has been uninstalled. -/
structure DeletionBegins (d : BlueprintDeletion) : Prop where
  deleted : d.blueprint.beingDeleted = true
  present : r.finalizerName ∈ d.blueprint.finalizers
  uninstalled : d.uninstalled = []

variable (r) in
/-- The controller is called once more, with any outcome of its calls. -/
def Attempt (d d' : BlueprintDeletion) : Prop := ∃ calls, d' = r.attempt calls d

variable (r) in
/-- The finalizer is only gone if all recorded releases have been uninstalled. -/
def LeavesNothing (d : BlueprintDeletion) : Prop :=
  r.finalizerName ∉ d.blueprint.finalizers →
    ∀ release ∈ recordedReleases d.blueprint, release ∈ d.uninstalled

/-- What holds of a blueprint while it is being deleted: of the blueprint, only the
finalizers have changed, and what has been uninstalled is gone. -/
structure Deleting (d₀ d : BlueprintDeletion) : Prop where
  blueprint : ∃ finalizers, d.blueprint = { d₀.blueprint with finalizers := finalizers }
  deleted : d.blueprint.beingDeleted = true
  gone : ∀ release ∈ d.uninstalled, release ∉ d.helm.installed

variable {d₀ d : BlueprintDeletion}

theorem DeletionBegins.deleting (h : r.DeletionBegins d) : Deleting d d :=
  ⟨⟨d.blueprint.finalizers, rfl⟩, h.deleted, fun release hrelease => by
    rw [h.uninstalled] at hrelease
    exact absurd hrelease List.not_mem_nil⟩

/-- An attempt at a blueprint whose finalizer is gone does nothing. -/
theorem attempt_absent (hdeleted : d.blueprint.beingDeleted = true)
    (habsent : r.finalizerName ∉ d.blueprint.finalizers) (calls : BlueprintCalls) :
    r.attempt calls d = d := by
  have hcontains : ¬ d.blueprint.finalizers.contains r.finalizerName = true := by
    simpa using habsent
  unfold attempt reconcileRequest reconcileFinalizers
  rw [if_pos hdeleted, if_neg hcontains, if_neg hcontains, List.append_nil]
  simp only [if_pos hdeleted]

/-- An attempt at a blueprint that has its finalizer. -/
theorem attempt_present (hdeleted : d.blueprint.beingDeleted = true)
    (hpresent : r.finalizerName ∈ d.blueprint.finalizers) (calls : BlueprintCalls) :
    r.attempt calls d =
      { blueprint := { d.blueprint with
          finalizers := if calls.updateFinalizers.isNone then
            d.blueprint.finalizers.filter fun f => f != r.finalizerName else d.blueprint.finalizers }
        helm := (uninstalledBy calls d.blueprint).foldl Helm.uninstall d.helm
        uninstalled := d.uninstalled ++ uninstalledBy calls d.blueprint } := by
  have hcontains : d.blueprint.finalizers.contains r.finalizerName = true := by simpa using hpresent
  rw [attempt, reconcileRequest_deleted hdeleted hpresent, if_pos hcontains]

theorem Deleting.attempt (h : Deleting d₀ d) (calls : BlueprintCalls) :
    Deleting d₀ (r.attempt calls d) := by
  by_cases hpresent : r.finalizerName ∈ d.blueprint.finalizers
  · rw [attempt_present h.deleted hpresent]
    obtain ⟨finalizers, hblueprint⟩ := h.blueprint
    refine ⟨⟨_, by rw [hblueprint]⟩, h.deleted, fun release hrelease hinstalled => ?_⟩
    obtain ⟨hinstalled, hkept⟩ := (mem_installed_foldl_uninstall _ _).1 hinstalled
    rcases List.mem_append.1 hrelease with hrelease | hrelease
    · exact h.gone release hrelease hinstalled
    · exact hkept hrelease
  · rw [attempt_absent h.deleted hpresent]
    exact h

theorem deleting_of_run (h₀ : r.DeletionBegins d₀)
    (hrun : Relation.ReflTransGen r.Attempt d₀ d) : Deleting d₀ d := by
  induction hrun with
  | refl => exact h₀.deleting
  | tail _ hattempt ih =>
    obtain ⟨calls, rfl⟩ := hattempt
    exact ih.attempt calls

/-- However many attempts have been made, the next one at a blueprint that still has its
finalizer does not remove it too early exactly if the finalizers cannot be stored,
or every release that the blueprint has recorded was uninstalled before or is uninstalled
now. -/
theorem run_leavesNothing_iff (r : BlueprintReconciler) (d₀ d : BlueprintDeletion)
    (h₀ : r.DeletionBegins d₀) (hrun : Relation.ReflTransGen r.Attempt d₀ d)
    (hpresent : r.finalizerName ∈ d.blueprint.finalizers) (calls : BlueprintCalls) :
    r.LeavesNothing (r.attempt calls d) ↔
      (calls.updateFinalizers = none → ∀ release ∈ recordedReleases d₀.blueprint,
        release ∈ d.uninstalled ∨ calls.uninstall release = none) := by
  have hdeleting := deleting_of_run h₀ hrun
  obtain ⟨finalizers, hblueprint⟩ := hdeleting.blueprint
  have hrecorded : recordedReleases d.blueprint = recordedReleases d₀.blueprint := by
    rw [hblueprint]
    rfl
  rw [LeavesNothing, attempt_present hdeleting.deleted hpresent]
  cases calls.updateFinalizers with
  | some err => exact iff_of_true (fun habsent => absurd hpresent habsent) (by simp)
  | none =>
    have habsent : r.finalizerName ∉
        d.blueprint.finalizers.filter fun f => f != r.finalizerName := by simp
    simp only [Option.isNone_none, if_true, habsent, not_false_eq_true, forall_const]
    change (∀ release ∈ recordedReleases d.blueprint, _) ↔ _
    rw [← hrecorded]
    refine forall₂_congr fun release hrelease => ?_
    rw [List.mem_append, mem_uninstalledBy, and_iff_right hrelease]

/-! ## The release of a reader -/

/-- The reader has been installed, and its blueprint is to be deleted. -/
def readerDeleted : BlueprintDeletion :=
  let w := reconciled readerReconciler callsSucceed readerWorld
  { blueprint := { w.blueprint with beingDeleted := true }
    helm := w.helm
    uninstalled := [] }

theorem readerDeleted_begins : readerReconciler.DeletionBegins readerDeleted :=
  ⟨rfl, by decide +kernel, rfl⟩

/-- The blueprint has a second release. -/
def twoReleasesDeleted : BlueprintDeletion :=
  { readerDeleted with
    blueprint := { readerDeleted.blueprint with
      status := { readerDeleted.blueprint.status with
        releases := readerDeleted.blueprint.status.releases.set "--copier" 1 } }
    helm := { readerDeleted.helm with
      installed := ⟨"--copier", "fybrik-blueprints"⟩ :: readerDeleted.helm.installed } }

/-- Helm uninstalls one of the releases, and the finalizer cannot be removed. -/
def callsHalfWay : BlueprintCalls :=
  { callsSucceed with
    uninstall := fun release => if release.name = "--copier" then some "timeout" else none
    updateFinalizers := some "conflict" }

/-- Helm uninstalls the other one, and does not find the first any more. -/
def callsRest : BlueprintCalls :=
  { callsSucceed with
    uninstall := fun release =>
      if release.name = "--reader" then some "release: not found" else none }

/-- The first attempt uninstalls one release and keeps the finalizer; the second uninstalls the
other and removes it. -/
theorem reader_leavesNothing :
    let first := readerReconciler.attempt callsHalfWay twoReleasesDeleted
    let second := readerReconciler.attempt callsRest first
    first.helm.installed = [⟨"--copier", "fybrik-blueprints"⟩] ∧
      readerReconciler.finalizerName ∉ second.blueprint.finalizers ∧
      readerReconciler.LeavesNothing second := by
  intro first second
  have hbegins : readerReconciler.DeletionBegins twoReleasesDeleted :=
    ⟨rfl, by decide +kernel, rfl⟩
  refine ⟨by decide +kernel, by decide +kernel, (run_leavesNothing_iff readerReconciler
    twoReleasesDeleted first hbegins (.single ⟨callsHalfWay, rfl⟩) (by decide +kernel)
    callsRest).2 ?_⟩
  decide +kernel

/-- Helm cannot uninstall the release.  The finalizer is removed nevertheless, and the
release stays installed. -/
theorem reader_uninstall_fails :
    let d := readerReconciler.attempt callsNoUninstall readerDeleted
    readerReconciler.DeletionBegins readerDeleted ∧ ¬ readerReconciler.LeavesNothing d ∧
      d.helm.installed = [⟨"--reader", "fybrik-blueprints"⟩] := by
  refine ⟨readerDeleted_begins, fun h => ?_, by decide +kernel⟩
  have hgone := h (by decide +kernel) ⟨"--reader", "fybrik-blueprints"⟩ (by decide +kernel)
  exact absurd hgone (by decide +kernel)

end BlueprintReconciler

end Fybrik
