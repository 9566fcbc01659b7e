import Fybrik.Application.Runs
import Fybrik.Storage.Provisioning

/-!
# Deleting an application

An application that is being deleted, or has no datasets any more, keeps its finalizer
until `reconcileFinalizers` has deleted the storage it has recorded and its plotter.  An
attempt may fail half-way and is then repeated, with the same records.

* `deleteExternalResourcesWith`, `reconcileFinalizersWith` — as in the source, for any
  store that changes when a `Dataset` is deleted; `reconcileFinalizersWith_answers` says
  that `reconcileFinalizers` is the case in which only the answers are looked at.
* `application_of_attempts` — attempts that fail leave the application as it is.
* `cleanUp_retried_iff` — an attempt in which nothing but a missing resource can go wrong
  succeeds exactly if all recorded resources are still there.
* `deletedNotebook_retry_fails` — so an attempt that has deleted one of two `Dataset`
  resources cannot be made up for.
-/

namespace Fybrik

/-- The `Dataset` resources an application has recorded. -/
def recordedDatasets (settings : Settings) (status : FybrikApplicationStatus) :
    List NamespacedName :=
  status.provisionedStorage.pairs.map fun p => ⟨p.2.datasetRef, settings.systemNamespace⟩

namespace FybrikApplicationReconciler

variable (r : FybrikApplicationReconciler) {σ : Type}

/-- `deleteExternalResources`, for any implementation of `DeleteDataset`: the storage, the
plotters, and the error. -/
def deleteExternalResourcesWith (delete : σ → NamespacedName → σ × Option String)
    (status : FybrikApplicationStatus) (env : σ) (plotters : GoMap NamespacedName Plotter) :
    (σ × GoMap NamespacedName Plotter) × Option String :=
  let res := Removal.removeEach delete env (recordedDatasets r.settings status)
  if !res.2.isEmpty then ((res.1, plotters), some (";".intercalate res.2))
  else
    match status.generated with
    | none => ((res.1, plotters), none)
    | some ref =>
      let deleted := r.deleteResource plotters ref
      ((res.1, deleted.1), deleted.2)

/-- `reconcileFinalizers`, for any implementation of `DeleteDataset`. -/
def reconcileFinalizersWith (delete : σ → NamespacedName → σ × Option String) (w : World)
    (env : σ) : (World × σ) × Option String :=
  let hasFinalizer := w.application.finalizers.contains r.finalizerName
  if w.application.beingDeleted || w.application.spec.data.isEmpty then
    if hasFinalizer then
      match r.deleteExternalResourcesWith delete w.application.status env w.plotters with
      | ((env, plotters), some err) => (({ w with plotters := plotters }, env), some err)
      | ((env, plotters), none) =>
        let res := r.updateFinalizers { w with plotters := plotters }
          (w.application.finalizers.filter fun f => f != r.finalizerName)
        ((res.1, env), res.2)
    else ((w, env), none)
  else if hasFinalizer then ((w, env), none)
  else
    let res := r.updateFinalizers w (w.application.finalizers ++ [r.finalizerName])
    ((res.1, env), res.2)

theorem deleteExternalResourcesWith_answers (status : FybrikApplicationStatus) (env : σ)
    (plotters : GoMap NamespacedName Plotter) :
    r.deleteExternalResourcesWith (fun env ref => (env, r.provision.deleteDataset ref)) status env
      plotters = ((env, (r.deleteExternalResources status plotters).1),
        (r.deleteExternalResources status plotters).2) := by
  unfold deleteExternalResourcesWith deleteExternalResources
  rw [Removal.removeEach_answers, recordedDatasets, List.filterMap_map]
  dsimp only [Function.comp_def]
  split
  · rfl
  · cases status.generated <;> rfl

/-- Only the answers of `DeleteDataset` matter for what becomes of the application and its
plotter. -/
theorem reconcileFinalizersWith_answers (w : World) (env : σ) :
    r.reconcileFinalizersWith (fun env ref => (env, r.provision.deleteDataset ref)) w env
      = (((r.reconcileFinalizers w).1, env), (r.reconcileFinalizers w).2) := by
  unfold reconcileFinalizersWith reconcileFinalizers
  rw [deleteExternalResourcesWith_answers]
  dsimp only
  split
  · split
    · cases hdelete : r.deleteExternalResources w.application.status w.plotters with
      | mk plotters err => cases err <;> rfl
    · rfl
  · split <;> rfl

variable {r} {w : World} {env : σ}

/-- An attempt to update the finalizers that fails leaves the application as it is. -/
theorem application_updateFinalizers {finalizers : List String}
    (h : (r.updateFinalizers w finalizers).2 ≠ none) :
    (r.updateFinalizers w finalizers).1.application = w.application := by
  unfold updateFinalizers at h ⊢
  split
  · rfl
  · rename_i hnone
    rw [hnone] at h
    exact absurd rfl h

/-- A failed attempt leaves the application as it is. -/
theorem application_of_failed {delete : σ → NamespacedName → σ × Option String}
    (hfailed : (r.reconcileFinalizersWith delete w env).2 ≠ none) :
    (r.reconcileFinalizersWith delete w env).1.1.application = w.application := by
  unfold reconcileFinalizersWith at hfailed ⊢
  dsimp only at hfailed ⊢
  split at hfailed
  · rename_i hclean
    rw [if_pos hclean]
    split at hfailed
    · rename_i hfinalizer
      rw [if_pos hfinalizer]
      cases hdelete : r.deleteExternalResourcesWith delete w.application.status env w.plotters with
      | mk res err =>
        rw [hdelete] at hfailed
        cases err with
        | some err => rfl
        | none => exact application_updateFinalizers hfailed
    · exact absurd rfl hfailed
  · rename_i hclean
    rw [if_neg hclean]
    split at hfailed
    · exact absurd rfl hfailed
    · rename_i hfinalizer
      rw [if_neg hfinalizer]
      exact application_updateFinalizers hfailed

/-- A failed attempt to see to the finalizers, with any implementation of `DeleteDataset`,
which may have done anything to the storage. -/
def FailedAttempt (s s' : World × σ) : Prop :=
  ∃ (r : FybrikApplicationReconciler) (delete : σ → NamespacedName → σ × Option String),
    (r.reconcileFinalizersWith delete s.1 s.2).2 ≠ none ∧
      s' = (r.reconcileFinalizersWith delete s.1 s.2).1

/-- However many attempts fail, the application and its records stay as they are. -/
theorem application_of_attempts {s s' : World × σ}
    (hrun : Relation.ReflTransGen FailedAttempt s s') :
    s'.1.application = s.1.application := by
  induction hrun with
  | refl => rfl
  | tail _ hattempt ih =>
    obtain ⟨r, delete, hfailed, rfl⟩ := hattempt
    exact (application_of_failed hfailed).trans ih

/-- The plotter is deleted exactly if it is there. -/
theorem deleteResource_succeeds_iff (hdelete : r.api.deletePlotter = none)
    (plotters : GoMap NamespacedName Plotter) (ref : ResourceReference) :
    (r.deleteResource plotters ref).2 = none ↔
      (plotters.lookup ref.namespacedName).isSome = true := by
  unfold deleteResource
  rw [hdelete]
  cases plotters.lookup ref.namespacedName <;> simp

theorem deleteExternalResourcesWith_succeeds_iff {τ : Type}
    (provision : Removal.Remover σ NamespacedName τ String) (hdelete : r.api.deletePlotter = none)
    (status : FybrikApplicationStatus) (env : σ) (plotters : GoMap NamespacedName Plotter) :
    (r.deleteExternalResourcesWith provision.remove status env plotters).2 = none ↔
      provision.AllThere env (recordedDatasets r.settings status) ∧
        ∀ ref, status.generated = some ref →
          (plotters.lookup ref.namespacedName).isSome = true := by
  rw [← provision.removeEach_iff]
  unfold deleteExternalResourcesWith
  dsimp only
  cases (Removal.removeEach provision.remove env (recordedDatasets r.settings status)).2 with
  | cons err errs => simp
  | nil =>
    cases status.generated with
    | none => simp
    | some ref => simp [deleteResource_succeeds_iff hdelete]

/-- One more attempt to delete the storage and the plotter of an application after any
number of failed ones, in which nothing fails but deleting what is gone: it succeeds, and
the finalizer is removed, exactly if everything recorded is still there. -/
theorem cleanUp_retried_iff (r : FybrikApplicationReconciler) (σ τ : Type)
    (provision : Removal.Remover σ NamespacedName τ String) (s s' : World × σ)
    (hclean : s.1.application.beingDeleted = true ∨ s.1.application.spec.data = [])
    (hfinalizer : r.finalizerName ∈ s.1.application.finalizers)
    (hrun : Relation.ReflTransGen FailedAttempt s s') (hdelete : r.api.deletePlotter = none)
    (hupdate : r.api.updateFinalizers = none) :
    ((r.reconcileFinalizersWith provision.remove s'.1 s'.2).2 = none ∧
      r.finalizerName ∉
        (r.reconcileFinalizersWith provision.remove s'.1 s'.2).1.1.application.finalizers) ↔
      provision.AllThere s'.2 (recordedDatasets r.settings s.1.application.status) ∧
        ∀ ref, s.1.application.status.generated = some ref →
          (s'.1.plotters.lookup ref.namespacedName).isSome = true := by
  have happlication := application_of_attempts hrun
  have hclean : (s'.1.application.beingDeleted || s'.1.application.spec.data.isEmpty) = true := by
    rw [happlication, Bool.or_eq_true, List.isEmpty_iff]
    exact hclean
  have hfinalizer : s'.1.application.finalizers.contains r.finalizerName = true := by
    rw [happlication, List.contains_iff_mem]
    exact hfinalizer
  rw [← deleteExternalResourcesWith_succeeds_iff provision hdelete, ← happlication]
  unfold reconcileFinalizersWith
  rw [if_pos hclean, if_pos hfinalizer]
  cases r.deleteExternalResourcesWith provision.remove s'.1.application.status s'.2
      s'.1.plotters with
  | mk res err =>
    cases err with
    | some err => simp
    | none => simp [updateFinalizers, hupdate]

/-! ## A notebook with two buckets -/

/-- A notebook that is being deleted, with storage for two copies, and its plotter. -/
def deletedNotebook : World :=
  { notebookDeployed with
    application := { notebookDeployed.application with
      beingDeleted := true
      status := { notebookDeployed.application.status with
        provisionedStorage := GoMap.ofList
          [("xxx", ⟨"notebook-xxx", "minio"⟩), ("zzz", ⟨"notebook-zzz", "minio"⟩)] } } }

/-- The `Dataset` of a bucket. -/
def minioDataset (bucket : String) : NamespacedName × ProvisionedBucket :=
  (⟨bucket, "fybrik-system"⟩, ⟨bucket, "http://minio.fybrik-system:9000", ⟨"minio", "fybrik-system"⟩⟩)

/-- The resources of the two buckets. -/
def twoDatasets : Datasets :=
  GoMap.ofList [minioDataset "notebook-xxx", minioDataset "notebook-zzz"]

/-- The API server answers every call. -/
def undisturbedProvision : ProvisionImpl := ⟨fun _ => none, fun _ => none, fun _ => none⟩

theorem undisturbedProvision_undisturbed : undisturbedProvision.Undisturbed :=
  ⟨fun _ => rfl, fun _ => rfl⟩

/-- The API server deletes nothing. -/
def unreachableProvision : ProvisionImpl :=
  { undisturbedProvision with delete := fun _ => some "timeout" }

/-- The first attempt deletes nothing, and the second one everything. -/
theorem deletedNotebook_retry_succeeds :
    let first := notebookReconciler.reconcileFinalizersWith unreachableProvision.deleteDataset
      deletedNotebook twoDatasets
    let second := notebookReconciler.reconcileFinalizersWith
      (ProvisionImpl.datasetRemover undisturbedProvision undisturbedProvision_undisturbed).remove
      first.1.1 first.1.2
    first.2 = some "timeout;timeout" ∧ second.2 = none ∧
      notebookReconciler.finalizerName ∉ second.1.1.application.finalizers := by
  intro first second
  have hfirst : first = ((deletedNotebook, twoDatasets), some "timeout;timeout") := by
    decide +kernel
  have hrun : Relation.ReflTransGen FailedAttempt (deletedNotebook, twoDatasets) first.1 :=
    .single ⟨notebookReconciler, unreachableProvision.deleteDataset, by
      show first.2 ≠ none
      rw [hfirst]
      exact Option.some_ne_none _, rfl⟩
  refine ⟨by rw [hfirst], (cleanUp_retried_iff notebookReconciler Datasets NamespacedName
    (ProvisionImpl.datasetRemover undisturbedProvision undisturbedProvision_undisturbed)
    (deletedNotebook, twoDatasets) first.1 (Or.inl rfl) (by decide +kernel) hrun rfl rfl).2 ?_⟩
  rw [hfirst]
  refine ⟨⟨by decide +kernel, ?_⟩, ?_⟩
  · show ∀ ref ∈ recordedDatasets default deletedNotebook.application.status,
      (twoDatasets.lookup ref).isSome = true
    decide +kernel
  · intro ref href
    cases href
    decide +kernel

/-- The API server cannot be reached any more when the second resource is deleted. -/
def firstDatasetOnly : ProvisionImpl :=
  { undisturbedProvision with
    delete := fun ref => if ref.name = "notebook-zzz" then some "timeout" else none }

/-- The first attempt deletes one of the two resources and fails at the other.  In the
second attempt everything would be deleted, but the resource that is gone makes it
fail. -/
theorem deletedNotebook_retry_fails :
    let first := notebookReconciler.reconcileFinalizersWith firstDatasetOnly.deleteDataset
      deletedNotebook twoDatasets
    first.1.1 = deletedNotebook ∧ first.2 = some "timeout" ∧
      (notebookReconciler.reconcileFinalizersWith
        (ProvisionImpl.datasetRemover undisturbedProvision undisturbedProvision_undisturbed).remove
        first.1.1 first.1.2).2
        = some "datasets.com.ie.ibm.hpsys \"notebook-xxx\" not found" := by
  decide +kernel

end FybrikApplicationReconciler

end Fybrik
