import Fybrik.Application.Calls
import Fybrik.Application.Cleanup
import Fybrik.Plotter.Endpoint
import Fybrik.Plotter.Storage

/-!
# The storage of an application

Storage for copies is requested while a plotter is put together, and recorded in the
status of the application only if none of its datasets has an error.  The records are what
is cleaned up when the application is deleted.

* `datasetCalls` — the calls about `Dataset` resources in a call of the controller, with
  their outcomes.
* `Untroubled` — a plotter is put together, and no dataset has an error;
  `reconcile_bookkeeping` says that this is when the records are updated.
* `StorageStep` — a step in the life of an application, its plotters and the `Dataset`
  resources.
* `Accounts` — what the controller maintains if it keeps account of the storage.
* `run_accounted` — every resource created for the application that is still there is
  then recorded; `tableNotebook_not_accounted` shows that one can be forgotten.
-/

namespace Fybrik

/-! ## The records -/

section Records

variable {settings : Settings} {ref : NamespacedName} {status status' : FybrikApplicationStatus}

theorem mem_recordedDatasets : ref ∈ recordedDatasets settings status ↔
    ∃ id details, status.provisionedStorage.lookup id = some details ∧
      ⟨details.datasetRef, settings.systemNamespace⟩ = ref := by
  rw [recordedDatasets, List.mem_map]
  constructor
  · rintro ⟨⟨id, details⟩, hmem, rfl⟩
    exact ⟨id, details, GoMap.mem_pairs.1 hmem, rfl⟩
  · rintro ⟨id, details, hlookup, rfl⟩
    exact ⟨(id, details), GoMap.mem_pairs.2 hlookup, rfl⟩

/-- The conditions of the datasets have nothing to do with the storage, and with whether the
application is valid. -/
def FybrikApplicationStatus.records (status : FybrikApplicationStatus) :
    GoMap String DatasetDetails × ConditionStatus :=
  (status.provisionedStorage, status.validApplication)

theorem records_updateCondition {id : String} {index : ℕ} {f : Condition → Condition}
    (h : updateCondition status id index f = some status') :
    status'.records = status.records := by
  obtain ⟨c, -, rfl⟩ := Option.map_eq_some_iff.1 h
  rfl

theorem records_initStatus (data : List DataContext) (status : FybrikApplicationStatus) :
    (initStatus data status).records = status.records := by
  rw [initStatus_eq]
  rfl

theorem records_analyzeErrors {errs : List (String × String)}
    (h : analyzeErrors status errs = some status') :
    status'.records = status.records := by
  refine Loops.foldlM_preserves
    (fun t : FybrikApplicationStatus => t.records = status.records)
    (fun ie _ s t ih hstep => ?_) rfl h
  unfold analyzeError at hstep
  split at hstep
  · exact (records_updateCondition hstep).trans ih
  · exact (records_updateCondition hstep).trans ih

theorem records_checkAsset {r : FybrikApplicationReconciler} {observed : ObservedState}
    {ctx : DataContext} (h : r.checkAsset observed status ctx = some status') :
    status'.records = status.records := by
  have hsame : some status = some status' →
      status'.records = status.records := fun hstatus => by
    rw [Option.some.inj hstatus]
  unfold FybrikApplicationReconciler.checkAsset at h
  dsimp only at h
  split at h
  · cases h
  · split at h
    · exact hsame h
    · split at h
      · exact records_updateCondition h
      · split at h
        · exact hsame h
        · split at h
          · split at h
            · exact hsame h
            · split at h
              · exact records_updateCondition h
              · split at h
                · exact records_updateCondition h
                · exact records_updateCondition h
          · exact records_updateCondition h

theorem records_checkReadiness {r : FybrikApplicationReconciler} {data : List DataContext}
    {observed : ObservedState} (h : r.checkReadiness data status observed = some status') :
    status'.records = status.records := by
  have hloop : ∀ start, data.foldlM (r.checkAsset observed) start = some status' →
      status'.records = start.records := fun start =>
    Loops.foldlM_preserves
      (fun t : FybrikApplicationStatus => t.records = start.records)
      (fun _ _ _ _ ih hstep => (records_checkAsset hstep).trans ih) rfl
  unfold FybrikApplicationReconciler.checkReadiness at h
  split at h
  · exact (hloop _ h).trans (records_initStatus data status)
  · exact hloop _ h

theorem records_setReadModulesEndpoints {data : List DataContext} {flows : List Flow}
    (h : setReadModulesEndpoints data flows status = some status') :
    status'.records = status.records := by
  obtain ⟨m, -, rfl⟩ := Option.map_eq_some_iff.1 h
  have hloop : ∀ (l : List DataContext) (status : FybrikApplicationStatus),
      (l.foldl (setEndpoint m) status).records = status.records := by
    intro l
    induction l with
    | nil => exact fun _ => rfl
    | cons ctx l ih => exact fun status => ih _
  exact hloop data status

/-- The records are replaced by those of the buckets a plotter needs. -/
theorem lookup_updateProvisionedStorageStatus (r : FybrikApplicationReconciler)
    (status : FybrikApplicationStatus) (storage : GoMap String ProvisionedBucket) (id : String) :
    (r.updateProvisionedStorageStatus status storage).1.provisionedStorage.lookup id
      = (storage.lookup id).map fun bucket => ⟨bucket.name, bucket.secretRef.name⟩ := by
  have hkept : status.provisionedStorage.pairs.foldl (fun m p =>
        if (storage.lookup p.1).isSome then m else m.delete p.1) status.provisionedStorage
      = status.provisionedStorage.deleteAll (fun p => (storage.lookup p.1).isNone)
          status.provisionedStorage.pairs := by
    rw [GoMap.deleteAll]
    congr 1
    funext m p
    cases storage.lookup p.1 <;> rfl
  simp only [FybrikApplicationReconciler.updateProvisionedStorageStatus, hkept]
  cases hlookup : storage.lookup id with
  | some bucket =>
    obtain ⟨details, hmem, hdetails⟩ := GoMap.lookup_setAll_of_mem
      (status.provisionedStorage.deleteAll (fun p => (storage.lookup p.1).isNone)
        status.provisionedStorage.pairs) (k := id)
      (l := storage.pairs.map fun p =>
        (p.1, (⟨p.2.name, p.2.secretRef.name⟩ : DatasetDetails)))
      ⟨_, List.mem_map_of_mem (GoMap.mem_pairs.2 hlookup), rfl⟩
    obtain ⟨⟨id', bucket'⟩, hpair, heq⟩ := List.mem_map.1 hmem
    obtain ⟨rfl, rfl⟩ := Prod.mk.inj heq
    rw [hdetails, Option.some.inj ((GoMap.mem_pairs.1 hpair).symm.trans hlookup)]
    rfl
  | none =>
    rw [GoMap.lookup_setAll_of_not_mem]
    · -- a record that is not needed any more has been deleted
      by_contra hne
      obtain ⟨details, hdetails⟩ := Option.ne_none_iff_exists'.1 hne
      have hneeded := (GoMap.lookup_deleteAll_pairs _ _).1 hdetails
      rw [hlookup] at hneeded
      exact absurd hneeded.2 (by simp)
    · rintro ⟨id', details⟩ hmem rfl
      obtain ⟨⟨id'', bucket⟩, hpair, heq⟩ := List.mem_map.1 hmem
      obtain ⟨rfl, -⟩ := Prod.mk.inj heq
      exact absurd ((GoMap.mem_pairs.1 hpair).symm.trans hlookup) (by simp)

end Records

namespace FybrikApplicationReconciler

/-! ## The calls -/

section Calls

variable (r : FybrikApplicationReconciler)

/-- The calls of `deleteExternalResources`, if it comes to that. -/
def finalizerCalls (w : World) : List (DatasetCall × Option String) :=
  if (w.application.beingDeleted || w.application.spec.data.isEmpty) &&
      w.application.finalizers.contains r.finalizerName then
    (recordedDatasets r.settings w.application.status).map fun ref =>
      (.delete ref, r.provision.deleteDataset ref)
  else []

/-- The calls of `updateProvisionedStorageStatus`: buckets that are not needed any more are
removed. -/
def cleaningCalls (status : FybrikApplicationStatus)
    (provisionedStorage : GoMap String ProvisionedBucket) : List (DatasetCall × Option String) :=
  (status.provisionedStorage.pairs.filter fun p => (provisionedStorage.lookup p.1).isNone).map
    fun p =>
      let ref : NamespacedName := ⟨p.2.datasetRef, r.settings.systemNamespace⟩
      (.delete ref, r.provision.deleteDataset ref)

variable {r} in
theorem delete_of_cleaningCalls {status : FybrikApplicationStatus}
    {storage : GoMap String ProvisionedBucket} {call : DatasetCall × Option String}
    (h : call ∈ r.cleaningCalls status storage) : ∃ ref, call.1 = .delete ref := by
  obtain ⟨p, -, rfl⟩ := List.mem_map.1 h
  exact ⟨_, rfl⟩

variable {r} in
theorem mem_cleaningCalls {status : FybrikApplicationStatus}
    {storage : GoMap String ProvisionedBucket} {id : String} {details : DatasetDetails}
    (hdetails : status.provisionedStorage.lookup id = some details)
    (hstorage : storage.lookup id = none) :
    (.delete ⟨details.datasetRef, r.settings.systemNamespace⟩,
      r.provision.deleteDataset ⟨details.datasetRef, r.settings.systemNamespace⟩) ∈
        r.cleaningCalls status storage := by
  refine List.mem_map.2 ⟨(id, details), List.mem_filter.2 ⟨GoMap.mem_pairs.2 hdetails, ?_⟩, rfl⟩
  simp only [hstorage, Option.isNone_none]

/-- The calls in the part of `reconcile` that follows the loop over the datasets. -/
def solveCalls (application : FybrikApplication) (status : FybrikApplicationStatus)
    (requirements : List DataInfo) : List (DatasetCall × Option String) :=
  if requirements.isEmpty then []
  else
    match r.plotterGen application with
    | .error _ => []
    | .ok p => p.storageCalls application requirements ++
      match r.buildSolution application status requirements with
      | some (.ok (status, g)) =>
        if getErrorMessages status = some "" then r.cleaningCalls status g.provisionedStorage else []
      | _ => []

/-- The calls of `reconcile`. -/
def reconcileCalls (application : FybrikApplication) : List (DatasetCall × Option String) :=
  let status := initStatus application.spec.data application.status
  if application.spec.data.isEmpty then []
  else
    match r.getWorkloadCluster application with
    | .error _ => []
    | .ok workloadCluster =>
      match r.collectRequirements application workloadCluster status application.spec.data with
      | none => []
      | some (status, requirements) => r.solveCalls application status requirements

/-- The calls in a call of the controller. -/
def datasetCalls (w : World) : List (DatasetCall × Option String) :=
  r.finalizerCalls w ++
    match r.submitted w with
    | none => []
    | some w => r.reconcileCalls w.application

end Calls

/-! ## When the records are updated -/

section Bookkeeping

variable (r : FybrikApplicationReconciler)

/-- A plotter is put together, and no dataset has an error, unless access to it is denied. -/
structure Untroubled (application : FybrikApplication) (workloadCluster : Cluster)
    (p : PlotterGenerator) : Prop where
  cluster : r.getWorkloadCluster application = .ok workloadCluster
  served_ne : r.served application workloadCluster application.spec.data ≠ []
  plotterGen : r.plotterGen application = .ok p
  noCrash : ∀ item ∈ r.served application workloadCluster application.spec.data,
    p.generateFlow application item ≠ .error .panic
  denials : ∀ ie ∈ r.failures application workloadCluster application.spec.data ++
      p.rejections application (r.served application workloadCluster application.spec.data),
    isDenial ie.2 = true

/-- The buckets the plotter of an application needs, by dataset. -/
def neededStorage (application : FybrikApplication) (workloadCluster : Cluster)
    (p : PlotterGenerator) : GoMap String ProvisionedBucket :=
  GoMap.ofList (p.provisionedBuckets application
    (r.served application workloadCluster application.spec.data))

/-- What `reconcile` does to the records, and its calls. -/
inductive Bookkeeping (application : FybrikApplication) :
    Option Reconciled → List (DatasetCall × Option String) → Prop
  | unchanged {res : Option Reconciled} {calls : List (DatasetCall × Option String)}
      (hres : ∀ res', res = some res' →
        res'.status.provisionedStorage = application.status.provisionedStorage)
      (htroubled : ∀ workloadCluster p, ¬ r.Untroubled application workloadCluster p) :
      Bookkeeping application res calls
  | updated {workloadCluster : Cluster} {p : PlotterGenerator} {res : Reconciled}
      {status : FybrikApplicationStatus}
      (huntroubled : r.Untroubled application workloadCluster p)
      (hstatus : status.provisionedStorage = application.status.provisionedStorage)
      (hres : res.status.provisionedStorage = (r.updateProvisionedStorageStatus status
        (r.neededStorage application workloadCluster p)).1.provisionedStorage) :
      Bookkeeping application (some res)
        (p.storageCalls application (r.served application workloadCluster application.spec.data) ++
          r.cleaningCalls status (r.neededStorage application workloadCluster p))

variable {r} {application : FybrikApplication} {plotters : GoMap NamespacedName Plotter}
  {workloadCluster : Cluster} {p : PlotterGenerator} {g : Generation}
  {errs : List (String × String)} {status : FybrikApplicationStatus}

theorem Judged.not_error_iff (h : r.Judged application workloadCluster errs status) :
    (∀ id, status.isTrue errorConditionIndex id = false) ↔ ∀ ie ∈ errs, isDenial ie.2 = true := by
  constructor
  · intro hfalse ie hie
    by_contra hdenial
    have htrue : status.isTrue errorConditionIndex ie.1 = true :=
      h.isTrue_iff.2 ⟨ie, hie, by rw [markOf, if_neg hdenial]⟩
    cases htrue.symm.trans (hfalse ie.1)
  · intro hdenials id
    rw [← Bool.not_eq_true, h.isTrue_iff]
    rintro ⟨ie, hie, hmark⟩
    rw [markOf, if_pos (hdenials ie hie)] at hmark
    exact absurd (Prod.mk.inj hmark).1 (by decide)

/-- The flows of a plotter have endpoints. -/
theorem exists_setReadModulesEndpoints {requirements : List DataInfo}
    (h : p.addFlows application (p.newGeneration application) requirements = some (g, errs))
    (data : List DataContext) (status : FybrikApplicationStatus) :
    ∃ status', setReadModulesEndpoints data g.plotterSpec.flows status = some status' := by
  rw [← Option.isSome_iff_exists, setReadModulesEndpoints, Option.isSome_map,
    Option.isSome_iff_exists]
  apply Loops.exists_foldlM_eq_some
  intro s hs m
  obtain ⟨flow, hflow, hs⟩ := List.mem_flatMap.1 hs
  obtain ⟨subFlow, hsubFlow, hs⟩ := List.mem_flatMap.1 hs
  obtain ⟨steps, hsteps, rfl⟩ := List.mem_map.1 hs
  obtain ⟨step, parameters, hsingle, hparameters⟩ := PlotterGenerator.addFlows_parameters h
    (List.mem_filter.1 hflow).1 (List.mem_filter.1 hsubFlow).1
  rw [hsingle, List.mem_singleton] at hsteps
  subst hsteps
  simp only [lastStepAPI, List.getLast?_singleton, hparameters, Option.map_some]
  exact ⟨_, rfl⟩

/-- A plotter without errors: the records are updated, whatever becomes of the plotter. -/
theorem Built.deploy_storage (h : r.Built application workloadCluster p g status)
    (plotters : GoMap NamespacedName Plotter) :
    ∃ res, r.deploy application plotters status g = some res ∧ res.status.provisionedStorage
      = (r.updateProvisionedStorageStatus status g.provisionedStorage).1.provisionedStorage := by
  unfold deploy
  generalize r.updateProvisionedStorageStatus status g.provisionedStorage = updated
  obtain ⟨status₁, ready, allocationErr⟩ := updated
  cases ready with
  | false => exact ⟨_, rfl, rfl⟩
  | true =>
    obtain ⟨status₂, hstatus₂⟩ :=
      exists_setReadModulesEndpoints h.addFlows application.spec.data status₁
    have hstorage := congrArg Prod.fst (records_setReadModulesEndpoints hstatus₂)
    simp only [hstatus₂]
    split
    · split
      · exact ⟨_, rfl, hstorage⟩
      · exact ⟨_, rfl, hstorage⟩
    · exact ⟨_, rfl, hstorage⟩

theorem Built.untroubled (h : r.Built application workloadCluster p g status)
    (herr : ∀ id, status.isTrue errorConditionIndex id = false) :
    r.Untroubled application workloadCluster p :=
  ⟨h.judged.cluster, h.served_ne, h.plotterGen, (PlotterGenerator.addFlows_eq_some h.addFlows).2.2,
    h.judged.not_error_iff.1 herr⟩

theorem solve_bookkeeping {status₀ : FybrikApplicationStatus}
    (hjudged : r.Judged application workloadCluster
      (r.failures application workloadCluster application.spec.data) status₀)
    (hstorage : status₀.provisionedStorage = application.status.provisionedStorage) :
    r.Bookkeeping application
      (r.solve application plotters status₀
        (r.served application workloadCluster application.spec.data))
      (r.solveCalls application status₀
        (r.served application workloadCluster application.spec.data)) := by
  have hcluster : ∀ {cluster p}, r.Untroubled application cluster p → cluster = workloadCluster :=
    fun h => Except.ok.inj (h.cluster.symm.trans hjudged.cluster)
  have hsolving := @solve_solving r application plotters _ _ hjudged
  generalize r.solve application plotters status₀
    (r.served application workloadCluster application.spec.data) = solved at hsolving
  cases hsolving with
  | noneServed hserved =>
    refine .unchanged (fun res' hres' => ?_) fun cluster p h => ?_
    · rw [← Option.some.inj hres']
      exact hstorage
    · obtain rfl := hcluster h
      exact h.served_ne hserved
  | notListed _ hgen =>
    refine .unchanged (fun res' hres' => ?_) fun cluster p h => ?_
    · rw [← Option.some.inj hres']
      exact hstorage
    · cases h.plotterGen.symm.trans hgen
  | @crashed p hgen hadd =>
    refine .unchanged (fun res' hres' => absurd hres' (by simp)) fun cluster p' h => ?_
    obtain rfl := hcluster h
    obtain rfl := Except.ok.inj (hgen.symm.trans h.plotterGen)
    obtain ⟨g, errs, hsome⟩ :=
      PlotterGenerator.exists_addFlows h.noCrash (p.newGeneration application)
    cases hadd.symm.trans hsome
  | @rejected p g status₁ hbuilt hnoted id herr =>
    refine .unchanged (fun res' hres' => ?_) fun cluster p' h => ?_
    · rw [← Option.some.inj hres']
      exact (congrArg Prod.fst (records_analyzeErrors hnoted)).trans hstorage
    · obtain rfl := hcluster h
      obtain rfl := Except.ok.inj (hbuilt.plotterGen.symm.trans h.plotterGen)
      have hfalse := hbuilt.judged.not_error_iff.2 h.denials id
      cases herr.symm.trans hfalse
  | @accepted p g status₁ hbuilt hnoted herr =>
    obtain ⟨res, hdeploy, hres⟩ := hbuilt.deploy_storage plotters
    obtain ⟨msg, hmsg, hiff⟩ := hbuilt.judged.getErrorMessages_eq
    rw [hiff.2 herr] at hmsg
    have hcalls : r.solveCalls application status₀
        (r.served application workloadCluster application.spec.data)
        = p.storageCalls application (r.served application workloadCluster application.spec.data) ++
          r.cleaningCalls status₁ g.provisionedStorage := by
      rw [solveCalls, if_neg fun hempty => hbuilt.served_ne (List.isEmpty_iff.1 hempty)]
      simp only [hbuilt.plotterGen, hbuilt.buildSolution_eq hnoted, hmsg, if_true]
    have hneeded : g.provisionedStorage = r.neededStorage application workloadCluster p :=
      PlotterGenerator.addFlows_provisionedStorage hbuilt.addFlows
    rw [hneeded] at hcalls hres
    rw [hdeploy, hcalls]
    exact .updated (hbuilt.untroubled herr)
      ((congrArg Prod.fst (records_analyzeErrors hnoted)).trans hstorage) hres

/-- The records are updated exactly if a plotter is put together without errors. -/
theorem reconcile_bookkeeping (r : FybrikApplicationReconciler) (application : FybrikApplication)
    (plotters : GoMap NamespacedName Plotter) :
    r.Bookkeeping application (r.reconcile application plotters) (r.reconcileCalls application) := by
  have hinit := congrArg Prod.fst (records_initStatus application.spec.data application.status)
  unfold reconcile reconcileCalls
  by_cases hdata : application.spec.data = []
  · rw [if_pos (List.isEmpty_iff.2 hdata), if_pos (List.isEmpty_iff.2 hdata)]
    refine .unchanged (fun res' hres' => ?_) fun cluster p h => ?_
    · rw [← Option.some.inj hres']
      exact hinit
    · refine h.served_ne ?_
      rw [hdata]
      rfl
  · have hne : ¬ application.spec.data.isEmpty = true := fun hempty =>
      hdata (List.isEmpty_iff.1 hempty)
    rw [if_neg hne, if_neg hne]
    cases hcluster : r.getWorkloadCluster application with
    | error err =>
      refine .unchanged (fun res' hres' => ?_) fun cluster p h => ?_
      · rw [← Option.some.inj hres']
        exact hinit
      · cases h.cluster.symm.trans hcluster
    | ok workloadCluster =>
      obtain ⟨status, hstatus, hjudged⟩ := exists_judged_failures hcluster
      simp only [collectRequirements_eq, hstatus, Option.map_some]
      exact solve_bookkeeping hjudged ((congrArg Prod.fst (records_analyzeErrors hstatus)).trans hinit)

theorem plotterGen_eq_ok (h : r.plotterGen application = .ok p) :
    p.settings = r.settings ∧ p.sha512 = r.sha512 ∧
      p.owner = ⟨application.name, application.namespace⟩ := by
  unfold plotterGen at h
  split at h
  · cases h
  · split at h
    · cases h
    · split at h
      · cases h
      · cases h
        exact ⟨rfl, rfl, rfl⟩

/-- The buckets have the names that belong to their datasets. -/
theorem Untroubled.name_of_needed (h : r.Untroubled application workloadCluster p) {id : String}
    {bucket : ProvisionedBucket}
    (hbucket : (r.neededStorage application workloadCluster p).lookup id = some bucket) :
    bucket.name
      = generateBucketName r.sha512 ⟨application.name, application.namespace⟩ id := by
  obtain ⟨-, hsha512, howner⟩ := plotterGen_eq_ok h.plotterGen
  have hname := PlotterGenerator.name_of_recorded h.noCrash (GoMap.mem_of_lookup_ofList hbucket)
  rw [hname, PlotterGenerator.bucketName, hsha512, howner]

/-- What is created is the resource of a bucket that is needed. -/
theorem Untroubled.needed_of_created (h : r.Untroubled application workloadCluster p)
    {storage : GoMap String ProvisionedBucket} {ref : NamespacedName}
    (href : ref ∈ createdBy (p.storageCalls application
      (r.served application workloadCluster application.spec.data) ++
        r.cleaningCalls status storage)) :
    ∃ id bucket, (r.neededStorage application workloadCluster p).lookup id = some bucket ∧
      ref = ⟨bucket.name, r.settings.systemNamespace⟩ := by
  obtain ⟨hsettings, -, -⟩ := plotterGen_eq_ok h.plotterGen
  obtain ⟨bucket, hmem⟩ := mem_createdBy.1 href
  rcases List.mem_append.1 hmem with hrequested | hcleaned
  · obtain ⟨ib, hib, rfl⟩ := PlotterGenerator.recorded_of_created h.noCrash hrequested
    obtain ⟨bucket, hbucket, hlookup⟩ := GoMap.lookup_setAll_of_mem ∅ ⟨ib, hib, rfl⟩
    refine ⟨ib.1, bucket, hlookup, ?_⟩
    rw [PlotterGenerator.bucketRef, hsettings, PlotterGenerator.name_of_recorded h.noCrash hbucket]
  · obtain ⟨_, hdelete⟩ := delete_of_cleaningCalls hcleaned
    cases hdelete

/-- A resource that is not needed any more is gone after it has been deleted. -/
theorem not_present_of_cleaned {datasets datasets' : Datasets}
    {calls : List (DatasetCall × Option String)} {storage : GoMap String ProvisionedBucket}
    (h : Execution datasets (calls ++ r.cleaningCalls status storage) datasets') {id : String}
    {details : DatasetDetails} (hdetails : status.provisionedStorage.lookup id = some details)
    (hunneeded : storage.lookup id = none)
    (hdeleted : r.provision.deleteDataset ⟨details.datasetRef, r.settings.systemNamespace⟩ = none) :
    ¬ (datasets'.lookup ⟨details.datasetRef, r.settings.systemNamespace⟩).isSome = true := by
  intro hpresent
  obtain ⟨_, -, hcleaning⟩ := h.append_cases
  have hnot := (hcleaning.present_of_deletes (fun _ => delete_of_cleaningCalls) hpresent).2
  rw [← hdeleted] at hnot
  exact hnot (mem_cleaningCalls hdetails hunneeded)

/-- The application `reconcile` is called for has the same name and the same records. -/
theorem application_of_submitted {w w' : World} (h : r.submitted w = some w') :
    ∃ finalizers status, w'.application =
        { w.application with finalizers := finalizers, status := status } ∧
      status.provisionedStorage = w.application.status.provisionedStorage := by
  obtain ⟨w₁, status, haccepted, -, rfl⟩ := exists_accepted_of_submitted h
  obtain ⟨finalizers, hfinalizers⟩ := haccepted.application_eq
  obtain ⟨generation, msg, valid, hstatus⟩ := haccepted.status_eq
  refine ⟨finalizers, status, ?_, by rw [hstatus]⟩
  simp only [World.withStatus, hfinalizers]

/-- A call in which `reconcile` does not return leaves the records as they are. -/
theorem application_of_not_reconciled {w : World} (hnone : r.reconciled w = none) :
    ∃ finalizers status, (r.reconcileRequest w).1.application =
        { w.application with finalizers := finalizers, status := status } ∧
      status.provisionedStorage = w.application.status.provisionedStorage := by
  obtain ⟨finalizers, hfinalizers⟩ := (r.tidied_reconcileFinalizers w).application_eq
  have hcall := r.reconcileRequest_call w
  generalize r.reconcileRequest w = out at hcall
  cases hcall with
  | stopped => exact ⟨finalizers, w.application.status, hfinalizers, rfl⟩
  | @invalid status _ _ hvalidate =>
    obtain ⟨generation, msg, valid, hstatus⟩ :=
      r.validateApplication_eq (r.reconcileFinalizers w).1.application
    rw [hvalidate, hfinalizers] at hstatus
    rcases r.updateStatus_cases (r.reconcileFinalizers w).1 status with ⟨hlost, -⟩ | ⟨hstored, -⟩
    · simp only [hlost]
      exact ⟨finalizers, w.application.status, hfinalizers, rfl⟩
    · simp only [hstored, World.withStatus, hfinalizers]
      exact ⟨finalizers, status, rfl, by rw [hstatus]⟩
  | failed haccepted hneeded hres =>
    exact absurd ((haccepted.reconciled_eq hneeded).trans hres) (by rw [hnone]; simp)
  | generated haccepted hneeded hres =>
    exact absurd ((haccepted.reconciled_eq hneeded).trans hres) (by rw [hnone]; simp)
  | @polled w₁ status status' _ haccepted _ _ hstatus' =>
    obtain ⟨finalizers, hfinalizers⟩ := haccepted.application_eq
    obtain ⟨generation, msg, valid, hstatus⟩ := haccepted.status_eq
    rcases r.finish_cases w₁ status' with ⟨hlost, -⟩ | ⟨ready, hstored, -⟩
    · simp only [hlost, hfinalizers]
      exact ⟨finalizers, w.application.status, rfl, rfl⟩
    · simp only [hstored, World.withStatus, hfinalizers]
      refine ⟨finalizers, _, rfl, ?_⟩
      exact (congrArg Prod.fst (records_checkReadiness hstatus')).trans (by rw [hstatus]; rfl)

end Bookkeeping

end FybrikApplicationReconciler

/-! ## Runs -/

/-- An application, the plotters and the `Dataset` resources.  We remember the resources
that were created for the application. -/
structure StorageWorld extends World where
  datasets : Datasets
  created : List NamespacedName

namespace StorageWorld

/-- Every resource created for the application that is still there is recorded, and will be
deleted with the application. -/
def Accounted (settings : Settings) (s : StorageWorld) : Prop :=
  ∀ ref ∈ s.created, (s.datasets.lookup ref).isSome = true →
    ref ∈ recordedDatasets settings s.application.status

/-- The controller is called. -/
def reconcile (s : StorageWorld) (r : FybrikApplicationReconciler) (datasets : Datasets) :
    StorageWorld :=
  { toWorld := (r.reconcileRequest s.toWorld).1
    datasets := datasets
    created := s.created ++ createdBy (r.datasetCalls s.toWorld) }

/-- A call of the controller keeps account of the storage: if it creates resources that are
not recorded yet, no dataset has an error; and if the records are updated, the resources
that are not needed any more can be deleted, unless they are gone. -/
structure KeepsAccount (r : FybrikApplicationReconciler) (s : StorageWorld) : Prop where
  creates : ∀ w, r.submitted s.toWorld = some w → ∀ ref ∈ createdBy (r.datasetCalls s.toWorld),
    ref ∉ recordedDatasets r.settings s.application.status →
      ∃ workloadCluster p, r.Untroubled w.application workloadCluster p
  deletes : ∀ w, r.submitted s.toWorld = some w → ∀ workloadCluster p,
    r.Untroubled w.application workloadCluster p → ∀ id details,
      s.application.status.provisionedStorage.lookup id = some details →
      (r.neededStorage w.application workloadCluster p).lookup id = none →
      r.provision.deleteDataset ⟨details.datasetRef, r.settings.systemNamespace⟩ = none ∨
        s.datasets.lookup ⟨details.datasetRef, r.settings.systemNamespace⟩ = none

/-- The application has just been created. -/
structure Created (s : StorageWorld) : Prop where
  status : s.application.status = default
  created : s.created = []

/-- One step in the life of an application: its specification is edited, or it is to be
deleted; the plotters change, and so do the resources, but none of those created for the
application comes into being; or the controller is called, and stores the status.  The
answers of the services during this call are subject to a condition. -/
inductive StorageStep (settings : Settings) (sha512 : Sha512)
    (ok : FybrikApplicationReconciler → StorageWorld → Prop) : StorageWorld → StorageWorld → Prop
  | edit {s : StorageWorld} {spec : FybrikApplicationSpec} (hspec : spec ≠ s.application.spec) :
      StorageStep settings sha512 ok s { s with
        application := { s.application with
          spec := spec
          generation := s.application.generation + 1 } }
  | delete {s : StorageWorld} :
      StorageStep settings sha512 ok s { s with
        application := { s.application with beingDeleted := true } }
  | others {s : StorageWorld} {plotters : GoMap NamespacedName Plotter} {datasets : Datasets}
      (hdatasets : ∀ ref ∈ s.created, (datasets.lookup ref).isSome = true →
        (s.datasets.lookup ref).isSome = true) :
      StorageStep settings sha512 ok s { s with plotters := plotters, datasets := datasets }
  | reconcile {s : StorageWorld} {datasets : Datasets} (r : FybrikApplicationReconciler)
      (hsettings : r.settings = settings) (hsha512 : r.sha512 = sha512)
      (hstatus : r.api.updateStatus = none)
      (hcalls : Execution s.datasets (r.datasetCalls s.toWorld) datasets) (hok : ok r s) :
      StorageStep settings sha512 ok s (s.reconcile r datasets)

/-- What the controller maintains: the records are those of the buckets of datasets, and no
storage is forgotten. -/
structure Accounts (settings : Settings) (sha512 : Sha512) (s : StorageWorld) : Prop where
  named : ∀ id details, s.application.status.provisionedStorage.lookup id = some details →
    details.datasetRef
      = generateBucketName sha512 ⟨s.application.name, s.application.namespace⟩ id
  accounted : s.Accounted settings

variable {settings : Settings} {sha512 : Sha512} {s : StorageWorld} {datasets : Datasets}
  {r : FybrikApplicationReconciler}

theorem Created.accounts (h : Created s) : Accounts settings sha512 s := by
  refine ⟨fun id details hdetails => ?_, fun ref href => ?_⟩
  · rw [h.status] at hdetails
    exact absurd hdetails (Option.some_ne_none details).symm
  · rw [h.created] at href
    cases href

/-- A resource that is there after a call was there before, or has been created. -/
theorem present_cases (hcalls : Execution s.datasets (r.datasetCalls s.toWorld) datasets)
    {ref : NamespacedName} (href : ref ∈ (s.reconcile r datasets).created)
    (hpresent : (datasets.lookup ref).isSome = true) :
    (ref ∈ s.created ∧ (s.datasets.lookup ref).isSome = true) ∨
      ref ∈ createdBy (r.datasetCalls s.toWorld) := by
  rcases List.mem_append.1 href with hbefore | hnow
  · exact (hcalls.created_of_present hpresent).imp_left fun h => ⟨hbefore, h⟩
  · exact Or.inr hnow

/-- The records stay as they are, and account for what has been created. -/
theorem Accounts.unchanged (h : Accounts settings sha512 s)
    (hcalls : Execution s.datasets (r.datasetCalls s.toWorld) datasets)
    (hcreated : ∀ ref ∈ createdBy (r.datasetCalls s.toWorld),
      ref ∈ recordedDatasets settings s.application.status)
    {finalizers : List String} {status : FybrikApplicationStatus}
    (happlication : (r.reconcileRequest s.toWorld).1.application =
      { s.application with finalizers := finalizers, status := status })
    (hstorage : status.provisionedStorage = s.application.status.provisionedStorage) :
    Accounts settings sha512 (s.reconcile r datasets) := by
  have hrecorded : recordedDatasets settings (s.reconcile r datasets).application.status
      = recordedDatasets settings s.application.status := by
    simp only [reconcile, happlication, recordedDatasets, hstorage]
  refine ⟨?_, fun ref href hpresent => ?_⟩
  · simp only [reconcile, happlication, hstorage]
    exact h.named
  · rw [hrecorded]
    rcases present_cases hcalls href hpresent with ⟨hbefore, hpresent⟩ | hnow
    · exact h.accounted ref hbefore hpresent
    · exact hcreated ref hnow

theorem createdBy_finalizerCalls {calls : List (DatasetCall × Option String)} {ref : NamespacedName}
    (h : ref ∈ createdBy (r.finalizerCalls s.toWorld ++ calls)) : ref ∈ createdBy calls := by
  rw [mem_createdBy] at h ⊢
  obtain ⟨bucket, hmem⟩ := h
  rcases List.mem_append.1 hmem with hmem | hmem
  · unfold FybrikApplicationReconciler.finalizerCalls at hmem
    split at hmem
    · obtain ⟨ref', -, heq⟩ := List.mem_map.1 hmem
      exact absurd (Prod.mk.inj heq).1 (by simp)
    · cases hmem
  · exact ⟨bucket, hmem⟩

/-- The records are updated: they account for all resources that are not deleted. -/
theorem Accounts.updated (h : Accounts r.settings r.sha512 s) {w : World}
    (hsubmitted : r.submitted s.toWorld = some w) {workloadCluster : Cluster}
    {p : PlotterGenerator} (huntroubled : r.Untroubled w.application workloadCluster p)
    {status : FybrikApplicationStatus}
    (hstatus : status.provisionedStorage = s.application.status.provisionedStorage)
    (hcalls : Execution s.datasets (r.datasetCalls s.toWorld) datasets)
    (hdatasetCalls : r.datasetCalls s.toWorld = r.finalizerCalls s.toWorld ++
      (p.storageCalls w.application
        (r.served w.application workloadCluster w.application.spec.data) ++
        r.cleaningCalls status (r.neededStorage w.application workloadCluster p)))
    (hok : KeepsAccount r s) {finalizers : List String} {status' : FybrikApplicationStatus}
    (happlication : (r.reconcileRequest s.toWorld).1.application =
      { s.application with finalizers := finalizers, status := status' })
    (hstatus' : status'.provisionedStorage = (r.updateProvisionedStorageStatus status
      (r.neededStorage w.application workloadCluster p)).1.provisionedStorage) :
    Accounts r.settings r.sha512 (s.reconcile r datasets) := by
  have hlookup : ∀ id, status'.provisionedStorage.lookup id
      = ((r.neededStorage w.application workloadCluster p).lookup id).map fun bucket =>
          ⟨bucket.name, bucket.secretRef.name⟩ := by
    intro id
    rw [hstatus', lookup_updateProvisionedStorageStatus]
  have hname : ∀ id bucket,
      (r.neededStorage w.application workloadCluster p).lookup id = some bucket → bucket.name
        = generateBucketName r.sha512 ⟨s.application.name, s.application.namespace⟩ id := by
    intro id bucket hbucket
    obtain ⟨_, _, hw, -⟩ := FybrikApplicationReconciler.application_of_submitted hsubmitted
    rw [huntroubled.name_of_needed hbucket, hw]
  have hrecorded : ∀ id bucket,
      (r.neededStorage w.application workloadCluster p).lookup id = some bucket →
      (⟨bucket.name, r.settings.systemNamespace⟩ : NamespacedName) ∈
        recordedDatasets r.settings status' := by
    intro id bucket hbucket
    exact mem_recordedDatasets.2 ⟨id, _, by rw [hlookup, hbucket]; rfl, rfl⟩
  refine ⟨?_, fun ref href hpresent => ?_⟩
  · simp only [reconcile, happlication]
    intro id details hdetails
    rw [hlookup] at hdetails
    obtain ⟨bucket, hbucket, rfl⟩ := Option.map_eq_some_iff.1 hdetails
    exact hname id bucket hbucket
  · simp only [reconcile, happlication]
    rcases present_cases hcalls href hpresent with ⟨hbefore, hpresent₀⟩ | hnow
    · obtain ⟨id, details, hdetails, rfl⟩ :=
        mem_recordedDatasets.1 (h.accounted ref hbefore hpresent₀)
      cases hneeded : (r.neededStorage w.application workloadCluster p).lookup id with
      | some bucket =>
        rw [h.named id details hdetails, ← hname id bucket hneeded]
        exact hrecorded id bucket hneeded
      | none =>
        -- the resource was to be deleted, and has been, or was gone before
        rcases hok.deletes w hsubmitted _ _ huntroubled id details hdetails hneeded with
          hdeleted | hgone
        · rw [hdatasetCalls, ← List.append_assoc] at hcalls
          rw [← hstatus] at hdetails
          exact absurd hpresent
            (FybrikApplicationReconciler.not_present_of_cleaned hcalls hdetails hneeded hdeleted)
        · rw [hgone] at hpresent₀
          cases hpresent₀
    · rw [hdatasetCalls] at hnow
      obtain ⟨id, bucket, hbucket, rfl⟩ :=
        huntroubled.needed_of_created (createdBy_finalizerCalls hnow)
      exact hrecorded id bucket hbucket

/-- A call of the controller that keeps account of the storage. -/
theorem Accounts.reconcile (h : Accounts settings sha512 s) (hsettings : r.settings = settings)
    (hsha512 : r.sha512 = sha512) (hstatus : r.api.updateStatus = none)
    (hcalls : Execution s.datasets (r.datasetCalls s.toWorld) datasets) (hok : KeepsAccount r s) :
    Accounts settings sha512 (s.reconcile r datasets) := by
  subst hsettings hsha512
  cases hsubmitted : r.submitted s.toWorld with
  | none =>
    have hnone : r.reconciled s.toWorld = none := by
      rw [FybrikApplicationReconciler.reconciled, hsubmitted]
      rfl
    obtain ⟨finalizers, status, happlication, hstorage⟩ :=
      FybrikApplicationReconciler.application_of_not_reconciled hnone
    refine h.unchanged hcalls (fun ref href => ?_) happlication hstorage
    rw [FybrikApplicationReconciler.datasetCalls, hsubmitted] at href
    exact absurd (createdBy_finalizerCalls href) List.not_mem_nil
  | some w =>
    have hreconciled : r.reconciled s.toWorld = r.reconcile w.application w.plotters := by
      rw [FybrikApplicationReconciler.reconciled, hsubmitted]
      rfl
    have hdatasetCalls : r.datasetCalls s.toWorld
        = r.finalizerCalls s.toWorld ++ r.reconcileCalls w.application := by
      rw [FybrikApplicationReconciler.datasetCalls, hsubmitted]
    obtain ⟨_, _, hw, hrecords⟩ := FybrikApplicationReconciler.application_of_submitted hsubmitted
    have hrecords : w.application.status.provisionedStorage
        = s.application.status.provisionedStorage := by
      rw [hw]
      exact hrecords
    have hbookkeeping := r.reconcile_bookkeeping w.application w.plotters
    generalize r.reconcile w.application w.plotters = res at hbookkeeping hreconciled
    generalize r.reconcileCalls w.application = calls at hbookkeeping hdatasetCalls
    cases hbookkeeping with
    | unchanged hres htroubled =>
      have hcreated : ∀ ref ∈ createdBy (r.datasetCalls s.toWorld),
          ref ∈ recordedDatasets r.settings s.application.status := by
        intro ref href
        by_contra hnot
        obtain ⟨_, _, huntroubled⟩ := hok.creates w hsubmitted ref href hnot
        exact htroubled _ _ huntroubled
      cases res with
      | none =>
        obtain ⟨finalizers, status, happlication, hstorage⟩ :=
          FybrikApplicationReconciler.application_of_not_reconciled hreconciled
        exact h.unchanged hcalls hcreated happlication hstorage
      | some res =>
        obtain ⟨finalizers, ready, generation, happlication⟩ :=
          FybrikApplicationReconciler.application_of_reconciled hreconciled hstatus
        exact h.unchanged hcalls hcreated happlication ((hres res rfl).trans hrecords)
    | updated huntroubled hsame hres =>
      obtain ⟨finalizers, ready, generation, happlication⟩ :=
        FybrikApplicationReconciler.application_of_reconciled hreconciled hstatus
      exact h.updated hsubmitted huntroubled (hsame.trans hrecords) hcalls hdatasetCalls hok
        happlication hres

theorem Accounts.step (h : Accounts settings sha512 s) {s' : StorageWorld}
    (hstep : StorageStep settings sha512 KeepsAccount s s') : Accounts settings sha512 s' := by
  cases hstep with
  | edit => exact ⟨h.named, h.accounted⟩
  | delete => exact ⟨h.named, h.accounted⟩
  | others hdatasets =>
    exact ⟨h.named, fun ref href hpresent => h.accounted ref href (hdatasets ref href hpresent)⟩
  | reconcile r hsettings hsha512 hstatus hcalls hok =>
    exact h.reconcile hsettings hsha512 hstatus hcalls hok

/-- In a run in which every call of the controller keeps account of the storage, every
resource created for the application that is still there is recorded. -/
theorem run_accounted (settings : Settings) (sha512 : Sha512) (s₀ s : StorageWorld)
    (hcreated : Created s₀)
    (hrun : Relation.ReflTransGen (StorageStep settings sha512 KeepsAccount) s₀ s) :
    s.Accounted settings := by
  have haccounts : Accounts settings sha512 s := by
    induction hrun with
    | refl => exact hcreated.accounts
    | tail _ hstep ih => exact ih.step hstep
  exact haccounts.accounted

/-! ### A notebook that reads a table -/

/-- A reconciler with a module that copies tables to an object store and a module that
serves the copy.  The dataset `xxx` is a table, the others are message queues. -/
def tableReconciler : FybrikApplicationReconciler :=
  { notebookReconciler with
    settings := PlotterGenerator.copyGenerator.settings
    modules := .ok PlotterGenerator.copyGenerator.modules
    dataCatalog := ⟨fun request _ => .ok
      { (default : GetAssetResponse) with
        details := if request.assetID = "xxx" then ⟨⟨"db2", ∅⟩, "table"⟩
          else ⟨⟨"kafka", ∅⟩, "json"⟩ }⟩
    policyManager := PlotterGenerator.copyGenerator.policyManager
    storageAccounts := PlotterGenerator.copyGenerator.storageAccounts
    templateEngine := PlotterGenerator.copyGenerator.templateEngine
    sha512 := sampleSha512 }

/-- A notebook for some datasets has been created. -/
def tableNotebook (datasetIDs : List String) : StorageWorld :=
  { application := { notebookWorld.application with spec := notebookSpec datasetIDs }
    plotters := ∅
    datasets := ∅
    created := [] }

/-- The `Dataset` for the copy of the table. -/
def tableDataset : NamespacedName × ProvisionedBucket :=
  (⟨"notebook-default9057ff1aa9", "fybrik-system"⟩,
    ⟨"notebook-default9057ff1aa9", "http://theshire.storage", ⟨"credentials", "fybrik-system"⟩⟩)

/-- The controller creates a resource for the copy of the table. -/
theorem step_tableNotebook {ok : FybrikApplicationReconciler → StorageWorld → Prop}
    {datasetIDs : List String}
    (hcalls : tableReconciler.datasetCalls (tableNotebook datasetIDs).toWorld
      = [(.create tableDataset.1 tableDataset.2, none)])
    (hok : ok tableReconciler (tableNotebook datasetIDs)) :
    ∃ s, StorageStep tableReconciler.settings sampleSha512 ok (tableNotebook datasetIDs) s ∧
      s.toWorld = (tableReconciler.reconcileRequest (tableNotebook datasetIDs).toWorld).1 ∧
      s.created = [tableDataset.1] ∧ s.datasets = GoMap.ofList [tableDataset] := by
  refine ⟨(tableNotebook datasetIDs).reconcile tableReconciler (GoMap.ofList [tableDataset]),
    .reconcile tableReconciler rfl rfl rfl ?_ hok, rfl, ?_, rfl⟩
  · rw [hcalls]
    exact .cons FybrikApplicationReconciler.undisturbedProvision rfl .nil
  · rw [reconcile, hcalls]
    rfl

/-- If the notebook only reads the table, the storage is recorded. -/
theorem tableNotebook_accounted :
    ∃ s, Relation.ReflTransGen (StorageStep tableReconciler.settings sampleSha512 KeepsAccount)
        (tableNotebook ["xxx"]) s ∧
      s.created = [tableDataset.1] ∧ s.datasets = GoMap.ofList [tableDataset] ∧
      s.Accounted tableReconciler.settings := by
  have hsubmitted : ∃ w, tableReconciler.submitted (tableNotebook ["xxx"]).toWorld = some w ∧
      ∃ cluster p, tableReconciler.Untroubled w.application cluster p := by
    refine ⟨_, rfl, _, _, rfl, ?_, rfl, ?_, ?_⟩
    · decide +kernel
    · decide +kernel
    · decide +kernel
  have hok : KeepsAccount tableReconciler (tableNotebook ["xxx"]) := by
    refine ⟨fun w hw _ _ _ => ?_, fun _ _ _ _ _ id details hdetails => ?_⟩
    · obtain ⟨w', hw', huntroubled⟩ := hsubmitted
      rw [← Option.some.inj (hw'.symm.trans hw)]
      exact huntroubled
    · exact absurd hdetails (Option.some_ne_none details).symm
  obtain ⟨s, hstep, -, hcreated, hdatasets⟩ := step_tableNotebook (by decide +kernel) hok
  exact ⟨s, .single hstep, hcreated, hdatasets,
    run_accounted _ sampleSha512 _ _ ⟨rfl, rfl⟩ (.single hstep)⟩

/-- If the notebook also reads a message queue, for which there is no module, nothing is
recorded, and the storage for the table is forgotten. -/
theorem tableNotebook_not_accounted :
    Created (tableNotebook ["xxx", "yyy"]) ∧
    ∃ s, Relation.ReflTransGen
        (StorageStep tableReconciler.settings sampleSha512 fun _ _ => True)
        (tableNotebook ["xxx", "yyy"]) s ∧
      ¬ s.Accounted tableReconciler.settings := by
  obtain ⟨s, hstep, hworld, hcreated, hdatasets⟩ :=
    @step_tableNotebook (fun _ _ => True) ["xxx", "yyy"] (by decide +kernel) trivial
  refine ⟨⟨rfl, rfl⟩, s, .single hstep, fun haccounted => ?_⟩
  have hrecorded := haccounted tableDataset.1 (by rw [hcreated]; exact List.mem_cons_self)
    (by rw [hdatasets]; rfl)
  rw [hworld] at hrecorded
  exact absurd hrecorded (by decide +kernel)

end StorageWorld

end Fybrik
