import Fybrik.Application.Reconcile

/-!
# The controller of applications

The rest of `fybrikapplication_controller.go`: what happens to the application and
its plotter when the controller is called.

* `World` — what the API server stores: the application and the plotters.
* `reconcileFinalizers`, `checkReadiness` — as in the source.
* `reconcileRequest` — the method `Reconcile`: the world it leaves behind, and how
  it ends.
* `ApiSucceeds` — no call to the API server fails.
* `reconcileFinalizers_course`, `validateApplication_sameDenials`,
  `checkReadiness_sameDenials`, `finish_world` — what the parts of a call can do.
-/

namespace Fybrik

/-- What the API server stores: an application and the plotters. -/
structure World where
  application : FybrikApplication
  plotters : GoMap NamespacedName Plotter
  deriving DecidableEq

/-- The status of the application is replaced. -/
def World.withStatus (w : World) (status : FybrikApplicationStatus) : World :=
  { w with application := { w.application with status := status } }

/-- How a call of the controller ends. -/
inductive Outcome where
  | done (requeue : Bool)
  | failed (err : String)
  | crashed
  deriving DecidableEq

variable (plotters : GoMap NamespacedName Plotter)

/-- A plotter is stored.  One that is being deleted is gone once it has no finalizers. -/
def storePlotter (key : NamespacedName) (plotter : Plotter) : GoMap NamespacedName Plotter :=
  if plotter.beingDeleted && plotter.finalizers.isEmpty then plotters.delete key
  else plotters.set key plotter

theorem storePlotter_of_alive {plotters : GoMap NamespacedName Plotter} {key : NamespacedName}
    {plotter : Plotter} (h : plotter.beingDeleted = false) :
    storePlotter plotters key plotter = plotters.set key plotter := by
  simp [storePlotter, h]

theorem lookup_storePlotter (key : NamespacedName) (plotter : Plotter) :
    (storePlotter plotters key plotter).lookup key = none ∨
      (storePlotter plotters key plotter).lookup key = some plotter := by
  unfold storePlotter
  split
  · exact Or.inl (AList.lookup_erase _ _)
  · exact Or.inr (AList.lookup_insert _)

theorem lookup_storePlotter_ne {plotters : GoMap NamespacedName Plotter}
    {key key' : NamespacedName} (h : key' ≠ key) (plotter : Plotter) :
    (storePlotter plotters key plotter).lookup key' = plotters.lookup key' := by
  unfold storePlotter
  split
  · exact AList.lookup_erase_ne h
  · exact AList.lookup_insert_ne h

/-- The error for a plotter that is not there. -/
def plotterNotFound (ref : ResourceReference) : String :=
  "plotters.app.fybrik.io \"" ++ ref.name ++ "\" not found"

/-- The plotter is ready, and there is no error. -/
def ObservedState.Serving (observed : ObservedState) : Prop :=
  observed.ready = true ∧ observed.error = ""

/-- `RegisterAsset`. -/
def registerAsset (_catalogID : String) (_info : DatasetDetails) : Except String String :=
  .error "Unsupported feature"

namespace FybrikApplicationReconciler

variable (r : FybrikApplicationReconciler)

/-! ## The generated plotter -/

variable (plotters : GoMap NamespacedName Plotter)

/-- `ResourceExists`. -/
def resourceExists (ref : Option ResourceReference) : Bool :=
  match ref with
  | none => false
  | some ref => ref.namespace != "" && r.api.readPlotter.isNone &&
      (plotters.lookup ref.namespacedName).isSome

/-- `GetResourceStatus`. -/
def getResourceStatus (ref : Option ResourceReference) : Except String ObservedState :=
  match ref with
  | none => .ok default
  | some ref =>
    if ref.namespace = "" then .ok default
    else
      match r.api.readPlotter, plotters.lookup ref.namespacedName with
      | some err, _ => .error err
      | none, some plotter => .ok plotter.observedState
      | none, none => .error (plotterNotFound ref)

/-- `DeleteResource`: the plotters, and the error.  A plotter with finalizers is only marked. -/
def deleteResource (ref : ResourceReference) : GoMap NamespacedName Plotter × Option String :=
  match r.api.deletePlotter, plotters.lookup ref.namespacedName with
  | some err, _ => (plotters, some err)
  | none, some plotter =>
    (storePlotter plotters ref.namespacedName { plotter with beingDeleted := true }, none)
  | none, none => (plotters, some (plotterNotFound ref))

/-! ## Finalizers -/

/-- `deleteExternalResources`: the plotters, and the error.  What it does to the
status is not stored, and is lost when the finalizers are updated. -/
def deleteExternalResources (status : FybrikApplicationStatus)
    (plotters : GoMap NamespacedName Plotter) : GoMap NamespacedName Plotter × Option String :=
  let errMsgs := status.provisionedStorage.pairs.filterMap fun p =>
    r.provision.deleteDataset ⟨p.2.datasetRef, r.settings.systemNamespace⟩
  if !errMsgs.isEmpty then (plotters, some (";".intercalate errMsgs))
  else
    match status.generated with
    | none => (plotters, none)
    | some ref => r.deleteResource plotters ref

variable (w : World)

/-- `UpdateFinalizers`. -/
def updateFinalizers (finalizers : List String) : World × Option String :=
  match r.api.updateFinalizers with
  | some err => (w, some err)
  | none => ({ w with application := { w.application with finalizers := finalizers } }, none)

/-- The name of the finalizer. -/
def finalizerName : String := r.name ++ ".finalizer"

/-- `reconcileFinalizers`. -/
def reconcileFinalizers : World × Option String :=
  let hasFinalizer := w.application.finalizers.contains r.finalizerName
  if w.application.beingDeleted || w.application.spec.data.isEmpty then
    if hasFinalizer then
      match r.deleteExternalResources w.application.status w.plotters with
      | (plotters, some err) => ({ w with plotters := plotters }, some err)
      | (plotters, none) => r.updateFinalizers { w with plotters := plotters }
          (w.application.finalizers.filter fun f => f != r.finalizerName)
    else (w, none)
  else if hasFinalizer then (w, none)
  else r.updateFinalizers w (w.application.finalizers ++ [r.finalizerName])

/-! ## Readiness -/

/-- The turn of the loop of `checkReadiness` for one dataset. -/
def checkAsset (observed : ObservedState) (status : FybrikApplicationStatus)
    (dataCtx : DataContext) : Option FybrikApplicationStatus :=
  let assetID := dataCtx.dataSetID
  match (status.assetStates.get assetID).conditions[denyConditionIndex]? with
  | none => none
  | some deny =>
    -- a denied asset does not appear in the plotter
    if deny.status = .conditionTrue then some status
    else if observed.error ≠ "" then setErrorCondition status assetID observed.error
    else if !observed.ready then some status
    else if dataCtx.requirements.copy.catalogID ≠ "" then
      if (status.assetStates.get assetID).catalogedAsset ≠ "" then some status
      else
        match status.provisionedStorage.lookup assetID with
        | none => setErrorCondition status assetID
            ("No copy has been created for the asset " ++ assetID ++ " required to be registered")
        | some bucket =>
          match r.provision.setPersistent ⟨bucket.datasetRef, r.settings.systemNamespace⟩ true with
          | some err => setErrorCondition status assetID err
          | none =>
            match registerAsset dataCtx.requirements.copy.catalogID bucket with
            | .error err => setErrorCondition status assetID err
            | .ok newAssetID =>
              let state := { status.assetStates.get assetID with catalogedAsset := newAssetID }
              setReadyCondition { status with
                assetStates := status.assetStates.set assetID state } assetID
    else setReadyCondition status assetID

/-- `checkReadiness`.  An empty map of states is not stored. -/
def checkReadiness (data : List DataContext) (status : FybrikApplicationStatus)
    (observed : ObservedState) : Option FybrikApplicationStatus :=
  data.foldlM (r.checkAsset observed)
    (if status.assetStates.pairs.isEmpty then initStatus data status else status)

/-! ## Reconcile -/

/-- `UpdateStatus`. -/
def updateStatus (status : FybrikApplicationStatus) : World × Option String :=
  match r.api.updateStatus with
  | some err => (w, some err)
  | none => (w.withStatus status, none)

/-- The validation of an application that has changed, if it is not done by a
webhook: the status, and the error. -/
def validateApplication (application : FybrikApplication) :
    FybrikApplicationStatus × Option String :=
  let status := application.status
  if !r.settings.webhooksEnabled && (status.validApplication == .unset ||
      status.validatedGeneration != application.generation) then
    match r.taxonomy.validateFybrikApplication application with
    | some err => ({ status with
        validatedGeneration := application.generation, errorMessage := err
        validApplication := .conditionFalse }, some err)
    | none => ({ status with
        validatedGeneration := application.generation, validApplication := .conditionTrue }, none)
  else (status, none)

/-- The last part of `Reconcile`: readiness is determined and the status stored. -/
def finish (status : FybrikApplicationStatus) : World × Outcome :=
  match isReady w.application.spec.data status with
  | none => (w, .crashed)
  | some ready =>
    match r.updateStatus w { status with ready := ready } with
    | (w, some err) => (w, .failed err)
    | (w, none) =>
      match getErrorMessages { status with ready := ready } with
      | none => (w, .crashed)
      | some _ => (w, .done (!ready))

/-- The plotter has been generated for the current generation of the application. -/
def generationComplete : Bool :=
  r.resourceExists w.plotters w.application.status.generated &&
    (w.application.status.generated.map ResourceReference.appVersion
      == some w.application.generation)

/-- What `Reconcile` does with a valid application, whose status is `status`. -/
def processApplication (status : FybrikApplicationStatus) : World × Outcome :=
  if !r.generationComplete w ||
      w.application.status.observedGeneration != w.application.generation then
    match r.reconcile { w.application with status := status } w.plotters with
    | none => (w, .crashed)
    | some res =>
      match res.err with
      | some err => ((r.updateStatus { w with plotters := res.plotters } res.status).1, .failed err)
      | none => r.finish { w with plotters := res.plotters }
          { res.status with observedGeneration := w.application.generation }
  else
    match r.getResourceStatus w.plotters status.generated with
    | .error err => (w, .failed err)
    | .ok observed =>
      match r.checkReadiness w.application.spec.data status observed with
      | none => (w, .crashed)
      | some status => r.finish w status

/-- `Reconcile`, after the finalizers. -/
def reconcileApplication : World × Outcome :=
  match r.validateApplication w.application with
  | (status, some _) =>
    match r.updateStatus w status with
    | (w, some err) => (w, .failed err)
    | (w, none) => (w, .done false)
  | (status, none) =>
    if status.validApplication = .conditionFalse then (w, .done false)
    else r.processApplication w status

/-- `Reconcile`. -/
def reconcileRequest : World × Outcome :=
  match r.reconcileFinalizers w with
  | (w, some err) => (w, .failed err)
  | (w, none) =>
    if w.application.beingDeleted then (w, .done false)
    else r.reconcileApplication w

/-! ## What the parts do -/

/-- No call to the API server fails: reading and writing the application and its
plotter, listing the other resources, and requesting and removing storage. -/
structure ApiSucceeds : Prop where
  readPlotter : r.api.readPlotter = none
  writePlotter : r.api.writePlotter = none
  deletePlotter : r.api.deletePlotter = none
  updateFinalizers : r.api.updateFinalizers = none
  updateStatus : r.api.updateStatus = none
  modules : ∃ modules, r.modules = .ok modules
  storageAccounts : ∃ accounts, r.storageAccounts = .ok accounts
  clusters : ∃ clusters, r.clusters = .ok clusters
  localClusters : ∃ clusters, r.localClusters = .ok clusters
  createDataset : ∀ ref bucket owner, r.provision.createDataset ref bucket owner = none
  deleteDataset : ∀ ref, r.provision.deleteDataset ref = none

/-- What becomes of the finalizers: the clean-up fails and nothing changes, the
plotter is deleted, there is nothing to clean up, or the finalizer is there. -/
inductive Finalized (w : World) : World × Option String → Prop
  | failed {err : String} : Finalized w (w, some err)
  | cleaned {finalizers : List String} {plotters : GoMap NamespacedName Plotter}
      (hempty : w.application.beingDeleted = true ∨ w.application.spec.data = [])
      (hplotters : ∀ ref, w.application.status.generated = some ref →
        ∃ plotter, w.plotters.lookup ref.namespacedName = some plotter ∧ plotters =
          storePlotter w.plotters ref.namespacedName { plotter with beingDeleted := true })
      (hnone : w.application.status.generated = none → plotters = w.plotters) :
      Finalized w (⟨{ w.application with finalizers := finalizers }, plotters⟩, none)
  | nothing (hempty : w.application.beingDeleted = true ∨ w.application.spec.data = [])
      (hfinalizer : r.finalizerName ∉ w.application.finalizers) : Finalized w (w, none)
  | kept {finalizers : List String} (hdata : w.application.spec.data ≠ [])
      (hfinalizer : r.finalizerName ∈ finalizers) :
      Finalized w (⟨{ w.application with finalizers := finalizers }, w.plotters⟩, none)

variable {r}

theorem reconcileFinalizers_course (hr : r.ApiSucceeds) (w : World) :
    r.Finalized w (r.reconcileFinalizers w) := by
  unfold reconcileFinalizers
  by_cases hempty : (w.application.beingDeleted || w.application.spec.data.isEmpty) = true
  · rw [if_pos hempty]
    rw [Bool.or_eq_true, List.isEmpty_iff] at hempty
    by_cases hfinalizer : w.application.finalizers.contains r.finalizerName = true
    · have herrs : w.application.status.provisionedStorage.pairs.filterMap (fun p =>
          r.provision.deleteDataset ⟨p.2.datasetRef, r.settings.systemNamespace⟩) = [] := by
        simp [hr.deleteDataset]
      rw [if_pos hfinalizer, deleteExternalResources, herrs]
      cases hgenerated : w.application.status.generated with
      | none =>
        simp only [List.isEmpty_nil, updateFinalizers, hr.updateFinalizers]
        exact .cleaned hempty (fun ref href => absurd (hgenerated.symm.trans href) (by simp))
          fun _ => rfl
      | some ref =>
        simp only [List.isEmpty_nil, deleteResource, hr.deletePlotter]
        cases hlookup : w.plotters.lookup ref.namespacedName with
        | none => exact .failed
        | some plotter =>
          simp only [updateFinalizers, hr.updateFinalizers]
          refine .cleaned hempty (fun ref' href' => ?_)
            fun hnone => absurd (hgenerated.symm.trans hnone) (by simp)
          obtain rfl := Option.some.inj (hgenerated.symm.trans href')
          exact ⟨plotter, hlookup, rfl⟩
    · rw [if_neg hfinalizer]
      exact .nothing hempty (by simpa using hfinalizer)
  · rw [if_neg hempty]
    rw [Bool.or_eq_true, List.isEmpty_iff, not_or] at hempty
    by_cases hfinalizer : w.application.finalizers.contains r.finalizerName = true
    · rw [if_pos hfinalizer]
      exact @Finalized.kept r w w.application.finalizers hempty.2 (by simpa using hfinalizer)
    · rw [if_neg hfinalizer, updateFinalizers, hr.updateFinalizers]
      exact .kept hempty.2 (by simp)

/-- The conditions of a dataset that are made true when the plotter has been looked at.
No dataset is ever registered in a catalog. -/
inductive Checked (observed : ObservedState) (dataCtx : DataContext)
    (status : FybrikApplicationStatus) : List (ℕ × String) → Prop
  | denied (h : status.isTrue denyConditionIndex dataCtx.dataSetID = true) :
      Checked observed dataCtx status []
  | failed (hadmitted : status.isTrue denyConditionIndex dataCtx.dataSetID = false)
      (h : observed.error ≠ "") :
      Checked observed dataCtx status [(errorConditionIndex, dataCtx.dataSetID)]
  | waiting (hadmitted : status.isTrue denyConditionIndex dataCtx.dataSetID = false)
      (herror : observed.error = "") (h : observed.ready = false) :
      Checked observed dataCtx status []
  | cataloged (hserving : observed.Serving) (h : dataCtx.requirements.copy.catalogID ≠ "") :
      Checked observed dataCtx status []
  | notCataloged (hserving : observed.Serving) (h : dataCtx.requirements.copy.catalogID ≠ "") :
      Checked observed dataCtx status [(errorConditionIndex, dataCtx.dataSetID)]
  | ready (hadmitted : status.isTrue denyConditionIndex dataCtx.dataSetID = false)
      (hserving : observed.Serving) (h : dataCtx.requirements.copy.catalogID = "") :
      Checked observed dataCtx status [(readyConditionIndex, dataCtx.dataSetID)]

variable {observed : ObservedState} {status status' : FybrikApplicationStatus}

theorem checkAsset_marked {dataCtx : DataContext}
    (h : r.checkAsset observed status dataCtx = some status') :
    ∃ marks, Checked observed dataCtx status marks ∧ Marked marks status status' := by
  have herror : ∀ msg, setErrorCondition status dataCtx.dataSetID msg = some status' →
      Marked [(errorConditionIndex, dataCtx.dataSetID)] status status' := fun msg hset =>
    updateCondition_marked hset fun _ => rfl
  have hsame : some status = some status' → Marked [] status status' := fun hstatus => by
    rw [Option.some.inj hstatus]
    exact Marked.refl status'
  unfold checkAsset at h
  dsimp only at h
  split at h
  · cases h
  · rename_i deny hdeny
    split at h
    · rename_i htrue
      refine ⟨_, .denied ?_, hsame h⟩
      rw [FybrikApplicationStatus.isTrue, hdeny, Option.map_some, htrue]
      rfl
    · rename_i hfalse
      have hadmitted : status.isTrue denyConditionIndex dataCtx.dataSetID = false := by
        rw [FybrikApplicationStatus.isTrue, hdeny, Option.map_some]
        simpa using hfalse
      split at h
      · rename_i hmsg
        exact ⟨_, .failed hadmitted hmsg, herror _ h⟩
      · rename_i hmsg
        split at h
        · rename_i hready
          exact ⟨_, .waiting hadmitted (not_not.1 hmsg) (by simpa using hready), hsame h⟩
        · rename_i hready
          have hserving : observed.Serving := ⟨by simpa using hready, not_not.1 hmsg⟩
          split at h
          · rename_i hcatalog
            split at h
            · exact ⟨_, .cataloged hserving hcatalog, hsame h⟩
            · split at h
              · exact ⟨_, .notCataloged hserving hcatalog, herror _ h⟩
              · split at h
                · exact ⟨_, .notCataloged hserving hcatalog, herror _ h⟩
                · exact ⟨_, .notCataloged hserving hcatalog, herror _ h⟩
          · rename_i hcatalog
            exact ⟨_, .ready hadmitted hserving (not_not.1 hcatalog),
              updateCondition_marked h fun _ => rfl⟩

theorem checkAsset_sameDenials {dataCtx : DataContext}
    (h : r.checkAsset observed status dataCtx = some status') : SameDenials status status' := by
  obtain ⟨marks, hchecked, hmarked⟩ := checkAsset_marked h
  refine hmarked.sameDenials fun id => ?_
  cases hchecked <;> simp [denyConditionIndex, errorConditionIndex, readyConditionIndex]

/-- Checking readiness denies nothing, and forgets no denial. -/
theorem checkReadiness_sameDenials {data : List DataContext}
    (h : r.checkReadiness data status observed = some status') : SameDenials status status' := by
  have hloop : ∀ start, data.foldlM (r.checkAsset observed) start = some status' →
      SameDenials start status' := fun start =>
    Loops.foldlM_preserves (SameDenials start)
      (fun _ _ _ _ hsame hstep => hsame.trans (checkAsset_sameDenials hstep)) (SameDenials.refl start)
  unfold checkReadiness at h
  split at h
  · -- there were no states, hence no denials
    rename_i hempty
    have hnone : ∀ id, status.assetStates.lookup id = none := by
      intro id
      cases hlookup : status.assetStates.lookup id with
      | none => rfl
      | some state =>
        have hmem := GoMap.mem_pairs.2 hlookup
        rw [List.isEmpty_iff.1 hempty] at hmem
        cases hmem
    have hfresh := initStatus_fresh data status
    refine SameDenials.trans ⟨fun id => ?_, hfresh.observedGeneration, hfresh.generated⟩
      (hloop _ h)
    rw [hfresh.isTrue, FybrikApplicationStatus.isTrue, GoMap.get_of_lookup_none (hnone id)]
    rfl
  · exact hloop status h

/-- The last part of a call stores the status with the readiness determined from it. -/
theorem finish_eq (status : FybrikApplicationStatus) :
    (r.finish w status).1 = match isReady w.application.spec.data status with
      | none => w
      | some ready => (r.updateStatus w { status with ready := ready }).1 := by
  unfold finish
  cases isReady w.application.spec.data status with
  | none => rfl
  | some ready =>
    simp only
    split
    · rename_i w' err hupdate
      rw [hupdate]
    · rename_i w' hupdate
      rw [hupdate]
      split <;> rfl

/-- The status is stored with the readiness determined from it, unless the program
crashes. -/
theorem finish_world (hr : r.ApiSucceeds) (w : World) (status : FybrikApplicationStatus) :
    (r.finish w status).1 = match isReady w.application.spec.data status with
      | none => w
      | some ready => w.withStatus { status with ready := ready } := by
  rw [finish_eq]
  simp only [updateStatus, hr.updateStatus]

/-- The validation decides nothing about datasets. -/
theorem validateApplication_sameDenials (application : FybrikApplication) :
    SameDenials application.status (r.validateApplication application).1 ∧
      (r.validateApplication application).1.ready = application.status.ready := by
  unfold validateApplication
  dsimp only
  split
  · split
    · exact ⟨⟨fun _ => rfl, rfl, rfl⟩, rfl⟩
    · exact ⟨⟨fun _ => rfl, rfl, rfl⟩, rfl⟩
  · exact ⟨SameDenials.refl _, rfl⟩

end FybrikApplicationReconciler

end Fybrik
