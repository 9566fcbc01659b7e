import Fybrik.Application.Readiness
import Fybrik.Application.Storage
import Fybrik.Plotter.Assets

/-!
# The bookkeeping of conditions

The conditions of a dataset are addressed by their index in a list that is looked up in a
map.  Where the map has no state for the dataset the list is empty, and the program crashes.
Here every such access during a call of the controller is written down.

* `ConditionAccess` — an access, with the status it is made in; `OutOfRange` is a crash,
  `Found` means that there is a state with its three conditions.
* `errorAccesses`, `readyAccesses`, `messageAccesses`, `checkAccesses` — the accesses of
  `AnalyzeError`, `isReady`, `getErrorMessages` and `checkReadiness`; each of these functions
  crashes exactly if one of its accesses is out of range (`analyzeErrors_eq_none_iff` and the
  like).
* `conditionAccesses` — the accesses of a call of `Reconcile`.
* `Event` — what can happen to an application; only the controller writes its status.
* `Bookkept` — a plotter generated for the current generation comes with a status that keeps
  track of the current datasets; `Event.bookkept` shows it for one event, `bookkept_of_run`
  for a run.
* `conditionAccesses_found` — every access in every call finds its conditions.
* `crashed_of_run` — so a call only crashes on a module whose API is not described.
-/

namespace Fybrik

/-! ## Accesses -/

/-- An access to the condition with the given index of an asset. -/
structure ConditionAccess where
  status : FybrikApplicationStatus
  assetID : String
  index : ℕ
  deriving DecidableEq

namespace ConditionAccess

/-- The list of conditions is too short, and the program crashes. -/
def OutOfRange (a : ConditionAccess) : Prop :=
  (a.status.assetStates.get a.assetID).conditions.length ≤ a.index

/-- There is a state with its three conditions, and the index is one of theirs. -/
def Found (a : ConditionAccess) : Prop :=
  ∃ state, a.status.assetStates.lookup a.assetID = some state ∧ state.conditions.length = 3 ∧
    a.index < 3

theorem Found.not_outOfRange {a : ConditionAccess} (h : a.Found) : ¬ a.OutOfRange := by
  obtain ⟨state, hstate, hlength, hindex⟩ := h
  rw [OutOfRange, GoMap.get_of_lookup hstate, hlength]
  exact Nat.not_le.2 hindex

end ConditionAccess

variable (status : FybrikApplicationStatus)

/-- The access of `AnalyzeError`, in `setDenyCondition` or `setErrorCondition`. -/
def errorAccess (ie : String × String) : List ConditionAccess :=
  [⟨status, ie.1, (markOf ie).1⟩]

/-- The accesses while the errors of several assets are noted. -/
def errorAccesses (errs : List (String × String)) : List ConditionAccess :=
  Loops.trace errorAccess (fun status ie => analyzeError status ie.1 ie.2) status errs

/-- The accesses in the loop of `isReady`. -/
def assetsReadyAccesses (status : FybrikApplicationStatus) : List DataContext → List ConditionAccess
  | [] => []
  | asset :: data =>
    let conditions := (status.assetStates.get asset.dataSetID).conditions
    if conditions.isEmpty then []
    else ⟨status, asset.dataSetID, denyConditionIndex⟩ ::
      match conditions[denyConditionIndex]? with
      | none => []
      | some deny =>
        -- the second operand of `&&` is only looked at if the first one is true
        if deny.status ≠ .conditionFalse then assetsReadyAccesses status data
        else ⟨status, asset.dataSetID, readyConditionIndex⟩ ::
          match conditions[readyConditionIndex]? with
          | none => []
          | some ready =>
            if ready.status = .conditionFalse then [] else assetsReadyAccesses status data

/-- The accesses of `isReady`. -/
def readyAccesses (data : List DataContext) (status : FybrikApplicationStatus) :
    List ConditionAccess :=
  if data.isEmpty then []
  else if status.assetStates.pairs.isEmpty then []
  else assetsReadyAccesses status data

/-- The accesses of `getErrorMessages`. -/
def messageAccesses : List ConditionAccess :=
  if status.errorMessage ≠ "" then []
  else status.assetStates.pairs.map fun p => ⟨status, p.1, errorConditionIndex⟩

namespace FybrikApplicationReconciler

variable (r : FybrikApplicationReconciler)

/-- The accesses in the turn of the loop of `checkReadiness` for one dataset. -/
def checkAccess (observed : ObservedState) (status : FybrikApplicationStatus)
    (dataCtx : DataContext) : List ConditionAccess :=
  let assetID := dataCtx.dataSetID
  let error : ConditionAccess := ⟨status, assetID, errorConditionIndex⟩
  ⟨status, assetID, denyConditionIndex⟩ ::
    match (status.assetStates.get assetID).conditions[denyConditionIndex]? with
    | none => []
    | some deny =>
      if deny.status = .conditionTrue then []
      else if observed.error ≠ "" then [error]
      else if !observed.ready then []
      else if dataCtx.requirements.copy.catalogID ≠ "" then
        if (status.assetStates.get assetID).catalogedAsset ≠ "" then []
        else
          match status.provisionedStorage.lookup assetID with
          | none => [error]
          | some bucket =>
            match r.provision.setPersistent
                ⟨bucket.datasetRef, r.settings.systemNamespace⟩ true with
            | some _ => [error]
            | none =>
              match registerAsset dataCtx.requirements.copy.catalogID bucket with
              | .error _ => [error]
              | .ok newAssetID =>
                let state := { status.assetStates.get assetID with catalogedAsset := newAssetID }
                [⟨{ status with assetStates := status.assetStates.set assetID state }, assetID,
                  readyConditionIndex⟩]
      else [⟨status, assetID, readyConditionIndex⟩]

/-- The accesses of `checkReadiness`. -/
def checkAccesses (data : List DataContext) (status : FybrikApplicationStatus)
    (observed : ObservedState) : List ConditionAccess :=
  Loops.trace (r.checkAccess observed) (r.checkAsset observed)
    (if status.assetStates.pairs.isEmpty then initStatus data status else status) data

/-- The turn of the loop of `buildSolution` for one dataset: the flow is added, and an error
is noted in the status. -/
def flowTurn (p : PlotterGenerator) (application : FybrikApplication)
    (s : Generation × FybrikApplicationStatus) (item : DataInfo) :
    Option (Generation × FybrikApplicationStatus) :=
  match p.addFlowInfoForAsset application s.1 item with
  | none => none
  | some (g, none) => some (g, s.2)
  | some (g, some err) =>
    (analyzeError s.2 item.context.dataSetID err).map fun status => (g, status)

/-- The access in such a turn, if there is an error. -/
def flowAccess (p : PlotterGenerator) (application : FybrikApplication)
    (s : Generation × FybrikApplicationStatus) (item : DataInfo) : List ConditionAccess :=
  match p.addFlowInfoForAsset application s.1 item with
  | some (_, some err) => errorAccess s.2 (item.context.dataSetID, err)
  | _ => []

/-- The accesses in the part of `reconcile` that follows the loop over the datasets. -/
def solveAccesses (application : FybrikApplication) (status : FybrikApplicationStatus)
    (requirements : List DataInfo) : List ConditionAccess :=
  if requirements.isEmpty then []
  else
    match r.plotterGen application with
    | .error _ => []
    | .ok p =>
      Loops.trace (flowAccess p application) (flowTurn p application)
          (p.newGeneration application, status) requirements ++
        match r.buildSolution application status requirements with
        | some (.ok (status, _)) => messageAccesses status
        | _ => []

/-- The accesses of `reconcile`. -/
def reconcileAccesses (application : FybrikApplication) : List ConditionAccess :=
  let status := initStatus application.spec.data application.status
  if application.spec.data.isEmpty then []
  else
    match r.getWorkloadCluster application with
    | .error _ => []
    | .ok workloadCluster =>
      errorAccesses status (r.failures application workloadCluster application.spec.data) ++
        match r.collectRequirements application workloadCluster status application.spec.data with
        | none => []
        | some (status, requirements) => r.solveAccesses application status requirements

/-- The accesses in the last part of `Reconcile`.  The readiness is determined once more after
the status has been stored. -/
def finishAccesses (data : List DataContext) (status : FybrikApplicationStatus) :
    List ConditionAccess :=
  readyAccesses data status ++
    match isReady data status, r.api.updateStatus with
    | some ready, none => messageAccesses { status with ready := ready } ++
        readyAccesses data { status with ready := ready }
    | _, _ => []

/-- The accesses while a valid application, whose status is `status`, is processed. -/
def processAccesses (w : World) (status : FybrikApplicationStatus) : List ConditionAccess :=
  if r.plotterNeeded w then
    r.reconcileAccesses { w.application with status := status } ++
      match r.reconcile { w.application with status := status } w.plotters with
      | none => []
      | some res =>
        match res.err with
        | some _ => []
        | none => r.finishAccesses w.application.spec.data
            { res.status with observedGeneration := w.application.generation }
  else
    match r.getResourceStatus w.plotters status.generated with
    | .error _ => []
    | .ok observed =>
      r.checkAccesses w.application.spec.data status observed ++
        match r.checkReadiness w.application.spec.data status observed with
        | none => []
        | some status => r.finishAccesses w.application.spec.data status

/-- The accesses of `Reconcile`: none is made before the application has been accepted. -/
def conditionAccesses (w : World) : List ConditionAccess :=
  match r.reconcileFinalizers w with
  | (_, some _) => []
  | (w, none) =>
    if w.application.beingDeleted then []
    else
      match r.validateApplication w.application with
      | (_, some _) => []
      | (status, none) =>
        if status.validApplication = .conditionFalse then []
        else r.processAccesses w status

end FybrikApplicationReconciler

/-! ## Accesses and crashes -/

section Crashes

variable {status : FybrikApplicationStatus}

theorem updateCondition_eq_none_iff {id : String} {index : ℕ} {f : Condition → Condition} :
    updateCondition status id index f = none ↔
      (⟨status, id, index⟩ : ConditionAccess).OutOfRange := by
  rw [updateCondition, Option.map_eq_none_iff, List.getElem?_eq_none_iff]
  rfl

theorem analyzeError_eq_none_iff (ie : String × String) :
    analyzeError status ie.1 ie.2 = none ↔ ∃ a ∈ errorAccess status ie, a.OutOfRange := by
  simp only [errorAccess, List.mem_singleton, exists_eq_left, markOf, analyzeError]
  split
  · exact updateCondition_eq_none_iff
  · exact updateCondition_eq_none_iff

theorem analyzeErrors_eq_none_iff (errs : List (String × String)) :
    analyzeErrors status errs = none ↔ ∃ a ∈ errorAccesses status errs, a.OutOfRange :=
  Loops.foldlM_eq_none_iff (fun _ ie => analyzeError_eq_none_iff ie) status errs

variable (data : List DataContext)

theorem assetsReady_eq_none_iff :
    assetsReady status data = none ↔ ∃ a ∈ assetsReadyAccesses status data, a.OutOfRange := by
  induction data with
  | nil => simp [assetsReady, assetsReadyAccesses]
  | cons asset data ih =>
    rw [assetsReady, assetsReadyAccesses]
    cases hconditions : (status.assetStates.get asset.dataSetID).conditions with
    | nil => simp
    | cons ready l =>
      simp only [List.isEmpty_cons, Bool.false_eq_true, if_false]
      rw [List.exists_mem_cons_iff]
      cases l with
      | nil =>
        -- the list is neither empty nor long enough
        have hdeny :
            (⟨status, asset.dataSetID, denyConditionIndex⟩ : ConditionAccess).OutOfRange := by
          rw [ConditionAccess.OutOfRange, hconditions]
          exact Nat.le_refl 1
        exact iff_of_true rfl (Or.inl hdeny)
      | cons deny l =>
        have hin : ∀ index, index < 2 →
            ¬ (⟨status, asset.dataSetID, index⟩ : ConditionAccess).OutOfRange := by
          intro index hindex
          rw [ConditionAccess.OutOfRange, hconditions]
          simp only [List.length_cons]
          omega
        have hdeny := hin denyConditionIndex (by decide)
        have hready := hin readyConditionIndex (by decide)
        have hsecond : (ready :: deny :: l)[denyConditionIndex]? = some deny := rfl
        have hfirst : (ready :: deny :: l)[readyConditionIndex]? = some ready := rfl
        simp only [hsecond, hfirst, hdeny, false_or]
        by_cases hd : deny.status = .conditionFalse
        · rw [if_neg (not_not.2 hd), List.exists_mem_cons_iff]
          by_cases hr : ready.status = .conditionFalse
          · simp [hd, hr, hready]
          · simp [hd, hr, hready, ih]
        · rw [if_pos hd, if_neg fun hboth => hd hboth.1]
          exact ih

theorem isReady_eq_none_iff :
    isReady data status = none ↔ ∃ a ∈ readyAccesses data status, a.OutOfRange := by
  unfold isReady readyAccesses
  split
  · simp
  · split
    · simp
    · exact assetsReady_eq_none_iff data

theorem getErrorMessages_eq_none_iff :
    getErrorMessages status = none ↔ ∃ a ∈ messageAccesses status, a.OutOfRange := by
  unfold getErrorMessages messageAccesses
  split
  · simp
  · rw [Option.map_eq_none_iff, Loops.mapM_eq_none_iff]
    simp only [List.mem_map, exists_exists_and_eq_and]
    refine exists_congr fun p => and_congr_right fun hp => ?_
    have hstate := GoMap.get_of_lookup (GoMap.mem_pairs.1 hp)
    rw [assetErrors, Option.map_eq_none_iff, List.getElem?_eq_none_iff,
      ConditionAccess.OutOfRange, hstate]

variable (r : FybrikApplicationReconciler)

theorem checkAsset_eq_none_iff (observed : ObservedState) (dataCtx : DataContext) :
    r.checkAsset observed status dataCtx = none ↔
      ∃ a ∈ r.checkAccess observed status dataCtx, a.OutOfRange := by
  have hone : ∀ {status : FybrikApplicationStatus} {index : ℕ} {f : Condition → Condition},
      updateCondition status dataCtx.dataSetID index f = none ↔
        ∃ a ∈ [(⟨status, dataCtx.dataSetID, index⟩ : ConditionAccess)], a.OutOfRange := by
    intro status index f
    rw [List.exists_mem_cons_iff, updateCondition_eq_none_iff]
    simp
  have hsame : some status = none ↔ ∃ a ∈ ([] : List ConditionAccess), a.OutOfRange := by simp
  unfold FybrikApplicationReconciler.checkAsset FybrikApplicationReconciler.checkAccess
  dsimp only
  rw [List.exists_mem_cons_iff]
  cases hdeny : (status.assetStates.get dataCtx.dataSetID).conditions[denyConditionIndex]? with
  | none =>
    have hout : (⟨status, dataCtx.dataSetID, denyConditionIndex⟩ : ConditionAccess).OutOfRange :=
      List.getElem?_eq_none_iff.1 hdeny
    simp [hout]
  | some deny =>
    have hin : ¬ (⟨status, dataCtx.dataSetID, denyConditionIndex⟩ : ConditionAccess).OutOfRange :=
      Nat.not_le.2 (List.getElem?_eq_some_iff.1 hdeny).1
    simp only [hin, false_or]
    -- the branches of the turn and those of its accesses go together
    split
    · exact hsame
    · split
      · exact hone
      · split
        · exact hsame
        · split
          · split
            · exact hsame
            · cases status.provisionedStorage.lookup dataCtx.dataSetID with
              | none => exact hone
              | some bucket =>
                dsimp only
                cases r.provision.setPersistent
                    ⟨bucket.datasetRef, r.settings.systemNamespace⟩ true with
                | some err => exact hone
                | none => exact hone
          · exact hone

/-- `checkReadiness` crashes exactly if one of its accesses is out of range. -/
theorem checkReadiness_eq_none_iff (observed : ObservedState) :
    r.checkReadiness data status observed = none ↔
      ∃ a ∈ r.checkAccesses data status observed, a.OutOfRange :=
  Loops.foldlM_eq_none_iff (fun _ ctx => checkAsset_eq_none_iff r observed ctx) _ data

/-- The errors from adding flows may as well be noted after all flows have been added. -/
theorem foldlM_flowTurn (p : PlotterGenerator) (application : FybrikApplication) (g : Generation)
    (requirements : List DataInfo) :
    requirements.foldlM (FybrikApplicationReconciler.flowTurn p application) (g, status)
      = (p.addFlows application g requirements).bind fun gerrs =>
          (analyzeErrors status gerrs.2).map fun status => (gerrs.1, status) := by
  induction requirements generalizing g status with
  | nil => rfl
  | cons item requirements ih =>
    rw [List.foldlM_cons, PlotterGenerator.addFlows, FybrikApplicationReconciler.flowTurn]
    cases hadd : p.addFlowInfoForAsset application g item with
    | none => rfl
    | some gerr =>
      obtain ⟨g', err⟩ := gerr
      cases err with
      | none =>
        have hrest := @ih status g'
        cases hadds : p.addFlows application g' requirements with
        | none => simpa [hadds] using hrest
        | some gerrs => simpa [hadds] using hrest
      | some err =>
        cases hnote : analyzeError status item.context.dataSetID err with
        | none =>
          cases hadds : p.addFlows application g' requirements with
          | none => simp [hadds, hnote]
          | some gerrs => simp [hadds, hnote, analyzeErrors]
        | some status' =>
          have hrest := @ih status' g'
          cases hadds : p.addFlows application g' requirements with
          | none => simpa [hadds, hnote] using hrest
          | some gerrs => simpa [hadds, hnote, analyzeErrors] using hrest

/-- So `buildSolution` is the loop that notes each error at once. -/
theorem buildSolution_eq_flowTurns (application : FybrikApplication)
    (requirements : List DataInfo) :
    r.buildSolution application status requirements = match r.plotterGen application with
      | .error err => some (.error err)
      | .ok p => (requirements.foldlM (FybrikApplicationReconciler.flowTurn p application)
          (p.newGeneration application, status)).map fun s => .ok (s.2, s.1) := by
  unfold FybrikApplicationReconciler.buildSolution
  cases r.plotterGen application with
  | error err => rfl
  | ok p =>
    simp only [foldlM_flowTurn]
    cases p.addFlows application (p.newGeneration application) requirements with
    | none => rfl
    | some gerrs => simp [Option.map_map, Function.comp_def]

end Crashes

/-! ## Accesses in a status that keeps track -/

section Found

variable {data : List DataContext} {status status' : FybrikApplicationStatus}

theorem Tracked.found (h : Tracked data status) {ctx : DataContext} (hctx : ctx ∈ data) {index : ℕ}
    (hindex : index < 3) : (⟨status, ctx.dataSetID, index⟩ : ConditionAccess).Found := by
  obtain ⟨state, hstate⟩ := h.present ctx hctx
  exact ⟨state, hstate, (h.wellKept _ _ hstate).length, hindex⟩

theorem Tracked.messageAccesses_found (h : Tracked data status) :
    ∀ a ∈ messageAccesses status, a.Found := by
  intro a ha
  unfold messageAccesses at ha
  split at ha
  · cases ha
  · obtain ⟨⟨id, state⟩, hpair, rfl⟩ := List.mem_map.1 ha
    have hstate := GoMap.mem_pairs.1 hpair
    have hindex : errorConditionIndex < 3 := by decide
    exact ⟨state, hstate, (h.wellKept id state hstate).length, hindex⟩

theorem Tracked.assetsReadyAccesses_found (h : Tracked data status) {l : List DataContext}
    (hl : ∀ ctx ∈ l, ctx ∈ data) : ∀ a ∈ assetsReadyAccesses status l, a.Found := by
  induction l with
  | nil => exact List.forall_mem_nil _
  | cons ctx l ih =>
    have hctx := hl ctx List.mem_cons_self
    have hrest := ih fun c hc => hl c (List.mem_cons_of_mem ctx hc)
    obtain ⟨ready, deny, error, hconditions, -, -⟩ := h.conditions hctx
    have hsecond : [ready, deny, error][denyConditionIndex]? = some deny := rfl
    have hfirst : [ready, deny, error][readyConditionIndex]? = some ready := rfl
    rw [assetsReadyAccesses, hconditions]
    simp only [List.isEmpty_cons, Bool.false_eq_true, if_false, hsecond, hfirst]
    rw [List.forall_mem_cons]
    refine ⟨h.found hctx (by decide), ?_⟩
    split
    · exact hrest
    · rw [List.forall_mem_cons]
      refine ⟨h.found hctx (by decide), ?_⟩
      split
      · exact List.forall_mem_nil _
      · exact hrest

theorem Tracked.readyAccesses_found (h : Tracked data status) :
    ∀ a ∈ readyAccesses data status, a.Found := by
  unfold readyAccesses
  split
  · exact List.forall_mem_nil _
  · split
    · exact List.forall_mem_nil _
    · exact h.assetsReadyAccesses_found fun _ hctx => hctx

/-! ### Errors -/

theorem markOf_lt (ie : String × String) : (markOf ie).1 < 3 := by
  have hdeny : denyConditionIndex < 3 := by decide
  have herror : errorConditionIndex < 3 := by decide
  unfold markOf
  split
  · exact hdeny
  · exact herror

theorem Tracked.errorAccess_found (h : Tracked data status) {ie : String × String}
    (hid : ∃ ctx ∈ data, ctx.dataSetID = ie.1) : ∀ a ∈ errorAccess status ie, a.Found := by
  obtain ⟨ctx, hctx, hid⟩ := hid
  intro a ha
  rw [List.mem_singleton.1 ha, ← hid]
  exact h.found hctx (markOf_lt ie)

/-- Noting an error of a known asset. -/
theorem Tracked.of_analyzeError (h : Tracked data status) {id err : String}
    (hid : ∃ ctx ∈ data, ctx.dataSetID = id)
    (hnote : Fybrik.analyzeError status id err = some status') : Tracked data status' := by
  obtain ⟨ctx, hctx, rfl⟩ := hid
  obtain ⟨status₁, hstep, htracked, -⟩ := h.analyzeError hctx err
  rwa [Option.some.inj (hnote.symm.trans hstep)]

theorem Tracked.errorAccesses_found (h : Tracked data status) {errs : List (String × String)}
    (herrs : ∀ ie ∈ errs, ∃ ctx ∈ data, ctx.dataSetID = ie.1) :
    ∀ a ∈ errorAccesses status errs, a.Found :=
  Loops.forall_mem_trace (Tracked data) (fun ie hie _ hs => hs.errorAccess_found (herrs ie hie))
    (fun ie hie _ _ hs hnote => hs.of_analyzeError (herrs ie hie) hnote) h

/-! ### The flows -/

variable {p : PlotterGenerator} {application : FybrikApplication}

theorem Tracked.flowAccess_found {g : Generation} (h : Tracked data status) {item : DataInfo}
    (hitem : item.context ∈ data) :
    ∀ a ∈ FybrikApplicationReconciler.flowAccess p application (g, status) item, a.Found := by
  unfold FybrikApplicationReconciler.flowAccess
  split
  · exact h.errorAccess_found ⟨item.context, hitem, rfl⟩
  · exact List.forall_mem_nil _

theorem Tracked.of_flowTurn {g g' : Generation} (h : Tracked data status) {item : DataInfo}
    (hitem : item.context ∈ data)
    (hturn : FybrikApplicationReconciler.flowTurn p application (g, status) item
      = some (g', status')) : Tracked data status' := by
  unfold FybrikApplicationReconciler.flowTurn at hturn
  split at hturn
  · cases hturn
  · rw [← (Prod.mk.inj (Option.some.inj hturn)).2]
    exact h
  · obtain ⟨status₁, hnote, heq⟩ := Option.map_eq_some_iff.1 hturn
    rw [← (Prod.mk.inj heq).2]
    exact h.of_analyzeError ⟨item.context, hitem, rfl⟩ hnote

theorem Tracked.solveAccesses_found (h : Tracked data status) (r : FybrikApplicationReconciler)
    {requirements : List DataInfo} (hitems : ∀ item ∈ requirements, item.context ∈ data) :
    ∀ a ∈ r.solveAccesses application status requirements, a.Found := by
  unfold FybrikApplicationReconciler.solveAccesses
  split
  · exact List.forall_mem_nil _
  · cases hgen : r.plotterGen application with
    | error err => exact List.forall_mem_nil _
    | ok p =>
      have hstart : Tracked data (p.newGeneration application, status).2 := h
      have hturn : ∀ item ∈ requirements, ∀ s t : Generation × FybrikApplicationStatus,
          Tracked data s.2 → FybrikApplicationReconciler.flowTurn p application s item = some t →
            Tracked data t.2 := fun item hitem s t hs => hs.of_flowTurn (hitems item hitem)
      intro a ha
      rcases List.mem_append.1 ha with ha | ha
      · exact Loops.forall_mem_trace
          (fun s : Generation × FybrikApplicationStatus => Tracked data s.2)
          (fun item hitem s hs => hs.flowAccess_found (hitems item hitem)) hturn hstart a ha
      · rw [buildSolution_eq_flowTurns, hgen] at ha
        cases hloop : requirements.foldlM (FybrikApplicationReconciler.flowTurn p application)
            (p.newGeneration application, status) with
        | none =>
          simp only [hloop] at ha
          cases ha
        | some t =>
          simp only [hloop, Option.map_some] at ha
          have htracked := Loops.foldlM_preserves (fun s => Tracked data s.2) hturn hstart hloop
          exact htracked.messageAccesses_found a ha

/-- `reconcile` starts with a fresh status, so it finds what it needs in any case. -/
theorem reconcileAccesses_found (r : FybrikApplicationReconciler)
    (application : FybrikApplication) : ∀ a ∈ r.reconcileAccesses application, a.Found := by
  have hfresh := (initStatus_fresh application.spec.data application.status).tracked
  unfold FybrikApplicationReconciler.reconcileAccesses
  split
  · exact List.forall_mem_nil _
  · cases hcluster : r.getWorkloadCluster application with
    | error err => exact List.forall_mem_nil _
    | ok workloadCluster =>
      have hfailures : ∀ ie ∈ r.failures application workloadCluster application.spec.data,
          ∃ ctx ∈ application.spec.data, ctx.dataSetID = ie.1 := by
        intro ie hie
        obtain ⟨ctx, hctx, hid, -⟩ := FybrikApplicationReconciler.mem_failures.1 hie
        exact ⟨ctx, hctx, hid⟩
      obtain ⟨status, hnoted, hjudged⟩ :=
        FybrikApplicationReconciler.exists_judged_failures hcluster
      intro a ha
      simp only [FybrikApplicationReconciler.collectRequirements_eq, hnoted, Option.map_some,
        List.mem_append] at ha
      rcases ha with ha | ha
      · exact hfresh.errorAccesses_found hfailures a ha
      · refine hjudged.tracked.solveAccesses_found r (fun item hitem => ?_) a ha
        obtain ⟨ctx, hctx, hinfo⟩ := FybrikApplicationReconciler.mem_served.1 hitem
        rw [FybrikApplicationReconciler.context_constructDataInfo hinfo]
        exact hctx

/-! ### Readiness -/

theorem Tracked.checkAccess_found (h : Tracked data status) (r : FybrikApplicationReconciler)
    (observed : ObservedState) {ctx : DataContext} (hctx : ctx ∈ data) :
    ∀ a ∈ r.checkAccess observed status ctx, a.Found := by
  have hone : ∀ index, index < 3 →
      ∀ a ∈ [(⟨status, ctx.dataSetID, index⟩ : ConditionAccess)], a.Found := by
    intro index hindex a ha
    rw [List.mem_singleton.1 ha]
    exact h.found hctx hindex
  have herror := hone errorConditionIndex (by decide)
  have hnone : ∀ a ∈ ([] : List ConditionAccess), a.Found := List.forall_mem_nil _
  unfold FybrikApplicationReconciler.checkAccess
  rw [List.forall_mem_cons]
  refine ⟨h.found hctx (by decide), ?_⟩
  split
  · exact hnone
  · split
    · exact hnone
    · split
      · exact herror
      · split
        · exact hnone
        · split
          · split
            · exact hnone
            · split
              · exact herror
              · split
                · exact herror
                · exact herror
          · exact hone readyConditionIndex (by decide)

theorem Tracked.checkAccesses_found (h : Tracked data status) (r : FybrikApplicationReconciler)
    (observed : ObservedState) : ∀ a ∈ r.checkAccesses data status observed, a.Found := by
  have hstart : Tracked data
      (if status.assetStates.pairs.isEmpty then initStatus data status else status) := by
    split
    · exact (initStatus_fresh data status).tracked
    · exact h
  refine Loops.forall_mem_trace (Tracked data)
    (fun ctx hctx s hs => hs.checkAccess_found r observed hctx)
    (fun ctx hctx s t hs hturn => ?_) hstart
  obtain ⟨s₁, hstep, htracked⟩ := hs.checkAsset r observed hctx
  rwa [Option.some.inj (hturn.symm.trans hstep)]

theorem Tracked.finishAccesses_found (h : Tracked data status) (r : FybrikApplicationReconciler) :
    ∀ a ∈ r.finishAccesses data status, a.Found := by
  intro a ha
  rcases List.mem_append.1 ha with ha | ha
  · exact h.readyAccesses_found a ha
  · split at ha
    · rename_i ready _ _
      have hstored : Tracked data { status with ready := ready } := h.congr rfl
      rcases List.mem_append.1 ha with ha | ha
      · exact hstored.messageAccesses_found a ha
      · exact hstored.readyAccesses_found a ha
    · cases ha

end Found

/-! ## Events -/

/-- What can happen to an application.  Its specification is edited, which makes a new
generation of it; something else than its specification and its status changes, for instance
a plotter; or a controller is called, with whatever answers and failures of the services.
Only the controller writes the status. -/
inductive Event : World → World → Prop
  | edit {w w' : World} (hstatus : w'.application.status = w.application.status)
      (hgeneration : w.application.generation < w'.application.generation) : Event w w'
  | other {w w' : World} (hstatus : w'.application.status = w.application.status)
      (hspec : w'.application.spec = w.application.spec)
      (hgeneration : w'.application.generation = w.application.generation) : Event w w'
  | reconcile {w : World} (r : FybrikApplicationReconciler) : Event w (r.reconcileRequest w).1

/-- If a plotter has been generated for the current generation, the status keeps track of the
current datasets. -/
structure Bookkept (w : World) : Prop where
  version_le : ∀ ref, w.application.status.generated = some ref →
    ref.appVersion ≤ w.application.generation
  tracked : ∀ ref, w.application.status.generated = some ref →
    ref.appVersion = w.application.generation →
      Tracked w.application.spec.data w.application.status

section Events

variable {r : FybrikApplicationReconciler} {w w₁ w' : World} {status : FybrikApplicationStatus}

theorem bookkept_of_status_default (h : w.application.status = default) : Bookkept w := by
  have hnone : w.application.status.generated = none := by rw [h]; rfl
  exact ⟨fun ref href => absurd (hnone.symm.trans href) (by simp),
    fun ref href => absurd (hnone.symm.trans href) (by simp)⟩

/-- Only the states of the assets and the reference to the plotter matter. -/
theorem Bookkept.congr (h : Bookkept w)
    (hgenerated : w'.application.status.generated = w.application.status.generated)
    (hstates : w'.application.status.assetStates = w.application.status.assetStates)
    (hspec : w'.application.spec = w.application.spec)
    (hgeneration : w'.application.generation = w.application.generation) : Bookkept w' := by
  refine ⟨fun ref href => ?_, fun ref href hversion => ?_⟩
  · rw [hgeneration]
    exact h.version_le ref (hgenerated.symm.trans href)
  · rw [hspec]
    exact (h.tracked ref (hgenerated.symm.trans href) (hversion.trans hgeneration)).congr hstates

/-- After an edit no plotter is up to date. -/
theorem Bookkept.edit (h : Bookkept w)
    (hstatus : w'.application.status = w.application.status)
    (hgeneration : w.application.generation < w'.application.generation) : Bookkept w' := by
  have hbefore : ∀ ref, w'.application.status.generated = some ref →
      ref.appVersion < w'.application.generation := by
    intro ref href
    rw [hstatus] at href
    exact Nat.lt_of_le_of_lt (h.version_le ref href) hgeneration
  exact ⟨fun ref href => (hbefore ref href).le,
    fun ref href hversion => absurd hversion (hbefore ref href).ne⟩

theorem Bookkept.tidied (h : Bookkept w) (htidied : FybrikApplicationReconciler.Tidied w w₁) :
    Bookkept w₁ := by
  obtain ⟨finalizers, happlication⟩ := htidied.application_eq
  refine h.congr ?_ ?_ ?_ ?_
  all_goals rw [happlication]

/-- Storing a status that keeps track of the datasets. -/
theorem Bookkept.store (h : Bookkept w) (htracked : Tracked w.application.spec.data status)
    (hgenerated : status.generated = w.application.status.generated ∨
      ∃ ref, status.generated = some ref ∧ ref.appVersion = w.application.generation) :
    Bookkept (w.withStatus status) := by
  refine ⟨fun ref href => ?_, fun _ _ _ => htracked⟩
  rcases hgenerated with hsame | ⟨ref', href', hversion⟩
  · exact h.version_le ref (hsame.symm.trans href)
  · rw [Option.some.inj (href.symm.trans href'), hversion]
    exact Nat.le_refl _

theorem Bookkept.updateStatus (h : Bookkept w) (hstored : Bookkept (w.withStatus status)) :
    Bookkept (r.updateStatus w status).1 := by
  rcases r.updateStatus_cases w status with ⟨heq, -⟩ | ⟨heq, -⟩
  · rw [heq]
    exact h
  · rw [heq]
    exact hstored

theorem Bookkept.finish (h : Bookkept w) (hstored : Bookkept (w.withStatus status)) :
    Bookkept (r.finish w status).1 := by
  rcases r.finish_cases w status with ⟨heq, -⟩ | ⟨ready, heq, -⟩
  · rw [heq]
    exact h
  · rw [heq]
    exact hstored.congr rfl rfl rfl rfl

namespace FybrikApplicationReconciler

/-- The validation leaves the plotter and the states of the assets alone. -/
theorem validateApplication_same (r : FybrikApplicationReconciler)
    (application : FybrikApplication) :
    (r.validateApplication application).1.generated = application.status.generated ∧
      (r.validateApplication application).1.assetStates = application.status.assetStates := by
  obtain ⟨generation, msg, valid, heq⟩ := r.validateApplication_eq application
  rw [heq]
  exact ⟨rfl, rfl⟩

theorem Accepted.same (h : r.Accepted w w₁ status) :
    status.generated = w₁.application.status.generated ∧
      status.assetStates = w₁.application.status.assetStates := by
  have hsame := r.validateApplication_same w₁.application
  rwa [h.validated] at hsame

theorem Accepted.conditionAccesses_eq (h : r.Accepted w w₁ status) :
    r.conditionAccesses w = r.processAccesses w₁ status := by
  simp only [conditionAccesses, h.finalized, h.notDeleted, h.validated, if_neg h.valid]
  rfl

/-- An application that is not accepted is not looked at any further. -/
theorem accepted_or (r : FybrikApplicationReconciler) (w : World) :
    (∃ w₁ status, r.Accepted w w₁ status) ∨
      (r.conditionAccesses w = [] ∧ (r.reconcileRequest w).2 ≠ .crashed) := by
  cases hfinalized : r.reconcileFinalizers w with
  | mk w₁ err =>
    cases err with
    | some err => exact Or.inr (by simp [conditionAccesses, reconcileRequest, hfinalized])
    | none =>
      by_cases hdeleted : w₁.application.beingDeleted = true
      · exact Or.inr (by simp [conditionAccesses, reconcileRequest, hfinalized, hdeleted])
      · cases hvalidate : r.validateApplication w₁.application with
        | mk status err =>
          cases err with
          | some err =>
            refine Or.inr ⟨by simp [conditionAccesses, hfinalized, hvalidate], ?_⟩
            simp only [reconcileRequest, hfinalized, if_neg hdeleted, reconcileApplication,
              hvalidate]
            split <;> simp
          | none =>
            by_cases hvalid : status.validApplication = .conditionFalse
            · exact Or.inr (by simp [conditionAccesses, reconcileRequest, reconcileApplication,
                hfinalized, hdeleted, hvalidate, hvalid])
            · exact Or.inl ⟨w₁, status, hfinalized, Bool.eq_false_iff.2 hdeleted, hvalidate, hvalid⟩

/-- If no plotter is needed, there is one for the current generation. -/
theorem exists_of_not_plotterNeeded (h : r.plotterNeeded w = false) :
    ∃ ref, w.application.status.generated = some ref ∧
      ref.appVersion = w.application.generation := by
  rw [plotterNeeded, Bool.or_eq_false_iff, Bool.not_eq_false', generationComplete,
    Bool.and_eq_true, beq_iff_eq] at h
  exact Option.map_eq_some_iff.1 h.1.2

theorem Course.bookkept {plotters : GoMap NamespacedName Plotter} {res : Reconciled}
    (h : r.Course { w₁.application with status := status } plotters res) (hbookkept : Bookkept w₁)
    (hsame : status.generated = w₁.application.status.generated) :
    Bookkept (w₁.withStatus res.status) := by
  refine hbookkept.store h.tracked.1 (h.deployed_or_unchanged.imp (fun hunchanged => ?_) ?_)
  · exact hunchanged.2.trans hsame
  · rintro ⟨-, hgenerated, -⟩
    exact ⟨_, hgenerated, rfl⟩

end FybrikApplicationReconciler

theorem Bookkept.tracked_of_accepted (h : Bookkept w₁) (haccepted : r.Accepted w w₁ status)
    (hneeded : r.plotterNeeded w₁ = false) : Tracked w₁.application.spec.data status := by
  obtain ⟨ref, href, hversion⟩ := FybrikApplicationReconciler.exists_of_not_plotterNeeded hneeded
  exact (h.tracked ref href hversion).congr haccepted.same.2

theorem Bookkept.reconcileRequest (h : Bookkept w) (r : FybrikApplicationReconciler) :
    Bookkept (r.reconcileRequest w).1 := by
  have hcall := FybrikApplicationReconciler.reconcileRequest_call r w
  have htidied := h.tidied (r.tidied_reconcileFinalizers w)
  generalize r.reconcileRequest w = out at hcall
  cases hcall with
  | stopped => exact htidied
  | invalid hnone hvalidate =>
    obtain ⟨hgenerated, hstates⟩ :=
      r.validateApplication_same (r.reconcileFinalizers w).1.application
    rw [hvalidate] at hgenerated hstates
    exact htidied.updateStatus (htidied.congr hgenerated hstates rfl rfl)
  | failed haccepted _ hres =>
    rw [haccepted.finalized] at htidied
    have hcourse := FybrikApplicationReconciler.reconcile_course hres
    have hstored := hcourse.bookkept htidied haccepted.same.1
    exact Bookkept.updateStatus (htidied.congr rfl rfl rfl rfl) (hstored.congr rfl rfl rfl rfl)
  | generated haccepted _ hres =>
    rw [haccepted.finalized] at htidied
    have hcourse := FybrikApplicationReconciler.reconcile_course hres
    have hstored := hcourse.bookkept htidied haccepted.same.1
    exact Bookkept.finish (htidied.congr rfl rfl rfl rfl) (hstored.congr rfl rfl rfl rfl)
  | polled haccepted hneeded _ hstatus =>
    rw [haccepted.finalized] at htidied
    have htracked := htidied.tracked_of_accepted haccepted hneeded
    obtain ⟨status₁, hcheck, htracked₁⟩ := htracked.checkReadiness r _
    have hsame := (FybrikApplicationReconciler.checkReadiness_sameDenials hstatus).generated
    rw [← Option.some.inj (hstatus.symm.trans hcheck)] at htracked₁
    exact htidied.finish (htidied.store htracked₁ (Or.inl (hsame.trans haccepted.same.1)))

theorem Event.bookkept (h : Event w w') (hbookkept : Bookkept w) : Bookkept w' := by
  cases h with
  | edit hstatus hgeneration => exact hbookkept.edit hstatus hgeneration
  | other hstatus hspec hgeneration =>
    exact hbookkept.congr (by rw [hstatus]) (by rw [hstatus]) hspec hgeneration
  | reconcile r => exact hbookkept.reconcileRequest r

theorem bookkept_of_run {w₀ : World} (hcreated : w₀.application.status = default)
    (hrun : Relation.ReflTransGen Event w₀ w) : Bookkept w := by
  induction hrun with
  | refl => exact bookkept_of_status_default hcreated
  | tail _ hevent ih => exact hevent.bookkept ih

/-! ## What is found -/

theorem Bookkept.processAccesses_found (h : Bookkept w₁) (haccepted : r.Accepted w w₁ status) :
    ∀ a ∈ r.processAccesses w₁ status, a.Found := by
  have hnone : ∀ a ∈ ([] : List ConditionAccess), a.Found := List.forall_mem_nil _
  intro a ha
  unfold FybrikApplicationReconciler.processAccesses at ha
  by_cases hneeded : r.plotterNeeded w₁ = true
  · rw [if_pos hneeded] at ha
    rcases List.mem_append.1 ha with ha | ha
    · exact reconcileAccesses_found r _ a ha
    · split at ha
      · exact hnone a ha
      · rename_i res hres
        have htracked : Tracked w₁.application.spec.data
            { res.status with observedGeneration := w₁.application.generation } :=
          (FybrikApplicationReconciler.reconcile_course hres).tracked.1.congr rfl
        split at ha
        · exact hnone a ha
        · exact htracked.finishAccesses_found r a ha
  · rw [if_neg hneeded] at ha
    have htracked := h.tracked_of_accepted haccepted (Bool.eq_false_iff.2 hneeded)
    split at ha
    · exact hnone a ha
    · rename_i observed _
      rcases List.mem_append.1 ha with ha | ha
      · exact htracked.checkAccesses_found r observed a ha
      · obtain ⟨status₁, hcheck, htracked₁⟩ := htracked.checkReadiness r observed
        rw [hcheck] at ha
        exact htracked₁.finishAccesses_found r a ha

theorem Bookkept.found (h : Bookkept w) (r : FybrikApplicationReconciler) :
    ∀ a ∈ r.conditionAccesses w, a.Found := by
  rcases r.accepted_or w with ⟨w₁, status, haccepted⟩ | ⟨hnone, -⟩
  · rw [haccepted.conditionAccesses_eq]
    exact (h.tidied haccepted.tidied).processAccesses_found haccepted
  · rw [hnone]
    exact List.forall_mem_nil _

/-- **Conditions are never addressed out of range.**  In every state that an application can
get into by edits and calls of the controller, whatever fails in them, every access to a
condition in the next call finds a state with its three conditions. -/
theorem conditionAccesses_found {w₀ w : World} (hcreated : w₀.application.status = default)
    (hrun : Relation.ReflTransGen Event w₀ w) (r : FybrikApplicationReconciler) :
    ∀ a ∈ r.conditionAccesses w, a.Found :=
  (bookkept_of_run hcreated hrun).found r

/-- The plotter of a notebook has become ready; or a dataset of the notebook has been dropped. -/
theorem conditionAccesses_found_notebook :
    ((notebookReconciler.conditionAccesses notebookServing).length = 11 ∧
      ∀ a ∈ notebookReconciler.conditionAccesses notebookServing, a.Found) ∧
    (notebookReconciler.conditionAccesses notebookEdited).length = 4 ∧
      ∀ a ∈ notebookReconciler.conditionAccesses notebookEdited, a.Found := by
  have hdeploy : Relation.ReflTransGen Event notebookWorld notebookDeployed :=
    .single (.reconcile notebookReconciler)
  have hserve : Event notebookDeployed notebookServing := .other rfl rfl rfl
  have hedit : Event notebookDeployed notebookEdited := .edit rfl (Nat.lt_succ_self _)
  exact ⟨⟨by decide +kernel, conditionAccesses_found rfl (hdeploy.tail hserve) notebookReconciler⟩,
    by decide +kernel, conditionAccesses_found rfl (hdeploy.tail hedit) notebookReconciler⟩

/-! ## What can still crash -/

theorem not_outOfRange_of_found {l : List ConditionAccess} (h : ∀ a ∈ l, a.Found) :
    ¬ ∃ a ∈ l, a.OutOfRange := by
  rintro ⟨a, ha, hout⟩
  exact (h a ha).not_outOfRange hout

/-- In a status that keeps track of the datasets, the last part of a call does not crash. -/
theorem finish_ne_crashed (r : FybrikApplicationReconciler) (w : World)
    (h : Tracked w.application.spec.data status) : (r.finish w status).2 ≠ .crashed := by
  have hready : isReady w.application.spec.data status ≠ none :=
    mt (isReady_eq_none_iff _).1 (not_outOfRange_of_found h.readyAccesses_found)
  unfold FybrikApplicationReconciler.finish
  split
  · rename_i hnone
    exact absurd hnone hready
  · rename_i ready _
    have hstored : Tracked w.application.spec.data { status with ready := ready } := h.congr rfl
    split
    · simp
    · split
      · rename_i hnone
        exact absurd (getErrorMessages_eq_none_iff.1 hnone)
          (not_outOfRange_of_found hstored.messageAccesses_found)
      · simp

theorem Bookkept.processApplication_crashed (h : Bookkept w₁) (haccepted : r.Accepted w w₁ status)
    (hcrashed : (r.processApplication w₁ status).2 = .crashed) :
    r.plotterNeeded w₁ = true ∧
      r.reconcile { w₁.application with status := status } w₁.plotters = none := by
  rw [FybrikApplicationReconciler.processApplication_eq] at hcrashed
  by_cases hneeded : r.plotterNeeded w₁ = true
  · rw [if_pos hneeded] at hcrashed
    refine ⟨hneeded, ?_⟩
    split at hcrashed
    · assumption
    · rename_i res hres
      have htracked : Tracked w₁.application.spec.data
          { res.status with observedGeneration := w₁.application.generation } :=
        (FybrikApplicationReconciler.reconcile_course hres).tracked.1.congr rfl
      split at hcrashed
      · cases hcrashed
      · exact absurd hcrashed (finish_ne_crashed r { w₁ with plotters := res.plotters } htracked)
  · rw [if_neg hneeded] at hcrashed
    have htracked := h.tracked_of_accepted haccepted (Bool.eq_false_iff.2 hneeded)
    split at hcrashed
    · cases hcrashed
    · rename_i observed _
      obtain ⟨status₁, hcheck, htracked₁⟩ := htracked.checkReadiness r observed
      rw [hcheck] at hcrashed
      exact absurd hcrashed (finish_ne_crashed r w₁ htracked₁)

end Events

/-- The connection of an API has an object under its own name, as `moduleAPIToService` takes
for granted. -/
def ResourceDetails.Described (api : ResourceDetails) : Prop :=
  ∃ props, api.connection.additionalProperties.lookup api.connection.name = some (.obj props)

namespace PlotterGenerator

variable {p : PlotterGenerator} {application : FybrikApplication} {item : DataInfo}

theorem addElement_ne_panic {st : PathState} {e : ResolvedEdge} (hsink : e.sink.connection ≠ none)
    (hapi : ∀ api, e.capability.api = some api → api.Described) :
    p.addElement application item st e ≠ .error .panic := by
  have hstep : p.stepAPI application e st.datasetID ≠ none := by
    unfold stepAPI
    split
    · simp
    · rename_i api he
      obtain ⟨props, hprops⟩ := hapi api he
      simp [moduleAPIToService, hprops]
  have hcopy : p.getCopyDestination item e.sink.connection e.storageAccountRegion st.provisioned
      ≠ .error .panic := by
    unfold getCopyDestination
    split
    · simp
    · split
      · simp
      · split
        · contradiction
        · simp
  unfold addElement
  split
  · contradiction
  · simp
  · split
    · split
      · rename_i hdestination
        exact fun hpanic => hcopy (Except.error.inj hpanic ▸ hdestination)
      · simp
    · simp

/-- An edge of a selected path has a connection to write to. -/
theorem connection_ne_none {path : List ResolvedEdge}
    (h : p.selectPath application item = some path) {e : ResolvedEdge} (he : e ∈ path) :
    e.sink.connection ≠ none := by
  obtain ⟨found, hfound, hedges⟩ := exists_isDataPath_of_selectPath h
  obtain ⟨e', he', hedge⟩ := List.mem_map.1 (hedges ▸ List.mem_map_of_mem he)
  have hsupports := (edge_supports hfound rfl he').2
  rw [← hedge]
  unfold supportsSinkInterface matchesAPI at hsupports
  intro hnone
  simp [hnone, matchInterfaces] at hsupports
  split at hsupports <;> simp at hsupports

/-- The generation of a flow does not crash if the APIs along the selected path are
described. -/
theorem generateFlow_ne_panic
    (h : ∀ path, p.selectPath application item = some path → ∀ e ∈ path, ∀ api,
      e.capability.api = some api → api.Described) :
    p.generateFlow application item ≠ .error .panic := by
  have hwalk : ∀ (path : List ResolvedEdge) (st : PathState), (∀ e ∈ path, ∀ st,
      p.addElement application item st e ≠ .error .panic) →
        path.foldlM (p.addElement application item) st ≠ .error .panic := by
    intro path
    induction path with
    | nil => exact fun st _ => by simp [pure, Except.pure]
    | cons e path ih =>
      intro st hpath
      rw [List.foldlM_cons]
      cases hst : p.addElement application item st e with
      | error abort => exact fun hpanic => hpath e List.mem_cons_self st (hst.trans hpanic)
      | ok st' => exact ih st' fun e he => hpath e (List.mem_cons_of_mem _ he)
  unfold generateFlow
  split
  · simp
  · rename_i path hpath
    have hends := hwalk path (p.startState item) fun e he st =>
      addElement_ne_panic (connection_ne_none hpath he) (h path hpath e he)
    split
    · rename_i abort hfold
      exact fun hpanic => hends (Except.error.inj hpanic ▸ hfold)
    · rename_i st hfold
      split
      · rename_i hlast
        have hwalked := Loops.foldlM_ends (P := Walked p application item) (Q := fun _ => True)
          (fun _ _ e hst => addElement_walked hst e) [] path (s := p.startState item)
          ⟨rfl, rfl, .nil _⟩
        rw [hfold] at hwalked
        have hlength := hwalked.subflows.length_eq
        rw [List.getLast?_eq_none_iff.1 hlast] at hlength
        exact absurd (List.length_eq_zero_iff.1 hlength.symm) (ne_nil_of_selectPath hpath)
      · simp

end PlotterGenerator

/-- Some dataset is served over a data path with an API that is not described. -/
def FybrikApplicationReconciler.MeetsUndescribed (r : FybrikApplicationReconciler)
    (application : FybrikApplication) : Prop :=
  ∃ workloadCluster p, r.getWorkloadCluster application = .ok workloadCluster ∧
    r.plotterGen application = .ok p ∧
    ∃ item ∈ r.served application workloadCluster application.spec.data, ∃ path,
      p.selectPath application item = some path ∧
      ∃ e ∈ path, ∃ api, e.capability.api = some api ∧ ¬ api.Described

theorem meetsUndescribed_of_reconcile {r : FybrikApplicationReconciler}
    {application : FybrikApplication} {plotters : GoMap NamespacedName Plotter}
    (h : r.reconcile application plotters = none) : r.MeetsUndescribed application := by
  rcases r.reconcile_cases application plotters with
    ⟨_, _, heq, -⟩ | ⟨-, workloadCluster, _, hjudged, hsolving⟩
  · cases heq.symm.trans h
  · generalize r.reconcile application plotters = solved at h hsolving
    cases hsolving with
    | @crashed p hgen hadd =>
      -- were all APIs described, no dataset would make the loop crash
      by_contra hnot
      obtain ⟨g, errs, hsome⟩ := PlotterGenerator.exists_addFlows (fun item hitem =>
        PlotterGenerator.generateFlow_ne_panic fun path hpath e he api hapi => by_contra fun hd =>
          hnot ⟨_, p, hjudged.cluster, hgen, item, hitem, path, hpath, e, he, api, hapi, hd⟩)
        (p.newGeneration application)
      cases hadd.symm.trans hsome
    | accepted hbuilt =>
      obtain ⟨res, hres, -⟩ := hbuilt.deploy_storage plotters
      cases h.symm.trans hres
    | _ => cases h

/-- **Only a module whose API is not described can make a call crash.**  In every state that
an application can get into, a call of the controller crashes only while it puts together a
plotter, on the data path of a dataset to be served. -/
theorem crashed_of_run {w₀ w : World} (hcreated : w₀.application.status = default)
    (hrun : Relation.ReflTransGen Event w₀ w) (r : FybrikApplicationReconciler)
    (hcrashed : (r.reconcileRequest w).2 = .crashed) :
    ∃ w₁, r.submitted w = some w₁ ∧ r.MeetsUndescribed w₁.application := by
  rcases r.accepted_or w with ⟨w₁, status, haccepted⟩ | ⟨-, hne⟩
  · rw [haccepted.reconcileRequest_eq] at hcrashed
    have htidied := (bookkept_of_run hcreated hrun).tidied haccepted.tidied
    obtain ⟨hneeded, hnone⟩ := htidied.processApplication_crashed haccepted hcrashed
    refine ⟨w₁.withStatus status, ?_, meetsUndescribed_of_reconcile hnone⟩
    rw [haccepted.submitted_eq, if_pos hneeded]
  · exact absurd hcrashed hne

/-- The module that reads parquet files is replaced by one with nothing about its API. -/
def sparseReconciler : FybrikApplicationReconciler :=
  { notebookReconciler with
    modules := .ok (GoMap.ofList [("parquet-reader",
      { name := "parquet-reader"
        spec :=
          { type := "service"
            capabilities := [⟨"read", .workload, [⟨some ⟨"s3", "parquet"⟩, none⟩],
              some ⟨⟨"arrow-flight", ∅⟩, "arrow"⟩, []⟩]
            chart := default } })]) }

/-- The next call for a notebook that is edited then crashes. -/
theorem crashed_of_run_sparse :
    let w := { notebookDeployed with
      application := { notebookDeployed.application with generation := 2 } }
    (sparseReconciler.reconcileRequest w).2 = .crashed ∧
      ∃ w₁, sparseReconciler.submitted w = some w₁ ∧
        sparseReconciler.MeetsUndescribed w₁.application := by
  intro w
  have hcrashed : (sparseReconciler.reconcileRequest w).2 = .crashed := by decide +kernel
  have hdeploy : Relation.ReflTransGen Event notebookWorld notebookDeployed :=
    .single (.reconcile notebookReconciler)
  have hedit : Event notebookDeployed w := .edit rfl (by decide +kernel)
  exact ⟨hcrashed, crashed_of_run rfl (hdeploy.tail hedit) sparseReconciler hcrashed⟩

end Fybrik
