import Fybrik.Application.Calls
import Fybrik.Application.Runs

/-!
# The conditions of assets and the plotter

Once its plotter is generated, the application is told about it by polling: every call
of the controller reads the state of the plotter and enters it in the conditions of the
datasets.  A condition that has become true stays true until the plotter is generated
anew.

* `isTrue_checkReadiness` — what one look at the plotter does to the conditions.
* `Polling`, `PollStep` — the plotter changes its state or is looked at; we remember
  which states were read, and which of them were recorded.
* `Kept` — a condition is true exactly if some recorded state has said so.
* `run_conditionsFollow_iff` — when the conditions follow the state read last;
  `repaired_not_follows` shows that an error is never forgotten.
-/

namespace Fybrik

variable {data : List DataContext} {status status' : FybrikApplicationStatus}
  {r : FybrikApplicationReconciler} {observed : ObservedState} {id : String}

/-! ## One look at the plotter -/

/-- What a state of the plotter says about the conditions of a dataset it serves. -/
def ObservedState.Says (observed : ObservedState) (index : ℕ) : Prop :=
  (index = readyConditionIndex ∧ observed.Serving) ∨
    (index = errorConditionIndex ∧ observed.error ≠ "")

theorem ObservedState.says_ready : observed.Says readyConditionIndex ↔ observed.Serving := by
  simp [Says, readyConditionIndex, errorConditionIndex]

theorem ObservedState.says_error : observed.Says errorConditionIndex ↔ observed.error ≠ "" := by
  simp [Says, readyConditionIndex, errorConditionIndex]

theorem ObservedState.says_of_error (h : observed.error ≠ "") (index : ℕ) :
    observed.Says index ↔ index = errorConditionIndex := by
  simp [Says, Serving, h]

theorem ObservedState.says_of_serving (h : observed.Serving) (index : ℕ) :
    observed.Says index ↔ index = readyConditionIndex := by
  simp [Says, h, h.2]

theorem ObservedState.not_says (herror : observed.error = "") (hready : observed.ready = false)
    (index : ℕ) : ¬ observed.Says index := by
  simp [Says, Serving, herror, hready]

variable {ctx : DataContext}

theorem Tracked.setReadyCondition (h : Tracked data status) (hctx : ctx ∈ data) :
    ∃ status', setReadyCondition status ctx.dataSetID = some status' ∧
      Tracked data status' ∧ Marked [(readyConditionIndex, ctx.dataSetID)] status status' :=
  h.updateCondition hctx (by decide) (fun _ => rfl) fun hi => absurd hi (by decide)

/-- On a status that keeps track of the datasets, the program does not crash. -/
theorem Tracked.checkAsset (h : Tracked data status) (r : FybrikApplicationReconciler)
    (observed : ObservedState) (hctx : ctx ∈ data) :
    ∃ status', r.checkAsset observed status ctx = some status' ∧ Tracked data status' := by
  have hsame : ∃ status', some status = some status' ∧ Tracked data status' := ⟨status, rfl, h⟩
  have herror : ∀ msg, ∃ status', Fybrik.setErrorCondition status ctx.dataSetID msg = some status' ∧
      Tracked data status' := by
    intro msg
    obtain ⟨status', hset, htracked, -⟩ := h.setErrorCondition hctx msg
    exact ⟨status', hset, htracked⟩
  obtain ⟨ready, deny, error, hconditions, -⟩ := h.conditions hctx
  unfold FybrikApplicationReconciler.checkAsset
  simp only [hconditions, denyConditionIndex, List.getElem?_cons_succ, List.getElem?_cons_zero]
  split
  · exact hsame
  · split
    · exact herror _
    · split
      · exact hsame
      · split
        · split
          · exact hsame
          · split
            · exact herror _
            · split
              · exact herror _
              · exact herror _
        · obtain ⟨status', hset, htracked, -⟩ := h.setReadyCondition hctx
          exact ⟨status', hset, htracked⟩

/-- One turn of the loop makes the conditions true that the state of the plotter speaks
of, if the dataset is not denied and is not to be registered in a catalog. -/
theorem isTrue_checkAsset (h : r.checkAsset observed status ctx = some status')
    (hadmitted : status.isTrue denyConditionIndex id = false)
    (hcatalog : ctx.dataSetID = id → ctx.requirements.copy.catalogID = "") (index : ℕ) :
    status'.isTrue index id = true ↔
      status.isTrue index id = true ∨ (ctx.dataSetID = id ∧ observed.Says index) := by
  obtain ⟨marks, hchecked, hmarked⟩ := FybrikApplicationReconciler.checkAsset_marked h
  rw [hmarked.isTrue]
  refine or_congr_right ?_
  cases hchecked with
  | denied hdenied =>
    refine iff_of_false List.not_mem_nil ?_
    rintro ⟨rfl, -⟩
    cases hdenied.symm.trans hadmitted
  | failed _ herror =>
    rw [List.mem_singleton, Prod.mk.injEq, ObservedState.says_of_error herror, and_comm,
      eq_comm (a := id)]
  | waiting _ herror hready =>
    refine iff_of_false List.not_mem_nil ?_
    rintro ⟨-, hsays⟩
    exact ObservedState.not_says herror hready index hsays
  | cataloged _ hne =>
    refine iff_of_false List.not_mem_nil ?_
    rintro ⟨hid, -⟩
    exact hne (hcatalog hid)
  | notCataloged _ hne =>
    refine iff_of_false ?_ ?_
    · intro hmem
      exact hne (hcatalog (Prod.mk.inj (List.mem_singleton.1 hmem)).2.symm)
    · rintro ⟨hid, -⟩
      exact hne (hcatalog hid)
  | ready _ hserving =>
    rw [List.mem_singleton, Prod.mk.injEq, ObservedState.says_of_serving hserving, and_comm,
      eq_comm (a := id)]

variable {l : List DataContext}

theorem checkLoop_tracked (h : Tracked data status) (r : FybrikApplicationReconciler)
    (observed : ObservedState) (hl : ∀ ctx ∈ l, ctx ∈ data) :
    ∃ status', l.foldlM (r.checkAsset observed) status = some status' ∧ Tracked data status' := by
  induction l generalizing status with
  | nil => exact ⟨status, rfl, h⟩
  | cons ctx l ih =>
    obtain ⟨status₁, hstep, htracked⟩ := h.checkAsset r observed (hl ctx List.mem_cons_self)
    obtain ⟨status₂, hrest, htracked₂⟩ := ih htracked fun c hc => hl c (List.mem_cons_of_mem _ hc)
    refine ⟨status₂, ?_, htracked₂⟩
    rw [List.foldlM_cons, hstep]
    exact hrest

/-- The whole loop: what the plotter says is entered for every dataset of the list. -/
theorem isTrue_checkLoop (h : l.foldlM (r.checkAsset observed) status = some status')
    (hadmitted : status.isTrue denyConditionIndex id = false)
    (hcatalog : ∀ ctx ∈ l, ctx.dataSetID = id → ctx.requirements.copy.catalogID = "") (index : ℕ) :
    status'.isTrue index id = true ↔
      status.isTrue index id = true ∨ ((∃ ctx ∈ l, ctx.dataSetID = id) ∧ observed.Says index) := by
  induction l generalizing status with
  | nil =>
    cases h
    simp
  | cons ctx l ih =>
    rw [List.foldlM_cons] at h
    obtain ⟨status₁, hstep, hrest⟩ := Option.bind_eq_some_iff.1 h
    have hadmitted₁ : status₁.isTrue denyConditionIndex id = false :=
      ((FybrikApplicationReconciler.checkAsset_sameDenials hstep).denied id).trans hadmitted
    rw [ih hrest hadmitted₁ fun c hc => hcatalog c (List.mem_cons_of_mem _ hc),
      isTrue_checkAsset hstep hadmitted (hcatalog ctx List.mem_cons_self)]
    simp only [List.mem_cons, exists_eq_or_imp]
    rw [or_assoc, ← or_and_right]

/-- A dataset that does not ask to be registered in a catalog. -/
structure Uncataloged (data : List DataContext) (id : String) : Prop where
  listed : ∃ ctx ∈ data, ctx.dataSetID = id
  catalogID : ∀ ctx ∈ data, ctx.dataSetID = id → ctx.requirements.copy.catalogID = ""

theorem Tracked.assetStates_ne (h : Tracked data status) (hid : Uncataloged data id) :
    status.assetStates.pairs.isEmpty = false := by
  obtain ⟨ctx, hctx, -⟩ := hid.listed
  obtain ⟨state, hstate⟩ := h.present ctx hctx
  rw [List.isEmpty_eq_false_iff]
  exact List.ne_nil_of_mem (GoMap.mem_pairs.2 hstate)

theorem Tracked.checkReadiness (h : Tracked data status) (r : FybrikApplicationReconciler)
    (observed : ObservedState) :
    ∃ status', r.checkReadiness data status observed = some status' ∧ Tracked data status' := by
  unfold FybrikApplicationReconciler.checkReadiness
  split
  · exact checkLoop_tracked (initStatus_fresh data status).tracked r observed fun _ hctx => hctx
  · exact checkLoop_tracked h r observed fun _ hctx => hctx

/-- A look at the plotter makes the conditions true that its state speaks of. -/
theorem isTrue_checkReadiness (htracked : Tracked data status)
    (h : r.checkReadiness data status observed = some status')
    (hadmitted : status.isTrue denyConditionIndex id = false) (hid : Uncataloged data id)
    (index : ℕ) :
    status'.isTrue index id = true ↔ status.isTrue index id = true ∨ observed.Says index := by
  rw [FybrikApplicationReconciler.checkReadiness, htracked.assetStates_ne hid,
    if_neg Bool.false_ne_true] at h
  rw [isTrue_checkLoop h hadmitted hid.catalogID, and_iff_right hid.listed]

/-- A dataset only becomes ready if the plotter is ready. -/
theorem ready_checkReadiness (h : r.checkReadiness data status observed = some status')
    (hready : status'.isTrue readyConditionIndex id = true) :
    status.isTrue readyConditionIndex id = true ∨ observed.Serving := by
  have hloop : ∀ start, data.foldlM (r.checkAsset observed) start = some status' →
      start.isTrue readyConditionIndex id = true ∨ observed.Serving := by
    intro start hstart
    refine Loops.foldlM_preserves (fun t : FybrikApplicationStatus =>
      t.isTrue readyConditionIndex id = true →
        start.isTrue readyConditionIndex id = true ∨ observed.Serving)
      (fun ctx _ s t ih hstep htrue => ?_) Or.inl hstart hready
    obtain ⟨marks, hchecked, hmarked⟩ := FybrikApplicationReconciler.checkAsset_marked hstep
    rcases (hmarked.isTrue _ _).1 htrue with hbefore | hmem
    · exact ih hbefore
    · right
      cases hchecked with
      | ready _ hserving => exact hserving
      | cataloged hserving => exact hserving
      | notCataloged hserving => exact hserving
      | denied => cases hmem
      | waiting => cases hmem
      | failed =>
        exact absurd (Prod.mk.inj (List.mem_singleton.1 hmem)).1 (by
          simp [readyConditionIndex, errorConditionIndex])
  unfold FybrikApplicationReconciler.checkReadiness at h
  split at h
  · refine (hloop _ h).imp_left fun hinit => ?_
    rw [(initStatus_fresh data status).isTrue] at hinit
    exact absurd hinit Bool.false_ne_true
  · exact hloop status h

/-! ## Polling -/

/-- An application and the plotters.  We remember the states of its plotter that were
recorded in the conditions. -/
structure Polling where
  world : World
  recorded : List ObservedState

/-- A dataset whose conditions are to follow the plotter: it is not denied, and does not
ask to be registered in a catalog. -/
structure Monitored (w : World) (id : String) : Prop where
  uncataloged : Uncataloged w.application.spec.data id
  admitted : w.application.status.isTrue denyConditionIndex id = false

/-- The conditions of a dataset follow a state of the plotter. -/
structure Follows (status : FybrikApplicationStatus) (id : String) (observed : ObservedState) :
    Prop where
  ready : status.isTrue readyConditionIndex id = true ↔ observed.Serving
  error : status.isTrue errorConditionIndex id = true ↔ observed.error ≠ ""

namespace FybrikApplicationReconciler

/-- A call of the controller reads a state of the plotter. -/
def Polls (r : FybrikApplicationReconciler) (w : World) (observed : ObservedState) : Prop :=
  ∃ w₁ status, r.Accepted w w₁ status ∧ r.plotterNeeded w₁ = false ∧
    r.getResourceStatus w₁.plotters status.generated = .ok observed

/-- What is recorded by a call that reads a state of the plotter. -/
def record (r : FybrikApplicationReconciler) (recorded : List ObservedState)
    (observed : ObservedState) : List ObservedState :=
  match r.api.updateStatus with
  | none => recorded ++ [observed]
  | some _ => recorded

end FybrikApplicationReconciler

/-- Within a generation of the application: a plotter changes its state, or a call of the
controller reads the state of the plotter. -/
inductive PollStep : Polling → Polling → Prop
  | plotterStatus {s : Polling} {key : NamespacedName} {plotter : Plotter}
      {observed : ObservedState} (hlookup : s.world.plotters.lookup key = some plotter) :
      PollStep s { s with world := { s.world with
        plotters := s.world.plotters.set key { plotter with observedState := observed } } }
  | poll {s : Polling} {observed : ObservedState} (r : FybrikApplicationReconciler)
      (hpolls : r.Polls s.world observed) :
      PollStep s ⟨(r.reconcileRequest s.world).1, r.record s.recorded observed⟩

/-- The world right after a call of the controller in which `reconcile` was run, and the
status was stored. -/
def Reconciled.Stored (w₀ : World) : Prop :=
  ∃ (r : FybrikApplicationReconciler) (w : World) (res : Reconciled),
    r.reconciled w = some res ∧ r.api.updateStatus = none ∧ w₀ = (r.reconcileRequest w).1

/-- What polling maintains: a condition of a dataset is true exactly if it was true in the
beginning or a recorded state of the plotter has said so. -/
structure Kept (w₀ : World) (s : Polling) : Prop where
  tracked : Tracked s.world.application.spec.data s.world.application.status
  conditions : ∀ id, Monitored s.world id → ∀ index,
    s.world.application.status.isTrue index id = true ↔
      w₀.application.status.isTrue index id = true ∨ ∃ o ∈ s.recorded, o.Says index

variable {w₀ : World}

/-- The status of a reconcile that has been stored: it keeps track of all datasets, and
none is ready. -/
theorem Reconciled.Stored.tracked (h : Reconciled.Stored w₀) :
    Tracked w₀.application.spec.data w₀.application.status ∧
      ∀ id, w₀.application.status.isTrue readyConditionIndex id = false := by
  obtain ⟨r, w, res, hreconciled, hsucceeds, rfl⟩ := h
  obtain ⟨w₁, status, haccepted, -, hres⟩ :=
    FybrikApplicationReconciler.exists_accepted_of_reconciled hreconciled
  obtain ⟨htracked, hready⟩ := (FybrikApplicationReconciler.reconcile_course hres).tracked
  obtain ⟨finalizers, hfinalizers⟩ := haccepted.application_eq
  rw [hfinalizers] at htracked
  obtain ⟨_, _, _, hstored⟩ :=
    FybrikApplicationReconciler.application_of_reconciled hreconciled hsucceeds
  rw [hstored]
  exact ⟨htracked.congr rfl, hready⟩

/-- The plotter is looked at: what it says is recorded, unless the status cannot be
stored. -/
theorem Kept.poll {s : Polling} (h : Kept w₀ s) (hpolls : r.Polls s.world observed) :
    Kept w₀ ⟨(r.reconcileRequest s.world).1, r.record s.recorded observed⟩ := by
  obtain ⟨w₁, status, haccepted, hneeded, hobserved⟩ := hpolls
  obtain ⟨finalizers, hfinalizers⟩ := haccepted.application_eq
  have hstates : status.assetStates = s.world.application.status.assetStates := by
    obtain ⟨generation, msg, valid, rfl⟩ := haccepted.status_eq
    rfl
  have hdata : w₁.application.spec.data = s.world.application.spec.data := by rw [hfinalizers]
  have htracked : Tracked w₁.application.spec.data status := by
    rw [hdata]
    exact h.tracked.congr hstates
  obtain ⟨status', hstatus', htracked'⟩ := htracked.checkReadiness r observed
  rw [haccepted.reconcileRequest_polled hneeded hobserved hstatus']
  rcases r.finish_tracked w₁ htracked' with ⟨hlost, err, hfails⟩ | ⟨ready, hstored, hsucceeds⟩
  · -- the status is not stored
    have hrecord : r.record s.recorded observed = s.recorded := by
      simp only [FybrikApplicationReconciler.record, hfails]
    rw [hlost, hrecord]
    refine ⟨?_, fun id hid => ?_⟩
    · simp only [hfinalizers]
      exact h.tracked
    · simp only [hfinalizers]
      refine h.conditions id ⟨?_, ?_⟩
      · exact hdata ▸ hid.uncataloged
      · have hadmitted := hid.admitted
        rw [hfinalizers] at hadmitted
        exact hadmitted
  · have hrecord : r.record s.recorded observed = s.recorded ++ [observed] := by
      simp only [FybrikApplicationReconciler.record, hsucceeds]
    rw [hstored, hrecord]
    refine ⟨htracked'.congr rfl, fun id hid index => ?_⟩
    have hsame := FybrikApplicationReconciler.checkReadiness_sameDenials hstatus'
    have hadmitted' : status'.isTrue denyConditionIndex id = false := hid.admitted
    have hadmitted : status.isTrue denyConditionIndex id = false :=
      (hsame.denied id).symm.trans hadmitted'
    have hmonitored : Monitored s.world id :=
      ⟨hdata ▸ hid.uncataloged, (isTrue_congr hstates).symm.trans hadmitted⟩
    calc status'.isTrue index id = true
        ↔ status.isTrue index id = true ∨ observed.Says index :=
          isTrue_checkReadiness htracked hstatus' hadmitted hid.uncataloged index
      _ ↔ (w₀.application.status.isTrue index id = true ∨ ∃ o ∈ s.recorded, o.Says index) ∨
            observed.Says index := by
          rw [isTrue_congr hstates, h.conditions id hmonitored index]
      _ ↔ w₀.application.status.isTrue index id = true ∨
            ∃ o ∈ s.recorded ++ [observed], o.Says index := by
          simp only [List.mem_append, List.mem_singleton, or_and_right, exists_or, exists_eq_left,
            or_assoc]

theorem kept_of_run {s : Polling} (h₀ : Reconciled.Stored w₀)
    (hrun : Relation.ReflTransGen PollStep ⟨w₀, []⟩ s) : Kept w₀ s := by
  induction hrun with
  | refl => exact ⟨h₀.tracked.1, by simp⟩
  | tail _ hstep ih =>
    cases hstep with
    | plotterStatus hlookup => exact ⟨ih.tracked, fun id hid => ih.conditions id ⟨hid.1, hid.2⟩⟩
    | poll r hpolls => exact ih.poll hpolls

/-- When the conditions of a dataset follow the state of the plotter that a call has
read: the states recorded since the plotter was generated must say what this one says,
and so must the error the dataset had in the beginning, if any. -/
theorem run_conditionsFollow_iff (w₀ : World) (s : Polling) (r : FybrikApplicationReconciler)
    (observed : ObservedState) (h₀ : Reconciled.Stored w₀)
    (hrun : Relation.ReflTransGen PollStep ⟨w₀, []⟩ s) (hpolls : r.Polls s.world observed) :
    (∀ id, Monitored (r.reconcileRequest s.world).1 id →
      Follows (r.reconcileRequest s.world).1.application.status id observed) ↔
    ∀ id, Monitored (r.reconcileRequest s.world).1 id →
      ((∃ o ∈ r.record s.recorded observed, o.Serving) ↔ observed.Serving) ∧
      ((w₀.application.status.isTrue errorConditionIndex id = true ∨
        ∃ o ∈ r.record s.recorded observed, o.error ≠ "") ↔ observed.error ≠ "") := by
  have hkept := (kept_of_run h₀ hrun).poll hpolls
  refine forall_congr' fun id => forall_congr' fun hid => ?_
  have hready := hkept.conditions id hid readyConditionIndex
  have herror := hkept.conditions id hid errorConditionIndex
  rw [h₀.tracked.2 id] at hready
  simp only [Bool.false_eq_true, false_or, ObservedState.says_ready] at hready
  simp only [ObservedState.says_error] at herror
  rw [← hready, ← herror]
  exact ⟨fun h => ⟨h.ready, h.error⟩, fun h => ⟨h.1, h.2⟩⟩

/-! ### A notebook whose plotter is repaired -/

/-- Without error messages no dataset is in an error state. -/
theorem not_error_of_getErrorMessages (htracked : Tracked data status)
    (h : getErrorMessages status = some "") (id : String) :
    status.isTrue errorConditionIndex id = false := by
  have hmessage : status.errorMessage = "" := by
    by_contra hne
    rw [getErrorMessages, if_pos hne] at h
    exact hne (Option.some.inj h)
  obtain ⟨msg, hmsg, hiff⟩ := getErrorMessages_eq htracked hmessage
  exact hiff.1 (Option.some.inj (hmsg.symm.trans h)) id

/-- The plotter of the notebook has been generated. -/
def notebookPolling : Polling := ⟨notebookDeployed, []⟩

theorem notebookDeployed_stored : Reconciled.Stored notebookDeployed :=
  ⟨notebookReconciler, notebookWorld, _, rfl, rfl, rfl⟩

/-- The plotter of the notebook reports a state. -/
def Polling.report (s : Polling) (observed : ObservedState) : Polling :=
  { s with world := { s.world with
      plotters := s.world.plotters.set ⟨"notebook-default", "fybrik-system"⟩
        { (s.world.plotters.get ⟨"notebook-default", "fybrik-system"⟩) with
          observedState := observed } } }

/-- The controller looks at the plotter. -/
def Polling.look (s : Polling) (observed : ObservedState) : Polling :=
  ⟨(notebookReconciler.reconcileRequest s.world).1, s.recorded ++ [observed]⟩

/-- The plotter of the notebook has failed, and this was noticed. -/
def notebookFailed : Polling :=
  (notebookPolling.report ⟨false, "chart not found"⟩).look ⟨false, "chart not found"⟩

theorem step_notebookServing :
    PollStep notebookPolling (notebookPolling.report ⟨true, ""⟩) := .plotterStatus rfl

theorem polls_notebookServing :
    notebookReconciler.Polls (notebookPolling.report ⟨true, ""⟩).world ⟨true, ""⟩ :=
  ⟨_, _, ⟨rfl, rfl, rfl, by decide⟩, rfl, rfl⟩

theorem run_notebookFailed : Relation.ReflTransGen PollStep notebookPolling notebookFailed := by
  have hreport : PollStep notebookPolling (notebookPolling.report ⟨false, "chart not found"⟩) :=
    .plotterStatus rfl
  have hlook : PollStep (notebookPolling.report ⟨false, "chart not found"⟩) notebookFailed :=
    .poll notebookReconciler ⟨_, _, ⟨rfl, rfl, rfl, by decide⟩, rfl, rfl⟩
  exact (Relation.ReflTransGen.single hreport).tail hlook

/-- The first state of the plotter is followed. -/
theorem notebook_conditionsFollow :
    (Reconciled.Stored notebookDeployed ∧
      Relation.ReflTransGen PollStep notebookPolling (notebookPolling.report ⟨true, ""⟩) ∧
      notebookReconciler.Polls (notebookPolling.report ⟨true, ""⟩).world ⟨true, ""⟩) ∧
    ∀ id, Monitored (notebookReconciler.reconcileRequest
        (notebookPolling.report ⟨true, ""⟩).world).1 id →
      Follows (notebookReconciler.reconcileRequest
        (notebookPolling.report ⟨true, ""⟩).world).1.application.status id ⟨true, ""⟩ := by
  refine ⟨⟨notebookDeployed_stored, .single step_notebookServing, polls_notebookServing⟩, ?_⟩
  refine (run_conditionsFollow_iff _ _ _ _ notebookDeployed_stored (.single step_notebookServing)
    polls_notebookServing).2 fun id _ => ?_
  have hstart : notebookDeployed.application.status.isTrue errorConditionIndex id = false :=
    not_error_of_getErrorMessages notebookDeployed_stored.tracked.1 (by decide +kernel) id
  have hrecord : notebookReconciler.record (notebookPolling.report ⟨true, ""⟩).recorded ⟨true, ""⟩
      = [⟨true, ""⟩] := rfl
  rw [hrecord, hstart]
  simp [ObservedState.Serving]

/-- A plotter that has failed is repaired and ready; the dataset is still in an error
state. -/
theorem repaired_not_follows :
    Reconciled.Stored notebookDeployed ∧
    ∃ s, Relation.ReflTransGen PollStep notebookPolling s ∧
      notebookReconciler.Polls s.world ⟨true, ""⟩ ∧
      Monitored (notebookReconciler.reconcileRequest s.world).1 "xxx" ∧
      ¬ Follows (notebookReconciler.reconcileRequest s.world).1.application.status "xxx"
        ⟨true, ""⟩ := by
  have hrepaired : PollStep notebookFailed (notebookFailed.report ⟨true, ""⟩) := .plotterStatus rfl
  refine ⟨notebookDeployed_stored, _, run_notebookFailed.tail hrepaired,
    ⟨_, _, ⟨rfl, rfl, rfl, by decide⟩, rfl, rfl⟩, ⟨⟨?_, ?_⟩, by decide +kernel⟩, ?_⟩
  · exact ⟨⟨"xxx", ⟨⟨"arrow-flight", "arrow"⟩, default⟩⟩, by decide +kernel, rfl⟩
  · intro ctx hctx _
    have hall : ∀ ctx ∈ (notebookSpec ["xxx", "yyy"]).data,
        ctx.requirements.copy.catalogID = "" := by decide +kernel
    exact hall ctx hctx
  · intro hfollows
    have herror : (notebookReconciler.reconcileRequest
        (notebookFailed.report ⟨true, ""⟩).world).1.application.status.isTrue
          errorConditionIndex "xxx" = true := by decide +kernel
    exact hfollows.error.1 herror rfl

end Fybrik
