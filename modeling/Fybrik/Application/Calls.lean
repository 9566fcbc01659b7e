import Fybrik.Application.Access

/-!
# A call of the controller of applications

What a call of `Reconcile` can do, whatever calls to the API server fail in it.

* `plotterNeeded`, `submitted`, `reconciled` — whether `reconcile` is called, for which
  application, and what it returns.
* `Tidied` — what becomes of the application and its plotter while the finalizers are
  seen to.
* `Accepted` — the application is valid, and is processed.
* `Call` — the ways a call can go; `reconcileRequest_call` shows that there are no
  others.
* `application_of_reconciled` — what is stored after `reconcile`.
-/

namespace Fybrik

namespace FybrikApplicationReconciler

variable (r : FybrikApplicationReconciler)

/-- The plotter has to be generated, or generated anew. -/
def plotterNeeded (w : World) : Bool :=
  !r.generationComplete w || w.application.status.observedGeneration != w.application.generation

/-- The world in which a call of the controller calls `reconcile`, if it does. -/
def submitted (w : World) : Option World :=
  match r.reconcileFinalizers w with
  | (_, some _) => none
  | (w, none) =>
    if w.application.beingDeleted then none
    else
      match r.validateApplication w.application with
      | (_, some _) => none
      | (status, none) =>
        if status.validApplication = .conditionFalse then none
        else if r.plotterNeeded w then some (w.withStatus status)
        else none

theorem processApplication_eq (w : World) (status : FybrikApplicationStatus) :
    r.processApplication w status =
      if r.plotterNeeded w = true then
        match r.reconcile { w.application with status := status } w.plotters with
        | none => (w, .crashed)
        | some res =>
          match res.err with
          | some err =>
            ((r.updateStatus { w with plotters := res.plotters } res.status).1, .failed err)
          | none => r.finish { w with plotters := res.plotters }
              { res.status with observedGeneration := w.application.generation }
      else
        match r.getResourceStatus w.plotters status.generated with
        | .error err => (w, .failed err)
        | .ok observed =>
          match r.checkReadiness w.application.spec.data status observed with
          | none => (w, .crashed)
          | some status => r.finish w status := rfl

/-- What `reconcile` leaves behind in a call of the controller, if it is called and does
not crash. -/
def reconciled (w : World) : Option Reconciled :=
  (r.submitted w).bind fun w => r.reconcile w.application w.plotters

/-! ## The finalizers -/

/-- What becomes of the application and its plotter while the finalizers are seen to:
only the finalizers change, and the plotter may be deleted. -/
inductive Tidied (w : World) : World → Prop
  | kept {finalizers : List String} :
      Tidied w ⟨{ w.application with finalizers := finalizers }, w.plotters⟩
  | deleted {finalizers : List String} {ref : ResourceReference} {plotter : Plotter}
      (hempty : w.application.beingDeleted = true ∨ w.application.spec.data = [])
      (href : w.application.status.generated = some ref)
      (hlookup : w.plotters.lookup ref.namespacedName = some plotter) :
      Tidied w ⟨{ w.application with finalizers := finalizers },
        storePlotter w.plotters ref.namespacedName { plotter with beingDeleted := true }⟩

theorem Tidied.application_eq (h : Tidied w w₁) :
    ∃ finalizers, w₁.application = { w.application with finalizers := finalizers } := by
  cases h with
  | kept => exact ⟨_, rfl⟩
  | deleted => exact ⟨_, rfl⟩

theorem plotters_deleteExternalResources (status : FybrikApplicationStatus)
    (plotters : GoMap NamespacedName Plotter) :
    (r.deleteExternalResources status plotters).1 = plotters ∨
      ∃ ref plotter, status.generated = some ref ∧
        plotters.lookup ref.namespacedName = some plotter ∧
        (r.deleteExternalResources status plotters).1 =
          storePlotter plotters ref.namespacedName { plotter with beingDeleted := true } := by
  unfold deleteExternalResources
  dsimp only
  split
  · exact Or.inl rfl
  · cases hgenerated : status.generated with
    | none => exact Or.inl rfl
    | some ref =>
      simp only [deleteResource]
      split
      · exact Or.inl rfl
      · rename_i plotter _ hlookup
        exact Or.inr ⟨ref, plotter, rfl, hlookup, rfl⟩
      · exact Or.inl rfl

theorem tidied_updateFinalizers {w' : World} {finalizers : List String}
    (h : ∀ finalizers, Tidied w ⟨{ w.application with finalizers := finalizers }, w'.plotters⟩)
    (happlication : w'.application = w.application) :
    Tidied w (r.updateFinalizers w' finalizers).1 := by
  obtain ⟨application, plotters⟩ := w'
  obtain rfl := happlication
  unfold updateFinalizers
  split
  · exact h w.application.finalizers
  · exact h finalizers

theorem tidied_reconcileFinalizers (w : World) : Tidied w (r.reconcileFinalizers w).1 := by
  have hsame : Tidied w w := @Tidied.kept w w.application.finalizers
  unfold reconcileFinalizers
  dsimp only
  split
  · rename_i hempty
    rw [Bool.or_eq_true, List.isEmpty_iff] at hempty
    have hplotters : ∀ finalizers, Tidied w
        ⟨{ w.application with finalizers := finalizers },
          (r.deleteExternalResources w.application.status w.plotters).1⟩ := by
      intro finalizers
      rcases r.plotters_deleteExternalResources w.application.status w.plotters with
        hplotters | ⟨ref, plotter, href, hlookup, hplotters⟩
      · rw [hplotters]
        exact .kept
      · rw [hplotters]
        exact .deleted hempty href hlookup
    split
    · split
      · rename_i plotters err hdelete
        rw [hdelete] at hplotters
        exact hplotters w.application.finalizers
      · rename_i plotters hdelete
        rw [hdelete] at hplotters
        exact r.tidied_updateFinalizers hplotters rfl
    · exact hsame
  · split
    · exact hsame
    · exact r.tidied_updateFinalizers (fun _ => .kept) rfl

/-! ## The status -/

/-- The validation changes what is known about the validity, and the message. -/
theorem validateApplication_eq (application : FybrikApplication) :
    ∃ generation msg valid, (r.validateApplication application).1 =
      { application.status with
        validatedGeneration := generation
        errorMessage := msg
        validApplication := valid } := by
  unfold validateApplication
  dsimp only
  split
  · split
    · exact ⟨_, _, _, rfl⟩
    · exact ⟨_, application.status.errorMessage, _, rfl⟩
  · exact ⟨application.status.validatedGeneration, application.status.errorMessage,
      application.status.validApplication, rfl⟩

/-- A status is stored, unless this fails. -/
theorem updateStatus_cases (w : World) (status : FybrikApplicationStatus) :
    ((r.updateStatus w status).1 = w ∧ r.api.updateStatus ≠ none) ∨
      ((r.updateStatus w status).1 = w.withStatus status ∧ r.api.updateStatus = none) := by
  unfold updateStatus
  split
  · rename_i err herr
    exact Or.inl ⟨rfl, by rw [herr]; exact Option.some_ne_none err⟩
  · rename_i hnone
    exact Or.inr ⟨rfl, hnone⟩

/-- The status is stored with the readiness determined from it, unless this fails or
the program crashes. -/
theorem finish_cases (w : World) (status : FybrikApplicationStatus) :
    ((r.finish w status).1 = w ∧
        (r.api.updateStatus = none → isReady w.application.spec.data status = none)) ∨
      ∃ ready, (r.finish w status).1 = w.withStatus { status with ready := ready } ∧
        r.api.updateStatus = none := by
  rw [finish_eq]
  cases isReady w.application.spec.data status with
  | none => exact Or.inl ⟨rfl, fun _ => rfl⟩
  | some ready =>
    rcases r.updateStatus_cases w { status with ready := ready } with ⟨hlost, hfails⟩ | hstored
    · exact Or.inl ⟨hlost, fun hnone => absurd hnone hfails⟩
    · exact Or.inr ⟨ready, hstored⟩

/-- On a status that keeps track of all datasets the program does not crash. -/
theorem finish_tracked (w : World) (htracked : Tracked w.application.spec.data status) :
    ((r.finish w status).1 = w ∧ ∃ err, r.api.updateStatus = some err) ∨
      ∃ ready, (r.finish w status).1 = w.withStatus { status with ready := ready } ∧
        r.api.updateStatus = none := by
  refine (r.finish_cases w status).imp_left ?_
  rintro ⟨hlost, hcrash⟩
  refine ⟨hlost, Option.ne_none_iff_exists'.1 fun hnone => ?_⟩
  have hcrash := hcrash hnone
  rw [isReady_eq htracked] at hcrash
  cases hcrash

/-! ## The ways a call can go -/

/-- The application is valid, and is processed with the given status. -/
structure Accepted (w w₁ : World) (status : FybrikApplicationStatus) : Prop where
  finalized : r.reconcileFinalizers w = (w₁, none)
  notDeleted : w₁.application.beingDeleted = false
  validated : r.validateApplication w₁.application = (status, none)
  valid : status.validApplication ≠ .conditionFalse

/-- The ways a call can go.  It does not get to the processing of the application, or a
plotter is generated, or the state of the plotter is looked at. -/
inductive Call (w : World) : World × Outcome → Prop
  | stopped {out : Outcome} (hnone : r.reconciled w = none) :
      Call w ((r.reconcileFinalizers w).1, out)
  | invalid {status : FybrikApplicationStatus} {out : Outcome} (hnone : r.reconciled w = none)
      (hvalidate : (r.validateApplication (r.reconcileFinalizers w).1.application).1 = status) :
      Call w ((r.updateStatus (r.reconcileFinalizers w).1 status).1, out)
  | failed {w₁ : World} {status : FybrikApplicationStatus} {res : Reconciled} {err : String}
      (haccepted : r.Accepted w w₁ status) (hneeded : r.plotterNeeded w₁ = true)
      (hres : r.reconcile { w₁.application with status := status } w₁.plotters = some res)
      (herr : res.err = some err) :
      Call w ((r.updateStatus { w₁ with plotters := res.plotters } res.status).1, .failed err)
  | generated {w₁ : World} {status : FybrikApplicationStatus} {res : Reconciled}
      (haccepted : r.Accepted w w₁ status) (hneeded : r.plotterNeeded w₁ = true)
      (hres : r.reconcile { w₁.application with status := status } w₁.plotters = some res)
      (herr : res.err = none) :
      Call w (r.finish { w₁ with plotters := res.plotters }
        { res.status with observedGeneration := w₁.application.generation })
  | polled {w₁ : World} {status status' : FybrikApplicationStatus} {observed : ObservedState}
      (haccepted : r.Accepted w w₁ status) (hneeded : r.plotterNeeded w₁ = false)
      (hobserved : r.getResourceStatus w₁.plotters status.generated = .ok observed)
      (hstatus : r.checkReadiness w₁.application.spec.data status observed = some status') :
      Call w (r.finish w₁ status')

variable {r} {w w₁ : World} {status : FybrikApplicationStatus}

theorem Accepted.submitted_eq (h : r.Accepted w w₁ status) :
    r.submitted w = if r.plotterNeeded w₁ = true then some (w₁.withStatus status) else none := by
  simp only [submitted, h.finalized, h.notDeleted, h.validated, if_neg h.valid]
  rfl

theorem Accepted.reconciled_eq (h : r.Accepted w w₁ status) (hneeded : r.plotterNeeded w₁ = true) :
    r.reconciled w = r.reconcile { w₁.application with status := status } w₁.plotters := by
  rw [reconciled, h.submitted_eq, if_pos hneeded]
  rfl

theorem Accepted.reconciled_eq_none (h : r.Accepted w w₁ status)
    (hneeded : r.plotterNeeded w₁ = false) : r.reconciled w = none := by
  rw [reconciled, h.submitted_eq, if_neg (by rw [hneeded]; exact Bool.false_ne_true)]
  rfl

theorem Accepted.tidied (h : r.Accepted w w₁ status) : Tidied w w₁ := by
  have htidied := r.tidied_reconcileFinalizers w
  rw [h.finalized] at htidied
  exact htidied

/-- The plotter of an application with datasets stays where it is. -/
theorem Accepted.plotters_eq (h : r.Accepted w w₁ status) (hdata : w.application.spec.data ≠ []) :
    w₁.plotters = w.plotters := by
  have hnotDeleted := h.notDeleted
  cases h.tidied with
  | kept => rfl
  | deleted hempty =>
    rcases hempty with hdeleted | hnil
    · cases hnotDeleted.symm.trans hdeleted
    · exact absurd hnil hdata

/-- Of the application only the finalizers have changed. -/
theorem Accepted.application_eq (h : r.Accepted w w₁ status) :
    ∃ finalizers, w₁.application = { w.application with finalizers := finalizers } :=
  h.tidied.application_eq

/-- The status is the one of the application, but for the results of the validation. -/
theorem Accepted.status_eq (h : r.Accepted w w₁ status) :
    ∃ generation msg valid, status = { w.application.status with
      validatedGeneration := generation
      errorMessage := msg
      validApplication := valid } := by
  obtain ⟨finalizers, happlication⟩ := h.application_eq
  obtain ⟨generation, msg, valid, hvalidate⟩ := r.validateApplication_eq w₁.application
  rw [h.validated, happlication] at hvalidate
  exact ⟨generation, msg, valid, hvalidate⟩

theorem Accepted.reconcileRequest_eq (h : r.Accepted w w₁ status) :
    r.reconcileRequest w = r.processApplication w₁ status := by
  simp only [reconcileRequest, h.finalized, h.notDeleted, reconcileApplication, h.validated,
    if_neg h.valid]
  rfl

theorem Accepted.reconcileRequest_reconciled (h : r.Accepted w w₁ status)
    (hneeded : r.plotterNeeded w₁ = true) {res : Reconciled}
    (hres : r.reconcile { w₁.application with status := status } w₁.plotters = some res) :
    r.reconcileRequest w = match res.err with
      | some err => ((r.updateStatus { w₁ with plotters := res.plotters } res.status).1, .failed err)
      | none => r.finish { w₁ with plotters := res.plotters }
          { res.status with observedGeneration := w₁.application.generation } := by
  rw [h.reconcileRequest_eq, processApplication_eq, if_pos hneeded, hres]

/-- A call that looks at the plotter. -/
theorem Accepted.reconcileRequest_polled (h : r.Accepted w w₁ status)
    (hneeded : r.plotterNeeded w₁ = false) {observed : ObservedState}
    (hobserved : r.getResourceStatus w₁.plotters status.generated = .ok observed)
    {status' : FybrikApplicationStatus}
    (hstatus' : r.checkReadiness w₁.application.spec.data status observed = some status') :
    r.reconcileRequest w = r.finish w₁ status' := by
  rw [h.reconcileRequest_eq, processApplication_eq, if_neg (Bool.eq_false_iff.1 hneeded)]
  simp only [hobserved, hstatus']

theorem Accepted.call (h : r.Accepted w w₁ status) :
    r.Call w (r.processApplication w₁ status) := by
  have hfirst : (r.reconcileFinalizers w).1 = w₁ := by rw [h.finalized]
  have hstopped : r.reconciled w = none → ∀ out, r.Call w (w₁, out) := by
    intro hnone out
    rw [← hfirst]
    exact .stopped hnone
  rw [processApplication_eq]
  by_cases hneeded : r.plotterNeeded w₁ = true
  · rw [if_pos hneeded]
    split
    · rename_i hnone
      exact hstopped ((h.reconciled_eq hneeded).trans hnone) _
    · rename_i res hres
      split
      · rename_i err herr
        exact .failed h hneeded hres herr
      · rename_i herr
        exact .generated h hneeded hres herr
  · rw [if_neg hneeded]
    have hneeded := Bool.eq_false_iff.2 hneeded
    split
    · exact hstopped (h.reconciled_eq_none hneeded) _
    · rename_i observed hobserved
      split
      · exact hstopped (h.reconciled_eq_none hneeded) _
      · rename_i status' hstatus'
        exact .polled h hneeded hobserved hstatus'

theorem reconcileRequest_call (r : FybrikApplicationReconciler) (w : World) :
    r.Call w (r.reconcileRequest w) := by
  unfold reconcileRequest
  cases hfinalized : r.reconcileFinalizers w with
  | mk w₁ err =>
    have hfirst : (r.reconcileFinalizers w).1 = w₁ := by rw [hfinalized]
    have hstopped : r.submitted w = none → ∀ out, r.Call w (w₁, out) := by
      intro hnone out
      rw [← hfirst]
      exact .stopped (by rw [reconciled, hnone]; rfl)
    cases err with
    | some err => exact hstopped (by rw [submitted, hfinalized]) _
    | none =>
      by_cases hdeleted : w₁.application.beingDeleted = true
      · simp only [if_pos hdeleted]
        exact hstopped (by simp only [submitted, hfinalized, if_pos hdeleted]) _
      · simp only [if_neg hdeleted]
        unfold reconcileApplication
        cases hvalidate : r.validateApplication w₁.application with
        | mk status err =>
          cases err with
          | some err =>
            have hnone : r.reconciled w = none := by
              simp only [reconciled, submitted, hfinalized, if_neg hdeleted, hvalidate]
              rfl
            have hinvalid : ∀ out, r.Call w ((r.updateStatus w₁ status).1, out) := by
              intro out
              rw [← hfirst]
              exact .invalid hnone (by rw [hfirst, hvalidate])
            simp only
            split
            · rename_i w' err' hupdate
              have hinvalid := hinvalid (.failed err')
              rw [hupdate] at hinvalid
              exact hinvalid
            · rename_i w' hupdate
              have hinvalid := hinvalid (.done false)
              rw [hupdate] at hinvalid
              exact hinvalid
          | none =>
            by_cases hvalid : status.validApplication = .conditionFalse
            · simp only [if_pos hvalid]
              refine hstopped ?_ _
              simp only [submitted, hfinalized, if_neg hdeleted, hvalidate, if_pos hvalid]
            · simp only [if_neg hvalid]
              exact Accepted.call ⟨hfinalized, Bool.eq_false_iff.2 hdeleted, hvalidate, hvalid⟩

/-- If `reconcile` is called, the application has been accepted and needs a plotter. -/
theorem exists_accepted_of_submitted {w' : World} (h : r.submitted w = some w') :
    ∃ w₁ status, r.Accepted w w₁ status ∧ r.plotterNeeded w₁ = true ∧ w' = w₁.withStatus status := by
  unfold submitted at h
  split at h
  · cases h
  · rename_i w₁ hfinalized
    split at h
    · cases h
    · rename_i hdeleted
      split at h
      · cases h
      · rename_i status hvalidate
        split at h
        · cases h
        · rename_i hvalid
          split at h
          · rename_i hneeded
            exact ⟨w₁, status, ⟨hfinalized, Bool.eq_false_iff.2 hdeleted, hvalidate, hvalid⟩,
              hneeded, (Option.some.inj h).symm⟩
          · cases h

theorem exists_accepted_of_reconciled {res : Reconciled} (h : r.reconciled w = some res) :
    ∃ w₁ status, r.Accepted w w₁ status ∧ r.plotterNeeded w₁ = true ∧
      r.reconcile { w₁.application with status := status } w₁.plotters = some res := by
  obtain ⟨w', hsubmitted, hres⟩ := Option.bind_eq_some_iff.1 h
  obtain ⟨w₁, status, haccepted, hneeded, rfl⟩ := exists_accepted_of_submitted hsubmitted
  exact ⟨w₁, status, haccepted, hneeded, hres⟩

/-- If statuses can be stored, the one `reconcile` leaves behind is, with its summary. -/
theorem application_of_reconciled {res : Reconciled} (h : r.reconciled w = some res)
    (hsucceeds : r.api.updateStatus = none) :
    ∃ finalizers ready generation, (r.reconcileRequest w).1.application =
      { w.application with
        finalizers := finalizers
        status := { res.status with ready := ready, observedGeneration := generation } } := by
  obtain ⟨w₁, status, haccepted, hneeded, hres⟩ := exists_accepted_of_reconciled h
  obtain ⟨finalizers, hfinalizers⟩ := haccepted.application_eq
  rw [haccepted.reconcileRequest_reconciled hneeded hres]
  cases res.err with
  | some err =>
    rcases r.updateStatus_cases ⟨w₁.application, res.plotters⟩ res.status with
      ⟨-, hfails⟩ | ⟨hstored, -⟩
    · exact absurd hsucceeds hfails
    · simp only [hstored]
      simp only [World.withStatus, hfinalizers]
      exact ⟨finalizers, res.status.ready, res.status.observedGeneration, rfl⟩
  | none =>
    have htracked : Tracked w₁.application.spec.data
        { res.status with observedGeneration := w₁.application.generation } :=
      (reconcile_course hres).tracked.1.congr rfl
    rcases r.finish_tracked ⟨w₁.application, res.plotters⟩ htracked with
      ⟨-, err, hfails⟩ | ⟨ready, hstored, -⟩
    · cases hsucceeds.symm.trans hfails
    · simp only [hstored]
      simp only [World.withStatus, hfinalizers]
      exact ⟨finalizers, ready, _, rfl⟩

end FybrikApplicationReconciler

end Fybrik
