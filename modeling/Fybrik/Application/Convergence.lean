import Fybrik.Application.Shared
import Fybrik.Application.Storage

/-!
# Applications become ready

What a call of the controller of applications achieves if all the calls it makes succeed:
the plotter is generated, and once it is ready, so is the application.

* `FybrikApplication.Proper` — an application the controller can serve.
* `FybrikApplicationReconciler.Succeeds` — every call made during a reconcile succeeds, and
  the application is valid.
* `World.Awaiting`, `World.Generated` — the plotter of the application is still to be
  generated, or has been generated for its present generation.
* `World.Polled` — what a look at the plotter changes.
* `World.Awaiting.generated`, `World.Generated.polled` — what a call does in either case.
* `World.Served` — the application is ready; this lasts (`World.Polled.served`), and is
  reached when the plotter is ready (`World.Polled.served_of_serving`).
-/

namespace Fybrik

/-- An application the controller can serve: it has datasets, none of which is to be
registered in a catalog, it is not being deleted, and not known to be invalid. -/
structure FybrikApplication.Proper (application : FybrikApplication) : Prop where
  notDeleted : application.beingDeleted = false
  data : application.spec.data ≠ []
  uncataloged : ∀ ctx ∈ application.spec.data, ctx.requirements.copy.catalogID = ""
  valid : application.status.validApplication ≠ .conditionFalse

/-- Every call made during a reconcile succeeds, and the application is valid. -/
structure FybrikApplicationReconciler.Succeeds (r : FybrikApplicationReconciler)
    (settings : Settings) (application : FybrikApplication) : Prop where
  settings : r.settings = settings
  api : r.ApiSucceeds
  valid : ∀ application', application'.spec = application.spec →
    r.taxonomy.validateFybrikApplication application' = none

namespace World

/-- The plotter of the application is still to be generated. -/
structure Awaiting (settings : Settings) (w : World) : Prop where
  proper : w.application.Proper
  generated : w.application.status.generated = none
  plotter : w.plotters.lookup (w.plotterKey settings) = none

/-- The plotter has been generated for the present generation of the application. -/
structure Generated (settings : Settings) (w : World) : Prop where
  proper : w.application.Proper
  tracked : Tracked w.application.spec.data w.application.status
  observed : w.application.status.observedGeneration = w.application.generation
  reference : ∃ ref, w.application.status.generated = some ref ∧ ref.namespace ≠ "" ∧
    ref.namespacedName = w.plotterKey settings ∧ ref.appVersion = w.application.generation

/-- What a look at the plotter changes: the conditions of the datasets that are not denied,
and the summary. -/
structure Polled (w w' : World) (observed : ObservedState) : Prop where
  plotters : w'.plotters = w.plotters
  application : ∃ finalizers, w'.application =
    { w.application with finalizers := finalizers, status := w'.application.status }
  tracked : Tracked w.application.spec.data w'.application.status
  sameDenials : SameDenials w.application.status w'.application.status
  valid : w'.application.status.validApplication ≠ .conditionFalse
  conditions : ∀ ctx ∈ w.application.spec.data,
    w.application.status.isTrue denyConditionIndex ctx.dataSetID = false →
      ∀ index, w'.application.status.isTrue index ctx.dataSetID = true ↔
        w.application.status.isTrue index ctx.dataSetID = true ∨ observed.Says index
  ready : w'.application.status.ready = w.application.spec.data.all fun ctx =>
    w'.application.status.isTrue denyConditionIndex ctx.dataSetID ||
      w'.application.status.isTrue readyConditionIndex ctx.dataSetID

/-- The application is ready: each dataset is denied or ready. -/
structure Served (w : World) : Prop where
  ready : w.application.status.ready = true
  conditions : ∀ ctx ∈ w.application.spec.data,
    w.application.status.isTrue denyConditionIndex ctx.dataSetID = true ∨
      w.application.status.isTrue readyConditionIndex ctx.dataSetID = true

end World

variable {settings : Settings} {r : FybrikApplicationReconciler} {w w' : World}
  {application : FybrikApplication} {plotters : GoMap NamespacedName Plotter}
  {status status' : FybrikApplicationStatus} {observed : ObservedState} {res : Reconciled}

/-! ## The validity of an application

Once found, it is not touched while the plotter is put together. -/

theorem validApplication_deploy {g : Generation}
    (h : r.deploy application plotters status g = some res) :
    res.status.validApplication = status.validApplication := by
  have hstorage : (r.updateProvisionedStorageStatus status
      g.provisionedStorage).1.validApplication = status.validApplication := rfl
  unfold FybrikApplicationReconciler.deploy at h
  generalize r.updateProvisionedStorageStatus status g.provisionedStorage = updated at h hstorage
  obtain ⟨status₁, ready, allocationErr⟩ := updated
  cases ready with
  | false =>
    cases h
    exact hstorage
  | true =>
    dsimp only at h hstorage
    split at h
    · cases h
    · rename_i status₂ hendpoints
      have hsame := (congrArg Prod.snd (records_setReadModulesEndpoints hendpoints)).trans hstorage
      split at h
      · split at h
        · cases h
          exact hsame
        · cases h
          exact hsame
      · cases h
        exact hsame

theorem validApplication_solve {requirements : List DataInfo}
    (h : r.solve application plotters status requirements = some res) :
    res.status.validApplication = status.validApplication := by
  unfold FybrikApplicationReconciler.solve at h
  split at h
  · cases h
    rfl
  · split at h
    · cases h
    · cases h
      rfl
    · rename_i status₁ g hbuild
      have hnoted : status₁.validApplication = status.validApplication := by
        unfold FybrikApplicationReconciler.buildSolution at hbuild
        split at hbuild
        · cases hbuild
        · split at hbuild
          · cases hbuild
          · obtain ⟨status₂, hnoted, heq⟩ := Option.map_eq_some_iff.1 hbuild
            obtain ⟨rfl, -⟩ := Prod.mk.inj (Except.ok.inj heq)
            exact congrArg Prod.snd (records_analyzeErrors hnoted)
      split at h
      · cases h
      · split at h
        · cases h
          exact hnoted
        · exact (validApplication_deploy h).trans hnoted

theorem validApplication_reconcile (h : r.reconcile application plotters = some res) :
    res.status.validApplication = application.status.validApplication := by
  have hinit := congrArg Prod.snd (records_initStatus application.spec.data application.status)
  unfold FybrikApplicationReconciler.reconcile at h
  dsimp only at h
  split at h
  · cases h
    exact hinit
  · split at h
    · cases h
      exact hinit
    · rw [FybrikApplicationReconciler.collectRequirements_eq] at h
      split at h
      · cases h
      · rename_i status₁ requirements hcollect
        obtain ⟨status₂, hnoted, heq⟩ := Option.map_eq_some_iff.1 hcollect
        obtain ⟨rfl, -⟩ := Prod.mk.inj heq
        exact (validApplication_solve h).trans
          ((congrArg Prod.snd (records_analyzeErrors hnoted)).trans hinit)

/-! ## The first part of a call -/

namespace FybrikApplicationReconciler

theorem validateApplication_of_succeeds (hsucceeds : r.Succeeds settings application)
    (hvalid : application.status.validApplication ≠ .conditionFalse)
    (application' : FybrikApplication) (hspec : application'.spec = application.spec)
    (hstatus : application'.status = application.status) :
    ∃ status, r.validateApplication application' = (status, none) ∧
      status.validApplication ≠ .conditionFalse := by
  unfold validateApplication
  dsimp only
  split
  · rw [hsucceeds.valid application' hspec]
    exact ⟨_, rfl, by simp⟩
  · rw [hstatus]
    exact ⟨_, rfl, hvalid⟩

/-- An application that can be served is accepted. -/
theorem Succeeds.accepted (hsucceeds : r.Succeeds settings w.application)
    (hproper : w.application.Proper) : ∃ finalizers status,
      r.Accepted w ⟨{ w.application with finalizers := finalizers }, w.plotters⟩ status := by
  have hfinalizers : ∃ finalizers, r.reconcileFinalizers w =
      (⟨{ w.application with finalizers := finalizers }, w.plotters⟩, none) := by
    have hempty : ¬ (w.application.beingDeleted || w.application.spec.data.isEmpty) = true := by
      simp [hproper.notDeleted, hproper.data]
    unfold reconcileFinalizers
    simp only [if_neg hempty, updateFinalizers, hsucceeds.api.updateFinalizers]
    split
    · exact ⟨w.application.finalizers, rfl⟩
    · exact ⟨_, rfl⟩
  obtain ⟨finalizers, hfinalizers⟩ := hfinalizers
  obtain ⟨status, hvalidate, hvalid⟩ := validateApplication_of_succeeds hsucceeds hproper.valid
    { w.application with finalizers := finalizers } rfl rfl
  exact ⟨finalizers, status, hfinalizers, hproper.notDeleted, hvalidate, hvalid⟩

end FybrikApplicationReconciler

/-! ## A look at the plotter -/

namespace World

open FybrikApplicationReconciler

/-- If its plotter has been generated and is there, the application looks at it. -/
theorem Generated.polled (h : Generated settings w)
    (hsucceeds : r.Succeeds settings w.application) {plotter : Plotter}
    (hplotter : w.plotters.lookup (w.plotterKey settings) = some plotter) :
    Polled w (r.reconcileRequest w).1 plotter.observedState := by
  obtain ⟨finalizers, status, haccepted⟩ := hsucceeds.accepted h.proper
  obtain ⟨ref, href, hnamespace, hkey, hversion⟩ := h.reference
  rw [← hkey] at hplotter
  have hread := hsucceeds.api.readPlotter
  have hneeded : r.plotterNeeded ⟨{ w.application with finalizers := finalizers }, w.plotters⟩
      = false := by
    simp [plotterNeeded, generationComplete, resourceExists, href, hnamespace, hread, hplotter,
      hversion, h.observed]
  have hstates : status.assetStates = w.application.status.assetStates ∧
      status.generated = w.application.status.generated ∧
      status.observedGeneration = w.application.status.observedGeneration := by
    obtain ⟨generation, msg, valid, rfl⟩ := haccepted.status_eq
    exact ⟨rfl, rfl, rfl⟩
  obtain ⟨hstates, hgenerated, hgeneration⟩ := hstates
  have hobserved : r.getResourceStatus w.plotters status.generated =
      .ok plotter.observedState := by
    simp [getResourceStatus, hgenerated, href, hnamespace, hread, hplotter]
  have htracked : Tracked w.application.spec.data status := h.tracked.congr hstates
  have hisTrue : ∀ index id, status.isTrue index id = w.application.status.isTrue index id := by
    intro index id
    rw [FybrikApplicationStatus.isTrue, hstates]
    rfl
  obtain ⟨status', hstatus', htracked'⟩ := htracked.checkReadiness r plotter.observedState
  have hsame := checkReadiness_sameDenials hstatus'
  rw [haccepted.reconcileRequest_polled hneeded hobserved hstatus', finish_eq,
    isReady_eq htracked']
  simp only [updateStatus, hsucceeds.api.updateStatus]
  refine ⟨rfl, ⟨finalizers, rfl⟩, htracked'.congr rfl, ⟨fun id => ?_, ?_, ?_⟩, ?_,
    fun ctx hctx hadmitted index => ?_, rfl⟩
  · exact (hsame.denied id).trans (hisTrue _ _)
  · exact hsame.observedGeneration.trans hgeneration
  · exact hsame.generated.trans hgenerated
  · have hvalid : status'.validApplication = status.validApplication :=
      congrArg Prod.snd (records_checkReadiness hstatus')
    rw [hvalid]
    exact haccepted.valid
  · rw [← hisTrue] at hadmitted ⊢
    refine isTrue_checkReadiness htracked hstatus' hadmitted ⟨⟨ctx, hctx, rfl⟩, ?_⟩ index
    exact fun ctx' hctx' _ => h.proper.uncataloged ctx' hctx'

theorem Polled.generated (hpolled : Polled w w' observed) (h : Generated settings w) :
    Generated settings w' := by
  obtain ⟨finalizers, happlication⟩ := hpolled.application
  have hspec : w'.application.spec = w.application.spec := by rw [happlication]
  have hgeneration : w'.application.generation = w.application.generation := by rw [happlication]
  have hkey : w'.plotterKey settings = w.plotterKey settings := by
    rw [plotterKey, happlication]
    rfl
  refine ⟨⟨?_, ?_, ?_, hpolled.valid⟩, ?_, ?_, ?_⟩
  · rw [happlication]
    exact h.proper.notDeleted
  · rw [hspec]
    exact h.proper.data
  · rw [hspec]
    exact h.proper.uncataloged
  · rw [hspec]
    exact hpolled.tracked
  · rw [hpolled.sameDenials.observedGeneration, hgeneration]
    exact h.observed
  · rw [hpolled.sameDenials.generated, hkey, hgeneration]
    exact h.reference

/-- Neither the denials nor the conditions that were true are forgotten. -/
theorem Polled.served_iff (hpolled : Polled w w' observed) :
    Served w' ↔ ∀ ctx ∈ w.application.spec.data,
      w.application.status.isTrue denyConditionIndex ctx.dataSetID = true ∨
        w.application.status.isTrue readyConditionIndex ctx.dataSetID = true ∨
          observed.Serving := by
  obtain ⟨finalizers, happlication⟩ := hpolled.application
  have hspec : w'.application.spec = w.application.spec := by rw [happlication]
  have hconditions : ∀ ctx ∈ w.application.spec.data,
      (w'.application.status.isTrue denyConditionIndex ctx.dataSetID = true ∨
        w'.application.status.isTrue readyConditionIndex ctx.dataSetID = true) ↔
      (w.application.status.isTrue denyConditionIndex ctx.dataSetID = true ∨
        w.application.status.isTrue readyConditionIndex ctx.dataSetID = true ∨
          observed.Serving) := by
    intro ctx hctx
    rw [hpolled.sameDenials.denied]
    cases hdenied : w.application.status.isTrue denyConditionIndex ctx.dataSetID with
    | true => simp
    | false =>
      rw [hpolled.conditions ctx hctx hdenied, ObservedState.says_ready]
  have hready : w'.application.status.ready = true ↔ ∀ ctx ∈ w.application.spec.data,
      (w'.application.status.isTrue denyConditionIndex ctx.dataSetID = true ∨
        w'.application.status.isTrue readyConditionIndex ctx.dataSetID = true) := by
    rw [hpolled.ready, List.all_eq_true]
    simp only [Bool.or_eq_true]
  constructor
  · intro hserved ctx hctx
    exact (hconditions ctx hctx).1 (hready.1 hserved.ready ctx hctx)
  · intro hall
    have hall' := fun ctx hctx => (hconditions ctx hctx).2 (hall ctx hctx)
    refine ⟨hready.2 hall', ?_⟩
    rw [hspec]
    exact hall'

theorem Polled.served_of_serving (hpolled : Polled w w' observed) (h : observed.Serving) :
    Served w' :=
  hpolled.served_iff.2 fun _ _ => Or.inr (Or.inr h)

theorem Polled.served (hpolled : Polled w w' observed) (h : Served w) : Served w' :=
  hpolled.served_iff.2 fun ctx hctx => (h.conditions ctx hctx).imp_right Or.inl

/-! ## The plotter is generated -/

theorem err_of_course (h : r.Course application plotters res)
    (hnone : application.status.generated = none) (hsome : res.status.generated ≠ none) :
    res.err = none := by
  have hinit : (initStatus application.spec.data application.status).generated = none :=
    (initStatus_fresh _ _).generated.trans hnone
  cases h with
  | noData => rfl
  | noCluster => exact absurd hinit hsome
  | noneServed => rfl
  | notListed _ hjudged => exact absurd (hjudged.marked.generated.trans hinit) hsome
  | rejected => rfl
  | waiting hbuilt => exact absurd (hbuilt.judged.marked.generated.trans hinit) hsome
  | refused => rfl
  | deployed => rfl

/-- A call in which the plotter is generated and written. -/
theorem Awaiting.reconcileRequest (h : Awaiting settings w)
    (hsucceeds : r.Succeeds settings w.application) (hdeploys : r.deploys w = true) :
    Generated settings (r.reconcileRequest w).1 ∧ ∃ finalizers status plotter,
      (r.reconcileRequest w).1.application =
        { w.application with finalizers := finalizers, status := status } ∧
      (r.reconcileRequest w).1.plotters.lookup (w.plotterKey settings) = some plotter ∧
      plotter.beingDeleted = false := by
  obtain rfl := hsucceeds.settings
  unfold deploys at hdeploys
  cases hreconciled : r.reconciled w with
  | none =>
    rw [hreconciled] at hdeploys
    cases hdeploys
  | some res =>
    rw [hreconciled] at hdeploys
    simp only [Bool.and_eq_true, decide_eq_true_eq] at hdeploys
    obtain ⟨⟨hspec, hgenerated⟩, hlookup⟩ := hdeploys
    obtain ⟨w₁, status, haccepted, hneeded, hres⟩ := exists_accepted_of_reconciled hreconciled
    obtain ⟨finalizers, happlication⟩ := haccepted.application_eq
    have hnone : status.generated = none := by
      obtain ⟨generation, msg, valid, rfl⟩ := haccepted.status_eq
      exact h.generated
    have herr : res.err = none := err_of_course (reconcile_course hres) hnone (by
      rw [hgenerated]
      exact Option.some_ne_none _)
    have htracked : Tracked w₁.application.spec.data
        { res.status with observedGeneration := w₁.application.generation } :=
      (reconcile_course hres).tracked.1.congr rfl
    obtain ⟨plotter, hplotter⟩ : ∃ plotter,
        res.plotters.lookup (w.plotterKey r.settings) = some plotter := by
      rw [← hlookup, Option.isSome_map] at hspec
      exact Option.isSome_iff_exists.1 hspec
    have halive : plotter.beingDeleted = false := by
      have hkey : (r.plotterReference { w₁.application with status := status }).namespacedName
          = w.plotterKey r.settings := by rw [happlication]; rfl
      rcases rewrites_reconcile hres with hsame | ⟨written, hset, -, hmark⟩
      · rw [hsame, haccepted.plotters_eq h.proper.data, h.plotter] at hplotter
        cases hplotter
      · rw [hkey, haccepted.plotters_eq h.proper.data] at hset hmark
        rw [hset, GoMap.set, AList.lookup_insert] at hplotter
        rw [← Option.some.inj hplotter, hmark, h.plotter]
        rfl
    have hrequest := haccepted.reconcileRequest_reconciled hneeded hres
    rw [herr] at hrequest
    simp only at hrequest
    rw [hrequest, finish_eq, isReady_eq htracked]
    simp only [updateStatus, hsucceeds.api.updateStatus, World.withStatus, happlication] at htracked ⊢
    refine ⟨⟨⟨h.proper.notDeleted, h.proper.data, h.proper.uncataloged, ?_⟩, htracked.congr rfl,
      rfl, _, hgenerated, r.settings.systemNamespace_ne, rfl, rfl⟩, finalizers, _, plotter, rfl,
      hplotter, halive⟩
    have hvalid := validApplication_reconcile hres
    rw [hvalid]
    exact haccepted.valid

end World

end Fybrik
