import Fybrik.Application.Readiness
import Fybrik.Plotter.Runs

/-!
# Two controllers and one plotter

The controller of applications writes the specification of a plotter and reads its
status; the controller of plotters does the reverse.  They are called in any order, so
the status that is read may have been written for an earlier specification.

* `SharedWorld` — the application and its plotter, with a history: which plotter
  specification was generated for which generation of the application, and for which
  the plotter was reported to be ready.
* `SharedStep` — an edit of the application, or a call of one of the controllers.
* `Coherent` — what the controllers maintain if no status is taken for that of a
  later specification.
* `run_readyReported` — datasets are then only ready if this was reported for the
  specification generated for them; `outdated_not_readyReported` shows that otherwise
  they can be ready too early.
-/

namespace Fybrik

/-! ## The plotters a reconcile leaves behind -/

namespace FybrikApplicationReconciler

variable {r : FybrikApplicationReconciler} {application : FybrikApplication}
  {plotters : GoMap NamespacedName Plotter} {status : FybrikApplicationStatus} {res : Reconciled}

/-- The plotters are left alone, or one of them is written, which keeps its state and does not
change whether it is being deleted. -/
def Rewrites (ref : ResourceReference) (plotters plotters' : GoMap NamespacedName Plotter) : Prop :=
  plotters' = plotters ∨ ∃ plotter, plotters' = plotters.set ref.namespacedName plotter ∧
    plotter.observedState = ((plotters.lookup ref.namespacedName).getD default).observedState ∧
    plotter.beingDeleted = ((plotters.lookup ref.namespacedName).getD default).beingDeleted

theorem rewrites_createOrUpdateResource (ref : ResourceReference) (plotterSpec : PlotterSpec) :
    Rewrites ref plotters (r.createOrUpdateResource application ref plotterSpec plotters).1 := by
  unfold createOrUpdateResource
  split
  · exact Or.inl rfl
  · dsimp only
    split
    · exact Or.inl rfl
    · split
      · exact Or.inl rfl
      · exact Or.inr ⟨_, rfl, rfl, rfl⟩

theorem rewrites_deploy {g : Generation} (h : r.deploy application plotters status g = some res) :
    Rewrites (r.plotterReference application) plotters res.plotters := by
  unfold deploy at h
  split at h
  · cases h
    exact Or.inl rfl
  · split at h
    · cases h
    · have hwrite := @rewrites_createOrUpdateResource r application plotters
        (r.plotterReference application) g.plotterSpec
      dsimp only at h
      split at h
      · rename_i plotters' err heq
        rw [heq] at hwrite
        split at h
        · cases h
          exact hwrite
        · cases h
          exact hwrite
      · rename_i plotters' heq
        rw [heq] at hwrite
        cases h
        exact hwrite

theorem rewrites_reconcile (h : r.reconcile application plotters = some res) :
    Rewrites (r.plotterReference application) plotters res.plotters := by
  rcases r.reconcile_cases application plotters with ⟨_, _, heq, -⟩ | ⟨-, _, _, -, hsolving⟩
  · cases heq.symm.trans h
    exact Or.inl rfl
  · generalize r.reconcile application plotters = solved at h hsolving
    cases hsolving with
    | crashed => cases h
    | accepted => exact rewrites_deploy h
    | _ =>
      cases h
      exact Or.inl rfl

/-- In a call of the controller a plotter is generated: it is in place in the end, and
`reconcile` enters a reference to it in the status. -/
def deploys (r : FybrikApplicationReconciler) (w : World) : Bool :=
  match r.reconciled w with
  | none => false
  | some res => res.plotterSpec.isSome &&
      decide (res.status.generated = some (r.plotterReference w.application)) &&
      decide ((res.plotters.lookup (w.plotterKey r.settings)).map Plotter.spec = res.plotterSpec)

end FybrikApplicationReconciler

/-! ## The world of both controllers -/

/-- The application and its plotter.  The plotters created for the application are
numbered, so that a number and a generation stand for a specification.  We remember
which specification was generated for which generation of the application, and for
which ones the plotter was reported to be ready. -/
structure SharedWorld extends World where
  /-- The plotter of the application, as its controller sees it. -/
  resource : PlotterResource
  uid : ℕ
  generatedFor : List (ℕ × ℕ × ℕ)
  reports : List (ℕ × ℕ)

/-- The plotter object once the controller of applications has written it: a new
specification makes a new generation, and so does the request to delete it. -/
def PlotterResource.write (resource : PlotterResource) (key : NamespacedName)
    (before : Option Plotter) (after : Plotter) : PlotterResource :=
  match before with
  | none => { (default : PlotterResource) with
      toPlotter := after, name := key.name, «namespace» := key.namespace, generation := 1 }
  | some plotter => { resource with
      toPlotter := after
      generation :=
        if after.spec = plotter.spec ∧ after.beingDeleted = plotter.beingDeleted then
          resource.generation
        else resource.generation + 1 }

namespace SharedWorld

/-- The controller of applications is called. -/
def reconcile (s : SharedWorld) (r : FybrikApplicationReconciler) : SharedWorld :=
  let w := (r.reconcileRequest s.toWorld).1
  let key := s.plotterKey r.settings
  let before := s.plotters.lookup key
  match w.plotters.lookup key with
  | none => { s with toWorld := w }
  | some after =>
    let resource := s.resource.write key before after
    let uid := if before.isNone then s.uid + 1 else s.uid
    { toWorld := w, resource := resource, uid := uid, reports := s.reports
      generatedFor := if r.deploys s.toWorld then
        (s.application.generation, uid, resource.generation) :: s.generatedFor
      else s.generatedFor }

/-- The controller of plotters has left a plotter behind. -/
def report (s : SharedWorld) (settings : Settings) (resource : PlotterResource) : SharedWorld :=
  { s with
    plotters := storePlotter s.plotters (s.plotterKey settings) resource.toPlotter
    resource := resource
    reports := if resource.observedState.ready then
      (s.uid, resource.observedGeneration) :: s.reports else s.reports }

/-- If a dataset is ready, this was reported for the plotter specification that was
generated for the generation of the application the conditions are about. -/
def ReadyReported (s : SharedWorld) : Prop :=
  ∀ id, s.application.status.isTrue readyConditionIndex id = true →
    ∃ p ∈ s.reports, (s.application.status.observedGeneration, p) ∈ s.generatedFor

/-- A status of the plotter that is read and says it is ready is about the present
specification. -/
def UpToDate (r : FybrikApplicationReconciler) (s : SharedWorld) : Prop :=
  ∀ observed, r.Polls s.toWorld observed → observed.ready = true →
    s.resource.observedGeneration = s.resource.generation

/-- The application has just been created. -/
structure Created (settings : Settings) (s : SharedWorld) : Prop where
  status : s.application.status = default
  plotter : s.plotters.lookup (s.plotterKey settings) = none

end SharedWorld

/-- The application is edited, its controller is called (subject to a condition), or that
of its plotter is; the blueprints there are in the clusters are arbitrary. -/
inductive SharedStep (name : String) (settings : Settings)
    (ok : FybrikApplicationReconciler → SharedWorld → Prop) : SharedWorld → SharedWorld → Prop
  | edit {s : SharedWorld} {spec : FybrikApplicationSpec} (hspec : spec ≠ s.application.spec) :
      SharedStep name settings ok s { s with
        application := { s.application with
          spec := spec
          generation := s.application.generation + 1 } }
  | reconcile {s : SharedWorld} (r : FybrikApplicationReconciler) (hname : r.name = name)
      (hsettings : r.settings = settings) (hok : ok r s) :
      SharedStep name settings ok s (s.reconcile r)
  | reconcilePlotter {s : SharedWorld} {plotter : Plotter} {site : PlotterSite}
      {err : Option String} (p : PlotterReconciler) (remotes : Remotes)
      (hlookup : s.plotters.lookup (s.plotterKey settings) = some plotter)
      (h : p.reconcileRequest ⟨{ s.resource with toPlotter := plotter }, remotes⟩
        = some (site, err)) :
      SharedStep name settings ok s (s.report settings site.plotter)

namespace SharedWorld

variable {name : String} {settings : Settings} {s : SharedWorld} {r : FybrikApplicationReconciler}

/-- What the controllers maintain. -/
structure Coherent (settings : Settings) (s : SharedWorld) : Prop where
  reference : ∀ ref, s.application.status.generated = some ref →
    ref.namespacedName = s.plotterKey settings ∧ ref.appVersion ≤ s.application.generation
  served : ∀ ref, s.application.status.generated = some ref →
    s.application.beingDeleted = false ∧
      (ref.appVersion = s.application.generation → s.application.spec.data ≠ [])
  current : ∀ ref plotter, s.application.status.generated = some ref →
    ref.appVersion = s.application.generation →
    s.plotters.lookup (s.plotterKey settings) = some plotter →
      (s.application.generation, s.uid, s.resource.generation) ∈ s.generatedFor
  reported : ∀ plotter, s.plotters.lookup (s.plotterKey settings) = some plotter →
    plotter.observedState.ready = true → (s.uid, s.resource.observedGeneration) ∈ s.reports
  readyReported : s.ReadyReported

theorem Created.coherent (h : Created settings s) : Coherent settings s := by
  have hgenerated : s.application.status.generated = none := by rw [h.status]; rfl
  refine ⟨fun ref href => ?_, fun ref href => ?_, fun ref plotter href => ?_,
    fun plotter hplotter => ?_, fun id hready => ?_⟩
  · cases hgenerated.symm.trans href
  · cases hgenerated.symm.trans href
  · cases hgenerated.symm.trans href
  · cases h.plotter.symm.trans hplotter
  · rw [h.status, FybrikApplicationStatus.isTrue, GoMap.get_of_lookup_none rfl] at hready
    exact absurd hready (by decide)

theorem Coherent.edit (h : Coherent settings s) (spec : FybrikApplicationSpec) :
    Coherent settings { s with
      application := { s.application with
        spec := spec
        generation := s.application.generation + 1 } } := by
  refine ⟨fun ref href => ?_, fun ref href => ⟨(h.served ref href).1, fun hversion => ?_⟩,
    fun ref plotter href hversion => ?_, h.reported, h.readyReported⟩
  · exact ⟨(h.reference ref href).1, Nat.le_succ_of_le (h.reference ref href).2⟩
  · have hle := (h.reference ref href).2
    simp only at hversion
    omega
  · have hle := (h.reference ref href).2
    simp only at hversion
    omega

/-- The controller of plotters is called, and the plotter may be gone.  A status that says it
is ready is reported with the generation it is about. -/
theorem Coherent.report (h : Coherent settings s) {resource : PlotterResource} {plotter : Plotter}
    (hlookup : s.plotters.lookup (s.plotterKey settings) = some plotter)
    (hgeneration : resource.generation = s.resource.generation) :
    Coherent settings (s.report settings resource) := by
  refine ⟨h.reference, h.served, fun ref _ href hversion _ => ?_,
    fun plotter' hplotter' hready => ?_, fun id hready => ?_⟩
  · have hcurrent := h.current ref plotter href hversion hlookup
    rw [← hgeneration] at hcurrent
    exact hcurrent
  · have hplotter : resource.toPlotter = plotter' := by
      rcases lookup_storePlotter s.plotters (s.plotterKey settings) resource.toPlotter with
        hgone | hstored
      · cases hgone.symm.trans hplotter'
      · exact Option.some.inj (hstored.symm.trans hplotter')
    have hready : resource.observedState.ready = true := by rw [hplotter]; exact hready
    simp only [SharedWorld.report, hready]
    exact List.mem_cons_self
  · obtain ⟨p, hp, hgenerated⟩ := h.readyReported id hready
    refine ⟨p, ?_, hgenerated⟩
    simp only [SharedWorld.report]
    split
    · exact List.mem_cons_of_mem _ hp
    · exact hp

/-- What may have become of the plotter of the application in a call of its controller:
it is not there, it is as it was, it is being deleted, or it has been written and keeps its
state. -/
inductive PlotterAfter (settings : Settings) (r : FybrikApplicationReconciler) (s : SharedWorld)
    (plotters : GoMap NamespacedName Plotter) : Prop
  | missing (hnone : plotters.lookup (s.plotterKey settings) = none)
  | unchanged (hsame : plotters.lookup (s.plotterKey settings)
      = s.plotters.lookup (s.plotterKey settings))
  | marked {plotter : Plotter} (hempty : s.application.spec.data = [])
      (hbefore : s.plotters.lookup (s.plotterKey settings) = some plotter)
      (hmarked : plotters.lookup (s.plotterKey settings)
        = some { plotter with beingDeleted := true })
  | written {plotter : Plotter} (hdeploys : r.deploys s.toWorld = true)
      (hwritten : plotters.lookup (s.plotterKey settings) = some plotter)
      (hstate : plotter.observedState
        = ((s.plotters.lookup (s.plotterKey settings)).getD default).observedState)

section PlotterAfter

variable {plotters : GoMap NamespacedName Plotter} {after : Plotter}
  (h : PlotterAfter settings r s plotters)
  (hafter : plotters.lookup (s.plotterKey settings) = some after)
include h hafter

/-- If no plotter was generated for an application with datasets, it is the one there was
before. -/
theorem PlotterAfter.lookup_eq (hdeploys : ¬ r.deploys s.toWorld = true)
    (hdata : s.application.spec.data ≠ []) :
    s.plotters.lookup (s.plotterKey settings) = some after := by
  cases h with
  | missing hnone => cases hnone.symm.trans hafter
  | unchanged hsame => exact hsame.symm.trans hafter
  | marked hempty => exact absurd hempty hdata
  | written hnew => exact absurd hnew hdeploys

/-- A plotter that is ready was there before, and was ready. -/
theorem PlotterAfter.ready_before (hready : after.observedState.ready = true) :
    ∃ plotter, s.plotters.lookup (s.plotterKey settings) = some plotter ∧
      plotter.observedState.ready = true := by
  cases h with
  | missing hnone => cases hnone.symm.trans hafter
  | unchanged hsame => exact ⟨after, hsame.symm.trans hafter, hready⟩
  | @marked plotter _ hbefore hmarked =>
    obtain rfl := Option.some.inj (hmarked.symm.trans hafter)
    exact ⟨plotter, hbefore, hready⟩
  | written _ hwritten hstate =>
    obtain rfl := Option.some.inj (hwritten.symm.trans hafter)
    cases hold : s.plotters.lookup (s.plotterKey settings) with
    | none =>
      rw [hstate, hold] at hready
      exact absurd hready (by decide)
    | some plotter =>
      rw [hstate, hold] at hready
      exact ⟨plotter, rfl, hready⟩

end PlotterAfter

/-- The status refers to the same plotter as before, or to the one that was generated. -/
def RefersTo (r : FybrikApplicationReconciler) (s : SharedWorld)
    (status : FybrikApplicationStatus) : Prop :=
  status.generated = s.application.status.generated ∨
    r.deploys s.toWorld = true ∧ s.application.beingDeleted = false ∧
      s.application.spec.data ≠ [] ∧ status.generated = some (r.plotterReference s.application)

/-- The controller of applications is called. -/
theorem Coherent.update (h : Coherent settings s) {w : World}
    (hsettings : r.settings = settings) (hw : (r.reconcileRequest s.toWorld).1 = w)
    (happlication : ∃ finalizers status, w.application =
      { s.application with finalizers := finalizers, status := status })
    (hplotter : PlotterAfter settings r s w.plotters)
    (hgenerated : RefersTo r s w.application.status)
    (hready : ∀ id, w.application.status.isTrue readyConditionIndex id = true →
      ∃ p ∈ s.reports, (w.application.status.observedGeneration, p) ∈ s.generatedFor) :
    Coherent settings (s.reconcile r) := by
  subst hsettings
  obtain ⟨finalizers, status, happlication⟩ := happlication
  have hkey : w.plotterKey r.settings = s.plotterKey r.settings := by
    rw [World.plotterKey, happlication]
    rfl
  have hgeneration : w.application.generation = s.application.generation := by rw [happlication]
  have hreference : ∀ ref, w.application.status.generated = some ref →
      ref.namespacedName = w.plotterKey r.settings ∧ ref.appVersion ≤ w.application.generation := by
    intro ref href
    rw [hkey, hgeneration]
    rcases hgenerated with hsame | ⟨-, -, -, hnew⟩
    · exact h.reference ref (hsame.symm.trans href)
    · obtain rfl := Option.some.inj (hnew.symm.trans href)
      exact ⟨rfl, le_rfl⟩
  have hserved : ∀ ref, w.application.status.generated = some ref →
      w.application.beingDeleted = false ∧
        (ref.appVersion = w.application.generation → w.application.spec.data ≠ []) := by
    intro ref href
    have hdeleted : w.application.beingDeleted = s.application.beingDeleted := by rw [happlication]
    have hdata : w.application.spec = s.application.spec := by rw [happlication]
    rw [hgeneration, hdeleted, hdata]
    rcases hgenerated with hsame | ⟨-, halive, hne, -⟩
    · exact h.served ref (hsame.symm.trans href)
    · exact ⟨halive, fun _ => hne⟩
  cases hafter : w.plotters.lookup (s.plotterKey r.settings) with
  | none =>
    have hreconcile : s.reconcile r = { s with toWorld := w } := by
      simp only [SharedWorld.reconcile, hw, hafter]
    rw [hreconcile]
    have hnone : w.plotters.lookup (w.plotterKey r.settings) = none := hkey ▸ hafter
    exact ⟨hreference, hserved,
      fun ref plotter _ _ hsome => absurd (hnone.symm.trans hsome) (by simp),
      fun plotter hsome => absurd (hnone.symm.trans hsome) (by simp), hready⟩
  | some after =>
    have hsome : w.plotters.lookup (w.plotterKey r.settings) = some after := hkey ▸ hafter
    simp only [SharedWorld.reconcile, hw, hafter]
    refine ⟨hreference, hserved, fun ref _ href hversion _ => ?_,
      fun plotter hlookup htrue => ?_, fun id htrue => ?_⟩
    · simp only [hgeneration]
      by_cases hdeploys : r.deploys s.toWorld = true
      · rw [if_pos hdeploys]
        exact List.mem_cons_self
      · -- nothing was generated, so the plotter and the reference to it are the same
        have href := (hgenerated.resolve_right fun hnew => hdeploys hnew.1).symm.trans href
        have hdata := (h.served ref href).2 (hversion.trans hgeneration)
        have hbefore := hplotter.lookup_eq hafter hdeploys hdata
        rw [if_neg hdeploys, hbefore]
        simp only [PlotterResource.write, Option.isNone_some, Bool.false_eq_true, if_false,
          and_self, if_true]
        exact h.current ref after href (hversion.trans hgeneration) hbefore
    · obtain rfl := Option.some.inj (hsome.symm.trans hlookup)
      -- the state of the plotter is the one it had before
      obtain ⟨plotter, hplotter, hbefore⟩ := hplotter.ready_before hafter htrue
      simp only [hplotter, PlotterResource.write, Option.isNone_some, Bool.false_eq_true, if_false]
      exact h.reported plotter hplotter hbefore
    · obtain ⟨p, hp, hmem⟩ := hready id htrue
      refine ⟨p, hp, ?_⟩
      simp only
      split
      · exact List.mem_cons_of_mem _ hmem
      · exact hmem

variable {w₁ : World}

/-- What has become of the plotter after the finalizers have been seen to. -/
theorem Coherent.plotterAfter_tidied (h : Coherent settings s) (r : FybrikApplicationReconciler)
    (htidied : FybrikApplicationReconciler.Tidied s.toWorld w₁) :
    PlotterAfter settings r s w₁.plotters := by
  cases htidied with
  | kept => exact .unchanged rfl
  | @deleted _ ref plotter hempty href hlookup =>
    rw [(h.reference ref href).1] at hlookup ⊢
    have hdata : s.application.spec.data = [] :=
      hempty.resolve_left (by rw [(h.served ref href).1]; exact Bool.false_ne_true)
    rcases lookup_storePlotter s.plotters (s.plotterKey settings)
      { plotter with beingDeleted := true } with hgone | hmarked
    · exact .missing hgone
    · exact .marked hdata hlookup hmarked

variable {status : FybrikApplicationStatus}

/-- What a call reads is the state of the plotter that was generated for the current
generation of the application. -/
theorem Coherent.plotter_of_polled (h : Coherent settings s) {observed : ObservedState}
    (haccepted : r.Accepted s.toWorld w₁ status) (hneeded : r.plotterNeeded w₁ = false)
    (hobserved : r.getResourceStatus w₁.plotters status.generated = .ok observed) :
    s.application.status.observedGeneration = s.application.generation ∧
      ∃ ref plotter, s.application.status.generated = some ref ∧
        ref.appVersion = s.application.generation ∧
        s.plotters.lookup (s.plotterKey settings) = some plotter ∧
        plotter.observedState = observed := by
  obtain ⟨finalizers, happlication⟩ := haccepted.application_eq
  obtain ⟨generation, msg, valid, rfl⟩ := haccepted.status_eq
  simp only [FybrikApplicationReconciler.plotterNeeded,
    FybrikApplicationReconciler.generationComplete, happlication] at hneeded
  cases hgenerated : s.application.status.generated with
  | none => simp [hgenerated, FybrikApplicationReconciler.resourceExists] at hneeded
  | some ref =>
    have hkey := (h.reference ref hgenerated).1
    simp only [hgenerated, FybrikApplicationReconciler.resourceExists, Option.map_some,
      Bool.or_eq_false_iff, Bool.not_eq_false', Bool.and_eq_true, beq_iff_eq, Option.some.injEq,
      bne_eq_false_iff_eq, bne_iff_ne] at hneeded
    obtain ⟨⟨⟨⟨hnamespace, hread⟩, hexists⟩, hversion⟩, hcurrent⟩ := hneeded
    obtain ⟨plotter, hplotter⟩ := Option.isSome_iff_exists.1 hexists
    simp only [FybrikApplicationReconciler.getResourceStatus, hgenerated, if_neg hnamespace,
      Option.isNone_iff_eq_none.1 hread, hplotter, Except.ok.injEq] at hobserved
    rw [hkey, haccepted.plotters_eq ((h.served ref hgenerated).2 hversion)] at hplotter
    exact ⟨hcurrent, ref, plotter, rfl, hversion, hplotter, hobserved⟩

/-- What a call reads, if it is not outdated, has been reported for the specification of
this generation of the application. -/
theorem Coherent.ready_of_polled (h : Coherent settings s) {status' : FybrikApplicationStatus}
    {observed : ObservedState} (haccepted : r.Accepted s.toWorld w₁ status)
    (hneeded : r.plotterNeeded w₁ = false)
    (hobserved : r.getResourceStatus w₁.plotters status.generated = .ok observed)
    (hstatus' : r.checkReadiness w₁.application.spec.data status observed = some status')
    (hok : UpToDate r s) {id : String} (hready : status'.isTrue readyConditionIndex id = true) :
    ∃ p ∈ s.reports, (status'.observedGeneration, p) ∈ s.generatedFor := by
  obtain ⟨hcurrent, ref, plotter, href, hversion, hplotter, hstate⟩ :=
    h.plotter_of_polled haccepted hneeded hobserved
  have hpolls : r.Polls s.toWorld observed := ⟨w₁, status, haccepted, hneeded, hobserved⟩
  rw [(FybrikApplicationReconciler.checkReadiness_sameDenials hstatus').observedGeneration]
  obtain ⟨generation, msg, valid, rfl⟩ := haccepted.status_eq
  rcases ready_checkReadiness hstatus' hready with hbefore | hserving
  · exact h.readyReported id hbefore
  · refine ⟨(s.uid, s.resource.observedGeneration), ?_, ?_⟩
    · exact h.reported plotter hplotter (by rw [hstate]; exact hserving.1)
    · rw [hok observed hpolls hserving.1]
      change (s.application.status.observedGeneration, _) ∈ _
      rw [hcurrent]
      exact h.current ref plotter href hversion hplotter

/-- What `reconcile` leaves behind. -/
theorem Coherent.reconciled (h : Coherent settings s) (hsettings : r.settings = settings)
    {res : Reconciled} (haccepted : r.Accepted s.toWorld w₁ status)
    (hneeded : r.plotterNeeded w₁ = true)
    (hres : r.reconcile { w₁.application with status := status } w₁.plotters = some res) :
    PlotterAfter settings r s res.plotters ∧ RefersTo r s res.status := by
  subst hsettings
  obtain ⟨finalizers, happlication⟩ := haccepted.application_eq
  have hgenerated : status.generated = s.application.status.generated := by
    obtain ⟨generation, msg, valid, rfl⟩ := haccepted.status_eq
    rfl
  have hreference : r.plotterReference { w₁.application with status := status }
      = r.plotterReference s.application := by
    rw [happlication]
    rfl
  rcases (FybrikApplicationReconciler.reconcile_course hres).deployed_or_unchanged with
    ⟨hplotters, hsame⟩ | ⟨hdata, hnew, plotter, hlookup, hspec⟩
  · rw [hplotters]
    refine ⟨?_, Or.inl (hsame.trans hgenerated)⟩
    exact h.plotterAfter_tidied r haccepted.tidied
  · rw [hreference] at hnew hlookup
    have hdata : s.application.spec.data ≠ [] := by
      rw [happlication] at hdata
      exact hdata
    have hdeploys : r.deploys s.toWorld = true := by
      have hlookup : res.plotters.lookup (s.plotterKey r.settings) = some plotter := hlookup
      simp [FybrikApplicationReconciler.deploys, haccepted.reconciled_eq hneeded, hres, hnew,
        hlookup, hspec]
    have hnotDeleted := haccepted.notDeleted
    rw [happlication] at hnotDeleted
    refine ⟨?_, Or.inr ⟨hdeploys, hnotDeleted, hdata, hnew⟩⟩
    rcases FybrikApplicationReconciler.rewrites_reconcile hres with
      hsame | ⟨written, hset, hstate, -⟩
    · rw [hsame, haccepted.plotters_eq hdata]
      exact .unchanged rfl
    · rw [hreference, haccepted.plotters_eq hdata] at hset hstate
      refine .written hdeploys ?_ hstate
      rw [hset]
      exact AList.lookup_insert _

/-- A call ends with the finalizers in order, some plotters, and a status that may have
been stored. -/
theorem Coherent.store (h : Coherent settings s) (hsettings : r.settings = settings) {w : World}
    (hw : (r.reconcileRequest s.toWorld).1 = w) (hstored : w = w₁ ∨ w = w₁.withStatus status)
    {finalizers : List String}
    (happlication : w₁.application = { s.application with finalizers := finalizers })
    (hplotter : PlotterAfter settings r s w₁.plotters) (hgenerated : RefersTo r s status)
    (hready : ∀ id, status.isTrue readyConditionIndex id = true →
      ∃ p ∈ s.reports, (status.observedGeneration, p) ∈ s.generatedFor) :
    Coherent settings (s.reconcile r) := by
  rcases hstored with rfl | rfl
  · refine h.update hsettings hw ⟨finalizers, s.application.status, happlication⟩ hplotter
      (Or.inl ?_) ?_
    · rw [happlication]
    · rw [happlication]
      exact h.readyReported
  · refine h.update hsettings hw ⟨finalizers, status, ?_⟩ hplotter hgenerated hready
    rw [World.withStatus, happlication]

/-- The controller of applications is called, and does not read an outdated status. -/
theorem Coherent.reconcile (h : Coherent settings s) (hsettings : r.settings = settings)
    (hok : UpToDate r s) : Coherent settings (s.reconcile r) := by
  have htidied := r.tidied_reconcileFinalizers s.toWorld
  obtain ⟨finalizers, hfinalizers⟩ := htidied.application_eq
  have hlookup := h.plotterAfter_tidied r htidied
  have hcall := r.reconcileRequest_call s.toWorld
  generalize hout : r.reconcileRequest s.toWorld = out at hcall
  have hw : (r.reconcileRequest s.toWorld).1 = out.1 := by rw [hout]
  cases hcall with
  | stopped =>
    exact h.store hsettings hw (Or.inl rfl) hfinalizers hlookup (Or.inl rfl) h.readyReported
  | @invalid status _ _ hvalidate =>
    have hstored := (r.updateStatus_cases (r.reconcileFinalizers s.toWorld).1 status).imp
      And.left And.left
    obtain ⟨generation, msg, valid, hstatus⟩ :=
      r.validateApplication_eq (r.reconcileFinalizers s.toWorld).1.application
    rw [hvalidate, hfinalizers] at hstatus
    subst hstatus
    exact h.store hsettings hw hstored hfinalizers hlookup (Or.inl rfl) h.readyReported
  | @failed w₁ status res err haccepted hneeded hres =>
    have hstored := (r.updateStatus_cases ⟨w₁.application, res.plotters⟩ res.status).imp
      And.left And.left
    obtain ⟨finalizers, happlication⟩ := haccepted.application_eq
    obtain ⟨hplotter, hgenerated⟩ := h.reconciled hsettings haccepted hneeded hres
    refine h.store hsettings hw hstored happlication hplotter hgenerated fun id hready => ?_
    have hnotReady := (FybrikApplicationReconciler.reconcile_course hres).tracked.2 id
    cases hnotReady.symm.trans hready
  | @generated w₁ status res haccepted hneeded hres =>
    obtain ⟨finalizers, happlication⟩ := haccepted.application_eq
    obtain ⟨hplotter, hgenerated⟩ := h.reconciled hsettings haccepted hneeded hres
    have hnotReady := (FybrikApplicationReconciler.reconcile_course hres).tracked.2
    rcases r.finish_cases ⟨w₁.application, res.plotters⟩
      { res.status with observedGeneration := w₁.application.generation } with
      ⟨hlost, -⟩ | ⟨ready, hstored, -⟩
    · exact h.store hsettings hw (Or.inl hlost) happlication hplotter (Or.inl rfl) h.readyReported
    · refine h.store hsettings hw (Or.inr hstored) happlication hplotter hgenerated
        fun id hready => ?_
      exact absurd ((hnotReady id).symm.trans hready) (by simp)
  | @polled w₁ status status' observed haccepted hneeded hobserved hstatus' =>
    obtain ⟨finalizers, happlication⟩ := haccepted.application_eq
    have hlookup := h.plotterAfter_tidied r haccepted.tidied
    have hgenerated : status'.generated = s.application.status.generated := by
      rw [(FybrikApplicationReconciler.checkReadiness_sameDenials hstatus').generated]
      obtain ⟨generation, msg, valid, rfl⟩ := haccepted.status_eq
      rfl
    have hready := fun id (hid : status'.isTrue readyConditionIndex id = true) =>
      h.ready_of_polled haccepted hneeded hobserved hstatus' hok hid
    rcases r.finish_cases w₁ status' with ⟨hlost, -⟩ | ⟨ready, hstored, -⟩
    · exact h.store hsettings hw (Or.inl hlost) happlication hlookup (Or.inl rfl) h.readyReported
    · exact h.store hsettings hw (Or.inr hstored) happlication hlookup (Or.inl hgenerated) hready

theorem Coherent.step (h : Coherent settings s) {s' : SharedWorld}
    (hstep : SharedStep name settings UpToDate s s') : Coherent settings s' := by
  cases hstep with
  | edit => exact h.edit _
  | reconcile r _ hsettings hok => exact h.reconcile hsettings hok
  | reconcilePlotter p remotes hlookup hrequest =>
    exact h.report hlookup (PlotterReconciler.generation_reconcileRequest hrequest)

/-- In every run of the two controllers from the creation of an application on, in which
no status of the plotter is read that says it is ready and is about an earlier
specification, a dataset is only ready if the plotter was reported to be ready for the
specification that was generated for this generation of the application. -/
theorem run_readyReported (name : String) (settings : Settings) (s₀ s : SharedWorld)
    (h₀ : Created settings s₀)
    (hrun : Relation.ReflTransGen (SharedStep name settings UpToDate) s₀ s) : s.ReadyReported := by
  have hcoherent : Coherent settings s := by
    induction hrun with
    | refl => exact h₀.coherent
    | tail _ hstep ih => exact ih.step hstep
  exact hcoherent.readyReported

/-! ### A notebook and its plotter -/

/-- The notebook has been created. -/
def notebookShared : SharedWorld :=
  { notebookWorld with resource := default, uid := 0, generatedFor := [], reports := [] }

theorem notebookShared_created : Created default notebookShared := ⟨rfl, rfl⟩

/-- The plotter is reconciled, with some blueprints in the clusters. -/
def site (s : SharedWorld) (remotes : Remotes) : Option (PlotterSite × Option String) :=
  (PlotterReconciler.plotterReconciler (PlotterReconciler.clustersOf remotes)).reconcileRequest
    ⟨s.resource, remotes⟩

/-- The controller of plotters has been called. -/
def plotterCalled (s : SharedWorld) (remotes : Remotes) : SharedWorld :=
  (s.site remotes).elim s fun res => s.report default res.1.plotter

variable {ok : FybrikApplicationReconciler → SharedWorld → Prop}

theorem step_plotterCalled {remotes : Remotes}
    (hlookup : s.plotters.lookup (s.plotterKey default) = some s.resource.toPlotter)
    (h : (s.site remotes).isSome = true) :
    SharedStep name default ok s (s.plotterCalled remotes) := by
  obtain ⟨⟨site, err⟩, hsite⟩ := Option.isSome_iff_exists.1 h
  rw [plotterCalled, hsite]
  exact .reconcilePlotter _ remotes hlookup hsite

/-- The blueprint of the notebook has been created. -/
def notebookPlotted : SharedWorld := (notebookShared.reconcile notebookReconciler).plotterCalled ∅

/-- The blueprint of the notebook has become ready. -/
def notebookRemotes : Remotes :=
  ((notebookShared.reconcile notebookReconciler).site ∅).elim ∅ fun res =>
    GoMap.ofList (res.1.remotes.pairs.map fun kb => (kb.1, { kb.2 with
      status := { (default : BlueprintStatus) with
        observedState := ⟨true, ""⟩
        observedGeneration := 1 } }))

/-- The plotter has been found ready. -/
def notebookReported : SharedWorld := notebookPlotted.plotterCalled notebookRemotes

theorem run_notebookReported (hok : ok notebookReconciler notebookShared) :
    Relation.ReflTransGen (SharedStep "fybrik-application" default ok) notebookShared
      notebookReported := by
  have hdeploy : SharedStep "fybrik-application" default ok notebookShared
      (notebookShared.reconcile notebookReconciler) := .reconcile notebookReconciler rfl rfl hok
  have hplot : SharedStep "fybrik-application" default ok
      (notebookShared.reconcile notebookReconciler) notebookPlotted :=
    step_plotterCalled (by decide +kernel) (by decide +kernel)
  have hreport : SharedStep "fybrik-application" default ok notebookPlotted notebookReported :=
    step_plotterCalled (by decide +kernel) (by decide +kernel)
  exact ((Relation.ReflTransGen.single hdeploy).tail hplot).tail hreport

/-- The application learns that the plotter is ready, and so is the dataset. -/
theorem notebook_readyReported :
    Created default notebookShared ∧
    ∃ s, Relation.ReflTransGen (SharedStep "fybrik-application" default UpToDate)
        notebookShared s ∧
      s.application.status.isTrue readyConditionIndex "xxx" = true ∧ s.ReadyReported := by
  have hpoll : SharedStep "fybrik-application" default UpToDate notebookReported
      (notebookReported.reconcile notebookReconciler) :=
    .reconcile notebookReconciler rfl rfl fun _ _ _ => by decide +kernel
  have hrun := (run_notebookReported fun _ _ _ => rfl).tail hpoll
  exact ⟨notebookShared_created, _, hrun, by decide +kernel,
    run_readyReported _ _ _ _ notebookShared_created hrun⟩

/-- Another dataset is asked for while the plotter is ready. -/
def notebookExtended : SharedWorld :=
  { notebookReported with
    application := { notebookReported.application with
      spec := notebookSpec ["xxx", "zzz"]
      generation := notebookReported.application.generation + 1 } }

/-- The controller of applications is called twice after that, and the new dataset is
ready although the controller of plotters has not seen the new specification. -/
theorem outdated_not_readyReported :
    Created default notebookShared ∧
    ∃ s, Relation.ReflTransGen (SharedStep "fybrik-application" default fun _ _ => True)
        notebookShared s ∧
      s.application.status.isTrue readyConditionIndex "zzz" = true ∧
      s.application.status.observedGeneration = s.application.generation ∧
      ¬ s.ReadyReported := by
  have hedit : SharedStep "fybrik-application" default (fun _ _ => True) notebookReported
      notebookExtended := .edit (by decide)
  have hreconcile : ∀ s : SharedWorld,
      SharedStep "fybrik-application" default (fun _ _ => True) s (s.reconcile notebookReconciler) :=
    fun s => .reconcile notebookReconciler rfl rfl trivial
  have hrun := (run_notebookReported trivial).tail hedit
  have hready : ((notebookExtended.reconcile notebookReconciler).reconcile
      notebookReconciler).application.status.isTrue readyConditionIndex "zzz" = true := by
    decide +kernel
  refine ⟨notebookShared_created, _, (hrun.tail (hreconcile _)).tail (hreconcile _), hready,
    by decide +kernel, fun h => ?_⟩
  have hnone : ∀ p ∈ ((notebookExtended.reconcile notebookReconciler).reconcile
        notebookReconciler).reports,
      (((notebookExtended.reconcile notebookReconciler).reconcile
        notebookReconciler).application.status.observedGeneration, p) ∉
      ((notebookExtended.reconcile notebookReconciler).reconcile
        notebookReconciler).generatedFor := by decide +kernel
  obtain ⟨p, hp, hgenerated⟩ := h "zzz" hready
  exact hnone p hp hgenerated

end SharedWorld

end Fybrik
