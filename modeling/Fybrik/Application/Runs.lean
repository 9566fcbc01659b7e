import Fybrik.Application.Calls
import Mathlib.Logic.Relation

/-!
# Runs of the controller

The life of an application: its specification is edited, its plotter reports its
state and gets or loses finalizers, and the controller is called again and again, each
time with the answers the services give at that moment.

* `Step` — one of these events; a run is a sequence of steps from an application
  that has just been created.
* `PlotterMatches` — the plotter serves the datasets that are not denied; there is
  none if all of them are.
* `Consistent` — what the controller maintains; `Step.consistent` shows it for one
  step, `consistent_of_run` for a run.
* `run_plotterMatches` — the plotter of an application that is ready matches the
  access decisions, if no reconcile finds a plotter of an earlier generation and
  all datasets denied, or a plotter with finalizers and no datasets.
-/

namespace Fybrik

/-! ## The plotter of an application -/

namespace World

variable (settings : Settings) (w : World)

/-- Where the plotter of the application is stored. -/
def plotterKey : NamespacedName :=
  ⟨w.application.name ++ "-" ++ w.application.namespace, settings.systemNamespace⟩

/-- The specification of the plotter of the application, if there is one. -/
def plotterSpec : Option PlotterSpec :=
  (w.plotters.lookup (w.plotterKey settings)).map Plotter.spec

/-- The plotter of the application serves the datasets that are not denied, and if
all of them are denied there is no plotter. -/
def PlotterMatches : Prop :=
  match w.plotterSpec settings with
  | none => ∀ ctx ∈ w.application.spec.data,
      w.application.status.isTrue denyConditionIndex ctx.dataSetID = true
  | some spec => FlowsMatch w.application.spec.data w.application.status spec

/-- The application has just been created. -/
structure Created : Prop where
  status : w.application.status = default
  notDeleted : w.application.beingDeleted = false
  plotterSpec : w.plotterSpec settings = none

variable {settings w}

theorem plotterMatches_of_none (h : w.plotterSpec settings = none)
    (hdenied : ∀ ctx ∈ w.application.spec.data,
      w.application.status.isTrue denyConditionIndex ctx.dataSetID = true) :
    w.PlotterMatches settings := by
  rw [PlotterMatches, h]
  exact hdenied

theorem plotterMatches_of_some {spec : PlotterSpec} (h : w.plotterSpec settings = some spec)
    (hflows : FlowsMatch w.application.spec.data w.application.status spec) :
    w.PlotterMatches settings := by
  rw [PlotterMatches, h]
  exact hflows

/-- It only matters which datasets are denied. -/
theorem PlotterMatches.congr {status : FybrikApplicationStatus} (h : w.PlotterMatches settings)
    (hdenied : ∀ id, status.isTrue denyConditionIndex id
      = w.application.status.isTrue denyConditionIndex id) :
    (w.withStatus status).PlotterMatches settings := by
  unfold PlotterMatches at h
  split at h
  · rename_i hnone
    exact plotterMatches_of_none hnone fun ctx hctx => (hdenied _).trans (h ctx hctx)
  · rename_i spec hspec
    exact plotterMatches_of_some hspec (h.congr hdenied)

end World

/-! ## Steps -/

/-- One step in the life of an application: its specification is edited, which
makes a new generation of it; a plotter reports its state, or its finalizers are
changed; or the controller with the given name and settings is called.  The answers of
the services during this call are subject to a condition. -/
inductive Step (name : String) (settings : Settings)
    (ok : FybrikApplicationReconciler → World → Prop) : World → World → Prop
  | edit {w : World} {spec : FybrikApplicationSpec} (hspec : spec ≠ w.application.spec) :
      Step name settings ok w { w with
        application := { w.application with
          spec := spec
          generation := w.application.generation + 1 } }
  | plotterStatus {w : World} {key : NamespacedName} {plotter : Plotter} {observed : ObservedState}
      (hlookup : w.plotters.lookup key = some plotter) :
      Step name settings ok w { w with
        plotters := w.plotters.set key { plotter with observedState := observed } }
  | plotterFinalizers {w : World} {key : NamespacedName} {plotter : Plotter}
      {finalizers : List String} (hlookup : w.plotters.lookup key = some plotter) :
      Step name settings ok w { w with
        plotters := storePlotter w.plotters key { plotter with finalizers := finalizers } }
  | reconcile {w : World} (r : FybrikApplicationReconciler) (hname : r.name = name)
      (hsettings : r.settings = settings) (hok : ok r w) :
      Step name settings ok w (r.reconcileRequest w).1

/-- What the controller maintains.  The plotter is not being deleted, the references to
it are up to date, and if it was generated for the current generation it matches the
access decisions. -/
structure Consistent (name : String) (settings : Settings) (w : World) : Prop where
  notDeleted : w.application.beingDeleted = false
  alive : ∀ plotter, w.plotters.lookup (w.plotterKey settings) = some plotter →
    plotter.beingDeleted = false
  finalizer : w.plotterSpec settings ≠ none → name ++ ".finalizer" ∈ w.application.finalizers
  referenced : w.plotterSpec settings ≠ none → w.application.status.generated ≠ none
  reference : ∀ ref, w.application.status.generated = some ref →
    ref.namespacedName = w.plotterKey settings ∧ ref.appVersion ≤ w.application.generation
  observed : w.application.status.observedGeneration ≤ w.application.generation
  current : ∀ ref, w.application.status.generated = some ref →
    ref.appVersion = w.application.generation →
      w.application.status.observedGeneration = w.application.generation ∧
      ∀ spec, w.plotterSpec settings = some spec →
        FlowsMatch w.application.spec.data w.application.status spec
  settled : w.application.status.ready = true →
    w.application.status.observedGeneration = w.application.generation →
      w.PlotterMatches settings

variable {name : String} {settings : Settings} {w : World}

theorem World.plotterSpec_of_lookup {plotter : Plotter}
    (h : w.plotters.lookup (w.plotterKey settings) = some plotter) :
    w.plotterSpec settings = some plotter.spec := congrArg (Option.map Plotter.spec) h

/-- Without a plotter none is being deleted. -/
theorem World.alive_of_none (h : w.plotterSpec settings = none) (plotter : Plotter)
    (hlookup : w.plotters.lookup (w.plotterKey settings) = some plotter) :
    plotter.beingDeleted = false :=
  absurd (h.symm.trans (World.plotterSpec_of_lookup hlookup)) (by simp)

theorem World.Created.consistent (h : w.Created settings) : Consistent name settings w := by
  have hgenerated : w.application.status.generated = none := by rw [h.status]; rfl
  have hready : w.application.status.ready = false := by rw [h.status]; rfl
  have hobserved : w.application.status.observedGeneration = 0 := by rw [h.status]; rfl
  refine ⟨h.notDeleted, World.alive_of_none h.plotterSpec, fun hp => absurd h.plotterSpec hp,
    fun hp => absurd h.plotterSpec hp, fun ref href => ?_, ?_, fun ref href => ?_, fun htrue => ?_⟩
  · cases hgenerated.symm.trans href
  · omega
  · cases hgenerated.symm.trans href
  · cases hready.symm.trans htrue

/-- After an edit nothing is up to date. -/
theorem Consistent.edit (h : Consistent name settings w) (spec : FybrikApplicationSpec) :
    Consistent name settings { w with
      application := { w.application with
        spec := spec
        generation := w.application.generation + 1 } } := by
  have hobserved := h.observed
  refine ⟨h.notDeleted, h.alive, h.finalizer, h.referenced, fun ref href => ?_, ?_,
    fun ref href hcurrent => ?_, fun _ hcurrent => ?_⟩
  · exact ⟨(h.reference ref href).1, Nat.le_succ_of_le (h.reference ref href).2⟩
  · exact Nat.le_succ_of_le hobserved
  · have hversion := (h.reference ref href).2
    simp only at hcurrent
    omega
  · simp only at hcurrent
    omega

/-- A plotter that is changed keeps its specification. -/
theorem Consistent.plotter (h : Consistent name settings w) {key : NamespacedName}
    {plotter plotter' : Plotter} (hlookup : w.plotters.lookup key = some plotter)
    {plotters : GoMap NamespacedName Plotter}
    (hplotters : plotters = w.plotters.set key plotter' ∨
      plotters = storePlotter w.plotters key plotter')
    (hspec : plotter'.spec = plotter.spec) (hmark : plotter'.beingDeleted = plotter.beingDeleted) :
    Consistent name settings { w with plotters := plotters } := by
  -- the plotter of the application is not being deleted, so it is still there
  have hafter : plotters.lookup (w.plotterKey settings) = w.plotters.lookup (w.plotterKey settings) ∨
      (w.plotterKey settings = key ∧ plotters.lookup (w.plotterKey settings) = some plotter') := by
    by_cases hkey : w.plotterKey settings = key
    · have halive : plotter'.beingDeleted = false :=
        hmark.trans (h.alive plotter (by rw [hkey]; exact hlookup))
      rw [storePlotter_of_alive halive, or_self] at hplotters
      rw [hplotters, hkey]
      exact Or.inr ⟨rfl, AList.lookup_insert _⟩
    · left
      rcases hplotters with rfl | rfl
      · exact AList.lookup_insert_ne hkey
      · exact lookup_storePlotter_ne hkey _
  have hspec' : World.plotterSpec settings { w with plotters := plotters }
      = w.plotterSpec settings := by
    change (plotters.lookup (w.plotterKey settings)).map Plotter.spec = _
    rw [World.plotterSpec]
    rcases hafter with hsame | ⟨hkey, hnew⟩
    · rw [hsame]
    · rw [hnew, hkey, hlookup, Option.map_some, Option.map_some, hspec]
  refine ⟨h.notDeleted, fun after hlookup' => ?_, ?_, ?_, h.reference, h.observed, ?_, ?_⟩
  · rcases hafter with hsame | ⟨hkey, hnew⟩
    · exact h.alive after (hsame.symm.trans hlookup')
    · obtain rfl := Option.some.inj (hnew.symm.trans hlookup')
      exact hmark.trans (h.alive plotter (by rw [hkey]; exact hlookup))
  · rw [hspec']
    exact h.finalizer
  · rw [hspec']
    exact h.referenced
  · rw [hspec']
    exact h.current
  · rw [World.PlotterMatches, hspec']
    exact h.settled

/-! ## Storing a status -/

/-- Storing a status that refers to the same plotter. -/
theorem Consistent.store (h : Consistent name settings w) {status : FybrikApplicationStatus}
    (hgenerated : status.generated = w.application.status.generated)
    (hobserved : status.observedGeneration = w.application.status.observedGeneration ∨
      status.observedGeneration = w.application.generation)
    (hflows : ∀ ref spec, w.application.status.generated = some ref →
      ref.appVersion = w.application.generation → w.plotterSpec settings = some spec →
        FlowsMatch w.application.spec.data status spec)
    (hready : status.ready = true → status.observedGeneration = w.application.generation →
      (w.withStatus status).PlotterMatches settings) :
    Consistent name settings (w.withStatus status) := by
  refine ⟨h.notDeleted, h.alive, h.finalizer, fun hspec => ?_, fun ref href => ?_, ?_,
    fun ref href hcurrent => ?_, hready⟩
  · exact fun hnone => h.referenced hspec (hgenerated.symm.trans hnone)
  · exact h.reference ref (hgenerated.symm.trans href)
  · rcases hobserved with hobserved | hobserved
    · exact hobserved.trans_le h.observed
    · exact hobserved.le
  · have href := hgenerated.symm.trans href
    refine ⟨?_, fun spec => hflows ref spec href hcurrent⟩
    rcases hobserved with hobserved | hobserved
    · exact hobserved.trans (h.current ref href hcurrent).1
    · exact hobserved

/-- Storing a status with the same denials and the same summary. -/
theorem Consistent.store_sameDenials (h : Consistent name settings w)
    {status : FybrikApplicationStatus} (hsame : SameDenials w.application.status status)
    (hready : status.ready = w.application.status.ready) :
    Consistent name settings (w.withStatus status) := by
  refine h.store hsame.generated (Or.inl hsame.observedGeneration)
    (fun ref spec href hcurrent hspec => ?_) fun htrue hcurrent => ?_
  · exact ((h.current ref href hcurrent).2 spec hspec).congr hsame.denied
  · exact (h.settled (hready.symm.trans htrue)
      (hsame.observedGeneration.symm.trans hcurrent)).congr hsame.denied

namespace FybrikApplicationReconciler

variable {r : FybrikApplicationReconciler}

/-! ## Finalizers -/

variable (r) in
/-- What a reconcile has to find for the plotter to match the access decisions: a
dataset that is listed more than once is always denied or never; if there is
still a plotter of an earlier generation, not all datasets are denied; and without
datasets, a plotter has no finalizers and can be deleted at once. -/
structure Orderly (w : World) : Prop where
  uniform : r.UniformAccess w.application
  admitted : w.plotterSpec r.settings ≠ none → w.application.spec.data ≠ [] →
    (∀ ref, w.application.status.generated = some ref →
      ref.appVersion ≠ w.application.generation) →
    ∃ ctx ∈ w.application.spec.data, ¬ r.DeniedAccess w.application ctx
  deletable : w.application.spec.data = [] →
    ∀ plotter, w.plotters.lookup (w.plotterKey r.settings) = some plotter → plotter.finalizers = []

variable (r) in
/-- The state of affairs once the finalizers are in order: an application without
datasets has no plotter, any other has a finalizer. -/
structure Prepared (w : World) : Prop where
  consistent : Consistent r.name r.settings w
  orderly : r.Orderly w
  plotterSpec_of_nil : w.application.spec.data = [] → w.plotterSpec r.settings = none
  finalizer : w.application.spec.data ≠ [] → r.finalizerName ∈ w.application.finalizers

theorem Finalized.prepared {w' : World} (hfinalized : r.Finalized w (w', none))
    (h : Consistent r.name r.settings w) (hok : r.Orderly w) : r.Prepared w' := by
  cases hfinalized with
  | cleaned hempty hplotters hnone =>
    rename_i finalizers plotters
    have hdata : w.application.spec.data = [] :=
      hempty.resolve_left (by rw [h.notDeleted]; exact Bool.false_ne_true)
    -- the plotter is gone, or there was none
    have hspec : World.plotterSpec r.settings
        ⟨{ w.application with finalizers := finalizers }, plotters⟩ = none := by
      cases hgenerated : w.application.status.generated with
      | none =>
        rw [hnone hgenerated]
        by_contra hspec
        exact h.referenced hspec hgenerated
      | some ref =>
        obtain ⟨plotter, hlookup, hplotters⟩ := hplotters ref hgenerated
        rw [(h.reference ref hgenerated).1] at hlookup hplotters
        have hfinalizers := hok.deletable hdata plotter hlookup
        rw [storePlotter, hfinalizers] at hplotters
        rw [hplotters]
        change ((w.plotters.delete (w.plotterKey r.settings)).lookup
          (w.plotterKey r.settings)).map Plotter.spec = none
        rw [AList.lookup_erase]
        rfl
    have halive := World.alive_of_none hspec
    refine ⟨⟨h.notDeleted, halive, fun hp => absurd hspec hp, fun hp => absurd hspec hp,
      h.reference, h.observed, fun ref href hcurrent => ?_, fun _ _ => ?_⟩,
      ⟨hok.uniform, fun hp => absurd hspec hp, fun _ plotter hlookup => ?_⟩,
      fun _ => hspec, fun hne => absurd hdata hne⟩
    · refine ⟨(h.current ref href hcurrent).1, fun spec hsome => ?_⟩
      cases hspec.symm.trans hsome
    · exact World.plotterMatches_of_none hspec (by simp [hdata])
    · cases hspec.symm.trans (World.plotterSpec_of_lookup hlookup)
  | nothing hempty hfinalizer =>
    have hdata : w.application.spec.data = [] :=
      hempty.resolve_left (by rw [h.notDeleted]; exact Bool.false_ne_true)
    refine ⟨h, hok, fun _ => ?_, fun hne => absurd hdata hne⟩
    by_contra hspec
    exact hfinalizer (h.finalizer hspec)
  | kept hdata hfinalizer =>
    exact ⟨⟨h.notDeleted, h.alive, fun _ => hfinalizer, h.referenced, h.reference, h.observed,
      h.current, h.settled⟩, ⟨hok.uniform, hok.admitted, fun hnil => absurd hnil hdata⟩,
      fun hnil => absurd hnil hdata, fun _ => hfinalizer⟩

/-! ## A new generation -/

/-- Unless the plotter of the current generation is there, no plotter is taken for it. -/
theorem plotterSpec_of_not_complete (h : Consistent r.name r.settings w) (hr : r.ApiSucceeds)
    (hneeded : r.plotterNeeded w = true) {ref : ResourceReference}
    (href : w.application.status.generated = some ref)
    (hversion : ref.appVersion = w.application.generation) :
    w.plotterSpec r.settings = none := by
  by_contra hspec
  have hobserved := (h.current ref href hversion).1
  have hname := (h.reference ref href).1
  have hnamespace : ref.namespace = r.settings.systemNamespace :=
    congrArg NamespacedName.namespace hname
  have hsome : (w.plotters.lookup ref.namespacedName).isSome = true := by
    rw [hname, Option.isSome_iff_ne_none]
    exact fun hnone => hspec (by rw [World.plotterSpec, hnone]; rfl)
  simp [plotterNeeded, generationComplete, resourceExists, href, hversion, hobserved, hnamespace,
    r.settings.systemNamespace_ne, hr.readPlotter, hsome] at hneeded

variable {status : FybrikApplicationStatus}

/-- A reconcile ends with a new plotter: it is stored, and the application waits for
it to become ready. -/
theorem Prepared.finish_deployed {validated : FybrikApplicationStatus} {workloadCluster : Cluster}
    {p : PlotterGenerator} {g : Generation} {plotters : GoMap NamespacedName Plotter}
    {plotter : Plotter} (h : r.Prepared w) (hr : r.ApiSucceeds)
    (hbuilt : r.Built (w.withStatus validated).application workloadCluster p g status)
    (herr : ∀ id, status.isTrue errorConditionIndex id = false)
    (hlookup : plotters.lookup (r.plotterReference w.application).namespacedName = some plotter)
    (hspec : plotter.spec = g.plotterSpec) (hmark : plotter.beingDeleted = ((w.plotters.lookup
      (r.plotterReference w.application).namespacedName).getD default).beingDeleted) :
    Consistent r.name r.settings (r.finish ⟨w.application, plotters⟩
      { status with
        generated := some (r.plotterReference w.application)
        observedGeneration := w.application.generation }).1 := by
  have htracked : Tracked w.application.spec.data
      { status with
        generated := some (r.plotterReference w.application)
        observedGeneration := w.application.generation } := hbuilt.judged.tracked.congr rfl
  have huniform : r.UniformAccess (w.withStatus validated).application := h.orderly.uniform
  have hflows := hbuilt.flowsMatch hr huniform herr
  have hsome : World.plotterSpec r.settings ⟨w.application, plotters⟩ = some g.plotterSpec := by
    rw [← hspec]
    exact congrArg (Option.map Plotter.spec) hlookup
  have halive : plotter.beingDeleted = false := by
    have hkey : (r.plotterReference w.application).namespacedName = w.plotterKey r.settings := rfl
    rw [hmark, hkey]
    cases hbefore : w.plotters.lookup (w.plotterKey r.settings) with
    | none => rfl
    | some before => exact h.consistent.alive before hbefore
  rw [finish_world hr, isReady_eq htracked]
  refine ⟨h.consistent.notDeleted, fun after hafter => ?_, fun _ => h.finalizer hbuilt.data_ne, fun _ => by
      simp [World.withStatus], fun ref href => ?_, le_rfl, fun ref href _ => ⟨rfl, fun spec hs => ?_⟩,
    fun hready => ?_⟩
  · obtain rfl := Option.some.inj (hlookup.symm.trans hafter)
    exact halive
  · cases href
    exact ⟨rfl, le_rfl⟩
  · obtain rfl := Option.some.inj (hsome.symm.trans hs)
    exact hflows.congr fun _ => rfl
  · obtain ⟨ctx, hctx, hadmitted⟩ := hbuilt.exists_admitted hr huniform
    have hsettled := List.all_eq_true.1 hready ctx hctx
    rw [Bool.or_eq_true] at hsettled
    rcases hsettled with hdenied | htrue
    · cases hadmitted.symm.trans hdenied
    · exact absurd ((hbuilt.judged.not_ready _).symm.trans htrue) (by simp)

section Generation

variable {status : FybrikApplicationStatus} (h : r.Prepared w) (hr : r.ApiSucceeds)
  (hincomplete : ∀ ref, w.application.status.generated = some ref →
    ref.appVersion = w.application.generation → w.plotterSpec r.settings = none)
include h hincomplete

/-- The status of a reconcile that has failed is stored. -/
theorem Prepared.store_failed (hgenerated : status.generated = w.application.status.generated)
    (hobserved : status.observedGeneration = w.application.status.observedGeneration)
    (hready : status.ready = false) : Consistent r.name r.settings (w.withStatus status) := by
  refine h.consistent.store hgenerated (Or.inl hobserved) (fun ref spec href hversion hspec => ?_)
    fun htrue => ?_
  · exact absurd ((hincomplete ref href hversion).symm.trans hspec) (by simp)
  · cases hready.symm.trans htrue

include hr

/-- A reconcile ends without a new plotter. -/
theorem Prepared.finish (hgenerated : status.generated = w.application.status.generated)
    (htracked : Tracked w.application.spec.data status)
    (hmatches : (∀ ctx ∈ w.application.spec.data,
        status.isTrue denyConditionIndex ctx.dataSetID = true ∨
          status.isTrue readyConditionIndex ctx.dataSetID = true) →
      (w.withStatus status).PlotterMatches r.settings) :
    Consistent r.name r.settings
      (r.finish w { status with observedGeneration := w.application.generation }).1 := by
  have htracked' : Tracked w.application.spec.data
      { status with observedGeneration := w.application.generation } :=
    ⟨htracked.wellKept, htracked.present⟩
  rw [finish_world hr, isReady_eq htracked']
  refine h.consistent.store hgenerated (Or.inr rfl) (fun ref spec href hversion hspec => ?_)
    fun htrue _ => ?_
  · exact absurd ((hincomplete ref href hversion).symm.trans hspec) (by simp)
  · have hall := hmatches fun ctx hctx =>
      (Bool.or_eq_true _ _).mp (List.all_eq_true.1 htrue ctx hctx)
    exact hall.congr fun _ => rfl

variable {validated : FybrikApplicationStatus}

/-- A reconcile that has built a plotter ends without storing it. -/
theorem Prepared.finish_built {workloadCluster : Cluster} {p : PlotterGenerator} {g : Generation}
    {status' : FybrikApplicationStatus}
    (hbuilt : r.Built (w.withStatus validated).application workloadCluster p g status)
    (hstates : status'.assetStates = status.assetStates)
    (hgenerated : status'.generated = w.application.status.generated) :
    Consistent r.name r.settings
      (r.finish w { status' with observedGeneration := w.application.generation }).1 := by
  refine h.finish hr hincomplete hgenerated (hbuilt.judged.tracked.congr hstates) fun hall => ?_
  obtain ⟨ctx, hctx, hadmitted⟩ := hbuilt.exists_admitted hr h.orderly.uniform
  have hsettled := hall ctx hctx
  rw [isTrue_congr hstates, isTrue_congr hstates, hadmitted, hbuilt.judged.not_ready] at hsettled
  exact absurd hsettled (by simp)

/-- A reconcile ends because all datasets were turned down. -/
theorem Prepared.finish_noneServed {workloadCluster : Cluster}
    (hsame : SameDenials w.application.status validated) (hdata : w.application.spec.data ≠ [])
    (hjudged : r.Judged (w.withStatus validated).application workloadCluster
      (r.failures (w.withStatus validated).application workloadCluster w.application.spec.data)
      status) :
    Consistent r.name r.settings
      (r.finish w { status with observedGeneration := w.application.generation }).1 := by
  refine h.finish hr hincomplete (hjudged.summary.1.trans hsame.generated) hjudged.tracked
    fun hall => ?_
  rw [← List.append_nil (r.failures _ _ _)] at hjudged
  have hentry : ∀ ctx ∈ w.application.spec.data,
      (status.isTrue denyConditionIndex ctx.dataSetID = true ↔
        r.DeniedAccess w.application ctx) :=
    fun ctx hctx => hjudged.denied_entry_iff (by simp) h.orderly.uniform hctx
  have hdenied : ∀ ctx ∈ w.application.spec.data,
      status.isTrue denyConditionIndex ctx.dataSetID = true := by
    intro ctx hctx
    refine (hall ctx hctx).resolve_right ?_
    rw [hjudged.not_ready]
    exact Bool.false_ne_true
  -- a plotter that is still there would be of an earlier generation
  have hnone : w.plotterSpec r.settings = none := by
    by_contra hspec
    obtain ⟨ctx, hctx, hadmitted⟩ := h.orderly.admitted hspec hdata fun ref href hversion =>
      hspec (hincomplete ref href hversion)
    exact hadmitted ((hentry ctx hctx).1 (hdenied ctx hctx))
  exact World.plotterMatches_of_none hnone hdenied

/-- What becomes of an application whose specification has changed. -/
theorem Course.consistent {res : Reconciled} (hsame : SameDenials w.application.status validated)
    (hcourse : r.Course (w.withStatus validated).application w.plotters res) :
    (∀ err, res.err = some err →
      Consistent r.name r.settings (World.withStatus ⟨w.application, res.plotters⟩ res.status)) ∧
    (res.err = none → Consistent r.name r.settings (r.finish ⟨w.application, res.plotters⟩
      { res.status with observedGeneration := w.application.generation }).1) := by
  have huniform : r.UniformAccess (w.withStatus validated).application := h.orderly.uniform
  cases hcourse with
  | noData hdata =>
    have hfresh := initStatus_fresh w.application.spec.data validated
    refine ⟨by simp, fun _ => ?_⟩
    refine h.finish hr hincomplete (hfresh.generated.trans hsame.generated) hfresh.tracked fun _ => ?_
    exact World.plotterMatches_of_none (h.plotterSpec_of_nil hdata) (by
      simp only [World.withStatus]
      simp [show w.application.spec.data = [] from hdata])
  | noCluster hdata hcluster =>
    have hfresh := initStatus_fresh w.application.spec.data validated
    refine ⟨fun _ _ => ?_, fun herr => absurd herr (by simp)⟩
    exact h.store_failed hincomplete (hfresh.generated.trans hsame.generated)
      (hfresh.observedGeneration.trans hsame.observedGeneration)
      (hfresh.ready.trans (List.isEmpty_eq_false_iff.2 hdata))
  | noneServed hdata hjudged _ =>
    refine ⟨by simp, fun _ => ?_⟩
    exact h.finish_noneServed hr hincomplete hsame hdata hjudged
  | notListed hdata hjudged hgen =>
    obtain ⟨hgenerated, hobserved, hready⟩ := hjudged.summary
    refine ⟨fun _ _ => ?_, fun herr => absurd herr (by simp)⟩
    exact h.store_failed hincomplete (hgenerated.trans hsame.generated)
      (hobserved.trans hsame.observedGeneration)
      (hready.trans (List.isEmpty_eq_false_iff.2 hdata))
  | rejected hbuilt _ =>
    refine ⟨by simp, fun _ => ?_⟩
    exact h.finish_built hr hincomplete hbuilt rfl
      (hbuilt.judged.summary.1.trans hsame.generated)
  | waiting hbuilt =>
    obtain ⟨hgenerated, hobserved, hready⟩ := hbuilt.judged.summary
    refine ⟨fun _ _ => ?_, fun _ => ?_⟩
    · exact h.store_failed hincomplete (hgenerated.trans hsame.generated)
        (hobserved.trans hsame.observedGeneration)
        (hready.trans (List.isEmpty_eq_false_iff.2 hbuilt.data_ne))
    · exact h.finish_built hr hincomplete hbuilt rfl (hgenerated.trans hsame.generated)
  | refused hbuilt =>
    refine ⟨by simp, fun _ => ?_⟩
    exact h.finish_built hr hincomplete hbuilt rfl
      (hbuilt.judged.summary.1.trans hsame.generated)
  | deployed hbuilt herr hlookup hspec hmark =>
    refine ⟨by simp, fun _ => ?_⟩
    have hfinished := h.finish_deployed hr hbuilt herr hlookup hspec hmark
    exact hfinished

end Generation

/-! ## A call of the controller -/

/-- The plotter of the current generation is asked for its state. -/
theorem Prepared.checkReadiness (h : r.Prepared w) (hr : r.ApiSucceeds)
    (hcomplete : r.generationComplete w = true) (hsame : SameDenials w.application.status status) :
    Consistent r.name r.settings (r.finish w status).1 := by
  rw [finish_world hr]
  split
  · exact h.consistent
  · -- the reference is up to date, and the plotter it refers to is there
    rw [generationComplete, Bool.and_eq_true] at hcomplete
    obtain ⟨hexists, hversion⟩ := hcomplete
    cases hgenerated : w.application.status.generated with
    | none => simp [hgenerated, resourceExists] at hexists
    | some ref =>
      have hversion : ref.appVersion = w.application.generation := by
        simpa [hgenerated] using hversion
      obtain ⟨hobserved, hflows⟩ := h.consistent.current ref hgenerated hversion
      have hname := (h.consistent.reference ref hgenerated).1
      rw [hgenerated, resourceExists, Bool.and_eq_true, hname] at hexists
      obtain ⟨plotter, hplotter⟩ := Option.isSome_iff_exists.1 hexists.2
      have hspec : w.plotterSpec r.settings = some plotter.spec :=
        congrArg (Option.map Plotter.spec) hplotter
      refine h.consistent.store hsame.generated (Or.inl hsame.observedGeneration)
        (fun _ spec _ _ hs => (hflows spec hs).congr hsame.denied) fun _ _ => ?_
      exact World.plotterMatches_of_some hspec ((hflows _ hspec).congr hsame.denied)

/-- An application that is processed is prepared for it. -/
theorem Accepted.prepared {w₁ : World} (haccepted : r.Accepted w w₁ status)
    (h : Consistent r.name r.settings w) (hr : r.ApiSucceeds) (hok : r.Orderly w) :
    r.Prepared w₁ ∧ SameDenials w₁.application.status status := by
  have hfinalized := reconcileFinalizers_course hr w
  rw [haccepted.finalized] at hfinalized
  have hsame := (r.validateApplication_sameDenials w₁.application).1
  rw [haccepted.validated] at hsame
  exact ⟨hfinalized.prepared h hok, hsame⟩

theorem consistent_reconcileFinalizers (h : Consistent r.name r.settings w) (hr : r.ApiSucceeds)
    (hok : r.Orderly w) : Consistent r.name r.settings (r.reconcileFinalizers w).1 := by
  have hfinalized := reconcileFinalizers_course hr w
  generalize r.reconcileFinalizers w = res at hfinalized ⊢
  obtain ⟨w', err⟩ := res
  cases err with
  | some err =>
    cases hfinalized
    exact h
  | none => exact (hfinalized.prepared h hok).consistent

theorem reconcileRequest_consistent (h : Consistent r.name r.settings w) (hr : r.ApiSucceeds)
    (hok : r.Orderly w) : Consistent r.name r.settings (r.reconcileRequest w).1 := by
  have hfinalized := consistent_reconcileFinalizers h hr hok
  have hcall := r.reconcileRequest_call w
  generalize r.reconcileRequest w = out at hcall
  cases hcall with
  | stopped => exact hfinalized
  | invalid _ hvalidate =>
    obtain ⟨hsame, hready⟩ :=
      r.validateApplication_sameDenials (r.reconcileFinalizers w).1.application
    rw [hvalidate] at hsame hready
    simp only [updateStatus, hr.updateStatus]
    exact hfinalized.store_sameDenials hsame hready
  | failed haccepted hneeded hres herr =>
    obtain ⟨hprepared, hsame⟩ := haccepted.prepared h hr hok
    have hcourse := Course.consistent hprepared hr (fun _ href =>
      plotterSpec_of_not_complete hprepared.consistent hr hneeded href) hsame (reconcile_course hres)
    simp only [updateStatus, hr.updateStatus]
    exact hcourse.1 _ herr
  | generated haccepted hneeded hres herr =>
    obtain ⟨hprepared, hsame⟩ := haccepted.prepared h hr hok
    have hcourse := Course.consistent hprepared hr (fun _ href =>
      plotterSpec_of_not_complete hprepared.consistent hr hneeded href) hsame (reconcile_course hres)
    exact hcourse.2 herr
  | @polled w₁ _ _ _ haccepted hneeded _ hstatus' =>
    obtain ⟨hprepared, hsame⟩ := haccepted.prepared h hr hok
    have hcomplete : r.generationComplete w₁ = true := by
      by_contra hnot
      simp [plotterNeeded, hnot] at hneeded
    exact hprepared.checkReadiness hr hcomplete (hsame.trans (checkReadiness_sameDenials hstatus'))

end FybrikApplicationReconciler

/-! ## Runs -/

/-- One step. -/
theorem Step.consistent {w' : World}
    (hstep : Step name settings (fun r w => r.ApiSucceeds ∧ r.Orderly w) w w')
    (h : Consistent name settings w) : Consistent name settings w' := by
  cases hstep with
  | edit hspec => exact h.edit _
  | plotterStatus hlookup => exact h.plotter hlookup (Or.inl rfl) rfl rfl
  | plotterFinalizers hlookup => exact h.plotter hlookup (Or.inr rfl) rfl rfl
  | reconcile r hname hsettings hok =>
    subst hname hsettings
    exact FybrikApplicationReconciler.reconcileRequest_consistent h hok.1 hok.2

theorem consistent_of_run {w₀ : World} (hcreated : w₀.Created settings)
    (hrun : Relation.ReflTransGen
      (Step name settings fun r w => r.ApiSucceeds ∧ r.Orderly w) w₀ w) :
    Consistent name settings w := by
  induction hrun with
  | refl => exact hcreated.consistent
  | tail _ hstep ih => exact hstep.consistent ih

/-- In every run of the controller from the creation of an application on, in which
no call to the API server fails and every reconcile is orderly, the plotter of an
application that is ready matches the access decisions. -/
theorem run_plotterMatches (name : String) (settings : Settings) (w₀ w : World)
    (hcreated : w₀.Created settings)
    (hrun : Relation.ReflTransGen
      (Step name settings fun r w => r.ApiSucceeds ∧ r.Orderly w) w₀ w)
    (hready : w.application.status.ready = true)
    (hobserved : w.application.status.observedGeneration = w.application.generation) :
    w.PlotterMatches settings :=
  (consistent_of_run hcreated hrun).settled hready hobserved

/-! ### A notebook -/

/-- A reconciler with a module for parquet files; policies forbid reading the dataset
`yyy`, and the configuration policies restrict nothing. -/
def notebookReconciler : FybrikApplicationReconciler :=
  { FybrikApplicationReconciler.conflictReconciler (GoMap.ofList
      [("parquet-reader", PlotterGenerator.readerModule "parquet-reader" ⟨"s3", "parquet"⟩)]) with
    policyManager := ⟨fun request _ => .ok ⟨"1",
      if request.resourceID = "yyy" then [⟨"", ⟨"Deny", ∅⟩⟩] else []⟩⟩
    configEvaluator := fun _ => ({ (default : EvaluatorOutput) with valid := true }, none)
    localClusters := .ok []
    provision := ⟨fun _ _ _ => none, fun _ => none, fun _ => .ok ⟨true, ""⟩, fun _ _ => none⟩
    api := ⟨none, none, none, none, none⟩ }

/-- An application that reads some datasets over arrow-flight. -/
def notebookSpec (datasetIDs : List String) : FybrikApplicationSpec :=
  { PlotterGenerator.shireApplication.spec with
    data := datasetIDs.map fun id => ⟨id, ⟨⟨"arrow-flight", "arrow"⟩, default⟩⟩ }

/-- The world in which an application for two datasets has been created. -/
def notebookWorld : World :=
  ⟨{ (default : FybrikApplication) with
      name := "notebook"
      «namespace» := "default"
      generation := 1
      spec := notebookSpec ["xxx", "yyy"] }, ∅⟩

/-- The world after a call of the controller. -/
def notebookDeployed : World := (notebookReconciler.reconcileRequest notebookWorld).1

/-- The world in which the controller of plotters has seen the plotter. -/
def notebookHeld : World :=
  { notebookDeployed with
    plotters := storePlotter notebookDeployed.plotters ⟨"notebook-default", "fybrik-system"⟩
      { (notebookDeployed.plotters.get ⟨"notebook-default", "fybrik-system"⟩) with
        finalizers := ["plotter.finalizer"] } }

/-- The world in which the plotter has become ready. -/
def notebookServing : World :=
  { notebookHeld with
    plotters := notebookHeld.plotters.set ⟨"notebook-default", "fybrik-system"⟩
      { (notebookHeld.plotters.get ⟨"notebook-default", "fybrik-system"⟩) with
        observedState := ⟨true, ""⟩ } }

/-- The world in which the first dataset is no longer wanted. -/
def notebookEdited : World :=
  { notebookDeployed with
    application := { notebookDeployed.application with
      spec := notebookSpec ["yyy"]
      generation := notebookDeployed.application.generation + 1 } }

theorem notebookReconciler_apiSucceeds : notebookReconciler.ApiSucceeds :=
  ⟨rfl, rfl, rfl, rfl, rfl, ⟨_, rfl⟩, ⟨_, rfl⟩, ⟨_, rfl⟩, ⟨_, rfl⟩, fun _ _ _ => rfl, fun _ => rfl⟩

theorem notebookWorld_created : notebookWorld.Created default := ⟨rfl, rfl, rfl⟩

/-- The plotter serves the first dataset, and with it the application is ready. -/
theorem run_plotterMatches_notebook :
    ∃ w, Relation.ReflTransGen (Step "fybrik-application" default fun r w =>
        r.ApiSucceeds ∧ r.Orderly w) notebookWorld w ∧
      w.application.status.ready = true ∧
      w.application.status.observedGeneration = w.application.generation ∧
      w.PlotterMatches default := by
  have huniform : ∀ application, notebookReconciler.UniformAccess application := fun application =>
    FybrikApplicationReconciler.uniformAccess_of_evaluator fun input output err h =>
      absurd h (by simp [notebookReconciler])
  have hcall : ∀ w : World, (notebookReconciler.Orderly w) →
      Step "fybrik-application" default (fun r w => r.ApiSucceeds ∧ r.Orderly w) w
        (notebookReconciler.reconcileRequest w).1 :=
    fun w horderly => .reconcile _ rfl rfl ⟨notebookReconciler_apiSucceeds, horderly⟩
  have hdeploy := hcall notebookWorld
    ⟨huniform _, fun hspec => absurd rfl hspec, fun hempty => absurd hempty (by decide)⟩
  have hhold : Step "fybrik-application" default (fun r w => r.ApiSucceeds ∧ r.Orderly w)
      notebookDeployed notebookHeld := .plotterFinalizers rfl
  have hserve : Step "fybrik-application" default (fun r w => r.ApiSucceeds ∧ r.Orderly w)
      notebookHeld notebookServing := .plotterStatus rfl
  have hcheck := hcall notebookServing
    ⟨huniform _, fun _ _ hversion => absurd rfl (hversion _ rfl),
      fun hempty => absurd hempty (by decide)⟩
  have hrun := (((Relation.ReflTransGen.single hdeploy).tail hhold).tail hserve).tail hcheck
  exact ⟨_, hrun, rfl, rfl, run_plotterMatches _ _ _ _ notebookWorld_created hrun rfl rfl⟩

theorem step_notebook (w : World) :
    Step "fybrik-application" default (fun r _ => r.ApiSucceeds) w
      (notebookReconciler.reconcileRequest w).1 :=
  .reconcile notebookReconciler rfl rfl notebookReconciler_apiSucceeds

/-- Once only the dataset that must not be read is wanted, the application is ready
although its old plotter still serves the other one. -/
theorem run_notebook_not_plotterMatches :
    notebookWorld.Created default ∧
    ∃ w, Relation.ReflTransGen (Step "fybrik-application" default fun r _ => r.ApiSucceeds)
        notebookWorld w ∧
      w.application.status.ready = true ∧
      w.application.status.observedGeneration = w.application.generation ∧
      ¬ w.PlotterMatches default := by
  have hedit : Step "fybrik-application" default (fun r _ => r.ApiSucceeds)
      notebookDeployed notebookEdited := .edit (by decide)
  refine ⟨notebookWorld_created, _, .tail (.tail (.single (step_notebook notebookWorld)) hedit)
    (step_notebook notebookEdited), rfl, rfl, fun h => ?_⟩
  have hflow := ((FlowsMatch.mem_assetIDs_iff h "xxx").1 (by decide)).1
  exact absurd hflow (by decide)

/-- The world in which no dataset is wanted any more. -/
def notebookEmptied : World :=
  { notebookHeld with
    application := { notebookHeld.application with
      spec := notebookSpec []
      generation := notebookHeld.application.generation + 1 } }

/-- Without datasets the application is ready although its plotter, which has a finalizer, is
still there. -/
theorem run_emptied_not_plotterMatches :
    ∃ w, Relation.ReflTransGen (Step "fybrik-application" default fun r _ => r.ApiSucceeds)
        notebookWorld w ∧
      w.application.status.ready = true ∧
      w.application.status.observedGeneration = w.application.generation ∧
      ¬ w.PlotterMatches default := by
  have hhold : Step "fybrik-application" default (fun r _ => r.ApiSucceeds)
      notebookDeployed notebookHeld := .plotterFinalizers rfl
  have hedit : Step "fybrik-application" default (fun r _ => r.ApiSucceeds)
      notebookHeld notebookEmptied := .edit (by decide)
  refine ⟨_, .tail (.tail (.tail (.single (step_notebook notebookWorld)) hhold) hedit)
    (step_notebook notebookEmptied), rfl, rfl, fun h => ?_⟩
  have hflow := ((FlowsMatch.mem_assetIDs_iff h "xxx").1 (by decide)).1
  exact absurd hflow (by decide)

end Fybrik
