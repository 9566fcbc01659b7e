import Fybrik.Blueprint.Controller
import Mathlib.Logic.Relation

/-!
# Runs of the controller of blueprints

The life of a blueprint: its specification is edited, and the controller is called
again and again, with charts, registries and Helm answering as they please.

* `BlueprintWorld` — the blueprint and its cluster, with the specification the
  blueprint had in each of its generations.
* `Step` — an edit or a call of the controller; a run is a sequence of steps from a
  blueprint that has just been created.
* `ReadyRunsObserved` — the releases of a blueprint that is ready were installed as
  the observed generation says.
* `run_readyRunsObserved` — this holds throughout a run in which every chart of a new
  generation is obtained if its release is deployed; `pullFailure_not_readyRunsObserved`
  shows that it fails otherwise.
* `run_releases_accounted` — every installed release is recorded, and after a reconcile
  only those of the blueprint and those that could not be uninstalled are.
-/

namespace Fybrik

/-- A blueprint and its cluster, with the specification of each generation. -/
structure BlueprintWorld extends BlueprintSite where
  history : GoMap ℕ BlueprintSpec

/-- The finalizers are replaced. -/
def BlueprintSite.withFinalizers (s : BlueprintSite) (finalizers : List String) : BlueprintSite :=
  { s with blueprint := { s.blueprint with finalizers := finalizers } }

namespace BlueprintReconciler

/-! ## Steps -/

/-- One step in the life of a blueprint: its specification is edited, which makes a
new generation of it, or the controller is called.  Both are subject to a
condition. -/
inductive Step (r : BlueprintReconciler) (edits : BlueprintSpec → BlueprintSpec → Prop)
    (ok : BlueprintCalls → BlueprintSite → Prop) : BlueprintWorld → BlueprintWorld → Prop
  | edit {w : BlueprintWorld} {spec : BlueprintSpec} (hedit : edits w.blueprint.spec spec) :
      Step r edits ok w
        { blueprint := { w.blueprint with
            spec := spec
            generation := w.blueprint.generation + 1 }
          helm := w.helm
          history := w.history.set (w.blueprint.generation + 1) spec }
  | reconcile {w : BlueprintWorld} (calls : BlueprintCalls) (hok : ok calls w.toBlueprintSite) :
      Step r edits ok w ⟨(r.reconcileRequest calls w.toBlueprintSite).1, w.history⟩

/-- The blueprint has just been created; there may be releases from elsewhere. -/
structure Created (w : BlueprintWorld) : Prop where
  status : w.blueprint.status = default
  notDeleted : w.blueprint.beingDeleted = false
  generation : 0 < w.blueprint.generation
  history : w.history.lookup w.blueprint.generation = some w.blueprint.spec
  installed : w.helm.installed = []

variable {r : BlueprintReconciler} {calls : BlueprintCalls} {s : BlueprintSite}
  {w w₀ : BlueprintWorld}

/-- The finalizers are seen to first; this may fail. -/
theorem reconcileFinalizers_eq (r : BlueprintReconciler) (calls : BlueprintCalls)
    (hdeleted : s.blueprint.beingDeleted = false) :
    ∃ finalizers err, r.reconcileFinalizers calls s = (s.withFinalizers finalizers, err) ∧
      (calls.updateFinalizers = none → err = none) := by
  unfold reconcileFinalizers
  rw [hdeleted]
  by_cases hfinalizer : s.blueprint.finalizers.contains r.finalizerName = true
  · exact ⟨s.blueprint.finalizers, none, by simp only [hfinalizer]; rfl, fun _ => rfl⟩
  · simp only [hfinalizer, updateFinalizers]
    cases calls.updateFinalizers with
    | none => exact ⟨_, none, rfl, fun _ => rfl⟩
    | some err => exact ⟨s.blueprint.finalizers, some err, rfl, fun h => absurd h (by simp)⟩

/-- How a call of the controller ends: the finalizers cannot be stored, the result of
`reconcile` is stored, or its status cannot be stored. -/
theorem reconcileRequest_ends (r : BlueprintReconciler) (calls : BlueprintCalls)
    (hdeleted : s.blueprint.beingDeleted = false) :
    ∃ finalizers,
      ((r.reconcileRequest calls s).1 = s.withFinalizers finalizers ∧
        (r.reconcileRequest calls s).2 ≠ none ∧ calls.updateFinalizers ≠ none) ∨
      r.reconcileRequest calls s = (BlueprintSite.withFinalizers
        ⟨{ s.blueprint with status := (r.reconcile calls s).1 }, (r.reconcile calls s).2⟩
        finalizers, none) ∨
      ((r.reconcileRequest calls s).1 = BlueprintSite.withFinalizers
        ⟨s.blueprint, (r.reconcile calls s).2⟩ finalizers ∧
        (r.reconcileRequest calls s).2 ≠ none ∧ calls.updateStatus ≠ none) := by
  obtain ⟨finalizers, err, heq, herr⟩ := reconcileFinalizers_eq r calls hdeleted
  refine ⟨finalizers, ?_⟩
  unfold reconcileRequest
  rw [heq]
  cases err with
  | some err =>
    exact Or.inl ⟨rfl, Option.some_ne_none err, fun h => absurd (herr h) (by simp)⟩
  | none =>
    right
    have hnotDeleted : ¬ (s.withFinalizers finalizers).blueprint.beingDeleted = true := by
      change ¬ s.blueprint.beingDeleted = true
      rw [hdeleted]
      exact Bool.false_ne_true
    have hreconcile : r.reconcile calls (s.withFinalizers finalizers) = r.reconcile calls s := rfl
    simp only [if_neg hnotDeleted, hreconcile]
    split
    · rename_i hsame
      rw [hsame]
      exact Or.inl rfl
    · cases calls.updateStatus with
      | none => exact Or.inl rfl
      | some err => exact Or.inr ⟨rfl, by simp, by simp⟩

/-- What a call of the controller leaves behind: if the finalizers are in order, what
`reconcile` leaves behind. -/
theorem reconcileRequest_cases (r : BlueprintReconciler)
    (hdeleted : s.blueprint.beingDeleted = false) (hstatus : calls.updateStatus = none) :
    ∃ finalizers, ((r.reconcileRequest calls s).1 = s.withFinalizers finalizers ∧
        calls.updateFinalizers ≠ none) ∨
      (r.reconcileRequest calls s).1 = BlueprintSite.withFinalizers
        ⟨{ s.blueprint with status := (r.reconcile calls s).1 }, (r.reconcile calls s).2⟩
        finalizers := by
  obtain ⟨finalizers, ⟨hfirst, -, hfails⟩ | hstored | ⟨-, -, hfails⟩⟩ :=
    reconcileRequest_ends r calls hdeleted
  · exact ⟨finalizers, Or.inl ⟨hfirst, hfails⟩⟩
  · exact ⟨finalizers, Or.inr (by rw [hstored])⟩
  · exact absurd hstatus hfails

/-- Of the blueprint, the controller only writes the finalizers and the status. -/
theorem blueprint_reconcileRequest (r : BlueprintReconciler) (calls : BlueprintCalls)
    (s : BlueprintSite) :
    ∃ finalizers status, (r.reconcileRequest calls s).1.blueprint =
      { s.blueprint with finalizers := finalizers, status := status } := by
  have hfirst : ∃ finalizers, (r.reconcileFinalizers calls s).1.blueprint =
      { s.blueprint with finalizers := finalizers } := by
    unfold reconcileFinalizers updateFinalizers
    dsimp only
    cases calls.updateFinalizers <;> split <;> split <;> exact ⟨_, rfl⟩
  obtain ⟨finalizers, hfirst⟩ := hfirst
  unfold reconcileRequest
  split
  · rename_i s₁ err heq
    rw [heq] at hfirst
    exact ⟨finalizers, s.blueprint.status, hfirst⟩
  · rename_i s₁ heq
    rw [heq] at hfirst
    simp only at hfirst
    split
    · exact ⟨finalizers, s.blueprint.status, hfirst⟩
    · dsimp only
      split
      · exact ⟨finalizers, s.blueprint.status, hfirst⟩
      · split
        · exact ⟨finalizers, s.blueprint.status, hfirst⟩
        · exact ⟨finalizers, (r.reconcile calls s₁).1, by rw [hfirst]⟩

/-! ## Ready blueprints -/

/-- The latest successful install or upgrade of the release of every instance of a
specification was made with its chart and arguments. -/
def RunsSpec (r : BlueprintReconciler) (s : BlueprintSite) (spec : BlueprintSpec) : Prop :=
  ∀ im ∈ spec.modules.pairs,
    s.helm.applied.lookup (r.release { s.blueprint with spec := spec } im.1)
      = some (r.deployment s.blueprint im.2)

/-- If the blueprint is ready, the specification of the observed generation is what
runs. -/
def ReadyRunsObserved (r : BlueprintReconciler) (w : BlueprintWorld) : Prop :=
  w.blueprint.status.observedState.ready = true →
    ∃ spec, w.history.lookup w.blueprint.status.observedGeneration = some spec ∧
      r.RunsSpec w.toBlueprintSite spec

/-- What a reconcile has to find for this: its status is stored, no two instances share
a release, and the chart of every instance of a new generation whose release is
deployed is obtained, so that Helm is asked to upgrade the release. -/
structure ChartsReached (r : BlueprintReconciler) (calls : BlueprintCalls) (s : BlueprintSite) :
    Prop where
  statusWritten : calls.updateStatus = none
  distinct : r.DistinctReleases s.blueprint
  fetched : s.blueprint.status.observedGeneration ≠ s.blueprint.generation →
    ∀ im ∈ s.blueprint.spec.modules.pairs,
      s.helm.releases.lookup (r.release s.blueprint im.1) = some .deployed →
        r.fetchChart (calls.instances im.1) im.2.chart = .ok ()

/-- What the controller maintains: once a generation is observed, a release that is
reported as deployed was installed as this generation says. -/
structure Current (r : BlueprintReconciler) (w : BlueprintWorld) : Prop where
  notDeleted : w.blueprint.beingDeleted = false
  history : w.history.lookup w.blueprint.generation = some w.blueprint.spec
  observed : w.blueprint.status.observedGeneration ≤ w.blueprint.generation
  deployed : w.blueprint.status.observedGeneration = w.blueprint.generation →
    ∀ im ∈ w.blueprint.spec.modules.pairs,
      w.helm.releases.lookup (r.release w.blueprint im.1) = some .deployed →
        w.helm.applied.lookup (r.release w.blueprint im.1) = some (r.deployment w.blueprint im.2)
  ready : r.ReadyRunsObserved w

theorem Created.current (h : Created w) : r.Current w := by
  have hobserved : w.blueprint.status.observedGeneration = 0 := by rw [h.status]; rfl
  have hready : w.blueprint.status.observedState.ready = false := by rw [h.status]; rfl
  refine ⟨h.notDeleted, h.history, by omega, fun heq => ?_, fun htrue => ?_⟩
  · have hpos := h.generation
    omega
  · rw [hready] at htrue
    cases htrue

/-- An edit makes a generation that has not been observed. -/
theorem Current.edit (h : r.Current w) (spec : BlueprintSpec) :
    r.Current
      { blueprint := { w.blueprint with
          spec := spec
          generation := w.blueprint.generation + 1 }
        helm := w.helm
        history := w.history.set (w.blueprint.generation + 1) spec } := by
  have hobserved := h.observed
  refine ⟨h.notDeleted, AList.lookup_insert _, Nat.le_succ_of_le hobserved, fun heq => ?_,
    fun hready => ?_⟩
  · simp only at heq
    omega
  · obtain ⟨observed, hlookup, hruns⟩ := h.ready hready
    refine ⟨observed, ?_, hruns⟩
    rw [AList.lookup_insert_ne (by simp only; omega)]
    exact hlookup

/-- The releases that a reconcile finds or leaves deployed, once the generation is
observed. -/
theorem Current.deployed_reconcile (h : r.Current w)
    (hok : r.ChartsReached calls w.toBlueprintSite) {im : String × BlueprintModule}
    (him : im ∈ w.blueprint.spec.modules.pairs)
    (hdeployed : (r.reconcile calls w.toBlueprintSite).2.releases.lookup
      (r.release w.blueprint im.1) = some .deployed) :
    (r.reconcile calls w.toBlueprintSite).2.applied.lookup (r.release w.blueprint im.1)
      = some (r.deployment w.blueprint im.2) := by
  rcases reconcile_view calls hok.distinct him with ⟨hsame, hfetch⟩ | hnew | hfailed
  · obtain ⟨hreported, happlied⟩ := Prod.mk.inj hsame
    have hbefore := hreported.symm.trans hdeployed
    rw [happlied]
    by_cases hobserved : w.blueprint.status.observedGeneration = w.blueprint.generation
    · exact h.deployed hobserved im him hbefore
    · exact absurd (hok.fetched hobserved im him hbefore) (hfetch hobserved)
  · exact (Prod.mk.inj hnew).2
  · have hreported := (Prod.mk.inj hfailed).1
    rw [hdeployed] at hreported
    cases hreported

/-- If a reconcile ends with a blueprint that is ready, its specification runs. -/
theorem Current.ready_reconcile (h : r.Current w) (hok : r.ChartsReached calls w.toBlueprintSite)
    (hready : (r.reconcile calls w.toBlueprintSite).1.observedState.ready = true)
    {im : String × BlueprintModule} (him : im ∈ w.blueprint.spec.modules.pairs) :
    (r.reconcile calls w.toBlueprintSite).2.applied.lookup (r.release w.blueprint im.1)
      = some (r.deployment w.blueprint im.2) := by
  have hfinds := (ready_reconcile_iff hok.distinct).1 hready im him
  simp only [findsReady, appliesChart, Bool.and_eq_true, Bool.not_eq_true', Bool.or_eq_false_iff,
    bne_eq_false_iff_eq, beq_iff_eq] at hfinds
  obtain ⟨⟨⟨⟨hobserved, -⟩, -⟩, hfound⟩, -⟩ := hfinds
  -- the release was found deployed, so it had been installed in an earlier reconcile
  have hbefore : w.helm.releases.lookup (r.release w.blueprint im.1) = some .deployed := by
    unfold foundRelease at hfound
    split at hfound
    · cases hfound
    · exact hfound
  have happlied := h.deployed hobserved im him hbefore
  rcases reconcile_view calls hok.distinct him with ⟨hsame, -⟩ | hnew | hfailed
  · exact (Prod.mk.inj hsame).2.trans happlied
  · exact (Prod.mk.inj hnew).2
  · exact (Prod.mk.inj hfailed).2.trans happlied

theorem Current.reconcileRequest (h : r.Current w)
    (hok : r.ChartsReached calls w.toBlueprintSite) :
    r.Current ⟨(r.reconcileRequest calls w.toBlueprintSite).1, w.history⟩ := by
  obtain ⟨finalizers, ⟨heq, -⟩ | heq⟩ :=
    reconcileRequest_cases r h.notDeleted hok.statusWritten
  · rw [heq]
    exact ⟨h.notDeleted, h.history, h.observed, h.deployed, h.ready⟩
  · have hgeneration := observedGeneration_reconcile r calls w.toBlueprintSite
    rw [heq]
    refine ⟨h.notDeleted, h.history, hgeneration.le, fun _ im him => h.deployed_reconcile hok him,
      fun hready => ⟨w.blueprint.spec, ?_, fun im him => h.ready_reconcile hok hready him⟩⟩
    exact (congrArg w.history.lookup hgeneration).trans h.history

/-- What holds of a blueprint that has just been created, and is kept by each step, holds
throughout a run. -/
theorem current_of_run {edits : BlueprintSpec → BlueprintSpec → Prop} (h₀ : Created w₀)
    (hrun : Relation.ReflTransGen (r.Step edits r.ChartsReached) w₀ w) : r.Current w := by
  induction hrun with
  | refl => exact h₀.current
  | tail _ hstep ih =>
    cases hstep with
    | edit _ => exact ih.edit _
    | reconcile calls hok => exact ih.reconcileRequest hok

/-- A blueprint that is ready runs the generation it has observed, in every run in
which the charts of a new generation are obtained. -/
theorem run_readyRunsObserved (r : BlueprintReconciler) (w₀ w : BlueprintWorld) (h₀ : Created w₀)
    (hrun : Relation.ReflTransGen (r.Step (fun _ _ => True) r.ChartsReached) w₀ w) :
    r.ReadyRunsObserved w :=
  (current_of_run h₀ hrun).ready

/-! ## A reader and its next version -/

/-- A specification with one instance of the chart of a reader. -/
def readerSpec (chart : String) : BlueprintSpec :=
  { cluster := "hobbiton"
    modulesNamespace := "fybrik-blueprints"
    modules := GoMap.ofList [("reader", { (default : BlueprintModule) with
      name := "reader"
      chart := ⟨chart, "", ∅⟩ })] }

/-- A reconciler for which the values of a chart are empty. -/
def readerReconciler : BlueprintReconciler :=
  { (default : BlueprintReconciler) with
    name := "blueprint"
    structToMap := fun _ => [] }

/-- Everything succeeds, and a release has no resources that are not ready. -/
def instanceSucceeds : InstanceCalls :=
  { status := none, getSecret := fun _ => .error "not found", registryLogin := fun _ _ => none
    tempDir := none, pull := fun _ => none, registryLogout := fun _ => none, load := fun _ => none
    statusBeforeApply := none, upgrade := none, install := none, getResources := .ok []
    statusIndicators := .ok [] }

@[inherit_doc instanceSucceeds]
def callsSucceed : BlueprintCalls :=
  { instances := fun _ => instanceSucceeds, uninstall := fun _ => none
    updateFinalizers := none, updateStatus := none }

/-- The registry cannot be reached. -/
def callsNoPull : BlueprintCalls :=
  { callsSucceed with
    instances := fun _ => { instanceSucceeds with pull := fun _ => some "connection refused" } }

/-- A blueprint with a reader, just created. -/
def readerWorld : BlueprintWorld :=
  { blueprint := { (default : Blueprint) with
      name := "notebook", «namespace» := "fybrik-system", generation := 1
      spec := readerSpec "reader:0.1" }
    helm := default
    history := GoMap.ofList [(1, readerSpec "reader:0.1")] }

theorem readerWorld_created : Created readerWorld := ⟨rfl, rfl, by decide, rfl, rfl⟩

/-- Calling the controller leads from one world to the next. -/
def reconciled (r : BlueprintReconciler) (calls : BlueprintCalls) (w : BlueprintWorld) :
    BlueprintWorld :=
  ⟨(r.reconcileRequest calls w.toBlueprintSite).1, w.history⟩

/-- A blueprint with a single instance does not share releases. -/
theorem distinctReleases_reader {blueprint : Blueprint} {chart : String}
    (h : blueprint.spec = readerSpec chart) : r.DistinctReleases blueprint := by
  intro im him im' him' _
  rw [h] at him him'
  rw [List.mem_singleton.1 him, List.mem_singleton.1 him']

/-- The chart of the reader is installed, and the blueprint becomes ready. -/
theorem reader_readyRunsObserved :
    (reconciled readerReconciler callsSucceed (reconciled readerReconciler callsSucceed
      readerWorld)).blueprint.status.observedState.ready = true ∧
    readerReconciler.ReadyRunsObserved (reconciled readerReconciler callsSucceed
      (reconciled readerReconciler callsSucceed readerWorld)) := by
  refine ⟨by decide +kernel, run_readyRunsObserved readerReconciler readerWorld _
    readerWorld_created (.tail (.tail .refl (.reconcile callsSucceed ?_))
      (.reconcile callsSucceed ?_))⟩
  · exact ⟨rfl, distinctReleases_reader rfl, fun _ im him _ => by
      rw [List.mem_singleton.1 him]
      decide +kernel⟩
  · exact ⟨rfl, distinctReleases_reader rfl, fun _ im him _ => by
      rw [List.mem_singleton.1 him]
      decide +kernel⟩

/-- The specification is edited: the next version of the chart is to be used. -/
def readerEdited : BlueprintWorld :=
  let w := reconciled readerReconciler callsSucceed readerWorld
  { blueprint := { w.blueprint with
      spec := readerSpec "reader:0.2"
      generation := w.blueprint.generation + 1 }
    helm := w.helm
    history := w.history.set (w.blueprint.generation + 1) (readerSpec "reader:0.2") }

/-- The new chart cannot be pulled when the new generation is seen for the first time.
At the next reconcile the generation is not new any more, the release of the old
chart is still deployed, and the blueprint is reported as ready. -/
theorem pullFailure_not_readyRunsObserved :
    ∃ w, Relation.ReflTransGen (readerReconciler.Step (fun _ _ => True) fun calls s =>
        calls.updateStatus = none ∧ readerReconciler.DistinctReleases s.blueprint) readerWorld w ∧
      ¬ readerReconciler.ReadyRunsObserved w := by
  refine ⟨reconciled readerReconciler callsSucceed
    (reconciled readerReconciler callsNoPull readerEdited), ?_, fun h => ?_⟩
  · refine .tail (.tail (.tail (.tail .refl (.reconcile callsSucceed ?_)) (.edit trivial))
      (.reconcile callsNoPull ?_)) (.reconcile callsSucceed ?_)
    · exact ⟨rfl, distinctReleases_reader rfl⟩
    · exact ⟨rfl, distinctReleases_reader rfl⟩
    · exact ⟨rfl, distinctReleases_reader rfl⟩
  · obtain ⟨spec, hlookup, hruns⟩ := h (by decide +kernel)
    have hspec : some (readerSpec "reader:0.2") = some spec := hlookup
    cases hspec
    have happlied := hruns _ List.mem_cons_self
    exact absurd happlied (by decide +kernel)

/-! ## Recorded releases -/

/-- What the controller maintains: what is installed is recorded, and no other
release is recorded for the current generation than those of the instances. -/
structure Accounted (r : BlueprintReconciler) (s : BlueprintSite) : Prop where
  notDeleted : s.blueprint.beingDeleted = false
  versions : ∀ name version, s.blueprint.status.releases.lookup name = some version →
    version ≤ s.blueprint.generation
  current : ∀ name,
    s.blueprint.status.releases.lookup name = some s.blueprint.generation →
      ∃ im ∈ s.blueprint.spec.modules.pairs, (r.release s.blueprint im.1).name = name
  recorded : Recorded s.blueprint.spec.modulesNamespace s.blueprint.status.releases s.helm

theorem Created.accounted (h : Created w) : r.Accounted w.toBlueprintSite := by
  have hnone : ∀ name, w.blueprint.status.releases.lookup name = none := by
    intro name
    rw [h.status]
    rfl
  refine ⟨h.notDeleted, fun name version hlookup => ?_, fun name hlookup => ?_,
    fun release hrelease => ?_⟩
  · exact absurd ((hnone name).symm.trans hlookup) (by simp)
  · exact absurd ((hnone name).symm.trans hlookup) (by simp)
  · rw [h.installed] at hrelease
    cases hrelease

theorem Accounted.edit (h : r.Accounted s) {spec : BlueprintSpec}
    (hnamespace : spec.modulesNamespace = s.blueprint.spec.modulesNamespace) :
    r.Accounted
      { s with
        blueprint := { s.blueprint with
          spec := spec
          generation := s.blueprint.generation + 1 } } := by
  refine ⟨h.notDeleted, fun name version hlookup => Nat.le_succ_of_le (h.versions _ _ hlookup),
    fun name hlookup => ?_, ?_⟩
  · have hle := h.versions _ _ hlookup
    simp only at hle
    omega
  · rw [hnamespace]
    exact h.recorded

/-- After a reconcile, the entries for the current generation are those of the instances. -/
theorem Accounted.lookup_reconcile_iff (h : r.Accounted s) (name : String) :
    (r.reconcile calls s).1.releases.lookup name = some s.blueprint.generation ↔
      ∃ im ∈ s.blueprint.spec.modules.pairs, (r.release s.blueprint im.1).name = name := by
  rw [lookup_releases_reconcile]
  split
  · rename_i hmem
    exact iff_of_true ⟨rfl, Or.inl rfl⟩ hmem
  · rename_i hmem
    exact iff_of_false (fun hlookup => hmem (h.current name hlookup.1)) hmem

theorem Accounted.reconcile (h : r.Accounted s) (calls : BlueprintCalls) :
    r.Accounted ⟨{ s.blueprint with status := (r.reconcile calls s).1 }, (r.reconcile calls s).2⟩ := by
  refine ⟨h.notDeleted, fun name version hlookup => ?_, fun name hlookup => ?_,
    h.recorded.reconcile⟩
  · obtain ⟨hentry, -⟩ := (lookup_releases_reconcile r calls s).1 hlookup
    split at hentry
    · exact (Option.some.inj hentry).ge
    · exact h.versions name version hentry
  · exact (h.lookup_reconcile_iff name).1 hlookup

theorem Accounted.reconcileRequest (h : r.Accounted s) (hstatus : calls.updateStatus = none) :
    r.Accounted (r.reconcileRequest calls s).1 := by
  obtain ⟨finalizers, ⟨heq, -⟩ | heq⟩ := reconcileRequest_cases r h.notDeleted hstatus
  · rw [heq]
    exact ⟨h.notDeleted, h.versions, h.current, h.recorded⟩
  · have hreconciled := h.reconcile calls
    rw [heq]
    exact ⟨hreconciled.notDeleted, hreconciled.versions, hreconciled.current, hreconciled.recorded⟩

theorem accounted_of_run (h₀ : Created w₀)
    (hrun : Relation.ReflTransGen (r.Step
      (fun spec spec' => spec'.modulesNamespace = spec.modulesNamespace)
      fun calls _ => calls.updateStatus = none) w₀ w) : r.Accounted w.toBlueprintSite := by
  induction hrun with
  | refl => exact h₀.accounted
  | tail _ hstep ih =>
    cases hstep with
    | edit hnamespace => exact ih.edit hnamespace
    | reconcile calls hok => exact ih.reconcileRequest hok

/-- Throughout a run every release that was installed, and not uninstalled since, is
recorded.  After a reconcile, the releases recorded for the observed generation
are those of the instances, and any other is one that could not be uninstalled. -/
theorem run_releases_accounted (r : BlueprintReconciler) (w₀ w : BlueprintWorld) (h₀ : Created w₀)
    (hrun : Relation.ReflTransGen (r.Step
      (fun spec spec' => spec'.modulesNamespace = spec.modulesNamespace)
      fun calls _ => calls.updateStatus = none) w₀ w) :
    (∀ release ∈ w.helm.installed, release.namespace = w.blueprint.spec.modulesNamespace ∧
      (w.blueprint.status.releases.lookup release.name).isSome = true) ∧
    ∀ calls : BlueprintCalls, calls.updateStatus = none → calls.updateFinalizers = none →
      let s := (r.reconcileRequest calls w.toBlueprintSite).1
      (∀ name, s.blueprint.status.releases.lookup name = some s.blueprint.status.observedGeneration ↔
        ∃ im ∈ s.blueprint.spec.modules.pairs, (r.release s.blueprint im.1).name = name) ∧
      ∀ name version, s.blueprint.status.releases.lookup name = some version →
        version ≠ s.blueprint.status.observedGeneration →
          (calls.uninstall ⟨name, s.blueprint.spec.modulesNamespace⟩).isSome = true := by
  have h := accounted_of_run h₀ hrun
  refine ⟨h.recorded, fun calls hstatus hfinalizers => ?_⟩
  obtain ⟨finalizers, ⟨-, hfailed⟩ | heq⟩ := reconcileRequest_cases r h.notDeleted hstatus
  · exact absurd hfinalizers hfailed
  · have hgeneration := observedGeneration_reconcile r calls w.toBlueprintSite
    rw [heq]
    dsimp only [BlueprintSite.withFinalizers]
    rw [hgeneration]
    refine ⟨h.lookup_reconcile_iff, fun name version hlookup hversion => ?_⟩
    exact ((lookup_releases_reconcile r calls _).1 hlookup).2.resolve_left hversion

/-- The specification is edited: there is no instance any more. -/
def readerRemoved : BlueprintWorld :=
  let w := reconciled readerReconciler callsSucceed readerWorld
  { blueprint := { w.blueprint with
      spec := { readerSpec "" with modules := ∅ }
      generation := w.blueprint.generation + 1 }
    helm := w.helm
    history := w.history.set (w.blueprint.generation + 1) { readerSpec "" with modules := ∅ } }

/-- Nothing can be uninstalled. -/
def callsNoUninstall : BlueprintCalls :=
  { callsSucceed with uninstall := fun _ => some "timed out" }

/-- The release of the reader is installed and recorded, and as it cannot be uninstalled,
it stays recorded. -/
theorem reader_releases_accounted :
    (readerRemoved.helm.installed = [⟨"--reader", "fybrik-blueprints"⟩] ∧
      ∀ release ∈ readerRemoved.helm.installed,
        release.namespace = readerRemoved.blueprint.spec.modulesNamespace ∧
          (readerRemoved.blueprint.status.releases.lookup release.name).isSome = true) ∧
    let s := (readerReconciler.reconcileRequest callsNoUninstall readerRemoved.toBlueprintSite).1
    s.blueprint.status.releases.pairs = [("--reader", 1)] ∧
      ∀ name version, s.blueprint.status.releases.lookup name = some version →
        version ≠ s.blueprint.status.observedGeneration →
          (callsNoUninstall.uninstall ⟨name, s.blueprint.spec.modulesNamespace⟩).isSome = true := by
  have h := run_releases_accounted readerReconciler readerWorld readerRemoved readerWorld_created
    (.tail (.tail .refl (.reconcile callsSucceed rfl)) (.edit rfl))
  refine ⟨⟨by decide +kernel, h.1⟩, ?_, (h.2 callsNoUninstall rfl rfl).2⟩
  decide +kernel

end BlueprintReconciler

end Fybrik
