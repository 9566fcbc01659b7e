import Fybrik.Blueprint.Runs
import Mathlib.Tactic.Tauto

/-!
# Blueprints settle

The controller of blueprints is called again and again.  Once the calls it makes
succeed, and the resources of the releases are ready, it should get to a state in which
there is nothing left to do.

* `Succeeds` — every call made during a reconcile succeeds.
* `AllDeployed`, `Hangs`, `Settled` — the releases are deployed; one of them is neither
  deployed nor failed, and the generation has been observed already; everything is in
  place, and the blueprint is reported as ready.
* `deployed_reconcile`, `settled_reconcile` — what the first and the second successful
  reconcile achieve.
* `settles_iff` — from any state two successful reconciles are enough, unless a release
  hangs; after the first one Helm is not asked to change anything any more.
-/

namespace Fybrik

namespace BlueprintReconciler

variable {r : BlueprintReconciler} {calls : BlueprintCalls} {blueprint : Blueprint}
  {updateRequired : Bool} {p : Progress} {s : BlueprintSite} {im : String × BlueprintModule}

/-! ## Calls that succeed -/

/-- Every call made for an instance succeeds, and the resources of its release are
ready. -/
structure InstanceSucceeds (r : BlueprintReconciler) (calls : InstanceCalls) (chart : ChartSpec) :
    Prop where
  status : calls.status = none
  fetched : r.fetchChart calls chart = .ok ()
  upgrade : calls.upgrade = none
  install : calls.install = none
  ready : (r.checkReleaseStatus calls).1 = .conditionTrue

/-- Every call made during a reconcile succeeds. -/
structure Succeeds (r : BlueprintReconciler) (calls : BlueprintCalls) (spec : BlueprintSpec) :
    Prop where
  instances : ∀ im ∈ spec.modules.pairs,
    r.InstanceSucceeds (calls.instances im.1) im.2.chart
  uninstall : ∀ release, calls.uninstall release = none
  updateFinalizers : calls.updateFinalizers = none
  updateStatus : calls.updateStatus = none

/-- The releases of all instances are deployed. -/
def AllDeployed (r : BlueprintReconciler) (s : BlueprintSite) : Prop :=
  ∀ im ∈ s.blueprint.spec.modules.pairs,
    s.helm.releases.lookup (r.release s.blueprint im.1) = some .deployed

/-- A release is neither deployed nor failed, and the generation is not new.  Its chart
is not applied again. -/
def Hangs (r : BlueprintReconciler) (s : BlueprintSite) : Prop :=
  s.blueprint.status.observedGeneration = s.blueprint.generation ∧
    ∃ im ∈ s.blueprint.spec.modules.pairs,
      s.helm.releases.lookup (r.release s.blueprint im.1) = some .other

/-- Everything is in place. -/
structure Settled (r : BlueprintReconciler) (s : BlueprintSite) : Prop where
  deployed : r.AllDeployed s
  observed : s.blueprint.status.observedGeneration = s.blueprint.generation
  state : s.blueprint.status.observedState = ⟨true, ""⟩
  modulesState : ∀ im ∈ s.blueprint.spec.modules.pairs,
    s.blueprint.status.modulesState.lookup im.1 = some ⟨true, ""⟩
  recorded : ∀ im ∈ s.blueprint.spec.modules.pairs,
    s.blueprint.status.releases.lookup (r.release s.blueprint im.1).name
      = some s.blueprint.generation
  current : ∀ name version, s.blueprint.status.releases.lookup name = some version →
    version = s.blueprint.generation

/-! ## One instance -/

variable {chart : ChartSpec}

theorem InstanceSucceeds.applyChartResource {calls : InstanceCalls}
    (h : r.InstanceSucceeds calls chart) (deployment : Deployment) (release : Release)
    (helm : Helm) :
    r.applyChartResource calls chart deployment release helm
      = (helm.deploy release deployment, none) := by
  unfold BlueprintReconciler.applyChartResource
  simp only [h.fetched, h.upgrade, h.install]
  split <;> rfl

theorem foundRelease_of_succeeds {calls : InstanceCalls} (h : r.InstanceSucceeds calls chart)
    (reported : Option ReleaseStatus) : foundRelease calls reported = reported := by
  rw [foundRelease, h.status]
  rfl

/-- The chart of an instance is applied if the generation is new, and otherwise if its
release is missing or has failed. -/
theorem appliesChart_of_succeeds {calls : InstanceCalls} (h : r.InstanceSucceeds calls chart)
    (updateRequired : Bool) (reported : Option ReleaseStatus) :
    appliesChart calls updateRequired reported = false ↔ updateRequired = false ∧
      (reported = some .deployed ∨ reported = some .other) := by
  rw [appliesChart, foundRelease_of_succeeds h]
  cases reported with
  | none => simp
  | some status => cases status <;> simp

/-- What a round does if its calls succeed: the chart is applied, or the release is found
ready, or it hangs. -/
theorem reconcileRelease_of_succeeds {instanceName : String} {module : BlueprintModule}
    {calls : InstanceCalls} (h : r.InstanceSucceeds calls module.chart) :
    r.reconcileRelease calls blueprint updateRequired p instanceName module =
      if updateRequired = false ∧
          p.helm.releases.lookup (r.release blueprint instanceName) = some .deployed then
        { p with
          status := updateModuleState p.status instanceName true ""
          numReady := p.numReady + 1 }
      else if updateRequired = false ∧
          p.helm.releases.lookup (r.release blueprint instanceName) = some .other then p
      else
        { p with
          status := updateModuleState p.status instanceName false ""
          helm := p.helm.deploy (r.release blueprint instanceName)
            (r.deployment blueprint module) } := by
  have hkept := appliesChart_of_succeeds h updateRequired
    (p.helm.releases.lookup (r.release blueprint instanceName))
  unfold reconcileRelease
  simp only [h.applyChartResource, foundRelease_of_succeeds h]
  by_cases happlies : appliesChart calls updateRequired
      (p.helm.releases.lookup (r.release blueprint instanceName)) = true
  · rw [happlies, Bool.true_eq_false, false_iff, not_and_or, not_or] at hkept
    rw [if_pos happlies, if_neg (by tauto), if_neg (by tauto)]
  · obtain ⟨hupdate, hdeployed | hother⟩ := hkept.1 (Bool.eq_false_iff.2 happlies)
    · rw [if_neg happlies, if_pos hdeployed, if_pos ⟨hupdate, hdeployed⟩]
      have hready := h.ready
      cases hcheck : r.checkReleaseStatus calls with
      | mk status msg =>
        rw [hcheck] at hready
        obtain rfl : status = .conditionTrue := hready
        rfl
    · rw [if_neg happlies, hother, if_neg (by simp), if_neg (by simp), if_pos ⟨hupdate, rfl⟩]

/-- What becomes of a release in a round: the one of the instance is deployed, unless the
generation is not new and it is deployed or hangs already. -/
theorem lookup_reconcileInstance (h : r.InstanceSucceeds (calls.instances im.1) im.2.chart)
    (release : Release) :
    (r.reconcileInstance calls blueprint updateRequired p im).helm.releases.lookup release =
      if release = r.release blueprint im.1 ∧ ¬ (updateRequired = false ∧
          p.helm.releases.lookup release = some .other) then some .deployed
      else p.helm.releases.lookup release := by
  change (r.reconcileRelease _ _ _ _ _ _).helm.releases.lookup release = _
  rw [reconcileRelease_of_succeeds h]
  by_cases hown : release = r.release blueprint im.1
  · subst hown
    split
    · rename_i hdeployed
      rw [hdeployed.2]
      simp
    · split
      · rename_i hother
        rw [if_neg fun h => h.2 hother]
      · rename_i hother
        rw [if_pos ⟨rfl, hother⟩]
        exact AList.lookup_insert _
  · simp only [hown, false_and, if_false]
    split
    · rfl
    · split
      · rfl
      · exact AList.lookup_insert_ne hown

/-! ## The loop over the instances -/

variable {l : List (String × BlueprintModule)}

/-- The release of an instance is deployed in the end, unless it hangs. -/
theorem deployed_loop (hsucceeds : ∀ im ∈ l, r.InstanceSucceeds (calls.instances im.1) im.2.chart)
    {release : Release}
    (hhangs : updateRequired = true ∨ p.helm.releases.lookup release ≠ some .other)
    (h : p.helm.releases.lookup release = some .deployed ∨
      ∃ im ∈ l, release = r.release blueprint im.1) :
    (l.foldl (r.reconcileInstance calls blueprint updateRequired) p).helm.releases.lookup release
      = some .deployed := by
  have hnot : ¬ (updateRequired = false ∧ p.helm.releases.lookup release = some .other) := by
    rintro ⟨hold, hother⟩
    rcases hhangs with hupdate | hne
    · exact absurd (hold.symm.trans hupdate) Bool.false_ne_true
    · exact hne hother
  induction l generalizing p with
  | nil =>
    rcases h with hdeployed | ⟨im, him, -⟩
    · exact hdeployed
    · cases him
  | cons im l ih =>
    have hround : (r.reconcileInstance calls blueprint updateRequired p im).helm.releases.lookup
        release = _ := lookup_reconcileInstance (hsucceeds im List.mem_cons_self) release
    have hrest := fun im' him' => hsucceeds im' (List.mem_cons_of_mem im him')
    rw [List.foldl_cons]
    by_cases hown : release = r.release blueprint im.1
    · rw [if_pos ⟨hown, hnot⟩] at hround
      exact ih hrest (Or.inr (by rw [hround]; simp)) (Or.inl hround) (by rw [hround]; simp)
    · rw [if_neg fun hround => hown hround.1] at hround
      rw [← hround] at hhangs hnot h
      refine ih hrest hhangs (h.imp_right ?_) hnot
      rintro ⟨im', him', hrelease⟩
      rcases List.mem_cons.1 him' with rfl | him'
      · exact absurd hrelease hown
      · exact ⟨im', him', hrelease⟩

/-- A release that hangs is left alone if the generation is not new. -/
theorem other_loop (hsucceeds : ∀ im ∈ l, r.InstanceSucceeds (calls.instances im.1) im.2.chart)
    {release : Release} (h : p.helm.releases.lookup release = some .other) :
    (l.foldl (r.reconcileInstance calls blueprint false) p).helm.releases.lookup release
      = some .other := by
  refine List.foldlRecOn (motive := fun p : Progress =>
    p.helm.releases.lookup release = some .other) l _ h fun p hp im him => ?_
  rw [lookup_reconcileInstance (hsucceeds im him), if_neg fun hround => hround.2 ⟨rfl, hp⟩]
  exact hp

/-- What the round of an instance does that is found ready. -/
theorem reconcileInstance_of_found (h : r.findsReady (calls.instances im.1) updateRequired
      (p.helm.releases.lookup (r.release blueprint im.1)) = true) :
    r.reconcileInstance calls blueprint updateRequired p im =
      { status := { p.status with
          modulesState := p.status.modulesState.set im.1 ⟨true, ""⟩
          releases := p.status.releases.set (r.release blueprint im.1).name blueprint.generation }
        helm := p.helm
        numReleases := p.numReleases + 1
        numReady := p.numReady + 1 } := by
  simp only [findsReady, Bool.and_eq_true, Bool.not_eq_true', beq_iff_eq] at h
  obtain ⟨⟨hkept, hfound⟩, hready⟩ := h
  rw [reconcileInstance, reconcileRelease, if_neg (Bool.eq_false_iff.1 hkept), if_pos hfound]
  cases hcheck : r.checkReleaseStatus (calls.instances im.1) with
  | mk status msg =>
    rw [hcheck] at hready
    obtain rfl : status = .conditionTrue := hready
    rfl

/-- If all instances are found ready, the loop leaves Helm alone. -/
theorem ready_loop (hfound : ∀ im ∈ l, r.findsReady (calls.instances im.1) updateRequired
      (p.helm.releases.lookup (r.release blueprint im.1)) = true) :
    l.foldl (r.reconcileInstance calls blueprint updateRequired) p =
      { status := { p.status with
          modulesState := p.status.modulesState.setAll (l.map fun im => (im.1, ⟨true, ""⟩))
          releases := p.status.releases.setAll
            (l.map fun im => ((r.release blueprint im.1).name, blueprint.generation)) }
        helm := p.helm
        numReleases := p.numReleases + l.length
        numReady := p.numReady + l.length } := by
  induction l generalizing p with
  | nil => rfl
  | cons im l ih =>
    have hround := reconcileInstance_of_found (hfound im List.mem_cons_self)
    have hhelm : (r.reconcileInstance calls blueprint updateRequired p im).helm = p.helm := by
      rw [hround]
    rw [List.foldl_cons, ih fun im' him' => by
      rw [hhelm]
      exact hfound im' (List.mem_cons_of_mem _ him'), hround]
    simp only [List.map_cons, GoMap.setAll_cons, List.length_cons, Nat.add_assoc,
      Nat.add_comm 1 l.length]

/-- A release that is deployed at an observed generation is found ready. -/
theorem findsReady_of_succeeds {calls : InstanceCalls} (h : r.InstanceSucceeds calls chart)
    {reported : Option ReleaseStatus} (hdeployed : reported = some .deployed) :
    r.findsReady calls false reported = true := by
  have hkept := (appliesChart_of_succeeds h false reported).2 ⟨rfl, Or.inl hdeployed⟩
  rw [findsReady, hkept, foundRelease_of_succeeds h, hdeployed, h.ready]
  rfl

theorem deployed_of_findsReady {calls : InstanceCalls} {reported : Option ReleaseStatus}
    (h : r.findsReady calls updateRequired reported = true) : reported = some .deployed := by
  simp only [findsReady, Bool.and_eq_true, beq_iff_eq] at h
  obtain ⟨⟨-, hfound⟩, -⟩ := h
  unfold foundRelease at hfound
  split at hfound
  · cases hfound
  · exact hfound

/-- If no release is missing or has failed and the generation is not new, Helm is left
alone. -/
theorem helm_loop (hsucceeds : ∀ im ∈ l, r.InstanceSucceeds (calls.instances im.1) im.2.chart)
    (hthere : ∀ im ∈ l, p.helm.releases.lookup (r.release blueprint im.1) = some .deployed ∨
      p.helm.releases.lookup (r.release blueprint im.1) = some .other) :
    (l.foldl (r.reconcileInstance calls blueprint false) p).helm = p.helm := by
  refine List.foldlRecOn (motive := fun q : Progress => q.helm = p.helm) l _ rfl
    fun q hq im him => ?_
  change (r.reconcileRelease _ _ _ _ _ _).helm = _
  rw [reconcileRelease_of_succeeds (hsucceeds im him), hq]
  rcases hthere im him with hdeployed | hother
  · rw [if_pos ⟨rfl, hdeployed⟩]
  · rw [hother, if_neg (by simp), if_pos ⟨rfl, rfl⟩]
    exact hq

/-! ## Whole reconciles -/

/-- Nothing is uninstalled if all recorded releases are of the current generation. -/
theorem cleanUp_of_current (calls : BlueprintCalls)
    (h : ∀ name version, p.status.releases.lookup name = some version →
      version = blueprint.generation) :
    cleanUp calls blueprint p = (p.status.releases, p.helm) := by
  refine List.foldlRecOn (motive := fun st : GoMap String ℕ × Helm =>
    st = (p.status.releases, p.helm)) _ _ rfl fun st hst entry hentry => ?_
  rw [uninstallObsolete, if_neg (not_not.2 (h _ _ (GoMap.mem_pairs.1 hentry)))]
  exact hst

section Reconcile

variable (hsucceeds : r.Succeeds calls s.blueprint.spec)
include hsucceeds

/-- After a reconcile all recorded releases are of the current generation. -/
theorem current_reconcile {name : String} {version : ℕ}
    (h : (r.reconcile calls s).1.releases.lookup name = some version) :
    version = s.blueprint.generation := by
  refine ((lookup_releases_reconcile r calls s).1 h).2.resolve_right fun hfails => ?_
  rw [hsucceeds.uninstall] at hfails
  cases hfails

omit hsucceeds in
/-- The loop over the instances at a generation that has been observed. -/
theorem reconcileInstances_of_observed (calls : BlueprintCalls)
    (h : s.blueprint.status.observedGeneration = s.blueprint.generation) :
    r.reconcileInstances calls s = s.blueprint.spec.modules.pairs.foldl
      (r.reconcileInstance calls s.blueprint false)
      { status := resetStatus s.blueprint, helm := s.helm, numReleases := 0, numReady := 0 } := by
  rw [reconcileInstances, h, bne_self_eq_false]

omit hsucceeds in
theorem lookup_reconcile_helm (calls : BlueprintCalls)
    (him : im ∈ s.blueprint.spec.modules.pairs) :
    (r.reconcile calls s).2.releases.lookup (r.release s.blueprint im.1) =
      (r.reconcileInstances calls s).helm.releases.lookup (r.release s.blueprint im.1) :=
  congrArg Prod.fst (reconcile_view_eq calls him)

/-- A successful reconcile deploys the release of an instance, unless it hangs. -/
theorem deployed_reconcile (him : im ∈ s.blueprint.spec.modules.pairs)
    (hhangs : s.blueprint.status.observedGeneration = s.blueprint.generation →
      s.helm.releases.lookup (r.release s.blueprint im.1) ≠ some .other) :
    (r.reconcile calls s).2.releases.lookup (r.release s.blueprint im.1) = some .deployed := by
  rw [lookup_reconcile_helm calls him]
  refine deployed_loop hsucceeds.instances ?_ (Or.inr ⟨im, him, rfl⟩)
  by_cases hobserved : s.blueprint.status.observedGeneration = s.blueprint.generation
  · exact Or.inr (hhangs hobserved)
  · exact Or.inl (bne_iff_ne.2 hobserved)

/-- A release that hangs at an observed generation is not touched. -/
theorem other_reconcile
    (hobserved : s.blueprint.status.observedGeneration = s.blueprint.generation)
    (him : im ∈ s.blueprint.spec.modules.pairs)
    (hother : s.helm.releases.lookup (r.release s.blueprint im.1) = some .other) :
    (r.reconcile calls s).2.releases.lookup (r.release s.blueprint im.1) = some .other := by
  rw [lookup_reconcile_helm calls him, reconcileInstances_of_observed calls hobserved]
  exact other_loop hsucceeds.instances hother

end Reconcile

/-- A reconcile that finds all instances ready, and leaves no obsolete release behind. -/
theorem settled_of_found
    (hfound : ∀ im ∈ s.blueprint.spec.modules.pairs, r.findsReady (calls.instances im.1)
      (s.blueprint.status.observedGeneration != s.blueprint.generation)
      (s.helm.releases.lookup (r.release s.blueprint im.1)) = true)
    (hcurrent : ∀ name version, (r.reconcile calls s).1.releases.lookup name = some version →
      version = s.blueprint.generation) :
    r.Settled ⟨{ s.blueprint with status := (r.reconcile calls s).1 }, (r.reconcile calls s).2⟩ := by
  have hloop : r.reconcileInstances calls s = _ := ready_loop hfound
  refine ⟨fun im him => ?_, observedGeneration_reconcile r calls s, ?_, fun im him => ?_,
    fun im him => ?_, hcurrent⟩
  · have hlookup := lookup_reconcile_helm (r := r) (s := s) calls him
    rw [hloop] at hlookup
    exact hlookup.trans (deployed_of_findsReady (hfound im him))
  · simp only [reconcile, hloop, resetStatus, beq_self_eq_true]
  · simp only [reconcile, hloop]
    rw [GoMap.lookup_setAll_const (resetStatus s.blueprint).modulesState _ Prod.fst,
      if_pos ⟨im, him, rfl⟩]
  · refine (lookup_releases_reconcile r calls s).2 ⟨?_, Or.inl rfl⟩
    rw [if_pos ⟨im, him, rfl⟩]

/-- Two successful reconciles: the second one finds everything in place. -/
theorem settled_reconcile (hsucceeds : r.Succeeds calls s.blueprint.spec)
    (hdeployed : r.AllDeployed s)
    (hobserved : s.blueprint.status.observedGeneration = s.blueprint.generation) :
    r.Settled ⟨{ s.blueprint with status := (r.reconcile calls s).1 }, (r.reconcile calls s).2⟩ := by
  refine settled_of_found (fun im him => ?_) fun name version => current_reconcile hsucceeds
  rw [hobserved, bne_self_eq_false]
  exact findsReady_of_succeeds (hsucceeds.instances im him) (hdeployed im him)

/-! ## Calls of the controller -/

/-- If all calls succeed, the result of `reconcile` is stored. -/
theorem reconcileRequest_of_succeeds (hdeleted : s.blueprint.beingDeleted = false)
    (hsucceeds : r.Succeeds calls s.blueprint.spec) :
    ∃ finalizers, r.reconcileRequest calls s = (BlueprintSite.withFinalizers
      ⟨{ s.blueprint with status := (r.reconcile calls s).1 }, (r.reconcile calls s).2⟩
      finalizers, none) := by
  obtain ⟨finalizers, ⟨-, -, hfails⟩ | hstored | ⟨-, -, hfails⟩⟩ :=
    reconcileRequest_ends r calls hdeleted
  · exact absurd hsucceeds.updateFinalizers hfails
  · exact ⟨finalizers, hstored⟩
  · exact absurd hsucceeds.updateStatus hfails

/-- The controller is called several times. -/
def reconcileAll (r : BlueprintReconciler) (calls : List BlueprintCalls) (s : BlueprintSite) :
    BlueprintSite :=
  calls.foldl (fun s calls => (r.reconcileRequest calls s).1) s

/-- The generation is observed, and there is nothing left to deploy or to uninstall. -/
structure Quiet (r : BlueprintReconciler) (s : BlueprintSite) : Prop where
  notDeleted : s.blueprint.beingDeleted = false
  observed : s.blueprint.status.observedGeneration = s.blueprint.generation
  there : ∀ im ∈ s.blueprint.spec.modules.pairs,
    s.helm.releases.lookup (r.release s.blueprint im.1) = some .deployed ∨
      s.helm.releases.lookup (r.release s.blueprint im.1) = some .other
  current : ∀ name version, s.blueprint.status.releases.lookup name = some version →
    version = s.blueprint.generation

/-- A call that succeeds leaves nothing to do, except that releases may hang. -/
theorem quiet_reconcileRequest (hdeleted : s.blueprint.beingDeleted = false)
    (hsucceeds : r.Succeeds calls s.blueprint.spec) :
    r.Quiet (r.reconcileRequest calls s).1 := by
  obtain ⟨finalizers, hres⟩ := reconcileRequest_of_succeeds hdeleted hsucceeds
  rw [hres]
  refine ⟨hdeleted, observedGeneration_reconcile r calls s, fun im him => ?_,
    fun name version => current_reconcile hsucceeds⟩
  by_cases hown : s.blueprint.status.observedGeneration = s.blueprint.generation ∧
      s.helm.releases.lookup (r.release s.blueprint im.1) = some .other
  · exact Or.inr (other_reconcile hsucceeds hown.1 him hown.2)
  · exact Or.inl (deployed_reconcile hsucceeds him fun hobserved hother => hown ⟨hobserved, hother⟩)

/-- Then Helm is not asked to change anything any more. -/
theorem Quiet.helm_reconcileRequest (h : r.Quiet s)
    (hsucceeds : r.Succeeds calls s.blueprint.spec) :
    (r.reconcileRequest calls s).1.helm = s.helm := by
  obtain ⟨finalizers, hres⟩ := reconcileRequest_of_succeeds h.notDeleted hsucceeds
  have hcurrent : ∀ name version,
      (r.reconcileInstances calls s).status.releases.lookup name = some version →
        version = s.blueprint.generation := by
    intro name version hlookup
    rw [lookup_releases_reconcileInstances] at hlookup
    split at hlookup
    · exact (Option.some.inj hlookup).symm
    · exact h.current name version hlookup
  rw [hres]
  change (cleanUp calls s.blueprint (r.reconcileInstances calls s)).2 = s.helm
  rw [cleanUp_of_current calls hcurrent, reconcileInstances_of_observed calls h.observed]
  exact helm_loop hsucceeds.instances h.there

/-- No release is made to hang by a call that succeeds. -/
theorem noneHangs_reconcileRequest (hdeleted : s.blueprint.beingDeleted = false)
    (hsucceeds : r.Succeeds calls s.blueprint.spec)
    (h : ∀ release, s.helm.releases.lookup release ≠ some .other) (release : Release) :
    (r.reconcileRequest calls s).1.helm.releases.lookup release ≠ some .other := by
  obtain ⟨finalizers, hres⟩ := reconcileRequest_of_succeeds hdeleted hsucceeds
  have hloop : (r.reconcileInstances calls s).helm.releases.lookup release ≠ some .other := by
    refine List.foldlRecOn (motive := fun p : Progress =>
      p.helm.releases.lookup release ≠ some .other) _ _ (h release) fun p hp im him => ?_
    rw [lookup_reconcileInstance (hsucceeds.instances im him)]
    split
    · simp
    · exact hp
  rw [hres]
  refine List.foldlRecOn (motive := fun st : GoMap String ℕ × Helm =>
    st.2.releases.lookup release ≠ some .other) _ _ hloop fun st hst entry _ => ?_
  unfold uninstallObsolete
  split
  · split
    · exact hst
    · exact fun hother => hst (GoMap.lookup_of_delete hother)
  · exact hst

/-- If no release hangs, all releases are deployed after a call that succeeds. -/
theorem allDeployed_reconcileRequest (hdeleted : s.blueprint.beingDeleted = false)
    (hsucceeds : r.Succeeds calls s.blueprint.spec) (hhangs : ¬ r.Hangs s) :
    r.AllDeployed (r.reconcileRequest calls s).1 := by
  obtain ⟨finalizers, hres⟩ := reconcileRequest_of_succeeds hdeleted hsucceeds
  rw [hres]
  exact fun im him => deployed_reconcile hsucceeds him fun hobserved hother =>
    hhangs ⟨hobserved, im, him, hother⟩

/-- If all releases are deployed already, a call that succeeds finds everything in
place. -/
theorem settled_reconcileRequest (hdeleted : s.blueprint.beingDeleted = false)
    (hsucceeds : r.Succeeds calls s.blueprint.spec) (hdeployed : r.AllDeployed s)
    (hobserved : s.blueprint.status.observedGeneration = s.blueprint.generation) :
    r.Settled (r.reconcileRequest calls s).1 := by
  obtain ⟨finalizers, hres⟩ := reconcileRequest_of_succeeds hdeleted hsucceeds
  have hsettled := settled_reconcile hsucceeds hdeployed hobserved
  rw [hres]
  exact ⟨hsettled.deployed, hsettled.observed, hsettled.state, hsettled.modulesState,
    hsettled.recorded, hsettled.current⟩

/-- Calls that succeed on a quiet blueprint change neither Helm nor the names of the
releases, and if these are deployed, the blueprint settles. -/
theorem Quiet.reconcileAll (h : r.Quiet s) {l : List BlueprintCalls}
    (hsucceeds : ∀ calls ∈ l, r.Succeeds calls s.blueprint.spec) :
    (r.reconcileAll l s).helm = s.helm ∧
      (∃ finalizers status, (r.reconcileAll l s).blueprint =
        { s.blueprint with finalizers := finalizers, status := status }) ∧
      (r.AllDeployed s → l ≠ [] → r.Settled (r.reconcileAll l s)) := by
  induction l generalizing s with
  | nil => exact ⟨rfl, ⟨_, _, rfl⟩, fun _ hne => absurd rfl hne⟩
  | cons calls l ih =>
    have hfirst := hsucceeds calls List.mem_cons_self
    obtain ⟨finalizers, status, hblueprint⟩ := blueprint_reconcileRequest r calls s
    have hspec : (r.reconcileRequest calls s).1.blueprint.spec = s.blueprint.spec := by
      rw [hblueprint]
    obtain ⟨hhelm, ⟨finalizers', status', hblueprint'⟩, hsettled⟩ :=
      ih (quiet_reconcileRequest h.notDeleted hfirst) fun calls' hcalls' => by
        rw [hspec]
        exact hsucceeds calls' (List.mem_cons_of_mem _ hcalls')
    refine ⟨hhelm.trans (h.helm_reconcileRequest hfirst), ⟨finalizers', status', ?_⟩,
      fun hdeployed _ => ?_⟩
    · exact hblueprint'.trans (by rw [hblueprint])
    · have hfound := settled_reconcileRequest h.notDeleted hfirst hdeployed h.observed
      cases l with
      | nil => exact hfound
      | cons calls' l => exact hsettled hfound.deployed (by simp)

/-- From any state, two calls of the controller that succeed are enough for the blueprint
to settle, unless a release hangs; in that case it never does.  After the first call
Helm is left alone. -/
theorem settles_iff (r : BlueprintReconciler) (s : BlueprintSite)
    (hdeleted : s.blueprint.beingDeleted = false) (first : BlueprintCalls)
    (rest : List BlueprintCalls)
    (hsucceeds : ∀ calls ∈ first :: rest, r.Succeeds calls s.blueprint.spec) :
    (r.reconcileAll (first :: rest) s).helm = (r.reconcileRequest first s).1.helm ∧
      (rest ≠ [] → (r.Settled (r.reconcileAll (first :: rest) s) ↔ ¬ r.Hangs s)) := by
  have hfirst := hsucceeds first List.mem_cons_self
  obtain ⟨finalizers, hres⟩ := reconcileRequest_of_succeeds hdeleted hfirst
  have hspec : (r.reconcileRequest first s).1.blueprint.spec = s.blueprint.spec := by
    rw [hres]
    rfl
  obtain ⟨hhelm, ⟨finalizers', status', hblueprint⟩, hsettles⟩ :=
    (quiet_reconcileRequest hdeleted hfirst).reconcileAll fun calls hcalls => by
      rw [hspec]
      exact hsucceeds calls (List.mem_cons_of_mem _ hcalls)
  refine ⟨hhelm, fun hrest => ⟨fun hsettled hhangs => ?_, fun hhangs => ?_⟩⟩
  · -- a release that hangs is still there in the end
    obtain ⟨hobserved, im, him, hother⟩ := hhangs
    have hstuck := other_reconcile hfirst hobserved him hother
    have hdeployed : r.AllDeployed (r.reconcileAll rest (r.reconcileRequest first s).1) :=
      hsettled.deployed
    rw [AllDeployed, hblueprint, hhelm, hres] at hdeployed
    exact absurd ((hdeployed im him).symm.trans hstuck) (by simp)
  · exact hsettles (allDeployed_reconcileRequest hdeleted hfirst hhangs) hrest

theorem readerReconciler_succeeds :
    readerReconciler.Succeeds callsSucceed readerWorld.blueprint.spec := by
  refine ⟨fun im him => ⟨rfl, ?_, rfl, rfl, ?_⟩, fun _ => rfl, rfl, rfl⟩
  · obtain rfl := List.mem_singleton.1 him
    decide +kernel
  · change (readerReconciler.checkReleaseStatus instanceSucceeds).1 = _
    decide +kernel

/-- The reader settles after two calls. -/
theorem reader_settles :
    ¬ readerReconciler.Hangs readerWorld.toBlueprintSite ∧
      readerReconciler.Settled (readerReconciler.reconcileAll [callsSucceed, callsSucceed]
        readerWorld.toBlueprintSite) := by
  have hhangs : ¬ readerReconciler.Hangs readerWorld.toBlueprintSite :=
    fun h => absurd h.1 (by decide +kernel)
  refine ⟨hhangs, ((settles_iff readerReconciler readerWorld.toBlueprintSite rfl callsSucceed
    [callsSucceed] fun calls hcalls => ?_).2 (by simp)).2 hhangs⟩
  have hcalls' : calls = callsSucceed := by simpa using hcalls
  rw [hcalls']
  exact readerReconciler_succeeds

end BlueprintReconciler

end Fybrik
