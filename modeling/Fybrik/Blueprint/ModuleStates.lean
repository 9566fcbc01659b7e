import Fybrik.Blueprint.Runs

/-!
# The states of module instances

The status of a blueprint holds a state for every module instance.  The map is kept from
one reconcile to the next, and a round of `reconcile` writes to it in only some of its
branches.

* `roundStart` — the state in which the round of an instance begins; `foundIn` — what
  it finds of its release.
* `modulesState_reconcile` — what a reconcile makes of the state of an instance is what
  its own round does.
* `StatesCurrent` — an instance is only shown as ready if it was found so in this very
  reconcile.
* `reconcile_statesCurrent_iff` — when that is so, from whatever status the reconcile
  sets out.
-/

namespace Fybrik.BlueprintReconciler

variable {r : BlueprintReconciler} {calls : BlueprintCalls} {blueprint : Blueprint}
  {updateRequired : Bool} {p : Progress}

/-! ## One round -/

variable {instanceName : String}

/-- A round writes to the state of its own instance at most. -/
theorem modulesState_reconcileInstance_ne {im : String × BlueprintModule}
    (h : instanceName ≠ im.1) :
    (r.reconcileInstance calls blueprint updateRequired p im).status.modulesState.lookup
      instanceName = p.status.modulesState.lookup instanceName := by
  change (r.reconcileRelease _ _ _ _ _ _).status.modulesState.lookup instanceName = _
  unfold reconcileRelease
  dsimp only
  split
  · split <;> exact AList.lookup_insert_ne h
  · split
    · split
      · exact AList.lookup_insert_ne h
      · exact AList.lookup_insert_ne h
      · rfl
    · rfl

/-- The round of an instance decides on its state: the chart is applied, or the release is
found deployed and the status of its resources is known. -/
def decides (r : BlueprintReconciler) (calls : InstanceCalls) (updateRequired : Bool)
    (reported : Option ReleaseStatus) : Bool :=
  appliesChart calls updateRequired reported ||
    foundRelease calls reported == some .deployed &&
      ((r.checkReleaseStatus calls).1 == .conditionTrue ||
        (r.checkReleaseStatus calls).1 == .conditionFalse)

/-- The state of an instance after its round: if the round decides on it, it is ready exactly
if it was found so, and otherwise it stays as it was. -/
theorem modulesState_reconcileInstance (im : String × BlueprintModule) :
    let reported := p.helm.releases.lookup (r.release blueprint im.1)
    let after :=
      (r.reconcileInstance calls blueprint updateRequired p im).status.modulesState.lookup im.1
    (r.decides (calls.instances im.1) updateRequired reported = true ∧ ∃ err, after =
      some ⟨r.findsReady (calls.instances im.1) updateRequired reported, err⟩) ∨
    (r.decides (calls.instances im.1) updateRequired reported = false ∧
      after = p.status.modulesState.lookup im.1) := by
  dsimp only
  change _ ∧ (∃ err, (r.reconcileRelease _ _ _ _ _ _).status.modulesState.lookup im.1 = _) ∨
    _ ∧ (r.reconcileRelease _ _ _ _ _ _).status.modulesState.lookup im.1 = _
  unfold reconcileRelease decides findsReady
  by_cases happly : appliesChart (calls.instances im.1) updateRequired
      (p.helm.releases.lookup (r.release blueprint im.1)) = true
  · rw [if_pos happly, happly]
    refine Or.inl ⟨rfl, ?_⟩
    split
    · rename_i err _
      exact ⟨err, AList.lookup_insert _⟩
    · exact ⟨"", AList.lookup_insert _⟩
  · rw [if_neg happly, eq_false_of_ne_true happly]
    by_cases hfound : foundRelease (calls.instances im.1)
        (p.helm.releases.lookup (r.release blueprint im.1)) = some .deployed
    · rw [if_pos hfound, hfound]
      rcases hcheck : r.checkReleaseStatus (calls.instances im.1) with ⟨status, msg⟩
      cases status with
      | conditionTrue => exact Or.inl ⟨rfl, "", AList.lookup_insert _⟩
      | conditionFalse => exact Or.inl ⟨rfl, msg, AList.lookup_insert _⟩
      | conditionUnknown => exact Or.inr ⟨rfl, rfl⟩
      | unset => exact Or.inr ⟨rfl, rfl⟩
    · rw [if_neg hfound]
      refine Or.inr ⟨?_, rfl⟩
      simp [hfound]

/-- A release is ready exactly if each of its resources is, and it is reported as failed
exactly if one of them is. -/
theorem checkResources_iff (calls : InstanceCalls) (allReady : Bool) (resources : List Json) :
    ((r.checkResources calls allReady resources).1 = .conditionTrue ↔
      allReady = true ∧
        ∀ res ∈ resources, (r.checkResourceStatus calls res).1 = .conditionTrue) ∧
    ((r.checkResources calls allReady resources).1 = .conditionFalse ↔
      ∃ res ∈ resources, (r.checkResourceStatus calls res).1 = .conditionFalse) := by
  induction resources generalizing allReady with
  | nil => cases allReady <;> simp [checkResources]
  | cons res resources ih =>
    rw [checkResources, List.forall_mem_cons, List.exists_mem_cons_iff]
    rcases hcheck : r.checkResourceStatus calls res with ⟨status, msg⟩
    cases status with
    | conditionTrue => simp [ih]
    | conditionFalse => simp
    | conditionUnknown => simp [ih]
    | unset => simp [ih]

theorem checkReleaseStatus_eq_true_iff (calls : InstanceCalls) :
    (r.checkReleaseStatus calls).1 = .conditionTrue ↔ ∃ resources,
      calls.getResources = .ok resources ∧
        ∀ res ∈ resources, (r.checkResourceStatus calls res).1 = .conditionTrue := by
  unfold checkReleaseStatus
  cases calls.getResources with
  | error err => simp
  | ok resources => simp [checkResources_iff]

/-! ## A whole reconcile -/

/-- The state in which the round of an instance begins. -/
def roundStart (r : BlueprintReconciler) (calls : BlueprintCalls) (s : BlueprintSite)
    (instanceName : String) : Progress :=
  (s.blueprint.spec.modules.pairs.takeWhile fun im => im.1 != instanceName).foldl
    (r.reconcileInstance calls s.blueprint
      (s.blueprint.status.observedGeneration != s.blueprint.generation))
    { status := resetStatus s.blueprint, helm := s.helm, numReleases := 0, numReady := 0 }

/-- What Helm reports of the release of an instance when its round begins, whether or not
the controller manages to ask for it. -/
def reportedIn (r : BlueprintReconciler) (calls : BlueprintCalls) (s : BlueprintSite)
    (instanceName : String) : Option ReleaseStatus :=
  (r.roundStart calls s instanceName).helm.releases.lookup (r.release s.blueprint instanceName)

variable {s : BlueprintSite}

/-- Rounds of other instances do not matter for the state of an instance. -/
theorem modulesState_foldl {l : List (String × BlueprintModule)} (h : ∀ im ∈ l, im.1 ≠ instanceName)
    (p : Progress) :
    (l.foldl (r.reconcileInstance calls blueprint updateRequired) p).status.modulesState.lookup
      instanceName = p.status.modulesState.lookup instanceName :=
  Loops.foldl_untouched (fun p : Progress => p.status.modulesState.lookup instanceName)
    (fun im him _ => modulesState_reconcileInstance_ne (h im him).symm) p

/-- The state of an instance that is not in the specification stays as it was. -/
theorem modulesState_reconcile_removed (h : s.blueprint.spec.modules.lookup instanceName = none) :
    (r.reconcile calls s).1.modulesState.lookup instanceName
      = s.blueprint.status.modulesState.lookup instanceName := by
  refine modulesState_foldl (fun im him heq => ?_) _
  subst heq
  exact absurd ((GoMap.mem_pairs.1 him).symm.trans h) (by simp)

/-- The state of an instance after a reconcile is what its own round makes of the state it
had before. -/
theorem modulesState_reconcile (r : BlueprintReconciler) (calls : BlueprintCalls)
    {module : BlueprintModule} (h : s.blueprint.spec.modules.lookup instanceName = some module) :
    (r.reconcile calls s).1.modulesState.lookup instanceName
        = (r.reconcileInstance calls s.blueprint
            (s.blueprint.status.observedGeneration != s.blueprint.generation)
            (r.roundStart calls s instanceName) (instanceName, module)).status.modulesState.lookup
              instanceName ∧
      (r.roundStart calls s instanceName).status.modulesState.lookup instanceName
        = s.blueprint.status.modulesState.lookup instanceName := by
  obtain ⟨before, rest, hpairs⟩ := List.append_of_mem (GoMap.mem_pairs.2 h)
  have hnodup := s.blueprint.spec.modules.nodup_keys_pairs
  rw [hpairs, List.map_append, List.map_cons, List.nodup_append, List.nodup_cons] at hnodup
  have hbefore : ∀ im ∈ before, im.1 ≠ instanceName := fun im him =>
    hnodup.2.2 im.1 (List.mem_map_of_mem him) instanceName List.mem_cons_self
  have hrest : ∀ im ∈ rest, im.1 ≠ instanceName := fun im him heq =>
    hnodup.2.1.1 (List.mem_map.2 ⟨im, him, heq⟩)
  have htake : (s.blueprint.spec.modules.pairs.takeWhile fun im => im.1 != instanceName)
      = before := by
    rw [hpairs, List.takeWhile_append_of_pos fun im him => by simpa using hbefore im him]
    simp
  constructor
  · change (r.reconcileInstances calls s).status.modulesState.lookup instanceName = _
    rw [roundStart, htake, reconcileInstances, hpairs, List.foldl_append, List.foldl_cons,
      modulesState_foldl hrest]
  · rw [roundStart, htake, modulesState_foldl hbefore]
    rfl

/-- A reconcile decides on the state of an instance, or keeps it. -/
theorem modulesState_reconcile_cases (r : BlueprintReconciler) (calls : BlueprintCalls)
    {module : BlueprintModule} (h : s.blueprint.spec.modules.lookup instanceName = some module) :
    let updateRequired := s.blueprint.status.observedGeneration != s.blueprint.generation
    let reported := r.reportedIn calls s instanceName
    let after := (r.reconcile calls s).1.modulesState.lookup instanceName
    (r.decides (calls.instances instanceName) updateRequired reported = true ∧ ∃ err, after =
      some ⟨r.findsReady (calls.instances instanceName) updateRequired reported, err⟩) ∨
    (r.decides (calls.instances instanceName) updateRequired reported = false ∧
      after = s.blueprint.status.modulesState.lookup instanceName) := by
  obtain ⟨hafter, hbefore⟩ := modulesState_reconcile r calls h
  rw [hafter, ← hbefore]
  exact modulesState_reconcileInstance (instanceName, module)

/-! ## States that are current -/

/-- In this reconcile the release of the instance is found deployed, and every resource of
the release is computed as ready. -/
def FoundReady (r : BlueprintReconciler) (calls : BlueprintCalls) (s : BlueprintSite)
    (instanceName : String) : Prop :=
  foundRelease (calls.instances instanceName) (r.reportedIn calls s instanceName)
      = some .deployed ∧
    ∃ resources, (calls.instances instanceName).getResources = .ok resources ∧
      ∀ res ∈ resources,
        (r.checkResourceStatus (calls.instances instanceName) res).1 = .conditionTrue

/-- After the reconcile the instances that are shown as ready are in the specification, and
were found ready. -/
def StatesCurrent (r : BlueprintReconciler) (calls : BlueprintCalls) (s : BlueprintSite) : Prop :=
  ∀ instanceName state, (r.reconcile calls s).1.modulesState.lookup instanceName = some state →
    state.ready = true →
      (s.blueprint.spec.modules.lookup instanceName).isSome = true ∧
        r.FoundReady calls s instanceName

/-- The instances that were shown as ready before the reconcile are in the specification, and
their rounds decide on their states: the chart is applied, or the release is found deployed
and the status of its resources is known. -/
def StatesDecided (r : BlueprintReconciler) (calls : BlueprintCalls) (s : BlueprintSite) : Prop :=
  ∀ instanceName state, s.blueprint.status.modulesState.lookup instanceName = some state →
    state.ready = true →
      (s.blueprint.spec.modules.lookup instanceName).isSome = true ∧
        r.decides (calls.instances instanceName)
          (s.blueprint.status.observedGeneration != s.blueprint.generation)
          (r.reportedIn calls s instanceName) = true

theorem foundReady_of_findsReady (h : r.findsReady (calls.instances instanceName) updateRequired
      (r.reportedIn calls s instanceName) = true) : r.FoundReady calls s instanceName := by
  simp only [findsReady, Bool.and_eq_true, beq_iff_eq] at h
  exact ⟨h.1.2, (checkReleaseStatus_eq_true_iff _).1 h.2⟩

theorem decides_of_foundReady (h : r.FoundReady calls s instanceName) :
    r.decides (calls.instances instanceName) updateRequired
      (r.reportedIn calls s instanceName) = true := by
  have hcheck := (checkReleaseStatus_eq_true_iff (r := r) _).2 h.2
  simp [decides, h.1, hcheck]

/-- When the states of the instances are current after a reconcile, whatever happened before
it. -/
theorem reconcile_statesCurrent_iff (r : BlueprintReconciler) (calls : BlueprintCalls)
    (s : BlueprintSite) : r.StatesCurrent calls s ↔ r.StatesDecided calls s := by
  constructor
  · intro hcurrent instanceName state hstate hready
    cases hmodule : s.blueprint.spec.modules.lookup instanceName with
    | none =>
      -- the state of an instance that has been removed is kept
      have hspec := (hcurrent instanceName state
        ((modulesState_reconcile_removed hmodule).trans hstate) hready).1
      exact absurd hspec (by simp [hmodule])
    | some module =>
      refine ⟨rfl, ?_⟩
      rcases modulesState_reconcile_cases r calls hmodule with ⟨hdecides, -⟩ | ⟨-, hkept⟩
      · exact hdecides
      · exact decides_of_foundReady
          (hcurrent instanceName state (hkept.trans hstate) hready).2
  · intro hdecided instanceName state hstate hready
    cases hmodule : s.blueprint.spec.modules.lookup instanceName with
    | none =>
      have hspec := (hdecided instanceName state
        ((modulesState_reconcile_removed hmodule).symm.trans hstate) hready).1
      exact absurd hspec (by simp [hmodule])
    | some module =>
      refine ⟨rfl, ?_⟩
      rcases modulesState_reconcile_cases r calls hmodule with ⟨-, err, hnew⟩ | ⟨hundecided, hkept⟩
      · obtain rfl := Option.some.inj (hnew.symm.trans hstate)
        exact foundReady_of_findsReady hready
      · have hold := (hdecided instanceName state (hkept.symm.trans hstate) hready).2
        cases hold.symm.trans hundecided

/-- The reader has been installed and found ready. -/
def readerReady : BlueprintWorld :=
  reconciled readerReconciler callsSucceed (reconciled readerReconciler callsSucceed readerWorld)

/-- Then it is removed from the specification. -/
def readerReadyRemoved : BlueprintWorld :=
  { blueprint := { readerReady.blueprint with
      spec := { readerSpec "" with modules := ∅ }
      generation := readerReady.blueprint.generation + 1 }
    helm := readerReady.helm
    history := readerReady.history.set (readerReady.blueprint.generation + 1)
      { readerSpec "" with modules := ∅ } }

/-- The resources of releases cannot be listed. -/
def callsNoResources : BlueprintCalls :=
  { callsSucceed with
    instances := fun _ => { instanceSucceeds with getResources := .error "timed out" } }

/-- The reader is still shown as ready when its resources cannot be listed any more, and when
it is not in the specification any more. -/
theorem reader_not_statesCurrent :
    (Relation.ReflTransGen (readerReconciler.Step (fun _ _ => True) fun _ _ => True) readerWorld
        readerReady ∧
      ¬ readerReconciler.StatesCurrent callsNoResources readerReady.toBlueprintSite) ∧
    Relation.ReflTransGen (readerReconciler.Step (fun _ _ => True) fun _ _ => True) readerWorld
        readerReadyRemoved ∧
      ¬ readerReconciler.StatesCurrent callsSucceed readerReadyRemoved.toBlueprintSite := by
  have hready : Relation.ReflTransGen (readerReconciler.Step (fun _ _ => True) fun _ _ => True)
      readerWorld readerReady :=
    .tail (.tail .refl (.reconcile callsSucceed trivial)) (.reconcile callsSucceed trivial)
  refine ⟨⟨hready, fun h => ?_⟩, .tail hready (.edit trivial), fun h => ?_⟩
  · obtain ⟨-, -, resources, hresources, -⟩ := h "reader" ⟨true, ""⟩ (by decide +kernel) rfl
    exact absurd hresources (by simp [callsNoResources])
  · exact absurd (h "reader" ⟨true, ""⟩ (by decide +kernel) rfl).1 (by decide +kernel)

end Fybrik.BlueprintReconciler
