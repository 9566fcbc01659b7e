import Fybrik.Blueprint.ModuleStates

/-!
# Failed resources

A release is reported as failed as soon as one of its resources is.  For the kinds that a
module describes by a status indicator this is decided by two conditions of the indicator,
the second of which may be left out.

* `Specified` — the indicator has a failure condition, and the resource matches it.
* `ShowsFailure` — there is evidence that a resource failed: such a condition, or the result
  of `kstatus` if its kind has no indicator.
* `Presumed` — the resource is taken to have failed although nothing says so.
* `checkResourceStatus_evidence_iff` — when failures are only reported on evidence.
-/

namespace Fybrik.BlueprintReconciler

variable (r : BlueprintReconciler)

/-- The indicator has a failure condition that the resource matches. -/
def Specified (expected : ResourceStatusIndicator) (res : Json) : Prop :=
  expected.failureCondition ≠ "" ∧ r.matchesCondition res expected.failureCondition = true

/-- A resource matches the failure condition for its kind, or has been computed as failed. -/
def ShowsFailure (calls : InstanceCalls) (res : Json) : Prop :=
  match getExpectedResults calls (kindOf res) with
  | .error _ => False
  | .ok (some expected) => r.Specified expected res
  | .ok none => ∃ message, r.kstatus res = .ok (.failed, message)

/-- A resource does not match the success condition for its kind, and there is no failure
condition. -/
def Presumed (calls : InstanceCalls) (res : Json) : Prop :=
  ∃ expected, getExpectedResults calls (kindOf res) = .ok (some expected) ∧
    expected.failureCondition = "" ∧ r.matchesCondition res expected.successCondition = false

variable {r}

/-- Every resource matches the condition that has been left out. -/
theorem matchesCondition_empty (hparse : r.parseSelector "" = .ok []) (res : Json) :
    r.matchesCondition res "" = true := by
  rw [matchesCondition, hparse]
  rfl

variable {calls : InstanceCalls} {res : Json}

/-- A resource with an indicator is reported as failed if it matches only the second of the
two conditions. -/
theorem checkResourceStatus_eq_false_of_expected {expected : ResourceStatusIndicator}
    (h : getExpectedResults calls (kindOf res) = .ok (some expected)) :
    (r.checkResourceStatus calls res).1 = .conditionFalse ↔
      r.matchesCondition res expected.successCondition = false ∧
        r.matchesCondition res expected.failureCondition = true := by
  rw [checkResourceStatus, h]
  dsimp only
  cases r.matchesCondition res expected.successCondition with
  | true => simp
  | false => cases r.matchesCondition res expected.failureCondition <;> simp

theorem checkResourceStatus_eq_false (h : (r.checkResourceStatus calls res).1 = .conditionFalse) :
    r.ShowsFailure calls res ∨ r.Presumed calls res := by
  cases hexpected : getExpectedResults calls (kindOf res) with
  | error err =>
    rw [checkResourceStatus, hexpected] at h
    cases h
  | ok indicator =>
    cases indicator with
    | none =>
      refine Or.inl ?_
      rw [ShowsFailure, hexpected]
      rw [checkResourceStatus, hexpected] at h
      dsimp only at h
      split at h
      · cases h
      · rename_i message hcompute
        exact ⟨message, hcompute⟩
      · cases h
      · cases h
    | some expected =>
      obtain ⟨hsuccess, hfailure⟩ := (checkResourceStatus_eq_false_of_expected hexpected).1 h
      by_cases hleft : expected.failureCondition = ""
      · exact Or.inr ⟨expected, hexpected, hleft, hsuccess⟩
      · refine Or.inl ?_
        rw [ShowsFailure, hexpected]
        exact ⟨hleft, hfailure⟩

theorem Presumed.checkResourceStatus (hparse : r.parseSelector "" = .ok [])
    (h : r.Presumed calls res) : (r.checkResourceStatus calls res).1 = .conditionFalse := by
  obtain ⟨expected, hexpected, hleft, hsuccess⟩ := h
  refine (checkResourceStatus_eq_false_of_expected hexpected).2 ⟨hsuccess, ?_⟩
  rw [hleft]
  exact matchesCondition_empty hparse res

/-- When failures are only reported on evidence: a resource with an indicator needs a failure
condition unless it matches the success condition, and a release needs a resource that shows
its failure unless none is presumed to have failed. -/
theorem checkResourceStatus_evidence_iff (r : BlueprintReconciler)
    (hparse : r.parseSelector "" = .ok []) (calls : InstanceCalls) :
    (∀ res expected, getExpectedResults calls (kindOf res) = .ok (some expected) →
      (((r.checkResourceStatus calls res).1 = .conditionFalse → r.Specified expected res) ↔
        (expected.failureCondition = "" →
          r.matchesCondition res expected.successCondition = true))) ∧
    ∀ resources, calls.getResources = .ok resources →
      (((r.checkReleaseStatus calls).1 = .conditionFalse →
          ∃ res ∈ resources, r.ShowsFailure calls res) ↔
        (∃ res ∈ resources, r.ShowsFailure calls res) ∨
          ∀ res ∈ resources, ¬ r.Presumed calls res) := by
  refine ⟨fun res expected hexpected => ?_, fun resources hresources => ?_⟩
  · rw [checkResourceStatus_eq_false_of_expected hexpected]
    constructor
    · intro hspecified hleft
      by_contra hsuccess
      have hmatches : r.matchesCondition res expected.failureCondition = true := by
        rw [hleft]
        exact matchesCondition_empty hparse res
      exact (hspecified ⟨eq_false_of_ne_true hsuccess, hmatches⟩).1 hleft
    · rintro hleft ⟨hsuccess, hfailure⟩
      refine ⟨fun hempty => ?_, hfailure⟩
      exact absurd ((hleft hempty).symm.trans hsuccess) (by simp)
  · rw [checkReleaseStatus, hresources]
    rw [(checkResources_iff ..).2]
    constructor
    · intro hevidence
      by_cases hpresumed : ∃ res ∈ resources, r.Presumed calls res
      · obtain ⟨res, hres, hfailed⟩ := hpresumed
        exact Or.inl (hevidence ⟨res, hres, hfailed.checkResourceStatus hparse⟩)
      · exact Or.inr fun res hres hfailed => hpresumed ⟨res, hres, hfailed⟩
    · rintro (hevidence | hnone) ⟨res, hres, hfailed⟩
      · exact hevidence
      · exact ⟨res, hres,
          (checkResourceStatus_eq_false hfailed).resolve_right (hnone res hres)⟩

/-! ## A transfer that is still running -/

/-- A reconciler with the conditions of the documentation. -/
def transferReconciler : BlueprintReconciler :=
  { (default : BlueprintReconciler) with
    kstatus := fun _ => .ok (.other, "")
    parseSelector := fun condition =>
      if condition = "" then .ok []
      else if condition = "status.status == SUCCEEDED" then
        .ok [fun labels => labels.has "status.status" && labels.get "status.status" == "SUCCEEDED"]
      else if condition = "status.status == FAILED" then
        .ok [fun labels => labels.has "status.status" && labels.get "status.status" == "FAILED"]
      else .error "unable to parse requirement" }

/-- A module that describes transfers, with or without a failure condition. -/
def transferCalls (failureCondition : String) (resources : List Json) : InstanceCalls :=
  { instanceSucceeds with
    getResources := .ok resources
    statusIndicators := .ok
      [[⟨"Transfer", "status.status == SUCCEEDED", failureCondition, "status.error"⟩]] }

/-- A transfer. -/
def transfer (status : String) : Json :=
  .obj [("kind", .str "Transfer"), ("status", .obj [("status", .str status)])]

/-- With a failure condition a transfer is reported as failed only if it is. -/
theorem transfer_evidence :
    ((transferReconciler.checkReleaseStatus
        (transferCalls "status.status == FAILED" [transfer "FAILED"])).1 = .conditionFalse →
      ∃ res ∈ [transfer "FAILED"], transferReconciler.ShowsFailure
        (transferCalls "status.status == FAILED" [transfer "FAILED"]) res) ∧
    (transferReconciler.checkReleaseStatus
      (transferCalls "status.status == FAILED" [transfer "FAILED"])).1 = .conditionFalse := by
  refine ⟨((checkResourceStatus_evidence_iff transferReconciler rfl _).2 _ rfl).2 (Or.inr ?_),
    by decide +kernel⟩
  rintro res hres ⟨expected, hexpected, hleft, -⟩
  obtain rfl := List.mem_singleton.1 hres
  have hfound : getExpectedResults (transferCalls "status.status == FAILED" [transfer "FAILED"])
      (kindOf (transfer "FAILED")) = .ok (some ⟨"Transfer", "status.status == SUCCEEDED",
        "status.status == FAILED", "status.error"⟩) := by
    rfl
  obtain rfl := Option.some.inj (Except.ok.inj (hfound.symm.trans hexpected))
  exact absurd hleft (by decide)

/-- Without one, a transfer that is running is reported as failed. -/
theorem runningTransfer_presumed :
    getExpectedResults (transferCalls "" [transfer "RUNNING"]) (kindOf (transfer "RUNNING"))
      = .ok (some ⟨"Transfer", "status.status == SUCCEEDED", "", "status.error"⟩) ∧
    (transferReconciler.checkResourceStatus (transferCalls "" [transfer "RUNNING"])
      (transfer "RUNNING")).1 = .conditionFalse ∧
    ¬ transferReconciler.Specified
      ⟨"Transfer", "status.status == SUCCEEDED", "", "status.error"⟩ (transfer "RUNNING") ∧
    (transferReconciler.checkReleaseStatus (transferCalls "" [transfer "RUNNING"])).1
      = .conditionFalse ∧
    ∀ res ∈ [transfer "RUNNING"],
      ¬ transferReconciler.ShowsFailure (transferCalls "" [transfer "RUNNING"]) res := by
  refine ⟨rfl, by decide +kernel, fun h => h.1 rfl, by decide +kernel, ?_⟩
  intro res hres h
  obtain rfl := List.mem_singleton.1 hres
  exact h.1 rfl

end Fybrik.BlueprintReconciler
