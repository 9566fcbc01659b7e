import Fybrik.Config.Evaluator
import Fybrik.Lib.MapLoops

/-!
# Copies of decisions

The `DeepCopy` methods of the administrator's rules: those of `zz_generated.deepcopy.go`,
and the one of restrictions, written by hand in `model.go`.  The latter copies every list
of values into a slice of length zero.

* `goCopy` — the built-in `copy`, which copies no more than there is room for.
* `Decision.deepCopy` — the copy of a decision, from those of its parts.
* `Decision.CopiedTo` — what a copy should have in common with the original.
* `Decision.copiedTo_deepCopy_iff` — it has, exactly if the decision allows no value for
  anything it restricts; deployment status, policy and the keys are kept in any case.
-/

namespace Fybrik

/-! ## The copies -/

/-- `copy(dst, src)`: the slice `dst` afterwards. -/
def goCopy {α : Type} (dst src : List α) : List α := src.take dst.length ++ dst.drop src.length

theorem goCopy_nil {α : Type} (src : List α) : goCopy [] src = [] := by
  simp [goCopy]

/-- `Restriction.DeepCopyInto`: the map that is left in `out`.  Nothing is copied from a nil
list, as from an empty one. -/
def Restriction.deepCopyInto (restriction : Restriction) : GoMap String (List String) :=
  GoMap.ofList (restriction.pairs.map fun kv => (kv.1, goCopy [] kv.2))

/-- `Restriction.DeepCopy`. -/
def Restriction.deepCopy (restriction : Restriction) : Restriction :=
  match restriction with
  | none => none
  | some _ => some restriction.deepCopyInto

/-- `Restrictions.DeepCopy`. -/
def Restrictions.deepCopy (restrictions : Restrictions) : Restrictions :=
  { restrictions with
    clusters := Restriction.deepCopy restrictions.clusters
    modules := Restriction.deepCopy restrictions.modules
    storageAccounts := Restriction.deepCopy restrictions.storageAccounts }

/-- `Decision.DeepCopy`. -/
def Decision.deepCopy (decision : Decision) : Decision :=
  { decision with
    deploymentRestrictions := decision.deploymentRestrictions.deepCopy
    policy := decision.policy }

/-! ## What a copy has to keep -/

/-- The same keys with the same lists of values, and nil only for nil. -/
structure Restriction.CopiedTo (restriction copy : Restriction) : Prop where
  isSome_eq : copy.isSome = restriction.isSome
  lookup_eq : ∀ key, (copy.getD ∅).lookup key = (restriction.getD ∅).lookup key

/-- The same deployment status and policy, and the same restrictions. -/
structure Decision.CopiedTo (decision copy : Decision) : Prop where
  deploy_eq : copy.deploy = decision.deploy
  policy_eq : copy.policy = decision.policy
  clusters : Restriction.CopiedTo decision.deploymentRestrictions.clusters
    copy.deploymentRestrictions.clusters
  modules : Restriction.CopiedTo decision.deploymentRestrictions.modules
    copy.deploymentRestrictions.modules
  storageAccounts : Restriction.CopiedTo decision.deploymentRestrictions.storageAccounts
    copy.deploymentRestrictions.storageAccounts

/-- The restriction allows no value for any of its keys. -/
def Restriction.Valueless (restriction : Restriction) : Prop :=
  ∀ kv ∈ restriction.pairs, kv.2 = []

instance (restriction : Restriction) : Decidable (Restriction.Valueless restriction) :=
  inferInstanceAs (Decidable (∀ kv ∈ restriction.pairs, kv.2 = []))

/-! ## What is kept -/

namespace Restriction

variable (restriction : Restriction)

theorem isSome_deepCopy : (deepCopy restriction).isSome = restriction.isSome := by
  cases restriction <;> rfl

/-- The keys are kept, each with an empty list. -/
theorem lookup_deepCopy (key : String) : ((deepCopy restriction).getD ∅).lookup key
    = ((restriction.getD ∅).lookup key).map fun _ => [] := by
  cases restriction with
  | none => rfl
  | some m =>
    show (GoMap.ofList (m.pairs.map fun kv => (kv.1, goCopy [] kv.2))).lookup key = _
    rw [GoMap.lookup_ofList_map_pairs m fun _ values => goCopy [] values]
    simp only [goCopy_nil]
    rfl

theorem copiedTo_iff_valueless :
    CopiedTo restriction (deepCopy restriction) ↔ Valueless restriction := by
  constructor
  · rintro ⟨-, hlookup⟩ ⟨key, values⟩ hkv
    have hvalues := GoMap.mem_pairs.1 hkv
    have hcopy := hlookup key
    rw [lookup_deepCopy, hvalues] at hcopy
    exact (Option.some.inj hcopy).symm
  · intro h
    refine ⟨isSome_deepCopy restriction, fun key => ?_⟩
    rw [lookup_deepCopy]
    cases hlookup : (restriction.getD ∅).lookup key with
    | none => rfl
    | some values =>
      have hnil : values = [] := h (key, values) (GoMap.mem_pairs.2 hlookup)
      rw [hnil]
      rfl

end Restriction

/-- **When a copied decision is the decision.**  Its three restrictions must not allow any
value; everything else is kept. -/
theorem Decision.copiedTo_deepCopy_iff (decision : Decision) :
    decision.CopiedTo decision.deepCopy ↔
      Restriction.Valueless decision.deploymentRestrictions.clusters ∧
      Restriction.Valueless decision.deploymentRestrictions.modules ∧
      Restriction.Valueless decision.deploymentRestrictions.storageAccounts := by
  rw [← Restriction.copiedTo_iff_valueless, ← Restriction.copiedTo_iff_valueless,
    ← Restriction.copiedTo_iff_valueless]
  constructor
  · intro h
    exact ⟨h.clusters, h.modules, h.storageAccounts⟩
  · rintro ⟨hclusters, hmodules, haccounts⟩
    exact ⟨rfl, rfl, hclusters, hmodules, haccounts⟩

/-- A decision that forbids a deployment and has nothing more to say about it; the list of
regions is there, but empty. -/
def forbidDecision : Decision :=
  { deploy := .statusFalse
    deploymentRestrictions := ⟨some (GoMap.ofList [("metadata.region", [])]), none, some ∅⟩
    policy := { (default : DecisionPolicy) with id := "no-copy" } }

theorem forbidDecision_copiedTo : forbidDecision.CopiedTo forbidDecision.deepCopy :=
  forbidDecision.copiedTo_deepCopy_iff.2 ⟨by decide, by decide, by decide⟩

/-- A decision that allows a deployment in one region only. -/
def shireDecision : Decision :=
  { deploy := .statusTrue
    deploymentRestrictions :=
      ⟨some (GoMap.ofList [("metadata.region", ["theshire"])]), none, none⟩
    policy := { (default : DecisionPolicy) with id := "stay-home" } }

/-- The region is gone from the copy. -/
theorem shireDecision_not_copiedTo :
    shireDecision.deepCopy.deploymentRestrictions.clusters
        = some (GoMap.ofList [("metadata.region", [])]) ∧
      ¬ shireDecision.CopiedTo shireDecision.deepCopy := by
  refine ⟨by decide, fun h => ?_⟩
  have hvalueless := (Restriction.copiedTo_iff_valueless _).1 h.clusters
  exact absurd hvalueless (by decide)

end Fybrik
