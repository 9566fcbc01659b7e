import Fybrik.Config.Evaluator

/-!
# What configuration decisions do not depend on

The rules for a dataset come in no particular order, and rules of several policy sets are
evaluated together.  `getOPADecisions` folds over them, merges decisions pairwise and stops
at the first conflict.

* `MergedDeploy`, `Compatible` — what the merged deployment decision has to do with the
  decisions it comes from, and when decisions for a capability have no conflict.
* `foldlM_addRule` — the loop over the rules comes to its end exactly if the decisions for
  every capability are compatible.
* `getOPADecisions_perm` — the order of the rules makes no difference.
* `getOPADecisions_filter` — neither do the rules of other policy sets.
-/

namespace Fybrik

open ValueLists

/-! ## Deployment decisions -/

/-- No two of these are opposed to each other. -/
def AgreeOnDeploy (statuses : List DeploymentStatus) : Prop :=
  ∀ s ∈ statuses, ∀ s' ∈ statuses, s = .statusUnknown ∨ s' = .statusUnknown ∨ s = s'

/-- The status stands for several ones: it is the one that is not unknown, if there is. -/
structure MergedDeploy (statuses : List DeploymentStatus) (status : DeploymentStatus) : Prop where
  ne_nil : statuses ≠ []
  unknown_or_eq : ∀ s ∈ statuses, s = .statusUnknown ∨ s = status
  mem : status ≠ .statusUnknown → status ∈ statuses

theorem mergedDeploy_single (status : DeploymentStatus) : MergedDeploy [status] status :=
  ⟨List.cons_ne_nil _ _, fun _ hs => Or.inr (List.mem_singleton.1 hs),
    fun _ => List.mem_singleton_self status⟩

variable {statuses : List DeploymentStatus}

/-- Only the set of statuses matters. -/
theorem MergedDeploy.unique {statuses' : List DeploymentStatus} {status status' : DeploymentStatus}
    (h : MergedDeploy statuses status) (h' : MergedDeploy statuses' status')
    (hsame : ∀ s, s ∈ statuses ↔ s ∈ statuses') : status = status' := by
  by_cases hunknown : status = .statusUnknown
  · by_contra hne
    have hmem := h'.mem fun hunknown' => hne (hunknown.trans hunknown'.symm)
    rcases h.unknown_or_eq status' ((hsame status').2 hmem) with heq | heq
    · exact hne (hunknown.trans heq.symm)
    · exact hne heq.symm
  · exact (h'.unknown_or_eq status ((hsame status).1 (h.mem hunknown))).resolve_left hunknown

variable {old new : DeploymentStatus}

/-- The merged status is in conflict with a new one exactly if one of those it comes from
is. -/
theorem MergedDeploy.agree_iff (h : MergedDeploy statuses old) (hagree : AgreeOnDeploy statuses) :
    AgreeOnDeploy (statuses ++ [new]) ↔
      old = .statusUnknown ∨ new = .statusUnknown ∨ old = new := by
  constructor
  · intro hall
    by_cases hunknown : old = .statusUnknown
    · exact Or.inl hunknown
    · exact hall old (List.mem_append_left _ (h.mem hunknown)) new (by simp)
  · intro hnew s hs s' hs'
    have hold : ∀ s ∈ statuses, s = .statusUnknown ∨ new = .statusUnknown ∨ s = new := by
      intro s hs
      rcases h.unknown_or_eq s hs with rfl | rfl
      · exact Or.inl rfl
      · exact hnew
    rcases List.mem_append.1 hs with hmem | hlast <;>
      rcases List.mem_append.1 hs' with hmem' | hlast'
    · exact hagree s hmem s' hmem'
    · rw [List.mem_singleton.1 hlast']
      exact hold s hmem
    · rw [List.mem_singleton.1 hlast]
      rcases hold s' hmem' with heq | heq | heq
      · exact Or.inr (Or.inl heq)
      · exact Or.inl heq
      · exact Or.inr (Or.inr heq.symm)
    · exact Or.inr (Or.inr ((List.mem_singleton.1 hlast).trans (List.mem_singleton.1 hlast').symm))

/-- Merging two statuses: there is a conflict if both are known and different. -/
theorem mergeDeploy_cases (new old : DeploymentStatus) :
    (old = .statusUnknown ∧ mergeDeploy new old = some new) ∨
    (old ≠ .statusUnknown ∧ (new = .statusUnknown ∨ new = old) ∧ mergeDeploy new old = some old) ∨
    (old ≠ .statusUnknown ∧ new ≠ .statusUnknown ∧ new ≠ old ∧ mergeDeploy new old = none) := by
  cases old <;> cases new <;> decide

theorem MergedDeploy.merge {merged : DeploymentStatus} (h : MergedDeploy statuses old)
    (hmerge : mergeDeploy new old = some merged) : MergedDeploy (statuses ++ [new]) merged := by
  rcases mergeDeploy_cases new old with ⟨rfl, hsome⟩ | ⟨hold, hnew, hsome⟩ | ⟨-, -, -, hnone⟩
  · obtain rfl := Option.some.inj (hsome.symm.trans hmerge)
    refine ⟨by simp, fun s hs => ?_, fun _ => by simp⟩
    rcases List.mem_append.1 hs with hs | hs
    · exact Or.inl ((h.unknown_or_eq s hs).elim id id)
    · exact Or.inr (List.mem_singleton.1 hs)
  · obtain rfl := Option.some.inj (hsome.symm.trans hmerge)
    refine ⟨by simp, fun s hs => ?_, fun hknown => List.mem_append_left _ (h.mem hknown)⟩
    rcases List.mem_append.1 hs with hs | hs
    · exact h.unknown_or_eq s hs
    · rw [List.mem_singleton.1 hs]
      exact hnew
  · cases hnone.symm.trans hmerge

theorem isSome_mergeDeploy_iff (new old : DeploymentStatus) :
    (∃ merged, mergeDeploy new old = some merged) ↔
      old = .statusUnknown ∨ new = .statusUnknown ∨ old = new := by
  rcases mergeDeploy_cases new old with ⟨rfl, hsome⟩ | ⟨-, hnew, hsome⟩ | ⟨hold, hnew, hne, hnone⟩
  · exact iff_of_true ⟨new, hsome⟩ (Or.inl rfl)
  · exact iff_of_true ⟨old, hsome⟩ (Or.inr (hnew.imp_right Eq.symm))
  · refine iff_of_false (by simp [hnone]) ?_
    rintro (heq | heq | heq)
    · exact hold heq
    · exact hnew heq
    · exact hne heq.symm

/-! ## Restrictions -/

/-- Merging restrictions without empty lists succeeds exactly if every property keeps a
value. -/
theorem mergeRestrictions_succeeds_iff {m : GoMap String (List String)}
    {l r2 : List (String × List String)} (h : Summarises m l)
    (hne : ∀ kv ∈ l ++ r2, kv.2 ≠ []) (hsat : Satisfiable l) :
    (∃ m', mergeRestrictions m r2 = (m', true)) ↔ Satisfiable (l ++ r2) := by
  induction r2 generalizing m l with
  | nil =>
    rw [List.append_nil]
    exact iff_of_true ⟨m, rfl⟩ hsat
  | cons kv r2 ih =>
    obtain ⟨key, values⟩ := kv
    have hne' : ∀ kv ∈ (l ++ [(key, values)]) ++ r2, kv.2 ≠ [] := by
      rwa [List.append_assoc, List.singleton_append]
    have hvalues : values ≠ [] := hne (key, values) (by simp)
    have hold : ∀ kv ∈ l, kv.2 ≠ [] := fun kv hkv => hne kv (List.mem_append_left _ hkv)
    rw [List.append_cons, mergeRestrictions]
    split
    · -- no earlier list restricts this property
      rename_i hempty
      refine ih (h.assign (List.isEmpty_iff.1 hempty)) hne' ?_
      obtain ⟨v, hv⟩ := List.exists_mem_of_ne_nil values hvalues
      refine (satisfiable_append_singleton hsat key values).2 ⟨v, hv, fun us hus => ?_⟩
      exact absurd (h.eq_nil key (List.isEmpty_iff.1 hempty) us hus) (hold _ hus)
    · rename_i hnonempty
      obtain ⟨w, hw⟩ := List.exists_mem_of_ne_nil _ fun hnil => hnonempty (List.isEmpty_iff.2 hnil)
      obtain ⟨us, hus, -⟩ := ((h.mem_get key w).1 hw).1
      -- the common values are those that all lists so far admit
      have hcommon : ∀ v, v ∈ intersection (m.get key) values ↔
          v ∈ values ∧ ∀ us, (key, us) ∈ l → v ∈ us := by
        intro v
        rw [mem_intersection, h.mem_get_of_ne_nil hold hus, and_comm]
      simp only
      split
      · rename_i hnone
        refine iff_of_false (by simp) fun hall => ?_
        obtain ⟨v, hv, hall⟩ := (satisfiable_append_singleton hsat key values).1 hall.of_append
        have hmem := (hcommon v).2 ⟨hv, hall⟩
        rw [List.isEmpty_iff.1 hnone] at hmem
        exact List.not_mem_nil hmem
      · rename_i hsome
        obtain ⟨v, hv⟩ := List.exists_mem_of_ne_nil _ fun hnil => hsome (List.isEmpty_iff.2 hnil)
        refine ih (h.intersect (fun v => mem_intersection) (List.ne_nil_of_mem hv)) hne' ?_
        exact (satisfiable_append_singleton hsat key values).2 ⟨v, (hcommon v).1 hv⟩

/-! ## Decisions for one capability -/

/-- No restriction of the decision has an empty list of values. -/
structure ValuesNonempty (d : Decision) : Prop where
  clusters : ∀ kv ∈ d.deploymentRestrictions.clusters.pairs, kv.2 ≠ []
  modules : ∀ kv ∈ d.deploymentRestrictions.modules.pairs, kv.2 ≠ []
  storageAccounts : ∀ kv ∈ d.deploymentRestrictions.storageAccounts.pairs, kv.2 ≠ []

instance (d : Decision) : Decidable (ValuesNonempty d) :=
  decidable_of_iff ((∀ kv ∈ d.deploymentRestrictions.clusters.pairs, kv.2 ≠ []) ∧
      (∀ kv ∈ d.deploymentRestrictions.modules.pairs, kv.2 ≠ []) ∧
      ∀ kv ∈ d.deploymentRestrictions.storageAccounts.pairs, kv.2 ≠ [])
    ⟨fun h => ⟨h.1, h.2.1, h.2.2⟩, fun h => ⟨h.clusters, h.modules, h.storageAccounts⟩⟩

/-- Decisions for a capability without a conflict. -/
structure Compatible (ds : List Decision) : Prop where
  deploy : AgreeOnDeploy (ds.map Decision.deploy)
  clusters : Satisfiable (requirements Restrictions.clusters ds)
  modules : Satisfiable (requirements Restrictions.modules ds)
  storageAccounts : Satisfiable (requirements Restrictions.storageAccounts ds)

variable {ds : List Decision} {ds' : List Decision}

theorem mem_requirements_congr (h : ds.Perm ds') (field : Restrictions → Restriction)
    (kv : String × List String) : kv ∈ requirements field ds ↔ kv ∈ requirements field ds' := by
  simp only [requirements, List.mem_flatMap, h.mem_iff]

theorem compatible_of_perm (h : ds.Perm ds') (hds : Compatible ds) :
    Compatible ds' where
  deploy := fun s hs s' hs' => hds.deploy s ((h.map _).mem_iff.2 hs) s' ((h.map _).mem_iff.2 hs')
  clusters := (satisfiable_congr (mem_requirements_congr h _)).1 hds.clusters
  modules := (satisfiable_congr (mem_requirements_congr h _)).1 hds.modules
  storageAccounts := (satisfiable_congr (mem_requirements_congr h _)).1 hds.storageAccounts

theorem Compatible.of_append (h : Compatible (ds ++ ds')) : Compatible ds := by
  have hrequirements : ∀ field, requirements field (ds ++ ds')
      = requirements field ds ++ requirements field ds' := fun field => List.flatMap_append
  constructor
  · intro s hs s' hs'
    refine h.deploy s ?_ s' ?_ <;> rw [List.map_append]
    · exact List.mem_append_left _ hs
    · exact List.mem_append_left _ hs'
  · exact (hrequirements _ ▸ h.clusters).of_append
  · exact (hrequirements _ ▸ h.modules).of_append
  · exact (hrequirements _ ▸ h.storageAccounts).of_append

theorem compatible_nil : Compatible [] := by
  constructor
  · intro s hs
    cases hs
  · intro kv hkv
    cases hkv
  · intro kv hkv
    cases hkv
  · intro kv hkv
    cases hkv

theorem compatible_single {d : Decision} (h : ValuesNonempty d) : Compatible [d] := by
  have hsingle : ∀ field : Restrictions → Restriction,
      requirements field [d] = (field d.deploymentRestrictions).pairs := fun field => by
    rw [requirements, List.flatMap_singleton]
  constructor
  · intro s hs s' hs'
    exact Or.inr (Or.inr ((List.mem_singleton.1 hs).trans (List.mem_singleton.1 hs').symm))
  · rw [hsingle]
    exact satisfiable_pairs h.clusters
  · rw [hsingle]
    exact satisfiable_pairs h.modules
  · rw [hsingle]
    exact satisfiable_pairs h.storageAccounts

theorem ne_nil_of_mem_requirements {field : Restrictions → Restriction}
    (h : ∀ d ∈ ds, ∀ kv ∈ (field d.deploymentRestrictions).pairs, kv.2 ≠ []) :
    ∀ kv ∈ requirements field ds, kv.2 ≠ [] := by
  intro kv hkv
  obtain ⟨d, hd, hkv⟩ := List.mem_flatMap.1 hkv
  exact h d hd kv hkv

/-- A decision can be merged into one that stands for others exactly if it is compatible
with those. -/
theorem exists_merge_iff {old : Decision} (new : Decision) (hold : MergedFrom ds old)
    (hdeploy : MergedDeploy (ds.map Decision.deploy) old.deploy) (hcompatible : Compatible ds)
    (hne : ∀ d ∈ ds ++ [new], ValuesNonempty d) :
    (∃ merged, merge new old = .ok merged) ↔ Compatible (ds ++ [new]) := by
  have hc := mergeRestrictions_succeeds_iff hold.clusters
    (requirements_append Restrictions.clusters ds new ▸
      ne_nil_of_mem_requirements fun d hd => (hne d hd).clusters) hcompatible.clusters
  have hm := mergeRestrictions_succeeds_iff hold.modules
    (requirements_append Restrictions.modules ds new ▸
      ne_nil_of_mem_requirements fun d hd => (hne d hd).modules) hcompatible.modules
  have hs := mergeRestrictions_succeeds_iff hold.storageAccounts
    (requirements_append Restrictions.storageAccounts ds new ▸
      ne_nil_of_mem_requirements fun d hd => (hne d hd).storageAccounts) hcompatible.storageAccounts
  have hd := (isSome_mergeDeploy_iff new.deploy old.deploy).trans
    (hdeploy.agree_iff hcompatible.deploy).symm
  rw [← requirements_append] at hc hm hs
  constructor
  · rintro ⟨merged, hmerge⟩
    obtain ⟨deploy, clusters, modules, storageAccounts, hdeploy', hc', hm', hs', -⟩ :=
      merge_eq_ok_iff.1 hmerge
    refine ⟨?_, hc.1 ⟨clusters, hc'⟩, hm.1 ⟨modules, hm'⟩, hs.1 ⟨storageAccounts, hs'⟩⟩
    rw [List.map_append]
    exact hd.1 ⟨deploy, hdeploy'⟩
  · intro hall
    obtain ⟨deploy, hdeploy'⟩ := hd.2 (by simpa using hall.deploy)
    obtain ⟨clusters, hc'⟩ := hc.2 hall.clusters
    obtain ⟨modules, hm'⟩ := hm.2 hall.modules
    obtain ⟨storageAccounts, hs'⟩ := hs.2 hall.storageAccounts
    exact ⟨_, merge_eq_ok_iff.2
      ⟨deploy, clusters, modules, storageAccounts, hdeploy', hc', hm', hs', rfl⟩⟩

/-! ## The loop over the rules -/

/-- The decisions for every capability are compatible. -/
def RulesCompatible (input : EvaluatorInput) (rules : List DecisionPerCapability) : Prop :=
  ∀ c, Compatible (decisionsFor input c rules)

/-- What the loop maintains as long as there is no conflict. -/
structure Evaluated (input : EvaluatorInput) (rules : List DecisionPerCapability)
    (out : EvaluatorOutput) : Prop extends Merging input rules out where
  deploy : ∀ c d, out.configDecisions.lookup c = some d →
    MergedDeploy ((decisionsFor input c rules).map Decision.deploy) d.deploy
  compatible : RulesCompatible input rules
  nonempty : ∀ rule ∈ rules, ValuesNonempty rule.decision

theorem valuesNonempty_applyDefaults {d : Decision} (h : ValuesNonempty d) :
    ValuesNonempty (applyDefaults d) := by
  unfold applyDefaults
  split
  · exact ⟨h.clusters, h.modules, h.storageAccounts⟩
  · exact h

theorem valuesNonempty_decisionsFor {input : EvaluatorInput} {c : Capability}
    {rules : List DecisionPerCapability} (h : ∀ rule ∈ rules, ValuesNonempty rule.decision) :
    ∀ d ∈ decisionsFor input c rules, ValuesNonempty d := by
  intro d hd
  obtain ⟨rule, hrule, rfl⟩ := List.mem_map.1 hd
  exact valuesNonempty_applyDefaults (h rule (List.mem_filter.1 hrule).1)

section

variable {input : EvaluatorInput} {rules : List DecisionPerCapability}
  {rule : DecisionPerCapability}

theorem decisionsFor_filtered (h : filteredOut input rule.decision = true) (c : Capability) :
    decisionsFor input c (rules ++ [rule]) = decisionsFor input c rules := by
  have hnone : decisionsFor input c [rule] = [] := by simp [decisionsFor, h]
  rw [decisionsFor_append, hnone, List.append_nil]

theorem decisionsFor_same (h : filteredOut input rule.decision = false) :
    decisionsFor input rule.capability (rules ++ [rule])
      = decisionsFor input rule.capability rules ++ [applyDefaults rule.decision] := by
  have hone : decisionsFor input rule.capability [rule] = [applyDefaults rule.decision] := by
    simp [decisionsFor, h]
  rw [decisionsFor_append, hone]

theorem decisionsFor_other {c : Capability} (h : c ≠ rule.capability) :
    decisionsFor input c (rules ++ [rule]) = decisionsFor input c rules := by
  have hnone : decisionsFor input c [rule] = [] := by simp [decisionsFor, Ne.symm h]
  rw [decisionsFor_append, hnone, List.append_nil]

variable {out : EvaluatorOutput}

/-- A rule that is merged keeps the state of the loop. -/
theorem Evaluated.set {d : Decision} (h : Evaluated input rules out)
    (hfilter : filteredOut input rule.decision = false) (hne : ValuesNonempty rule.decision)
    (hmerged : MergedFrom
      (decisionsFor input rule.capability rules ++ [applyDefaults rule.decision]) d)
    (hdeploy : MergedDeploy ((decisionsFor input rule.capability rules ++
      [applyDefaults rule.decision]).map Decision.deploy) d.deploy) (hcompatible : Compatible
      (decisionsFor input rule.capability rules ++ [applyDefaults rule.decision]))
    (policies : List DecisionPolicy) :
    Evaluated input (rules ++ [rule]) { out with
      policies := policies, configDecisions := out.configDecisions.set rule.capability d } := by
  refine ⟨⟨h.merged.set hfilter hmerged policies, h.not_valid⟩, ?_, ?_, ?_⟩
  · intro c d' hlookup
    by_cases hcap : c = rule.capability
    · subst hcap
      obtain rfl := Option.some.inj ((AList.lookup_insert _).symm.trans hlookup)
      rw [decisionsFor_same hfilter]
      exact hdeploy
    · rw [decisionsFor_other hcap]
      exact h.deploy c d' ((AList.lookup_insert_ne hcap).symm.trans hlookup)
  · intro c
    by_cases hcap : c = rule.capability
    · subst hcap
      rw [decisionsFor_same hfilter]
      exact hcompatible
    · rw [decisionsFor_other hcap]
      exact h.compatible c
  · exact List.forall_mem_append.2 ⟨h.nonempty, List.forall_mem_singleton.2 hne⟩

/-- One rule: it makes a conflict exactly if its decision is not compatible with those of
the rules before it. -/
theorem addRule_decides (h : Evaluated input rules out) (hne : ValuesNonempty rule.decision) :
    (∃ out', addRule input out rule = .ok out' ∧ Evaluated input (rules ++ [rule]) out') ∨
      ∃ result, addRule input out rule = .error result ∧
        LeftInvalid result ∧ ¬ RulesCompatible input (rules ++ [rule]) := by
  have hmerged := h.merged rule.capability
  have hall : ∀ rule' ∈ rules ++ [rule], ValuesNonempty rule'.decision :=
    List.forall_mem_append.2 ⟨h.nonempty, List.forall_mem_singleton.2 hne⟩
  rcases addRule_cases input out rule with ⟨hfilter, hadd⟩ |
    ⟨hfilter, ⟨hlookup, hadd⟩ | ⟨old, hlookup, hmerge⟩⟩
  · refine Or.inl ⟨out, hadd, ⟨fun c => ?_, h.not_valid⟩, fun c => ?_, fun c => ?_, hall⟩
    · rw [decisionsFor_filtered hfilter]
      exact h.merged c
    · rw [decisionsFor_filtered hfilter]
      exact h.deploy c
    · rw [decisionsFor_filtered hfilter]
      exact h.compatible c
  · rw [hlookup] at hmerged
    simp only at hmerged
    refine Or.inl ⟨_, hadd, h.set hfilter hne ?_ ?_ ?_ _⟩ <;> rw [hmerged, List.nil_append]
    · exact mergedFrom_single _
    · exact mergedDeploy_single _
    · exact compatible_single (valuesNonempty_applyDefaults hne)
  · rw [hlookup] at hmerged
    simp only at hmerged
    have hdeploy := h.deploy rule.capability old hlookup
    have hiff := exists_merge_iff (applyDefaults rule.decision) hmerged hdeploy
      (h.compatible rule.capability)
      (by rw [← decisionsFor_same hfilter]; exact valuesNonempty_decisionsFor hall)
    rcases hmerge with ⟨merged, hok, hadd⟩ | ⟨left, herr, hadd⟩
    · refine Or.inl ⟨_, hadd, h.set hfilter hne (MergedFrom.merge hmerged hok) ?_
        (hiff.1 ⟨merged, hok⟩) _⟩
      obtain ⟨deploy, _, _, _, hdeploy', -, -, -, rfl⟩ := merge_eq_ok_iff.1 hok
      rw [List.map_append]
      exact hdeploy.merge hdeploy'
    · refine Or.inr ⟨_, hadd, h.not_valid, fun hcompatible => ?_⟩
      have hsame := hcompatible rule.capability
      rw [decisionsFor_same hfilter] at hsame
      obtain ⟨merged, hok⟩ := hiff.2 hsame
      cases herr.symm.trans hok

/-- The loop over the rules comes to its end exactly if there is no conflict. -/
theorem foldlM_addRule (hne : ∀ rule ∈ rules, ValuesNonempty rule.decision)
    (hout : Evaluated input [] out) :
    (RulesCompatible input rules ∧
      ∃ out', rules.foldlM (addRule input) out = .ok out' ∧ Evaluated input rules out') ∨
    ¬ RulesCompatible input rules ∧
      ∃ result, rules.foldlM (addRule input) out = .error result ∧ LeftInvalid result := by
  refine Loops.foldlM_decides (P := Evaluated input) (C := RulesCompatible input)
    (Q := LeftInvalid) (fun l l' h c => ?_) (fun l s h => h.compatible)
    (fun l s rule hrule h => addRule_decides h (hne rule hrule))
    [] hout
  have hc := h c
  rw [decisionsFor_append] at hc
  exact hc.of_append

end

/-! ## The order of the rules -/

namespace RegoPolicyEvaluator

variable {r : RegoPolicyEvaluator} {input : EvaluatorInput}

/-- The result set is a list of rules: there is a result, and every value passes the check
of its structure and can be read. -/
structure Readable (r : RegoPolicyEvaluator) (rs : List (List Json)) : Prop where
  ne_nil : rs ≠ []
  valid : ∀ value ∈ rs.flatten, r.validateStructure value = none
  read : ∀ value ∈ rs.flatten, ∃ rules, r.unmarshal value = .ok rules

instance (r : RegoPolicyEvaluator) (rs : List (List Json)) : Decidable (r.Readable rs) :=
  decidable_of_iff (rs ≠ [] ∧ (∀ value ∈ rs.flatten, r.validateStructure value = none) ∧
      ∀ value ∈ rs.flatten, (r.unmarshal value).toOption.isSome = true) <| by
    refine ⟨fun ⟨hne, hvalid, hread⟩ => ⟨hne, hvalid, fun value hvalue => ?_⟩,
      fun h => ⟨h.ne_nil, h.valid, fun value hvalue => ?_⟩⟩
    · have hsome := hread value hvalue
      cases hrules : r.unmarshal value with
      | error err => simp [hrules, Except.toOption] at hsome
      | ok rules => exact ⟨rules, rfl⟩
    · obtain ⟨rules, hrules⟩ := h.read value hvalue
      rw [hrules]
      rfl

variable {rs : List (List Json)}

/-- The loops over results, expressions and rules are one loop over all rules. -/
theorem getOPADecisions_eq (h : r.Readable rs) (out : EvaluatorOutput) :
    r.getOPADecisions input rs out =
      match (r.rulesOf rs.flatten).foldlM (addRule input) { out with valid := false } with
      | .error result => result
      | .ok out => ({ out with valid := true }, none) := by
  have hvalues : ∀ values : List Json, (∀ value ∈ values, value ∈ rs.flatten) → ∀ out,
      values.foldlM (r.addExpression input) out
        = (r.rulesOf values).foldlM (addRule input) out := by
    intro values hsub out
    refine Loops.foldlM_flatMap (fun value hvalue out => ?_) out
    obtain ⟨rules, hrules⟩ := h.read value (hsub value hvalue)
    simp only [addExpression, h.valid value (hsub value hvalue), hrules]
    rfl
  have hresults : rs.foldlM (fun out expressions => expressions.foldlM (r.addExpression input) out)
      { out with valid := false }
      = (r.rulesOf rs.flatten).foldlM (addRule input) { out with valid := false } := by
    rw [← hvalues rs.flatten (fun _ hvalue => hvalue)]
    have hflat : rs.foldlM (fun out expressions => expressions.foldlM (r.addExpression input) out)
        { out with valid := false }
        = (rs.flatMap id).foldlM (r.addExpression input) { out with valid := false } :=
      Loops.foldlM_flatMap (fun _ _ _ => rfl) _
    rw [hflat, List.flatMap_id]
  have hne : ¬ rs.isEmpty = true := fun hempty => h.ne_nil (List.isEmpty_iff.1 hempty)
  rw [← hresults]
  exact if_neg hne

/-- The restrictions have the same keys with the same sets of values. -/
def SameRestriction (r r' : Restriction) : Prop :=
  ∀ key, Option.Rel (fun values values' => ∀ v, v ∈ values ↔ v ∈ values')
    ((r.getD ∅).lookup key) ((r'.getD ∅).lookup key)

/-- The decisions are the same up to the order of values. -/
structure SameDecision (d d' : Decision) : Prop where
  deploy : d.deploy = d'.deploy
  clusters : SameRestriction d.deploymentRestrictions.clusters d'.deploymentRestrictions.clusters
  modules : SameRestriction d.deploymentRestrictions.modules d'.deploymentRestrictions.modules
  storageAccounts : SameRestriction d.deploymentRestrictions.storageAccounts
    d'.deploymentRestrictions.storageAccounts

/-- Decisions merged from the same ones are the same. -/
theorem sameDecision_of_perm {ds' : List Decision} {d d' : Decision} (hperm : ds.Perm ds')
    (h : MergedFrom ds d) (h' : MergedFrom ds' d')
    (hdeploy : MergedDeploy (ds.map Decision.deploy) d.deploy)
    (hdeploy' : MergedDeploy (ds'.map Decision.deploy) d'.deploy) : SameDecision d d' where
  deploy := hdeploy.unique hdeploy' fun _ => (hperm.map _).mem_iff
  clusters := h.clusters.lookup_rel h'.clusters (mem_requirements_congr hperm _)
  modules := h.modules.lookup_rel h'.modules (mem_requirements_congr hperm _)
  storageAccounts :=
    h.storageAccounts.lookup_rel h'.storageAccounts (mem_requirements_congr hperm _)

variable {rules rules' : List DecisionPerCapability}

theorem decisionsFor_perm (h : rules.Perm rules') (c : Capability) :
    (decisionsFor input c rules).Perm (decisionsFor input c rules') :=
  (h.filter _).map _

variable {out : EvaluatorOutput}

/-- There is a decision for the capabilities with a rule. -/
theorem lookup_eq_none_iff (h : Evaluated input rules out) (c : Capability) :
    out.configDecisions.lookup c = none ↔ decisionsFor input c rules = [] := by
  have hmerged := h.merged c
  cases hlookup : out.configDecisions.lookup c with
  | none =>
    rw [hlookup] at hmerged
    exact iff_of_true rfl hmerged
  | some d =>
    have hne := (h.deploy c d hlookup).ne_nil
    exact iff_of_false (by simp) fun hnil => hne (by rw [hnil, List.map_nil])

/-- Two outputs evaluated from the same rules have the same decisions. -/
theorem rel_of_perm {out' : EvaluatorOutput} (h : Evaluated input rules out)
    (h' : Evaluated input rules' out') (hperm : rules.Perm rules') (c : Capability) :
    Option.Rel SameDecision (out.configDecisions.lookup c) (out'.configDecisions.lookup c) := by
  have hds : (decisionsFor input c rules).Perm (decisionsFor input c rules') :=
    decisionsFor_perm hperm c
  have hnone : out.configDecisions.lookup c = none ↔ out'.configDecisions.lookup c = none := by
    rw [lookup_eq_none_iff h, lookup_eq_none_iff h', ← List.length_eq_zero_iff, hds.length_eq,
      List.length_eq_zero_iff]
  have hmerged := h.merged c
  have hmerged' := h'.merged c
  cases hlookup : out.configDecisions.lookup c with
  | none =>
    rw [hnone.1 hlookup]
    exact .none
  | some d =>
    cases hlookup' : out'.configDecisions.lookup c with
    | none => exact absurd ((hnone.2 hlookup').symm.trans hlookup) (by simp)
    | some d' =>
      rw [hlookup] at hmerged
      rw [hlookup'] at hmerged'
      exact .some (sameDecision_of_perm hds hmerged hmerged' (h.deploy c d hlookup)
        (h'.deploy c d' hlookup'))

theorem evaluated_newOutput : Evaluated input [] { newOutput input with valid := false } :=
  ⟨⟨fun _ => rfl, rfl⟩, fun _ _ h => absurd h (by simp [newOutput]), fun _ => compatible_nil,
    nofun⟩

/-- The output is valid exactly if there is no conflict, and is then evaluated from all
rules. -/
theorem getOPADecisions_spec (input : EvaluatorInput) (h : r.Readable rs)
    (hne : ∀ rule ∈ r.rulesOf rs.flatten, ValuesNonempty rule.decision) :
    ((r.getOPADecisions input rs (newOutput input)).1.valid = true ↔
      RulesCompatible input (r.rulesOf rs.flatten)) ∧
    ((r.getOPADecisions input rs (newOutput input)).1.valid = true →
      ∃ out, Evaluated input (r.rulesOf rs.flatten) out ∧
        (r.getOPADecisions input rs (newOutput input)).1 = { out with valid := true }) := by
  rw [getOPADecisions_eq h]
  rcases foldlM_addRule hne evaluated_newOutput with ⟨hcompatible, out, hloop, hout⟩ |
    ⟨hconflict, result, hloop, hinvalid⟩
  · rw [hloop]
    exact ⟨iff_of_true rfl hcompatible, fun _ => ⟨out, hout, rfl⟩⟩
  · rw [hloop]
    have hvalid : result.1.valid = false := hinvalid
    exact ⟨iff_of_false (by simp [hvalid]) hconflict,
      fun htrue => absurd (hvalid.symm.trans htrue) (by simp)⟩

theorem rulesCompatible_of_perm (h : rules.Perm rules')
    (hcompatible : RulesCompatible input rules) : RulesCompatible input rules' :=
  fun c => compatible_of_perm (decisionsFor_perm h c) (hcompatible c)

/-- The order of the rules, within an expression, over the expressions or over the results,
makes no difference: the output is valid or not, and a valid one has decisions for the same
capabilities, which are the same up to the order of values. -/
theorem getOPADecisions_perm (r : RegoPolicyEvaluator) (input : EvaluatorInput)
    (rs rs' : List (List Json)) (h : r.Readable rs) (h' : r.Readable rs')
    (hperm : (r.rulesOf rs.flatten).Perm (r.rulesOf rs'.flatten))
    (hne : ∀ rule ∈ r.rulesOf rs.flatten, ValuesNonempty rule.decision) :
    (r.getOPADecisions input rs (newOutput input)).1.valid
        = (r.getOPADecisions input rs' (newOutput input)).1.valid ∧
      ((r.getOPADecisions input rs (newOutput input)).1.valid = true →
        ∀ capability, Option.Rel SameDecision
          ((r.getOPADecisions input rs (newOutput input)).1.configDecisions.lookup capability)
          ((r.getOPADecisions input rs' (newOutput input)).1.configDecisions.lookup
            capability)) := by
  have hne' : ∀ rule ∈ r.rulesOf rs'.flatten, ValuesNonempty rule.decision :=
    fun rule hrule => hne rule (hperm.mem_iff.2 hrule)
  obtain ⟨hvalid, hout⟩ := getOPADecisions_spec input h hne
  obtain ⟨hvalid', hout'⟩ := getOPADecisions_spec input h' hne'
  have hsame := hvalid.trans ((⟨rulesCompatible_of_perm hperm,
    rulesCompatible_of_perm hperm.symm⟩ : _ ↔ _).trans hvalid'.symm)
  refine ⟨Bool.eq_iff_iff.2 hsame, fun htrue capability => ?_⟩
  obtain ⟨out, hevaluated, heq⟩ := hout htrue
  obtain ⟨out', hevaluated', heq'⟩ := hout' (hsame.1 htrue)
  rw [heq, heq']
  exact rel_of_perm hevaluated hevaluated' hperm capability

/-- A rule of a policy set for copying, with the clusters it admits. -/
def copyRule (policySetID : String) (deploy : DeploymentStatus) (names : List String) :
    DecisionPerCapability :=
  ⟨"copy", ⟨deploy, ⟨some (GoMap.ofList [("name", names)]), none, none⟩,
    ⟨"", policySetID, "", ""⟩⟩⟩

/-- An evaluator that reads the string "2" as a rule of the policy set 2, for instance. -/
def copyEvaluator : RegoPolicyEvaluator :=
  { prepareInputForOPA := fun _ => .ok .null
    query := fun _ => .ok []
    validateStructure := fun _ => none
    unmarshal := fun value =>
      if value = .str "" then .ok [copyRule "" .unset ["clusterB", "clusterC", "clusterD"]]
      else if value = .str "1" then .ok [copyRule "1" .statusTrue ["clusterC", "clusterB"]]
      else if value = .str "2" then .ok [copyRule "2" .statusFalse ["clusterC"]]
      else .error "unknown field" }

/-- Two rules the one way and the other: copying goes to one of the clusters B and C, in
this order or the other. -/
theorem getOPADecisions_perm_copy :
    (copyEvaluator.getOPADecisions default [[.str "", .str "1"]] (newOutput default)).1.valid
      = true ∧
    Option.Rel SameDecision
      ((copyEvaluator.getOPADecisions default [[.str "", .str "1"]]
        (newOutput default)).1.configDecisions.lookup "copy")
      ((copyEvaluator.getOPADecisions default [[.str "1"], [.str ""]]
        (newOutput default)).1.configDecisions.lookup "copy") := by
  have hvalid : (copyEvaluator.getOPADecisions default [[.str "", .str "1"]]
      (newOutput default)).1.valid = true := by decide
  exact ⟨hvalid, (getOPADecisions_perm copyEvaluator default [[.str "", .str "1"]]
    [[.str "1"], [.str ""]] (by decide) (by decide) (by decide) (by decide)).2 hvalid "copy"⟩

/-! ## Other policy sets -/

/-- The rules that count for a policy set: those of the set and those of no set. -/
def ofPolicySet (policySetID : String) (rule : DecisionPerCapability) : Bool :=
  rule.decision.policy.policySetID == "" || rule.decision.policy.policySetID == policySetID

theorem filteredOut_of_other {rule : DecisionPerCapability} (hset : input.workload.policySetID ≠ "")
    (h : ofPolicySet input.workload.policySetID rule = false) :
    filteredOut input rule.decision = true := by
  simp only [ofPolicySet, Bool.or_eq_false_iff, beq_eq_false_iff_ne] at h
  simp [filteredOut, h.1, h.2, hset]

/-- Rules of other policy sets make no difference to anything in the output, wherever they
stand among the others. -/
theorem getOPADecisions_filter (r : RegoPolicyEvaluator) (input : EvaluatorInput)
    (rs rs' : List (List Json)) (h : r.Readable rs) (h' : r.Readable rs')
    (hset : input.workload.policySetID ≠ "")
    (hrules : r.rulesOf rs'.flatten
      = (r.rulesOf rs.flatten).filter (ofPolicySet input.workload.policySetID))
    (out : EvaluatorOutput) :
    r.getOPADecisions input rs' out = r.getOPADecisions input rs out := by
  rw [getOPADecisions_eq h, getOPADecisions_eq h', hrules, Loops.foldlM_filter_of_skip]
  intro rule hother out
  rw [addRule, if_pos (filteredOut_of_other hset hother)]

/-- An application that asks for the policy set 1. -/
def inputOfSet1 : EvaluatorInput :=
  { (default : EvaluatorInput) with
    workload := { (default : WorkloadInfo) with policySetID := "1" } }

/-- The rule of the policy set 2 would be in conflict with the one of the policy set 1. -/
theorem getOPADecisions_filter_set1 :
    (copyEvaluator.getOPADecisions default [[.str "2", .str "1"], [.str "", .str "2"]]
      (newOutput default)).1.valid = false ∧
    copyEvaluator.getOPADecisions inputOfSet1 [[.str "1"], [.str ""]] (newOutput inputOfSet1)
      = copyEvaluator.getOPADecisions inputOfSet1 [[.str "2", .str "1"], [.str "", .str "2"]]
        (newOutput inputOfSet1) :=
  ⟨by decide, getOPADecisions_filter copyEvaluator inputOfSet1
    [[.str "2", .str "1"], [.str "", .str "2"]] [[.str "1"], [.str ""]] (by decide) (by decide)
    (by decide) (by decide) (newOutput inputOfSet1)⟩

end RegoPolicyEvaluator

end Fybrik
