import Fybrik.Lib.ValueLists
import Fybrik.Select.Validate

/-!
# The evaluator of configuration policies

`rego_file_evaluator.go`: the administrator's rules are evaluated for a dataset,
and the decisions of the rules for one capability are merged into one.

* `merge` — two decisions for a capability; `mergeRestrictions` works on the maps
  of the older one in place, so a conflict leaves them half merged.
* `getOPADecisions`, `evaluate` — the loop over the result of the query and the
  evaluator as a whole.
* `MergedFrom` — what a merged decision has to do with the rules it comes from;
  `getOPADecisions_merged` says that every decision of a valid output is so
  related to the rules that were not filtered out.
* `getOPADecisions_conjunction_iff` — when a cluster passes the merged
  restrictions exactly if it passes those of each rule.
-/

namespace Fybrik

/-! ## What the evaluator is given -/

/-- `WorkloadInfo`. -/
structure WorkloadInfo where
  uuid : String
  policySetID : String
  cluster : Cluster
  properties : GoMap String Json
  deriving DecidableEq, Inhabited

/-- `DataRequest`. -/
structure DataRequest where
  datasetID : String
  interface : InterfaceDetails
  usage : GoMap DataFlow Bool
  metadata : ResourceMetadata
  deriving DecidableEq, Inhabited

/-- `EvaluatorInput`. -/
structure EvaluatorInput where
  workload : WorkloadInfo
  request : DataRequest
  governanceActions : List Action
  deriving DecidableEq, Inhabited

/-- The evaluator: the prepared query, and how its input is written and the
values of its result are read.  A result set is a list of results, each a list
of expression values. -/
structure RegoPolicyEvaluator where
  prepareInputForOPA : EvaluatorInput → Except String Json
  query : Json → Except String (List (List Json))
  /-- The check of a value against the schema of the rules. -/
  validateStructure : Json → Option String
  /-- Reading the rules from a value. -/
  unmarshal : Json → Except String (List DecisionPerCapability)
  deriving Inhabited

/-! ## Merging two decisions -/

/-- `Intersection`: the elements of the first list that are in the second. -/
def intersection (set1 set2 : List String) : List String :=
  set1.filter fun elem1 => set2.any fun elem2 => elem1 == elem2

/-- `mergeRestrictions`: the entries of the new restriction are written into the
map of the old one.  Also returned is whether the loop came to its end. -/
def mergeRestrictions (r1 : GoMap String (List String)) :
    List (String × List String) → GoMap String (List String) × Bool
  | [] => (r1, true)
  | (key, values) :: r2 =>
    if (r1.get key).isEmpty then mergeRestrictions (r1.set key values) r2
    else
      let common := intersection (r1.get key) values
      if common.isEmpty then (r1.set key common, false)
      else mergeRestrictions (r1.set key common) r2

/-- The deployment decision of `merge`, or nothing in case of a conflict. -/
def mergeDeploy (newDeploy oldDeploy : DeploymentStatus) : Option DeploymentStatus :=
  if oldDeploy = .statusUnknown then some newDeploy
  else if newDeploy ≠ .statusUnknown then
    if newDeploy ≠ oldDeploy then none else some oldDeploy
  else some oldDeploy

/-- `merge`: the merged decision.  In case of a conflict, the old decision as it
is left behind: what was written into its maps stays, unless they were nil. -/
def merge (newDecision oldDecision : Decision) : Except Decision Decision :=
  match mergeDeploy newDecision.deploy oldDecision.deploy with
  | none => .error oldDecision
  | some deploy =>
    let old := oldDecision.deploymentRestrictions
    let new := newDecision.deploymentRestrictions
    let clusters := mergeRestrictions (old.clusters.getD ∅) new.clusters.pairs
    let old := { old with clusters := old.clusters.map fun _ => clusters.1 }
    if !clusters.2 then .error { oldDecision with deploymentRestrictions := old }
    else
      let modules := mergeRestrictions (old.modules.getD ∅) new.modules.pairs
      let old := { old with modules := old.modules.map fun _ => modules.1 }
      if !modules.2 then .error { oldDecision with deploymentRestrictions := old }
      else
        let storageAccounts :=
          mergeRestrictions (old.storageAccounts.getD ∅) new.storageAccounts.pairs
        let old := { old with storageAccounts := old.storageAccounts.map fun _ =>
          storageAccounts.1 }
        if !storageAccounts.2 then .error { oldDecision with deploymentRestrictions := old }
        else .ok { deploy := deploy
                   deploymentRestrictions :=
                     ⟨some clusters.1, some modules.1, some storageAccounts.1⟩
                   policy := default }

/-! ## The loop over the rules -/

/-- The rule belongs to another policy set than the one the workload asks for. -/
def filteredOut (input : EvaluatorInput) (decision : Decision) : Bool :=
  decision.policy.policySetID != "" && input.workload.policySetID != "" &&
    decision.policy.policySetID != input.workload.policySetID

/-- The defaults for undefined fields of a decision. -/
def applyDefaults (decision : Decision) : Decision :=
  if decision.deploy = .unset then { decision with deploy := .statusUnknown } else decision

/-- One turn of the inner loop of `getOPADecisions`.  It is left with an output
and an error when the function returns there; a conflict is no error. -/
def addRule (input : EvaluatorInput) (out : EvaluatorOutput) (rule : DecisionPerCapability) :
    Except (EvaluatorOutput × Option String) EvaluatorOutput :=
  if filteredOut input rule.decision then .ok out
  else
    let newDecision := applyDefaults rule.decision
    let policies := out.policies ++ [newDecision.policy]
    match out.configDecisions.lookup rule.capability with
    | none => .ok { out with
        policies := policies, configDecisions := out.configDecisions.set rule.capability newDecision }
    | some decision =>
      match merge newDecision decision with
      | .error left => .error ({ out with
          policies := policies, configDecisions := out.configDecisions.set rule.capability left },
          none)
      | .ok merged => .ok { out with
          policies := policies, configDecisions := out.configDecisions.set rule.capability merged }

namespace RegoPolicyEvaluator

variable (r : RegoPolicyEvaluator) (input : EvaluatorInput)

/-- One turn of the loop over the expressions. -/
def addExpression (out : EvaluatorOutput) (value : Json) :
    Except (EvaluatorOutput × Option String) EvaluatorOutput :=
  match r.validateStructure value with
  | some err => .error (out, some err)
  | none =>
    match r.unmarshal value with
    | .error err => .error (out, some ("Unexpected OPA response structure: " ++ err))
    | .ok rules => rules.foldlM (addRule input) out

/-- `getOPADecisions`: the output and the error. -/
def getOPADecisions (rs : List (List Json)) (out : EvaluatorOutput) :
    EvaluatorOutput × Option String :=
  let out := { out with valid := false }
  if rs.isEmpty then
    (out, some "invalid opa evaluation - an empty result set has been received")
  else
    match rs.foldlM (fun out expressions => expressions.foldlM (r.addExpression input) out) out with
    | .error result => result
    | .ok out => ({ out with valid := true }, none)

/-- The output `Evaluate` starts from. -/
def newOutput : EvaluatorOutput :=
  { valid := false
    datasetID := input.request.datasetID
    uuid := input.workload.uuid
    policySetID := input.workload.policySetID
    configDecisions := ∅
    policies := [] }

/-- `Evaluate`. -/
def evaluate : EvaluatorOutput × Option String :=
  match r.prepareInputForOPA input with
  | .error err => (default, some ("failed to prepare an input for OPA: " ++ err))
  | .ok opaInput =>
    match r.query opaInput with
    | .error err => (default, some ("failed to evaluate a query: " ++ err))
    | .ok rs => r.getOPADecisions input rs (newOutput input)

end RegoPolicyEvaluator

/-! ## What merging does to the restrictions -/

open ValueLists

theorem mem_intersection {set1 set2 : List String} {v : String} :
    v ∈ intersection set1 set2 ↔ v ∈ set1 ∧ v ∈ set2 := by
  simp [intersection]

/-- Merging adds the requirements of the new restriction, one after the other. -/
theorem mergeRestrictions_summarises {m m' : GoMap String (List String)}
    {l r2 : List (String × List String)} (h : Summarises m l)
    (hm : mergeRestrictions m r2 = (m', true)) : Summarises m' (l ++ r2) := by
  induction r2 generalizing m l with
  | nil =>
    obtain rfl : m = m' := (Prod.mk.inj hm).1
    rwa [List.append_nil]
  | cons kv r2 ih =>
    obtain ⟨key, values⟩ := kv
    rw [← List.singleton_append, ← List.append_assoc]
    rw [mergeRestrictions] at hm
    split at hm
    · rename_i hempty
      exact ih (h.assign (List.isEmpty_iff.1 hempty)) hm
    · simp only at hm
      split at hm
      · exact absurd (Prod.mk.inj hm).2 Bool.false_ne_true
      · rename_i hcommon
        refine ih (h.intersect (fun v => mem_intersection) ?_) hm
        simpa using hcommon

/-- The requirements that some decisions put on the clusters. -/
def requirements (field : Restrictions → Restriction) (decisions : List Decision) :
    List (String × List String) :=
  decisions.flatMap fun d => (field d.deploymentRestrictions).pairs

/-- The restrictions of a decision stand for those of the decisions it comes
from. -/
structure MergedFrom (decisions : List Decision) (d : Decision) : Prop where
  clusters : Summarises (d.deploymentRestrictions.clusters.getD ∅)
    (requirements Restrictions.clusters decisions)
  modules : Summarises (d.deploymentRestrictions.modules.getD ∅)
    (requirements Restrictions.modules decisions)
  storageAccounts : Summarises (d.deploymentRestrictions.storageAccounts.getD ∅)
    (requirements Restrictions.storageAccounts decisions)

theorem mergedFrom_single (d : Decision) : MergedFrom [d] d := by
  constructor <;>
    simpa only [requirements, List.flatMap_singleton, Restriction.pairs] using summarises_pairs _

theorem requirements_append (field : Restrictions → Restriction) (ds : List Decision)
    (d : Decision) : requirements field (ds ++ [d])
      = requirements field ds ++ (field d.deploymentRestrictions).pairs := by
  rw [requirements, List.flatMap_append, List.flatMap_singleton]
  rfl

/-- A merge without a conflict: none of its parts has one. -/
theorem merge_eq_ok_iff {newDecision oldDecision merged : Decision} :
    merge newDecision oldDecision = .ok merged ↔
    ∃ deploy clusters modules storageAccounts,
      mergeDeploy newDecision.deploy oldDecision.deploy = some deploy ∧
      mergeRestrictions (oldDecision.deploymentRestrictions.clusters.getD ∅)
        newDecision.deploymentRestrictions.clusters.pairs = (clusters, true) ∧
      mergeRestrictions (oldDecision.deploymentRestrictions.modules.getD ∅)
        newDecision.deploymentRestrictions.modules.pairs = (modules, true) ∧
      mergeRestrictions (oldDecision.deploymentRestrictions.storageAccounts.getD ∅)
        newDecision.deploymentRestrictions.storageAccounts.pairs = (storageAccounts, true) ∧
      merged = ⟨deploy, ⟨some clusters, some modules, some storageAccounts⟩, default⟩ := by
  unfold merge
  constructor
  · intro h
    simp only at h
    split at h
    · cases h
    · split at h
      · cases h
      · split at h
        · cases h
        · split at h
          · cases h
          · rename_i deploy hdeploy hc hm hs
            cases h
            simp only [Bool.not_eq_true', Bool.not_eq_false] at hc hm hs
            exact ⟨deploy, _, _, _, hdeploy, Prod.ext rfl hc, Prod.ext rfl hm, Prod.ext rfl hs, rfl⟩
  · rintro ⟨deploy, clusters, modules, storageAccounts, hdeploy, hc, hm, hs, rfl⟩
    simp only [hdeploy, hc, hm, hs]
    rfl

theorem MergedFrom.merge {ds : List Decision} {newDecision oldDecision merged : Decision}
    (hold : MergedFrom ds oldDecision) (h : merge newDecision oldDecision = .ok merged) :
    MergedFrom (ds ++ [newDecision]) merged := by
  obtain ⟨deploy, clusters, modules, storageAccounts, -, hc, hm, hs, rfl⟩ := merge_eq_ok_iff.1 h
  constructor <;> rw [requirements_append]
  · exact mergeRestrictions_summarises hold.clusters hc
  · exact mergeRestrictions_summarises hold.modules hm
  · exact mergeRestrictions_summarises hold.storageAccounts hs

/-! ## What the loop does to the decisions -/

/-- The decisions of the rules for a capability that are not filtered out. -/
def decisionsFor (input : EvaluatorInput) (capability : Capability)
    (rules : List DecisionPerCapability) : List Decision :=
  (rules.filter fun rule =>
    !filteredOut input rule.decision && rule.capability == capability).map fun rule =>
      applyDefaults rule.decision

/-- The output has a decision exactly for the capabilities with a rule, and it is
merged from the decisions of the rules. -/
def OutputMerged (input : EvaluatorInput) (rules : List DecisionPerCapability)
    (out : EvaluatorOutput) : Prop :=
  ∀ c, match out.configDecisions.lookup c with
    | none => decisionsFor input c rules = []
    | some d => MergedFrom (decisionsFor input c rules) d

variable {input : EvaluatorInput} {rules : List DecisionPerCapability}

theorem decisionsFor_append {c : Capability} {rules' : List DecisionPerCapability} :
    decisionsFor input c (rules ++ rules')
      = decisionsFor input c rules ++ decisionsFor input c rules' := by
  simp [decisionsFor]

/-- What the loop maintains: the output is merged from the rules so far, and is
not marked valid yet. -/
structure Merging (input : EvaluatorInput) (rules : List DecisionPerCapability)
    (out : EvaluatorOutput) : Prop where
  merged : OutputMerged input rules out
  not_valid : out.valid = false

/-- What is returned from within the loop is not valid. -/
def LeftInvalid (result : EvaluatorOutput × Option String) : Prop := result.1.valid = false

/-- A decision for the capability of a rule that is merged from all rules so far
keeps the output merged. -/
theorem OutputMerged.set {out : EvaluatorOutput} {rule : DecisionPerCapability} {d : Decision}
    (h : OutputMerged input rules out) (hfilter : filteredOut input rule.decision = false)
    (hd : MergedFrom (decisionsFor input rule.capability rules ++ [applyDefaults rule.decision]) d)
    (policies : List DecisionPolicy) :
    OutputMerged input (rules ++ [rule]) { out with
      policies := policies, configDecisions := out.configDecisions.set rule.capability d } := by
  intro c
  simp only
  rw [decisionsFor_append]
  by_cases hcap : c = rule.capability
  · subst hcap
    have hone : decisionsFor input rule.capability [rule] = [applyDefaults rule.decision] := by
      simp [decisionsFor, hfilter]
    rw [AList.lookup_insert, hone]
    exact hd
  · have hnone : decisionsFor input c [rule] = [] := by
      simp [decisionsFor, Ne.symm hcap]
    rw [AList.lookup_insert_ne hcap, hnone, List.append_nil]
    exact h c

/-- One rule: it is ignored, it is the first for its capability, or it is merged
with what is there, with or without a conflict. -/
theorem addRule_cases (input : EvaluatorInput) (out : EvaluatorOutput)
    (rule : DecisionPerCapability) :
    (filteredOut input rule.decision = true ∧ addRule input out rule = .ok out) ∨
    filteredOut input rule.decision = false ∧
      ((out.configDecisions.lookup rule.capability = none ∧
        addRule input out rule = .ok { out with
          policies := out.policies ++ [(applyDefaults rule.decision).policy]
          configDecisions :=
            out.configDecisions.set rule.capability (applyDefaults rule.decision) }) ∨
      ∃ old, out.configDecisions.lookup rule.capability = some old ∧
        ((∃ merged, merge (applyDefaults rule.decision) old = .ok merged ∧
          addRule input out rule = .ok { out with
            policies := out.policies ++ [(applyDefaults rule.decision).policy]
            configDecisions := out.configDecisions.set rule.capability merged }) ∨
        ∃ left, merge (applyDefaults rule.decision) old = .error left ∧
          addRule input out rule = .error ({ out with
            policies := out.policies ++ [(applyDefaults rule.decision).policy]
            configDecisions := out.configDecisions.set rule.capability left }, none))) := by
  unfold addRule
  cases filteredOut input rule.decision with
  | true => exact Or.inl ⟨rfl, rfl⟩
  | false =>
    refine Or.inr ⟨rfl, ?_⟩
    rw [if_neg Bool.false_ne_true]
    cases out.configDecisions.lookup rule.capability with
    | none => exact Or.inl ⟨rfl, rfl⟩
    | some old =>
      refine Or.inr ⟨old, rfl, ?_⟩
      cases hmerge : merge (applyDefaults rule.decision) old with
      | ok merged => exact Or.inl ⟨merged, rfl, by simp only [hmerge]⟩
      | error left => exact Or.inr ⟨left, rfl, by simp only [hmerge]⟩

theorem addRule_ends {out : EvaluatorOutput} (h : Merging input rules out)
    (rule : DecisionPerCapability) :
    Loops.Ends (Merging input (rules ++ [rule])) LeftInvalid (addRule input out rule) := by
  have hc := h.merged rule.capability
  rcases addRule_cases input out rule with ⟨hfilter, hadd⟩ |
    ⟨hfilter, ⟨hlookup, hadd⟩ | ⟨old, hlookup, ⟨merged, hmerge, hadd⟩ | ⟨left, -, hadd⟩⟩⟩
  · rw [hadd]
    refine ⟨fun c => ?_, h.not_valid⟩
    have hnone : decisionsFor input c [rule] = [] := by simp [decisionsFor, hfilter]
    rw [decisionsFor_append, hnone, List.append_nil]
    exact h.merged c
  · rw [hadd]
    rw [hlookup] at hc
    refine ⟨h.merged.set hfilter ?_ _, h.not_valid⟩
    simp only at hc
    rw [hc]
    exact mergedFrom_single _
  · rw [hadd]
    rw [hlookup] at hc
    exact ⟨h.merged.set hfilter (MergedFrom.merge hc hmerge) _, h.not_valid⟩
  · rw [hadd]
    exact h.not_valid

namespace RegoPolicyEvaluator

variable {r : RegoPolicyEvaluator} {input : EvaluatorInput}

/-- The rules that the values of some expressions consist of. -/
def rulesOf (r : RegoPolicyEvaluator) (values : List Json) : List DecisionPerCapability :=
  values.flatMap fun value => (r.unmarshal value).toOption.getD []

theorem addExpression_ends {values : List Json} {out : EvaluatorOutput}
    (h : Merging input (r.rulesOf values) out) (value : Json) :
    Loops.Ends (Merging input (r.rulesOf (values ++ [value]))) LeftInvalid
      (r.addExpression input out value) := by
  unfold addExpression
  split
  · exact h.not_valid
  · split
    · exact h.not_valid
    · rename_i rules hrules
      rw [rulesOf, List.flatMap_append, List.flatMap_singleton, hrules]
      exact Loops.foldlM_ends (P := Merging input) (fun _ _ rule h => addRule_ends h rule)
        (r.rulesOf values) rules h

/-- The loop over the results and their expressions. -/
theorem addResults_ends {out : EvaluatorOutput} (h : Merging input [] out)
    (rs : List (List Json)) :
    Loops.Ends (Merging input (r.rulesOf rs.flatten)) LeftInvalid
      (rs.foldlM (fun out expressions => expressions.foldlM (r.addExpression input) out) out) := by
  refine Loops.foldlM_ends (P := fun results => Merging input (r.rulesOf results.flatten))
    (fun results out expressions h => ?_) [] rs h
  rw [List.flatten_append, List.flatten_singleton]
  exact Loops.foldlM_ends (P := fun values => Merging input (r.rulesOf values))
    (fun _ _ value h => addExpression_ends h value) results.flatten expressions h

/-- The decisions of a valid output are merged from the rules of the result set
that were not filtered out. -/
theorem getOPADecisions_merged {rs : List (List Json)}
    (hvalid : (r.getOPADecisions input rs (newOutput input)).1.valid = true) :
    OutputMerged input (r.rulesOf rs.flatten)
      (r.getOPADecisions input rs (newOutput input)).1 := by
  have hstart : Merging input [] { newOutput input with valid := false } := ⟨fun _ => rfl, rfl⟩
  have hends := addResults_ends (r := r) hstart rs
  unfold getOPADecisions at hvalid ⊢
  simp only at hvalid ⊢
  split at hvalid
  · exact absurd hvalid Bool.false_ne_true
  · rename_i hrs
    rw [if_neg hrs]
    split at hvalid
    · rename_i result hloop
      rw [hloop] at hends
      exact absurd (hends.symm.trans hvalid) Bool.false_ne_true
    · rename_i out hloop
      rw [hloop] at hends
      exact hends.merged

end RegoPolicyEvaluator

/-! ## Do the merged restrictions mean the conjunction of the rules? -/

/-- The value of a property of a cluster, if it has one. -/
def Cluster.property (cluster : Cluster) (key : String) : Option String :=
  (cluster.structToMap.nestedString (splitDots key)).toOption.join

variable {cluster : Cluster}

theorem satisfiesRestriction_iff {key : String} {values : List String} :
    satisfiesRestriction cluster key values = true ↔
      ∃ v, cluster.property key = some v ∧ v ∈ values := by
  unfold satisfiesRestriction Cluster.property
  cases cluster.structToMap.nestedString (splitDots key) with
  | error e => simp [Except.toOption]
  | ok value =>
    cases value with
    | none => simp [Except.toOption]
    | some v => simp [Except.toOption, hasString]

theorem satisfiesRestrictions_iff {restrictions : Restriction} :
    satisfiesRestrictions restrictions cluster = true ↔
      Admits cluster.property restrictions.pairs := by
  unfold satisfiesRestrictions Admits
  simp only [List.all_eq_true, satisfiesRestriction_iff]

/-- A rule that admits no value of a property is not lost among the rules for a
capability as far as the cluster is concerned: there is none, or the cluster
fails another rule anyway, or some property is only ever given empty lists. -/
def EmptyListsHarmless (rules : List Decision) (cluster : Cluster) : Prop :=
  (∀ d ∈ rules, ∀ key, (key, []) ∉ d.deploymentRestrictions.clusters.pairs) ∨
  (∃ d ∈ rules, ∃ key values, (key, values) ∈ d.deploymentRestrictions.clusters.pairs ∧
    values ≠ [] ∧ satisfiesRestriction cluster key values = false) ∨
  (∃ d ∈ rules, ∃ key values, (key, values) ∈ d.deploymentRestrictions.clusters.pairs ∧
    ∀ d' ∈ rules, ∀ values', (key, values') ∈ d'.deploymentRestrictions.clusters.pairs →
      values' = [])

theorem admits_requirements {rules : List Decision} :
    Admits cluster.property (requirements Restrictions.clusters rules) ↔
      ∀ d ∈ rules, satisfiesRestrictions d.deploymentRestrictions.clusters cluster = true := by
  simp only [satisfiesRestrictions_iff, Admits, requirements, List.mem_flatMap]
  constructor
  · intro h d hd kv hkv
    exact h kv ⟨d, hd, hkv⟩
  · rintro h kv ⟨d, hd, hkv⟩
    exact h d hd kv hkv

theorem emptyListsHarmless_iff {rules : List Decision} :
    EmptyListsHarmless rules cluster ↔
      (∀ k, (k, []) ∉ requirements Restrictions.clusters rules) ∨
      (∃ k us, (k, us) ∈ requirements Restrictions.clusters rules ∧ us ≠ [] ∧
        ¬ ∃ v, cluster.property k = some v ∧ v ∈ us) ∨
      ∃ k us, (k, us) ∈ requirements Restrictions.clusters rules ∧
        ∀ vs, (k, vs) ∈ requirements Restrictions.clusters rules → vs = [] := by
  unfold EmptyListsHarmless
  simp only [← satisfiesRestriction_iff, Bool.not_eq_true, requirements, List.mem_flatMap]
  refine or_congr ?_ (or_congr ?_ ?_)
  · constructor
    · rintro h k ⟨d, hd, hk⟩
      exact h d hd k hk
    · intro h d hd k hk
      exact h k ⟨d, hd, hk⟩
  · constructor
    · rintro ⟨d, hd, k, us, hk, hne, hfails⟩
      exact ⟨k, us, ⟨d, hd, hk⟩, hne, hfails⟩
    · rintro ⟨k, us, ⟨d, hd, hk⟩, hne, hfails⟩
      exact ⟨d, hd, k, us, hk, hne, hfails⟩
  · constructor
    · rintro ⟨d, hd, k, us, hk, hall⟩
      refine ⟨k, us, ⟨d, hd, hk⟩, ?_⟩
      rintro vs ⟨d', hd', hk'⟩
      exact hall d' hd' vs hk'
    · rintro ⟨k, us, ⟨d, hd, hk⟩, hall⟩
      exact ⟨d, hd, k, us, hk, fun d' hd' vs hk' => hall vs ⟨d', hd', hk'⟩⟩

/-- When the merged restrictions of a valid output mean the conjunction of the
rules: for every capability and every cluster, the cluster passes the merged
decision exactly if it passes that of each rule which was not filtered out,
exactly if no empty list of values is lost among the rules for that cluster. -/
theorem getOPADecisions_conjunction_iff (r : RegoPolicyEvaluator) (input : EvaluatorInput)
    (rs : List (List Json))
    (hvalid : (r.getOPADecisions input rs (RegoPolicyEvaluator.newOutput input)).1.valid = true)
    (item : DataInfo) (capability : Capability) (cluster : Cluster) :
    (validateClusterRestrictionsPerCapability { item with
        configuration := (r.getOPADecisions input rs (RegoPolicyEvaluator.newOutput input)).1 }
        capability cluster = true ↔
      ∀ d ∈ decisionsFor input capability (r.rulesOf rs.flatten),
        satisfiesRestrictions d.deploymentRestrictions.clusters cluster = true) ↔
    EmptyListsHarmless (decisionsFor input capability (r.rulesOf rs.flatten)) cluster := by
  have hmerged := RegoPolicyEvaluator.getOPADecisions_merged hvalid capability
  rw [validateClusterRestrictionsPerCapability, satisfiesRestrictions_iff,
    ← admits_requirements, emptyListsHarmless_iff]
  simp only
  cases hlookup : (r.getOPADecisions input rs
      (RegoPolicyEvaluator.newOutput input)).1.configDecisions.lookup capability with
  | none =>
    rw [hlookup] at hmerged
    simp only at hmerged
    rw [GoMap.get_of_lookup_none hlookup, hmerged]
    exact (summarises_pairs (∅ : GoMap String (List String))).conjunction_iff
  | some d =>
    rw [hlookup] at hmerged
    rw [GoMap.get_of_lookup hlookup]
    exact hmerged.clusters.conjunction_iff

/-- The result of a query with two rules for reading: the first admits no region
at all, the second the shire. -/
def noRegionValue : Json :=
  .obj [("config", .arr
    [.obj [("capability", .str "read"), ("decision", .obj [("restrictions", .obj
      [("clusters", .obj [("metadata.region", .arr [])])])])],
     .obj [("capability", .str "read"), ("decision", .obj [("restrictions", .obj
      [("clusters", .obj [("metadata.region", .arr [.str "theshire"])])])])]])]

/-- The rules this value is read as. -/
def noRegionRules : List DecisionPerCapability :=
  [⟨"read", ⟨.unset, ⟨some (GoMap.ofList [("metadata.region", [])]), none, none⟩, default⟩⟩,
   ⟨"read", ⟨.unset, ⟨some (GoMap.ofList [("metadata.region", ["theshire"])]), none, none⟩,
     default⟩⟩]

/-- An evaluator that finds these two rules. -/
def noRegionEvaluator : RegoPolicyEvaluator :=
  { prepareInputForOPA := fun _ => .ok .null
    query := fun _ => .ok [[noRegionValue]]
    validateStructure := fun _ => none
    unmarshal := fun value =>
      if value = noRegionValue then .ok noRegionRules else .error "unknown field" }

/-- A cluster in the lagoon fails the second rule, so that the empty list of the
first one makes no difference. -/
theorem getOPADecisions_conjunction_lagoon :
    (noRegionEvaluator.getOPADecisions default [[noRegionValue]]
      (RegoPolicyEvaluator.newOutput default)).1.valid = true ∧
    EmptyListsHarmless (decisionsFor default "read" noRegionRules)
      ⟨"lagoon", ⟨"neverland", "", ""⟩⟩ := by
  have hvalid : (noRegionEvaluator.getOPADecisions default [[noRegionValue]]
      (RegoPolicyEvaluator.newOutput default)).1.valid = true := by decide
  exact ⟨hvalid, (getOPADecisions_conjunction_iff noRegionEvaluator default [[noRegionValue]]
    hvalid default "read" ⟨"lagoon", ⟨"neverland", "", ""⟩⟩).1 (by decide)⟩

/-- A cluster in the shire passes the merged decision, although the first rule
admits no region. -/
theorem getOPADecisions_shire_not_conjunction :
    (noRegionEvaluator.getOPADecisions default [[noRegionValue]]
      (RegoPolicyEvaluator.newOutput default)).1.valid = true ∧
    validateClusterRestrictionsPerCapability { (default : DataInfo) with
        configuration := (noRegionEvaluator.getOPADecisions default [[noRegionValue]]
          (RegoPolicyEvaluator.newOutput default)).1 }
      "read" ⟨"hobbiton", ⟨"theshire", "", ""⟩⟩ = true ∧
    ∃ d ∈ decisionsFor default "read" (noRegionEvaluator.rulesOf [noRegionValue]),
      satisfiesRestrictions d.deploymentRestrictions.clusters
        ⟨"hobbiton", ⟨"theshire", "", ""⟩⟩ = false := by
  decide

end Fybrik
