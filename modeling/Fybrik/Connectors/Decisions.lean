import Fybrik.Connectors.Grpc
import Fybrik.Lib.Occurrence

/-!
# Merging the decisions of policy managers

`policymanager.go`: the decisions of several messages are put together, and then compacted, so
that there is one decision for each dataset and operation.

* `compactOperationDecisions`, `compactPolicyDecisions`, `mergePoliciesDecisions` — as in the
  source, with the lists of keys that its loops keep besides their maps.
* `joinOperations`, `joinDatasets` — what is made of all decisions for an operation, and for a
  dataset.
* `mergePoliciesDecisions_spec` — nothing is lost, and messages can be merged in parts.
-/

namespace Fybrik

/-- `ComponentVersion`. -/
structure ComponentVersion where
  name : String
  id : String
  version : String
  deriving DecidableEq, Inhabited, Repr

/-- `PoliciesDecisions` with the versions of components. -/
@[ext]
structure VersionedDecisions extends PoliciesDecisions where
  componentVersions : List ComponentVersion
  deriving DecidableEq, Inhabited

/-! ## The source -/

/-- `operationKeyType`: the type of an operation and its destination. -/
def operationKey (decision : OperationDecision) : AccessType × String :=
  (decision.operation.type, decision.operation.destination)

/-- The decision that is made for the first occurrence of an operation. -/
def emptyOperationDecision (operationDecision : OperationDecision) : OperationDecision where
  operation := operationDecision.operation
  enforcementActions := []
  usedPolicies := []

/-- The decisions for an operation are appended. -/
def appendOperationDecision (decision operationDecision : OperationDecision) :
    OperationDecision :=
  { decision with
    enforcementActions := decision.enforcementActions ++ operationDecision.enforcementActions
    usedPolicies := decision.usedPolicies ++ operationDecision.usedPolicies }

/-- `compactOperationDecisions`. -/
def compactOperationDecisions (decisions : List OperationDecision) : List OperationDecision :=
  if decisions.length = 0 then []
  else
    (decisions.foldl
      (Occurrence.Groups.add operationKey emptyOperationDecision appendOperationDecision)
      ⟨[], ∅⟩).values

/-- The decision that is made for the first occurrence of a dataset. -/
def emptyDatasetDecision (datasetDecision : DatasetDecision) : DatasetDecision where
  datasetID := datasetDecision.datasetID
  decisions := []

/-- The decisions for a dataset are appended. -/
def appendDatasetDecision (decision datasetDecision : DatasetDecision) : DatasetDecision :=
  { decision with decisions := decision.decisions ++ datasetDecision.decisions }

/-- `compactPolicyDecisions`. -/
def compactPolicyDecisions (decisions : VersionedDecisions) : VersionedDecisions where
  componentVersions := decisions.componentVersions
  generalDecisions := compactOperationDecisions decisions.generalDecisions
  datasetDecisions :=
    (decisions.datasetDecisions.foldl
      (Occurrence.Groups.add DatasetDecision.datasetID emptyDatasetDecision appendDatasetDecision)
      ⟨[], ∅⟩).values.map fun datasetDecision =>
        { datasetDecision with decisions := compactOperationDecisions datasetDecision.decisions }

/-- `MergePoliciesDecisions`. -/
def mergePoliciesDecisions (messages : List VersionedDecisions) : VersionedDecisions :=
  compactPolicyDecisions (messages.foldl (fun result decisions =>
    { componentVersions := result.componentVersions ++ decisions.componentVersions
      generalDecisions := result.generalDecisions ++ decisions.generalDecisions
      datasetDecisions := result.datasetDecisions ++ decisions.datasetDecisions }) default)

/-! ## Decisions for an operation and for a dataset -/

/-- What is made of decisions for an operation. -/
def joinOperations (key : AccessType × String) (decisions : List OperationDecision) :
    OperationDecision where
  operation := ⟨key.1, key.2⟩
  enforcementActions := decisions.flatMap OperationDecision.enforcementActions
  usedPolicies := decisions.flatMap OperationDecision.usedPolicies

/-- All decisions for a dataset. -/
def collectDatasets (datasetID : String) (decisions : List DatasetDecision) : DatasetDecision where
  datasetID := datasetID
  decisions := decisions.flatMap DatasetDecision.decisions

/-- What is made of decisions for a dataset. -/
def joinDatasets (datasetID : String) (decisions : List DatasetDecision) : DatasetDecision where
  datasetID := datasetID
  decisions := compactOperationDecisions (decisions.flatMap DatasetDecision.decisions)

theorem compactOperationDecisions_eq (decisions : List OperationDecision) :
    compactOperationDecisions decisions
      = Occurrence.compact operationKey joinOperations decisions := by
  unfold compactOperationDecisions
  split_ifs with hempty
  · rw [List.length_eq_zero_iff.1 hempty]
    rfl
  · refine Occurrence.values_foldl_add (fun a => ?_) (fun key l a => ?_) decisions
    · simp [joinOperations, operationKey, emptyOperationDecision, appendOperationDecision]
    · simp [joinOperations, appendOperationDecision]

/-- Operations can be compacted in parts. -/
theorem compactOperationDecisions_flatMap (parts : List (List OperationDecision)) :
    compactOperationDecisions (parts.flatMap compactOperationDecisions)
      = compactOperationDecisions parts.flatten := by
  have hcompact : compactOperationDecisions = Occurrence.compact operationKey joinOperations :=
    funext compactOperationDecisions_eq
  rw [hcompact]
  refine Occurrence.compact_flatMap (fun key l => rfl) (fun key parts => ?_) parts
  simp only [joinOperations, List.flatMap_map, Occurrence.flatMap_flatten]

/-- `compactPolicyDecisions` compacts the decisions for each dataset. -/
theorem datasetDecisions_compactPolicyDecisions (decisions : VersionedDecisions) :
    (compactPolicyDecisions decisions).datasetDecisions
      = Occurrence.compact DatasetDecision.datasetID joinDatasets decisions.datasetDecisions := by
  have hstart : ∀ d : DatasetDecision, appendDatasetDecision (emptyDatasetDecision d) d
      = collectDatasets d.datasetID [d] := by
    simp [collectDatasets, emptyDatasetDecision, appendDatasetDecision]
  have hextend : ∀ (datasetID : String) (l : List DatasetDecision) (d : DatasetDecision),
      appendDatasetDecision (collectDatasets datasetID l) d
        = collectDatasets datasetID (l ++ [d]) := by
    simp [collectDatasets, appendDatasetDecision]
  have hgroups := Occurrence.values_foldl_add hstart hextend decisions.datasetDecisions
  rw [compactPolicyDecisions]
  simp only [hgroups, Occurrence.compact, List.map_map]
  rfl

/-- Datasets can be compacted in parts. -/
theorem compact_joinDatasets_flatMap (parts : List (List DatasetDecision)) :
    Occurrence.compact DatasetDecision.datasetID joinDatasets
        (parts.flatMap (Occurrence.compact DatasetDecision.datasetID joinDatasets))
      = Occurrence.compact DatasetDecision.datasetID joinDatasets parts.flatten := by
  refine Occurrence.compact_flatMap (fun datasetID l => rfl) (fun datasetID parts => ?_) parts
  have hparts := compactOperationDecisions_flatMap
    (parts.map (List.flatMap DatasetDecision.decisions))
  rw [List.flatMap_map, ← List.flatMap_def, ← Occurrence.flatMap_flatten] at hparts
  simp only [joinDatasets, List.flatMap_map, hparts]

/-! ## Messages -/

/-- All messages in one. -/
def collectMessages (messages : List VersionedDecisions) : VersionedDecisions where
  componentVersions := messages.flatMap VersionedDecisions.componentVersions
  generalDecisions := messages.flatMap fun message => message.generalDecisions
  datasetDecisions := messages.flatMap fun message => message.datasetDecisions

variable (messages : List VersionedDecisions)

theorem mergePoliciesDecisions_eq :
    mergePoliciesDecisions messages = compactPolicyDecisions (collectMessages messages) := by
  rw [mergePoliciesDecisions]
  refine congrArg compactPolicyDecisions ?_
  induction messages using List.reverseRecOn with
  | nil => rfl
  | append_singleton messages message ih =>
    rw [List.foldl_append, ih]
    simp [collectMessages]

theorem componentVersions_merge :
    (mergePoliciesDecisions messages).componentVersions
      = messages.flatMap VersionedDecisions.componentVersions := by
  rw [mergePoliciesDecisions_eq]
  rfl

theorem generalDecisions_merge :
    (mergePoliciesDecisions messages).generalDecisions
      = compactOperationDecisions (messages.flatMap fun message => message.generalDecisions) := by
  rw [mergePoliciesDecisions_eq]
  rfl

theorem datasetDecisions_merge :
    (mergePoliciesDecisions messages).datasetDecisions
      = Occurrence.compact DatasetDecision.datasetID joinDatasets
          (messages.flatMap fun message => message.datasetDecisions) := by
  rw [mergePoliciesDecisions_eq, datasetDecisions_compactPolicyDecisions]
  rfl

/-- Messages can be merged in parts. -/
theorem mergePoliciesDecisions_map (parts : List (List VersionedDecisions)) :
    mergePoliciesDecisions (parts.map mergePoliciesDecisions)
      = mergePoliciesDecisions parts.flatten := by
  refine VersionedDecisions.ext ?_ ?_ ?_
  · have hparts := compact_joinDatasets_flatMap
      (parts.map (List.flatMap fun message => message.datasetDecisions))
    rw [List.flatMap_map, ← List.flatMap_def, ← Occurrence.flatMap_flatten] at hparts
    simp only [datasetDecisions_merge, List.flatMap_map, hparts]
  · have hparts := compactOperationDecisions_flatMap
      (parts.map (List.flatMap fun message => message.generalDecisions))
    rw [List.flatMap_map, ← List.flatMap_def, ← Occurrence.flatMap_flatten] at hparts
    simp only [generalDecisions_merge, List.flatMap_map, hparts]
  · simp only [componentVersions_merge, List.flatMap_map, Occurrence.flatMap_flatten]

/-- The decisions that the messages give for a dataset, in their order. -/
def givenFor (messages : List VersionedDecisions) (datasetID : String) :
    List OperationDecision :=
  ((messages.flatMap fun message => message.datasetDecisions).filter fun decision =>
    decision.datasetID = datasetID).flatMap DatasetDecision.decisions

/-- One decision for each operation, in the order of first occurrence, with everything that the
decisions say about it. -/
def PerOperation (decisions compacted : List OperationDecision) : Prop :=
  compacted.map operationKey = (decisions.map operationKey).eraseDups ∧
    ∀ decision ∈ compacted,
      decision.enforcementActions
        = (decisions.filter fun d => d.operation = decision.operation).flatMap
            OperationDecision.enforcementActions ∧
      decision.usedPolicies
        = (decisions.filter fun d => d.operation = decision.operation).flatMap
            OperationDecision.usedPolicies

theorem perOperation_compact (decisions : List OperationDecision) :
    PerOperation decisions (compactOperationDecisions decisions) := by
  rw [compactOperationDecisions_eq]
  have hbeq : (instBEqProd : BEq (AccessType × String)) = instBEqOfDecidableEq :=
    lawful_beq_subsingleton _ _
  refine ⟨?_, fun decision hdecision => ?_⟩
  · rw [hbeq]
    exact Occurrence.map_key_compact (fun key l => rfl) decisions
  obtain ⟨key, -, rfl⟩ := List.mem_map.1 hdecision
  have hoperation : ∀ d : OperationDecision,
      d.operation = (joinOperations key (decisions.filter fun a => operationKey a = key)).operation
        ↔ operationKey d = key := by
    intro d
    obtain ⟨⟨type, destination⟩, _, _⟩ := d
    simp [joinOperations, operationKey, Prod.ext_iff]
  simp only [hoperation]
  exact ⟨rfl, rfl⟩

/-- **Compacting decisions loses nothing, and can be done in parts.**  There is one decision for
each dataset, and within it one for each operation, in the order of first occurrence. -/
theorem mergePoliciesDecisions_spec (messages messages' : List VersionedDecisions) :
    (mergePoliciesDecisions messages).componentVersions
        = messages.flatMap VersionedDecisions.componentVersions ∧
    PerOperation (messages.flatMap fun message => message.generalDecisions)
      (mergePoliciesDecisions messages).generalDecisions ∧
    (mergePoliciesDecisions messages).datasetDecisions.map DatasetDecision.datasetID
      = ((messages.flatMap fun message => message.datasetDecisions).map
          DatasetDecision.datasetID).eraseDups ∧
    (∀ decision ∈ (mergePoliciesDecisions messages).datasetDecisions,
      PerOperation (givenFor messages decision.datasetID) decision.decisions) ∧
    mergePoliciesDecisions [mergePoliciesDecisions messages, mergePoliciesDecisions messages']
      = mergePoliciesDecisions (messages ++ messages') := by
  refine ⟨componentVersions_merge messages, ?_, ?_, fun decision hdecision => ?_, ?_⟩
  · rw [generalDecisions_merge]
    exact perOperation_compact _
  · rw [datasetDecisions_merge]
    exact Occurrence.map_key_compact (fun datasetID l => rfl) _
  · rw [datasetDecisions_merge] at hdecision
    obtain ⟨datasetID, -, rfl⟩ := List.mem_map.1 hdecision
    exact perOperation_compact _
  · simpa using mergePoliciesDecisions_map [messages, messages']

end Fybrik
