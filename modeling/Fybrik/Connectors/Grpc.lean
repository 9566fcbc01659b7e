import Fybrik.Lib.Gather
import Fybrik.Select.Validate

/-!
# The client of gRPC policy managers

`policymanager_grpc.go`: a policy manager that speaks gRPC answers with a message, which is
converted to the response the control plane works with.

* `PoliciesDecisions` — the message (`policy_manager_response.proto`).
* `Action.unmarshalJSON` — the decoder of actions, which crashes if there is no name.
* `convertGrpcRespToOpenAPIResp` — as in the source; nothing is returned if the program
  crashes.
* `expectedItems` — what an enforcement action should become.
* `Understood` — the enforcement actions that become what they should.
* `convertGrpcResp_faithful_iff` — when no decision is dropped or altered.
-/

namespace Fybrik

/-! ## Messages -/

/-- `EnforcementActionLevel`: an open enumeration, so any other number can arrive. -/
inductive EnforcementActionLevel where
  | unknown
  | dataset
  | column
  | row
  | cell
  | other (number : ℤ)
  deriving DecidableEq, Inhabited, Repr

/-- `EnforcementAction`. -/
structure EnforcementAction where
  name : String
  id : String
  level : EnforcementActionLevel
  args : GoMap String String
  deriving DecidableEq, Inhabited

/-- `Policy`, as far as it is read. -/
structure UsedPolicy where
  description : String
  deriving DecidableEq, Inhabited, Repr

/-- `AccessType`, which is open as well. -/
inductive AccessType where
  | unknown
  | read
  | copy
  | write
  | other (number : ℤ)
  deriving DecidableEq, Inhabited, Repr

/-- `AccessOperation`. -/
structure AccessOperation where
  type : AccessType
  destination : String
  deriving DecidableEq, Inhabited, Repr

/-- `OperationDecision`. -/
structure OperationDecision where
  operation : AccessOperation
  enforcementActions : List EnforcementAction
  usedPolicies : List UsedPolicy
  deriving DecidableEq, Inhabited

/-- `DatasetDecision`. -/
structure DatasetDecision where
  datasetID : String
  decisions : List OperationDecision
  deriving DecidableEq, Inhabited

/-- `PoliciesDecisions`; the versions of components are not read. -/
structure PoliciesDecisions where
  datasetDecisions : List DatasetDecision
  generalDecisions : List OperationDecision
  deriving DecidableEq, Inhabited

/-! ## From the message to the response -/

/-- `Action.UnmarshalJSON`: the name is taken to be a string, and the program crashes if it
is not. -/
def Action.unmarshalJSON (items : GoMap String Json) : Option Action :=
  match items.lookup "name" with
  | some (.str name) => some ⟨name, items.delete "name"⟩
  | _ => none

/-- The JSON object for an enforcement action on a column.  It stays empty if the name is
not one of the three. -/
def columnAction (name : String) (args : GoMap String String) : GoMap String Json :=
  if name = "redact" then
    let colName :=
      match args.lookup "column_name" with
      | some colName => colName
      | none => args.get "column"
    GoMap.ofList [("name", .str "redact"), ("columns", .arr [.str colName])]
  else if name = "encrypt" then
    GoMap.ofList [("name", .str "encrypt"), ("columns", .arr [.str (args.get "column_name")])]
  else if name = "remove" then
    GoMap.ofList [("name", .str "remove"), ("columns", .arr [.str (args.get "column_name")])]
  else ∅

variable (enfAction : EnforcementAction)

/-- The action of the result item for an enforcement action.  Marshalling strings does not
fail, so that the only other outcome is a crash of the decoder. -/
def resultAction : Option Action :=
  match enfAction.level with
  | .column => Action.unmarshalJSON (columnAction enfAction.name enfAction.args)
  | .dataset | .unknown => if enfAction.name = "Deny" then some ⟨"Deny", ∅⟩ else some ⟨"", ∅⟩
  | _ => some ⟨"", ∅⟩

variable (policy : Option UsedPolicy)

/-- One turn of the inner loop of `ConvertGrpcRespToOpenAPIResp`: what is appended to the
result.  The policy is the one with the same index, if there is one. -/
def convertEnforcementAction : Option (List ResultItem) :=
  (resultAction enfAction).map fun action =>
    if enfAction.name ≠ "Allow" then
      [{ policy := (policy.map UsedPolicy.description).getD "", action := action }]
    else []

/-- `ConvertGrpcRespToOpenAPIResp`; the identifier of the decision is a random one. -/
def convertGrpcRespToOpenAPIResp (decisionID : String) (result : PoliciesDecisions) :
    Option GetPolicyDecisionsResponse :=
  (result.datasetDecisions.foldlM (fun respResult (datasetDecision : DatasetDecision) =>
    datasetDecision.decisions.foldlM (fun respResult (decision : OperationDecision) =>
      decision.enforcementActions.zipIdx.foldlM (fun respResult ek =>
        (convertEnforcementAction ek.1 decision.usedPolicies[ek.2]?).map (respResult ++ ·))
        respResult)
      respResult)
    []).map fun respResult => { decisionID := decisionID, result := respResult }

/-! ## The client -/

/-- The client: the answer of the service to a request, and the identifier that is generated
for its decision. -/
structure GrpcPolicyManager where
  client : GetPolicyDecisionsRequest → String → Except String PoliciesDecisions
  decisionID : String

/-- `GetPoliciesDecisions` of the client. -/
def GrpcPolicyManager.getPoliciesDecisions (m : GrpcPolicyManager)
    (request : GetPolicyDecisionsRequest) (creds : String) :
    Option (Except String GetPolicyDecisionsResponse) :=
  match m.client request creds with
  | .error err => some (.error err)
  | .ok result => (convertGrpcRespToOpenAPIResp m.decisionID result).map .ok

/-- `LookupPolicyDecisions` over this client; nothing is returned if the program crashes. -/
def GrpcPolicyManager.lookupPolicyDecisions (m : GrpcPolicyManager) (settings : Settings)
    (taxonomy : Taxonomy) (datasetID : String) (application : FybrikApplication)
    (op : RequestAction) : Option (List Action × Option String) :=
  (m.getPoliciesDecisions (constructOpenAPIReq datasetID application op)
    (policyManagerCreds settings application)).map fun answer =>
      Fybrik.lookupPolicyDecisions settings taxonomy datasetID ⟨fun _ _ => answer⟩ application op

/-! ## What the loops gather -/

/-- The enforcement actions of a decision, each with the policy of the same index. -/
def OperationDecision.uses (decision : OperationDecision) :
    List (EnforcementAction × Option UsedPolicy) :=
  decision.enforcementActions.zipIdx.map fun ek => (ek.1, decision.usedPolicies[ek.2]?)

/-- The enforcement actions on datasets. -/
def PoliciesDecisions.datasetUses (result : PoliciesDecisions) :
    List (EnforcementAction × Option UsedPolicy) :=
  result.datasetDecisions.flatMap fun datasetDecision =>
    datasetDecision.decisions.flatMap OperationDecision.uses

/-- All enforcement actions of the message, in order. -/
def PoliciesDecisions.uses (result : PoliciesDecisions) :
    List (EnforcementAction × Option UsedPolicy) :=
  result.datasetUses ++ result.generalDecisions.flatMap OperationDecision.uses

/-- The conversion goes through the enforcement actions on datasets. -/
theorem convertGrpcRespToOpenAPIResp_eq (decisionID : String) (result : PoliciesDecisions) :
    convertGrpcRespToOpenAPIResp decisionID result =
      (Gather.gather (fun u => convertEnforcementAction u.1 u.2) result.datasetUses).map
        fun respResult => { decisionID := decisionID, result := respResult } := by
  have hdecision : ∀ (decision : OperationDecision) respResult,
      decision.enforcementActions.zipIdx.foldlM (fun respResult ek =>
        (convertEnforcementAction ek.1 decision.usedPolicies[ek.2]?).map (respResult ++ ·))
        respResult
      = (Gather.gather (fun u => convertEnforcementAction u.1 u.2) decision.uses).map
        (respResult ++ ·) := by
    intro decision respResult
    rw [← Gather.foldlM_append, OperationDecision.uses, List.foldlM_map]
  have hdataset : ∀ (datasetDecision : DatasetDecision) respResult,
      datasetDecision.decisions.foldlM (fun respResult decision =>
        (Gather.gather (fun u => convertEnforcementAction u.1 u.2) decision.uses).map
          (respResult ++ ·)) respResult
      = (Gather.gather (fun u => convertEnforcementAction u.1 u.2)
        (datasetDecision.decisions.flatMap OperationDecision.uses)).map (respResult ++ ·) := by
    intro datasetDecision respResult
    rw [Gather.foldlM_append, Gather.gather_flatMap]
  unfold convertGrpcRespToOpenAPIResp PoliciesDecisions.datasetUses
  simp only [hdecision, hdataset, Gather.foldlM_append, Gather.gather_flatMap, List.nil_append,
    Option.map_id']

/-! ## Faithful conversion -/

/-- The column an enforcement action on a column is about: it is given as `column_name` or
as `column`. -/
def EnforcementAction.columnArgument : Option String :=
  if enfAction.level = .column then
    some ((enfAction.args.lookup "column_name").getD (enfAction.args.get "column"))
  else none

/-- The action an enforcement action stands for: its name, and its column if it has one. -/
def expectedAction : Action :=
  { name := enfAction.name
    additionalProperties :=
      match enfAction.columnArgument with
      | some colName => GoMap.ofList [("columns", .arr [.str colName])]
      | none => ∅ }

/-- What an enforcement action should become: nothing if it allows access, and otherwise an
item with its action and the policy. -/
def expectedItems : List ResultItem :=
  if enfAction.name = "Allow" then []
  else
    [{ policy := (policy.map UsedPolicy.description).getD ""
       action := expectedAction enfAction }]

/-- The enforcement actions the conversion has a case for: on columns one of the three known
ones, with the column given as `column_name` unless it is a redaction; on datasets a denial;
elsewhere nothing but what allows access or has no name. -/
def Understood : Prop :=
  match enfAction.level with
  | .column => enfAction.name = "redact" ∨
      (enfAction.name = "encrypt" ∨ enfAction.name = "remove") ∧
        ((enfAction.args.lookup "column_name").isSome = true ∨ enfAction.args.get "column" = "")
  | .dataset | .unknown =>
      enfAction.name = "Allow" ∨ enfAction.name = "Deny" ∨ enfAction.name = ""
  | _ => enfAction.name = "Allow" ∨ enfAction.name = ""

instance (enfAction : EnforcementAction) : Decidable (Understood enfAction) := by
  unfold Understood
  split <;> infer_instance

theorem length_convertEnforcementAction {enfAction : EnforcementAction} {policy : Option UsedPolicy}
    {part : List ResultItem} (h : convertEnforcementAction enfAction policy = some part) :
    part.length = (expectedItems enfAction policy).length := by
  obtain ⟨action, -, rfl⟩ := Option.map_eq_some_iff.1 h
  unfold expectedItems
  by_cases hallow : enfAction.name = "Allow"
  · simp [hallow]
  · simp [hallow]

/-- An enforcement action becomes what it should if the decoder does not crash and its action
is right, which does not matter if it allows access. -/
theorem convertEnforcementAction_eq_iff :
    convertEnforcementAction enfAction policy = some (expectedItems enfAction policy) ↔
      ∃ action, resultAction enfAction = some action ∧
        (enfAction.name ≠ "Allow" → action = expectedAction enfAction) := by
  unfold convertEnforcementAction expectedItems
  rw [Option.map_eq_some_iff]
  refine exists_congr fun action => and_congr_right fun _ => ?_
  by_cases hallow : enfAction.name = "Allow"
  · simp [hallow]
  · simp [hallow]

/-- The decoder returns the action that was put together, and crashes if there is none. -/
theorem unmarshalJSON_columnAction (name : String) (args : GoMap String String) :
    Action.unmarshalJSON (columnAction name args) =
      if name = "redact" then
        some ⟨"redact", GoMap.ofList
          [("columns", .arr [.str ((args.lookup "column_name").getD (args.get "column"))])]⟩
      else if name = "encrypt" ∨ name = "remove" then
        some ⟨name, GoMap.ofList [("columns", .arr [.str (args.get "column_name")])]⟩
      else none := by
  unfold columnAction
  by_cases hredact : name = "redact"
  · rw [if_pos hredact, if_pos hredact]
    cases args.lookup "column_name" <;> rfl
  · rw [if_neg hredact, if_neg hredact]
    by_cases hencrypt : name = "encrypt"
    · subst hencrypt
      rfl
    · by_cases hremove : name = "remove"
      · subst hremove
        rfl
      · rw [if_neg hencrypt, if_neg hremove, if_neg (not_or.2 ⟨hencrypt, hremove⟩)]
        rfl

/-- The columns are the same if the column is given as `column_name`, or not at all. -/
theorem columns_eq_iff (args : GoMap String String) :
    (GoMap.ofList [("columns", Json.arr [.str (args.get "column_name")])] : GoMap String Json)
        = GoMap.ofList
          [("columns", .arr [.str ((args.lookup "column_name").getD (args.get "column"))])] ↔
      (args.lookup "column_name").isSome = true ∨ args.get "column" = "" := by
  have hcolumns : ∀ c c' : String,
      (GoMap.ofList [("columns", Json.arr [.str c])] : GoMap String Json)
        = GoMap.ofList [("columns", .arr [.str c'])] ↔ c = c' := by
    intro c c'
    refine ⟨fun h => ?_, fun h => by rw [h]⟩
    have hlookup : some (Json.arr [Json.str c]) = some (Json.arr [Json.str c']) :=
      congrArg (fun m => AList.lookup "columns" m) h
    simpa using hlookup
  rw [hcolumns]
  cases hname : args.lookup "column_name" with
  | none =>
    rw [GoMap.get_of_lookup_none hname]
    simp
  | some c =>
    rw [GoMap.get_of_lookup hname]
    simp

/-- The enforcement actions that become what they should. -/
theorem resultAction_eq_iff :
    (∃ action, resultAction enfAction = some action ∧
        (enfAction.name ≠ "Allow" → action = expectedAction enfAction)) ↔
      Understood enfAction := by
  obtain ⟨name, id, level, args⟩ := enfAction
  have hempty : ∀ action : Action, action = ⟨"", ∅⟩ →
      ((name ≠ "Allow" → action = ⟨name, ∅⟩) ↔ name = "Allow" ∨ name = "") := by
    rintro action rfl
    simp [or_iff_not_imp_left, eq_comm]
  cases level with
  | column =>
    simp only [resultAction, Understood, unmarshalJSON_columnAction, expectedAction,
      EnforcementAction.columnArgument, if_true]
    by_cases hredact : name = "redact"
    · subst hredact
      simp
    · rw [if_neg hredact]
      by_cases hknown : name = "encrypt" ∨ name = "remove"
      · have hallow : name ≠ "Allow" := by
          rcases hknown with rfl | rfl <;> decide
        rw [if_pos hknown, ← columns_eq_iff]
        simp [hredact, hknown, hallow]
      · simp [hredact, hknown]
  | dataset =>
    simp only [resultAction, Understood, expectedAction, EnforcementAction.columnArgument]
    by_cases hdeny : name = "Deny"
    · simp [hdeny]
    · simpa [hdeny] using hempty _ rfl
  | unknown =>
    simp only [resultAction, Understood, expectedAction, EnforcementAction.columnArgument]
    by_cases hdeny : name = "Deny"
    · simp [hdeny]
    · simpa [hdeny] using hempty _ rfl
  | row => simpa [resultAction, Understood, expectedAction, EnforcementAction.columnArgument]
      using hempty _ rfl
  | cell => simpa [resultAction, Understood, expectedAction, EnforcementAction.columnArgument]
      using hempty _ rfl
  | other n => simpa [resultAction, Understood, expectedAction, EnforcementAction.columnArgument]
      using hempty _ rfl

/-! ## Faithful conversion of messages -/

/-- Every decision on datasets is about actions that are understood, and the general
decisions allow access. -/
structure Convertible (result : PoliciesDecisions) : Prop where
  datasets : ∀ datasetDecision ∈ result.datasetDecisions, ∀ decision ∈ datasetDecision.decisions,
    ∀ enfAction ∈ decision.enforcementActions, Understood enfAction
  general : ∀ decision ∈ result.generalDecisions,
    ∀ enfAction ∈ decision.enforcementActions, enfAction.name = "Allow"

/-- The message is converted without dropping or altering a decision, and access is refused
over this client if some enforcement action denies it. -/
structure Faithful (result : PoliciesDecisions) : Prop where
  converted : ∀ decisionID, convertGrpcRespToOpenAPIResp decisionID result =
    some { decisionID := decisionID
           result := result.uses.flatMap fun u => expectedItems u.1 u.2 }
  refused : (∃ u ∈ result.uses, u.1.name = "Deny") →
    ∀ (m : GrpcPolicyManager) settings taxonomy datasetID application op,
      m.client (constructOpenAPIReq datasetID application op)
        (policyManagerCreds settings application) = .ok result →
      ∃ actions err, m.lookupPolicyDecisions settings taxonomy datasetID application op
        = some (actions, some err)

theorem mem_enforcementActions {decision : OperationDecision} {P : EnforcementAction → Prop} :
    (∀ u ∈ decision.uses, P u.1) ↔ ∀ enfAction ∈ decision.enforcementActions, P enfAction := by
  have hfst : decision.uses.map Prod.fst = decision.enforcementActions := by
    rw [OperationDecision.uses, Gather.zipIdx_map, Gather.map_fst_sideBySide]
  rw [← hfst, List.forall_mem_map]

variable (result : PoliciesDecisions)

theorem datasetUses_convert_iff :
    (∀ u ∈ result.datasetUses, convertEnforcementAction u.1 u.2 = some (expectedItems u.1 u.2)) ↔
      ∀ datasetDecision ∈ result.datasetDecisions, ∀ decision ∈ datasetDecision.decisions,
        ∀ enfAction ∈ decision.enforcementActions, Understood enfAction := by
  simp only [convertEnforcementAction_eq_iff, resultAction_eq_iff, PoliciesDecisions.datasetUses,
    List.forall_mem_flatMap, mem_enforcementActions]

theorem expectedItems_eq_nil_iff {enfAction : EnforcementAction} {policy : Option UsedPolicy} :
    expectedItems enfAction policy = [] ↔ enfAction.name = "Allow" := by
  simp [expectedItems]

theorem generalUses_expected_iff :
    ((result.generalDecisions.flatMap OperationDecision.uses).flatMap fun u =>
        expectedItems u.1 u.2) = [] ↔
      ∀ decision ∈ result.generalDecisions, ∀ enfAction ∈ decision.enforcementActions,
        enfAction.name = "Allow" := by
  simp only [List.flatMap_eq_nil_iff, expectedItems_eq_nil_iff, List.forall_mem_flatMap]
  exact forall₂_congr fun decision _ =>
    mem_enforcementActions (P := fun enfAction => enfAction.name = "Allow")

/-- What is gathered from the decisions on datasets is all that is expected. -/
theorem gather_datasetUses_iff :
    Gather.gather (fun u => convertEnforcementAction u.1 u.2) result.datasetUses
        = some (result.uses.flatMap fun u => expectedItems u.1 u.2) ↔ Convertible result := by
  have hlength : ∀ u ∈ result.datasetUses, ∀ part, convertEnforcementAction u.1 u.2 = some part →
      part.length = (expectedItems u.1 u.2).length :=
    fun u _ part hpart => length_convertEnforcementAction hpart
  rw [PoliciesDecisions.uses, List.flatMap_append]
  constructor
  · intro h
    -- the general decisions contribute nothing, so nothing may be expected of them
    have hgeneral : ((result.generalDecisions.flatMap OperationDecision.uses).flatMap fun u =>
        expectedItems u.1 u.2) = [] := by
      have hsize := Gather.length_gather hlength h
      rw [List.length_append] at hsize
      exact List.length_eq_zero_iff.1 (by omega)
    rw [hgeneral, List.append_nil] at h
    exact ⟨(datasetUses_convert_iff result).1 ((Gather.gather_eq_some_iff hlength).1 h),
      (generalUses_expected_iff result).1 hgeneral⟩
  · intro h
    rw [(generalUses_expected_iff result).2 h.general, List.append_nil]
    exact Gather.gather_of_forall ((datasetUses_convert_iff result).2 h.datasets)

/-- The loop over the items ends with an error if one of them is denied. -/
theorem collectActions_denied {actionType : RequestActionType} {actions : List Action}
    {result : List ResultItem} (h : ∃ item ∈ result, item.action.name = "Deny") :
    ∃ actions', collectActions actionType actions result
      = (actions', some (denialMessage actionType)) := by
  induction result generalizing actions with
  | nil => exact absurd h (by simp)
  | cons item result ih =>
    rw [collectActions]
    by_cases hdenied : isDenied item.action.name = true
    · exact ⟨actions, by rw [if_pos hdenied]⟩
    · rw [if_neg hdenied]
      obtain ⟨item', hmem, hname⟩ := h
      rcases List.mem_cons.1 hmem with rfl | hmem
      · exact absurd (by rw [isDenied, hname]; rfl) hdenied
      · exact ih ⟨item', hmem, hname⟩

/-- Over a client that converts the message access is refused if some item is denied. -/
theorem lookupPolicyDecisions_denied {m : GrpcPolicyManager} {settings : Settings}
    {taxonomy : Taxonomy} {datasetID : String} {application : FybrikApplication}
    {op : RequestAction} {result : PoliciesDecisions} {response : GetPolicyDecisionsResponse}
    (hclient : m.client (constructOpenAPIReq datasetID application op)
      (policyManagerCreds settings application) = .ok result)
    (hconvert : convertGrpcRespToOpenAPIResp m.decisionID result = some response)
    (h : ∃ item ∈ response.result, item.action.name = "Deny") :
    ∃ actions err, m.lookupPolicyDecisions settings taxonomy datasetID application op
      = some (actions, some err) := by
  have hanswer : m.getPoliciesDecisions (constructOpenAPIReq datasetID application op)
      (policyManagerCreds settings application) = some (.ok response) := by
    rw [GrpcPolicyManager.getPoliciesDecisions, hclient]
    simp only [hconvert, Option.map_some]
  rw [GrpcPolicyManager.lookupPolicyDecisions, hanswer, Option.map_some]
  simp only [lookupPolicyDecisions]
  cases taxonomy.validatePolicyDecisionsResponse response with
  | some err => exact ⟨_, _, rfl⟩
  | none =>
    obtain ⟨actions, hactions⟩ := @collectActions_denied op.actionType [] response.result h
    exact ⟨actions, _, by rw [hactions]⟩

/-- When the client neither drops nor alters a decision. -/
theorem convertGrpcResp_faithful_iff (result : PoliciesDecisions) :
    Faithful result ↔ Convertible result := by
  have hconverted : ∀ decisionID, convertGrpcRespToOpenAPIResp decisionID result =
      some { decisionID := decisionID
             result := result.uses.flatMap fun u => expectedItems u.1 u.2 } ↔
        Convertible result := by
    intro decisionID
    rw [convertGrpcRespToOpenAPIResp_eq, ← gather_datasetUses_iff, Option.map_eq_some_iff]
    simp
  constructor
  · intro h
    exact (hconverted "").1 (h.converted "")
  · intro h
    refine ⟨fun decisionID => (hconverted decisionID).2 h, ?_⟩
    rintro ⟨u, hu, hdeny⟩ m settings taxonomy datasetID application op hclient
    have hitem : ⟨(u.2.map UsedPolicy.description).getD "", expectedAction u.1⟩
        ∈ expectedItems u.1 u.2 := by
      rw [expectedItems, if_neg (by rw [hdeny]; decide)]
      exact List.mem_singleton_self _
    exact lookupPolicyDecisions_denied hclient ((hconverted m.decisionID).2 h)
      ⟨_, List.mem_flatMap.2 ⟨u, hu, hitem⟩, hdeny⟩

/-- A message with one decision. -/
def messageOf (enforcementActions : List EnforcementAction) (usedPolicies : List UsedPolicy) :
    PoliciesDecisions :=
  { datasetDecisions := [⟨"xxx", [⟨⟨.read, ""⟩, enforcementActions, usedPolicies⟩]⟩]
    generalDecisions := [] }

/-- Access to the rows is denied. -/
def rowsDenied : PoliciesDecisions :=
  messageOf [⟨"Deny", "Deny-ID", .row, ∅⟩] [⟨"no access to rows"⟩]

/-- A column is to be hashed. -/
def columnHashed : PoliciesDecisions :=
  messageOf [⟨"hash", "hash-ID", .column, GoMap.ofList [("column_name", "ssn")]⟩] [⟨"hash it"⟩]

theorem rowsDenied_not_faithful :
    (GrpcPolicyManager.lookupPolicyDecisions ⟨fun _ _ => .ok rowsDenied, "1"⟩ default
        PlotterGenerator.shireGenerator.taxonomy "xxx" PlotterGenerator.shireApplication
        ⟨.read, "", ""⟩
      = some ([⟨"", ∅⟩], none)) ∧
    convertGrpcRespToOpenAPIResp "1" columnHashed = none ∧
    ¬ Faithful rowsDenied ∧ ¬ Faithful columnHashed := by
  have hcrash : convertGrpcRespToOpenAPIResp "1" columnHashed = none := by decide
  have hgranted : GrpcPolicyManager.lookupPolicyDecisions ⟨fun _ _ => .ok rowsDenied, "1"⟩ default
        PlotterGenerator.shireGenerator.taxonomy "xxx" PlotterGenerator.shireApplication
        ⟨.read, "", ""⟩
      = some ([⟨"", ∅⟩], none) := by decide
  refine ⟨hgranted, hcrash, fun h => ?_, fun h => ?_⟩
  · obtain ⟨actions, err, hrefused⟩ := h.refused ⟨(⟨"Deny", "Deny-ID", .row, ∅⟩, some ⟨_⟩),
      List.mem_singleton_self _, rfl⟩ ⟨fun _ _ => .ok rowsDenied, "1"⟩ default
      PlotterGenerator.shireGenerator.taxonomy "xxx" PlotterGenerator.shireApplication
        ⟨.read, "", ""⟩ rfl
    cases hgranted.symm.trans hrefused
  · cases hcrash.symm.trans (h.converted "1")

end Fybrik
