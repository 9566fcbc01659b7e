import Fybrik.Connectors.Grpc

/-!
# Policy responses over gRPC and back

The server side of `policymanager_grpc.go` converts a response to a message, which the client
converts back.

* `convertOpenAPIRespToGrpcResp` — as in the source.  The actions and the policies they are
  based on are two lists that are matched by their indices.
* `wire` — what an item becomes: the enforcement actions, each with the item it stands for.
* `Survives` — the items whose actions and columns come back.
* `KeepsPolicies` — no item is sent after one that allows access, which has no entry in the
  list of policies.
* `roundTrip_iff` — when a response comes back as it was.
-/

namespace Fybrik

/-! ## From the response to the message -/

/-- The name in lower case. -/
def foldCase (name : String) : String := String.ofList (name.toList.map Char.toLower)

/-- `strings.EqualFold`, for a known name in lower case.  The known names have no letter that
is also the lower case of a letter outside of ASCII. -/
def equalFold (known name : String) : Bool := foldCase name == known

/-- The two lists that are filled. -/
structure Encoded where
  enforcementActions : List EnforcementAction
  usedPolicies : List UsedPolicy
  deriving DecidableEq, Inhabited

/-- An action on columns, if the item has this name: one enforcement action for each column.
The program crashes if a column is not a string. -/
def encodeColumns (known name id : String) (item : ResultItem) (acc : Encoded) :
    Option Encoded :=
  if equalFold known item.action.name then
    match item.action.additionalProperties.lookup "columns" with
    | some (.arr colNames) =>
      colNames.foldlM (fun acc colName =>
        match colName with
        | .str c => some
            { enforcementActions := acc.enforcementActions ++
                [⟨name, id, .column, GoMap.ofList [("column_name", c)]⟩]
              usedPolicies := acc.usedPolicies ++ [⟨item.policy⟩] }
        | _ => none) acc
    | _ => some acc
  else some acc

/-- The case of a denial. -/
def encodeDeny (item : ResultItem) (acc : Encoded) : Encoded :=
  if equalFold "deny" item.action.name then
    { enforcementActions := acc.enforcementActions ++ [⟨"Deny", "Deny-ID", .dataset, ∅⟩]
      usedPolicies := acc.usedPolicies ++ [⟨item.policy⟩] }
  else acc

/-- The case of an item that allows access, which comes without a policy. -/
def encodeAllow (item : ResultItem) (acc : Encoded) : Encoded :=
  if equalFold "allow" item.action.name then
    { acc with
      enforcementActions := acc.enforcementActions ++ [⟨"Allow", "Allow-ID", .dataset, ∅⟩] }
  else acc

/-- One turn of the loop of `ConvertOpenAPIRespToGrpcResp`. -/
def encodeItem (acc : Encoded) (item : ResultItem) : Option Encoded := do
  let acc ← encodeColumns "redact" "redact" "redact-ID" item acc
  let acc ← encodeColumns "remove" "removed" "removed-ID" item acc
  let acc ← encodeColumns "encrypt" "encrypted" "encrypted-ID" item acc
  return encodeAllow item (encodeDeny item acc)

/-- `ConvertOpenAPIRespToGrpcResp`. -/
def convertOpenAPIRespToGrpcResp (out : GetPolicyDecisionsResponse) (datasetID : String)
    (op : AccessOperation) : Option PoliciesDecisions :=
  (out.result.foldlM encodeItem ⟨[], []⟩).map fun acc =>
    { datasetDecisions := [⟨datasetID, [⟨op, acc.enforcementActions, acc.usedPolicies⟩]⟩]
      generalDecisions := [] }

/-- A response that is sent over gRPC. -/
def roundTrip (decisionID : String) (out : GetPolicyDecisionsResponse) (datasetID : String)
    (op : AccessOperation) : Option GetPolicyDecisionsResponse :=
  (convertOpenAPIRespToGrpcResp out datasetID op).bind (convertGrpcRespToOpenAPIResp decisionID)

/-! ## What should come back -/

/-- The columns of an item. -/
def ResultItem.columns (item : ResultItem) : List String :=
  match item.action.additionalProperties.lookup "columns" with
  | some (.arr colNames) => colNames.filterMap fun
      | .str c => some c
      | _ => none
  | _ => []

/-- The item for one of its columns. -/
def ResultItem.forColumn (item : ResultItem) (c : String) : ResultItem :=
  { item with action :=
    { item.action with
      additionalProperties := item.action.additionalProperties.set "columns" (.arr [.str c]) } }

/-- What an item should come back as: nothing if it allows access, one item for each column
of an action on columns. -/
def ResultItem.expand (item : ResultItem) : List ResultItem :=
  if equalFold "allow" item.action.name then []
  else if equalFold "deny" item.action.name then [item]
  else item.columns.map item.forColumn

/-- The items are the same up to the case of letters in the name. -/
structure SameItem (item item' : ResultItem) : Prop where
  policy : item.policy = item'.policy
  name : foldCase item.action.name = foldCase item'.action.name
  properties : ∀ key, item.action.additionalProperties.lookup key
    = item'.action.additionalProperties.lookup key

/-- The name of the item is one of the three for actions on columns. -/
def ResultItem.OnColumns (item : ResultItem) : Prop :=
  equalFold "redact" item.action.name = true ∨ equalFold "remove" item.action.name = true ∨
    equalFold "encrypt" item.action.name = true

/-- The items that can be sent: denials, items that allow access, and actions on a list of
columns. -/
def ResultItem.Sendable (item : ResultItem) : Prop :=
  equalFold "deny" item.action.name = true ∨ equalFold "allow" item.action.name = true ∨
    item.OnColumns ∧
      item.action.additionalProperties.lookup "columns" = some (.arr (item.columns.map .str))

instance (item : ResultItem) : Decidable item.OnColumns := inferInstanceAs (Decidable (_ ∨ _))

instance (item : ResultItem) : Decidable item.Sendable := inferInstanceAs (Decidable (_ ∨ _))

/-! ## What is sent -/

/-- The enforcement action for a column. -/
def columnSent (name id : String) (item : ResultItem) (c : String) :
    EnforcementAction × Option ResultItem :=
  (⟨name, id, .column, GoMap.ofList [("column_name", c)]⟩, some (item.forColumn c))

/-- What is sent for an item: enforcement actions, each with the item it should come back as,
if any. -/
def ResultItem.wire (item : ResultItem) : List (EnforcementAction × Option ResultItem) :=
  if equalFold "deny" item.action.name then
    [(⟨"Deny", "Deny-ID", .dataset, ∅⟩, some item)]
  else if equalFold "allow" item.action.name then
    [(⟨"Allow", "Allow-ID", .dataset, ∅⟩, none)]
  else if equalFold "redact" item.action.name then
    item.columns.map (columnSent "redact" "redact-ID" item)
  else if equalFold "remove" item.action.name then
    item.columns.map (columnSent "removed" "removed-ID" item)
  else if equalFold "encrypt" item.action.name then
    item.columns.map (columnSent "encrypted" "encrypted-ID" item)
  else []

/-- The policy of the item an enforcement action stands for. -/
def sentPolicy (w : EnforcementAction × Option ResultItem) : Option UsedPolicy :=
  w.2.map fun item => ⟨item.policy⟩

/-- What has been encoded so far, after some more has been sent. -/
def Encoded.add (acc : Encoded) (sent : List (EnforcementAction × Option ResultItem)) : Encoded :=
  { enforcementActions := acc.enforcementActions ++ sent.map Prod.fst
    usedPolicies := acc.usedPolicies ++ sent.filterMap sentPolicy }

theorem Encoded.add_append (acc : Encoded)
    (sent sent' : List (EnforcementAction × Option ResultItem)) :
    (acc.add sent).add sent' = acc.add (sent ++ sent') := by
  simp [add]

variable {item : ResultItem}

theorem encodeColumns_of_ne {known name id : String} {acc : Encoded}
    (h : equalFold known item.action.name = false) :
    encodeColumns known name id item acc = some acc := by
  rw [encodeColumns, h]
  rfl

theorem encodeColumns_eq {known name id : String} {acc : Encoded}
    (h : equalFold known item.action.name = true)
    (hcolumns : item.action.additionalProperties.lookup "columns"
      = some (.arr (item.columns.map .str))) :
    encodeColumns known name id item acc
      = some (acc.add (item.columns.map (columnSent name id item))) := by
  have hloop : ∀ (columns : List String) (acc : Encoded),
      (columns.map Json.str).foldlM (fun (acc : Encoded) colName =>
        match colName with
        | .str c => some
            { enforcementActions := acc.enforcementActions ++
                [⟨name, id, .column, GoMap.ofList [("column_name", c)]⟩]
              usedPolicies := acc.usedPolicies ++ [⟨item.policy⟩] }
        | _ => none) acc
      = some (acc.add (columns.map (columnSent name id item))) := by
    intro columns
    induction columns with
    | nil =>
      intro acc
      simp [Encoded.add]
    | cons c columns ih =>
      intro acc
      rw [List.map_cons, List.foldlM_cons]
      change (columns.map Json.str).foldlM _ (acc.add [columnSent name id item c]) = _
      rw [ih, Encoded.add_append]
      rfl
  rw [encodeColumns, if_pos h]
  simp only [hcolumns]
  exact hloop item.columns acc

/-- An item has at most one of the known names. -/
theorem equalFold_ne {known known' name : String} (h : equalFold known name = true)
    (hne : known ≠ known') : equalFold known' name = false := by
  have hfold : foldCase name = known := eq_of_beq h
  rw [equalFold, hfold]
  exact beq_false_of_ne hne

theorem ResultItem.OnColumns.ne (h : item.OnColumns) :
    equalFold "deny" item.action.name = false ∧ equalFold "allow" item.action.name = false := by
  rcases h with h | h | h
  all_goals exact ⟨equalFold_ne h (by decide), equalFold_ne h (by decide)⟩

theorem encodeItem_eq (h : item.Sendable) (acc : Encoded) :
    encodeItem acc item = some (acc.add item.wire) := by
  unfold encodeItem encodeDeny encodeAllow ResultItem.wire
  rcases h with h | h | ⟨h | h | h, hcolumns⟩
  · have hne : ∀ known, "deny" ≠ known → equalFold known item.action.name = false :=
      fun _ => equalFold_ne h
    simp [encodeColumns_of_ne (hne "redact" (by decide)),
      encodeColumns_of_ne (hne "remove" (by decide)),
      encodeColumns_of_ne (hne "encrypt" (by decide)), hne "allow", h, Encoded.add, sentPolicy]
  · have hne : ∀ known, "allow" ≠ known → equalFold known item.action.name = false :=
      fun _ => equalFold_ne h
    simp [encodeColumns_of_ne (hne "redact" (by decide)),
      encodeColumns_of_ne (hne "remove" (by decide)),
      encodeColumns_of_ne (hne "encrypt" (by decide)), hne "deny", h, Encoded.add, sentPolicy]
  · have hne : ∀ known, "redact" ≠ known → equalFold known item.action.name = false :=
      fun _ => equalFold_ne h
    simp [encodeColumns_eq h hcolumns, encodeColumns_of_ne (hne "remove" (by decide)),
      encodeColumns_of_ne (hne "encrypt" (by decide)), hne "allow", hne "deny", h]
  · have hne : ∀ known, "remove" ≠ known → equalFold known item.action.name = false :=
      fun _ => equalFold_ne h
    simp [encodeColumns_eq h hcolumns, encodeColumns_of_ne (hne "redact" (by decide)),
      encodeColumns_of_ne (hne "encrypt" (by decide)), hne "allow", hne "deny", hne "redact", h]
  · have hne : ∀ known, "encrypt" ≠ known → equalFold known item.action.name = false :=
      fun _ => equalFold_ne h
    simp [encodeColumns_eq h hcolumns, encodeColumns_of_ne (hne "redact" (by decide)),
      encodeColumns_of_ne (hne "remove" (by decide)), hne "allow", hne "deny", hne "redact",
      hne "remove", h]

variable {result : List ResultItem}

theorem foldlM_encodeItem (h : ∀ item ∈ result, item.Sendable) (acc : Encoded) :
    result.foldlM encodeItem acc = some (acc.add (result.flatMap ResultItem.wire)) := by
  induction result generalizing acc with
  | nil => simp [Encoded.add]
  | cons item result ih =>
    rw [List.foldlM_cons, encodeItem_eq (h item List.mem_cons_self)]
    change result.foldlM encodeItem (acc.add item.wire) = _
    rw [ih fun item' hitem' => h item' (List.mem_cons_of_mem item hitem'), Encoded.add_append,
      List.flatMap_cons]

/-- An action on columns, and whether it is sent under a name the client knows. -/
structure SentOnColumns (item : ResultItem) (name id : String) : Prop where
  onColumns : item.OnColumns
  known : equalFold "redact" item.action.name = true ∧ name = "redact" ∨
    equalFold "redact" item.action.name = false ∧ (name = "removed" ∨ name = "encrypted")
  wire_eq : item.wire = item.columns.map (columnSent name id item)

/-- The kinds of items, with what is sent for them. -/
theorem ResultItem.Sendable.cases (h : item.Sendable) :
    (equalFold "deny" item.action.name = true ∧
      item.wire = [(⟨"Deny", "Deny-ID", .dataset, ∅⟩, some item)]) ∨
    (equalFold "allow" item.action.name = true ∧
      item.wire = [(⟨"Allow", "Allow-ID", .dataset, ∅⟩, none)]) ∨
    ∃ name id, SentOnColumns item name id := by
  rcases h with h | h | ⟨hname, -⟩
  · exact Or.inl ⟨h, by simp [wire, h]⟩
  · have hdeny := equalFold_ne h (show "allow" ≠ "deny" by decide)
    exact Or.inr (Or.inl ⟨h, by simp [wire, h, hdeny]⟩)
  · obtain ⟨hdeny, hallow⟩ := hname.ne
    refine Or.inr (Or.inr ?_)
    rcases hname with h | h | h
    · exact ⟨"redact", "redact-ID", Or.inl h, Or.inl ⟨h, rfl⟩, by simp [wire, h, hdeny, hallow]⟩
    · have hredact := equalFold_ne h (show "remove" ≠ "redact" by decide)
      exact ⟨"removed", "removed-ID", Or.inr (Or.inl h), Or.inr ⟨hredact, Or.inl rfl⟩,
        by simp [wire, h, hdeny, hallow, hredact]⟩
    · have hredact := equalFold_ne h (show "encrypt" ≠ "redact" by decide)
      have hremove := equalFold_ne h (show "encrypt" ≠ "remove" by decide)
      exact ⟨"encrypted", "encrypted-ID", Or.inr (Or.inr h), Or.inr ⟨hredact, Or.inr rfl⟩,
        by simp [wire, h, hdeny, hallow, hredact, hremove]⟩

/-- Each enforcement action stands for the item it should come back as. -/
theorem flatMap_wire (h : item.Sendable) :
    (item.wire.flatMap fun w => w.2.toList) = item.expand := by
  rcases h.cases with ⟨hdeny, hwire⟩ | ⟨hallow, hwire⟩ | ⟨name, id, hsent⟩
  · have hallow := equalFold_ne hdeny (show "deny" ≠ "allow" by decide)
    simp [hwire, ResultItem.expand, hdeny, hallow]
  · simp [hwire, ResultItem.expand, hallow]
  · obtain ⟨hdeny, hallow⟩ := hsent.onColumns.ne
    rw [hsent.wire_eq, ResultItem.expand, hallow, hdeny, List.flatMap_map]
    exact List.map_eq_flatMap.symm

/-! ## What comes back -/

/-- A denial has no properties, and an action on columns, if there are any, is to redact them
and has no other properties. -/
structure ResultItem.Survives (item : ResultItem) : Prop where
  denial : equalFold "deny" item.action.name = true →
    item.action.additionalProperties.keys = []
  action : item.OnColumns → item.columns ≠ [] → equalFold "redact" item.action.name = true ∧
    ∀ key ∈ item.action.additionalProperties.keys, key = "columns"

/-- The items after one that allows access have no policy, apart from those for which nothing
is sent. -/
def KeepsPolicies (result : List ResultItem) : Prop :=
  result.Pairwise fun item item' => equalFold "allow" item.action.name = true →
    equalFold "deny" item'.action.name = true ∨ item'.OnColumns ∧ item'.columns ≠ [] →
      item'.policy = ""

instance (item : ResultItem) : Decidable item.Survives :=
  decidable_of_iff (_ ∧ _) ⟨fun h => ⟨h.1, h.2⟩, fun h => ⟨h.denial, h.action⟩⟩

instance (result : List ResultItem) : Decidable (KeepsPolicies result) :=
  inferInstanceAs (Decidable (result.Pairwise _))

/-- An item that comes back as one that is like it, with some policy. -/
theorem forall₂_sameItem_iff (action : Action) {policy : Option UsedPolicy}
    (hname : foldCase action.name = foldCase item.action.name) :
    List.Forall₂ SameItem [⟨(policy.map UsedPolicy.description).getD "", action⟩] [item] ↔
      (∀ key, action.additionalProperties.lookup key
        = item.action.additionalProperties.lookup key) ∧
        policy.getD ⟨""⟩ = ⟨item.policy⟩ := by
  have hpolicy : (policy.map UsedPolicy.description).getD "" = item.policy ↔
      policy.getD ⟨""⟩ = ⟨item.policy⟩ := by
    cases policy with
    | none => simp
    | some p =>
      obtain ⟨description⟩ := p
      simp
  rw [List.forall₂_cons, ← hpolicy]
  constructor
  · rintro ⟨hsame, -⟩
    exact ⟨hsame.properties, hsame.policy⟩
  · rintro ⟨hproperties, hpolicy⟩
    exact ⟨⟨hpolicy, hname, hproperties⟩, .nil⟩

theorem lookup_empty_iff {properties : GoMap String Json} :
    (∀ key, (∅ : GoMap String Json).lookup key = properties.lookup key) ↔ properties.keys = [] := by
  have hnone : ∀ key, (∅ : GoMap String Json).lookup key = none := fun _ => rfl
  simp only [hnone, eq_comm (a := none), AList.lookup_eq_none, List.eq_nil_iff_forall_not_mem]
  rfl

theorem lookup_columns_iff {properties : GoMap String Json} {value : Json} :
    (∀ key, (GoMap.ofList [("columns", value)] : GoMap String Json).lookup key
        = (properties.set "columns" value).lookup key) ↔
      ∀ key ∈ properties.keys, key = "columns" := by
  constructor
  · intro h key hkey
    by_contra hne
    have hlookup := h key
    rw [GoMap.ofList, GoMap.setAll_cons, GoMap.setAll_nil, GoMap.set, GoMap.set,
      AList.lookup_insert_ne hne, AList.lookup_insert_ne hne] at hlookup
    exact AList.lookup_eq_none.1 hlookup.symm hkey
  · intro h key
    rw [GoMap.ofList, GoMap.setAll_cons, GoMap.setAll_nil, GoMap.set, GoMap.set]
    by_cases hkey : key = "columns"
    · rw [hkey, AList.lookup_insert, AList.lookup_insert]
    · rw [AList.lookup_insert_ne hkey, AList.lookup_insert_ne hkey,
        AList.lookup_eq_none.2 fun hmem => hkey (h key hmem)]
      rfl

variable {w : EnforcementAction × Option ResultItem}

/-- When an enforcement action comes back as the item it stands for. -/
theorem convert_wire_iff (h : item.Sendable) (hw : w ∈ item.wire) (policy : Option UsedPolicy) :
    (∃ part, convertEnforcementAction w.1 policy = some part ∧
        List.Forall₂ SameItem part w.2.toList) ↔
      item.Survives ∧ ∀ b, sentPolicy w = some b → policy.getD ⟨""⟩ = b := by
  rcases h.cases with ⟨hdeny, hwire⟩ | ⟨hallow, hwire⟩ | ⟨name, id, hsent⟩
  · obtain rfl := List.mem_singleton.1 (hwire ▸ hw)
    have hback : convertEnforcementAction ⟨"Deny", "Deny-ID", .dataset, ∅⟩ policy
        = some [⟨(policy.map UsedPolicy.description).getD "", ⟨"Deny", ∅⟩⟩] := rfl
    have hsurvives : item.Survives ↔ item.action.additionalProperties.keys = [] := by
      refine ⟨fun hitem => hitem.denial hdeny, fun hkeys => ⟨fun _ => hkeys, fun hon => ?_⟩⟩
      exact absurd (hdeny.symm.trans hon.ne.1) (by decide)
    have hname : foldCase "Deny" = foldCase item.action.name :=
      (show foldCase "Deny" = "deny" by decide).trans (eq_of_beq hdeny).symm
    simp only [hback, Option.some.injEq, exists_eq_left', Option.toList_some, sentPolicy,
      Option.map_some, forall_eq', hsurvives]
    rw [forall₂_sameItem_iff ⟨"Deny", ∅⟩ hname, lookup_empty_iff]
  · obtain rfl := List.mem_singleton.1 (hwire ▸ hw)
    have hback : convertEnforcementAction ⟨"Allow", "Allow-ID", .dataset, ∅⟩ policy = some [] := rfl
    have hsurvives : item.Survives := by
      have hdeny := equalFold_ne hallow (show "allow" ≠ "deny" by decide)
      exact ⟨fun h => absurd (h.symm.trans hdeny) (by decide),
        fun hon => absurd (hallow.symm.trans hon.ne.2) (by decide)⟩
    simp [hback, hsurvives, sentPolicy]
  · obtain ⟨c, hc, rfl⟩ := List.mem_map.1 (hsent.wire_eq ▸ hw)
    have hcolumns : item.columns ≠ [] := List.ne_nil_of_mem hc
    rcases hsent.known with ⟨hredact, rfl⟩ | ⟨hredact, hname⟩
    · have hback : convertEnforcementAction (columnSent "redact" id item c).1 policy
          = some [⟨(policy.map UsedPolicy.description).getD "",
            ⟨"redact", GoMap.ofList [("columns", .arr [.str c])]⟩⟩] := rfl
      have hsurvives : item.Survives ↔
          ∀ key ∈ item.action.additionalProperties.keys, key = "columns" :=
        ⟨fun hitem => (hitem.action hsent.onColumns hcolumns).2, fun hkeys =>
          ⟨fun hdeny => absurd (hdeny.symm.trans hsent.onColumns.ne.1) (by decide),
            fun _ _ => ⟨hredact, hkeys⟩⟩⟩
      have hfold : foldCase "redact" = foldCase (item.forColumn c).action.name :=
        (show foldCase "redact" = "redact" by decide).trans (eq_of_beq hredact).symm
      have hitem : (columnSent "redact" id item c).2 = some (item.forColumn c) := rfl
      simp only [hback, Option.some.injEq, exists_eq_left', hitem, Option.toList_some, sentPolicy,
        Option.map_some, forall_eq', hsurvives]
      rw [forall₂_sameItem_iff ⟨"redact", GoMap.ofList [("columns", .arr [.str c])]⟩ hfold]
      exact and_congr_left fun _ => lookup_columns_iff
    · -- the client crashes on the names under which the other actions are sent
      have hback : convertEnforcementAction (columnSent name id item c).1 policy = none := by
        rcases hname with rfl | rfl <;> rfl
      rw [hback]
      refine iff_of_false (by simp) fun hitem => ?_
      exact absurd (hitem.1.action hsent.onColumns hcolumns).1 (by rw [hredact]; decide)

/-- Only what is sent for an item that allows access comes without a policy. -/
theorem exists_sentPolicy_none_iff (h : item.Sendable) :
    (∃ w ∈ item.wire, sentPolicy w = none) ↔ equalFold "allow" item.action.name = true := by
  rcases h.cases with ⟨hdeny, hwire⟩ | ⟨hallow, hwire⟩ | ⟨name, id, hsent⟩
  · have hallow := equalFold_ne hdeny (show "deny" ≠ "allow" by decide)
    simp [hwire, sentPolicy, hallow]
  · simp [hwire, sentPolicy, hallow]
  · simp [hsent.wire_eq, sentPolicy, columnSent, hsent.onColumns.ne.2]

/-- What is sent for any other item comes with its policy. -/
theorem exists_sentPolicy_some_iff (h : item.Sendable) (b : UsedPolicy) :
    (∃ w ∈ item.wire, sentPolicy w = some b) ↔
      (equalFold "deny" item.action.name = true ∨ item.OnColumns ∧ item.columns ≠ []) ∧
        ⟨item.policy⟩ = b := by
  rcases h.cases with ⟨hdeny, hwire⟩ | ⟨hallow, hwire⟩ | ⟨name, id, hsent⟩
  · simp [hwire, sentPolicy, hdeny]
  · have hdeny := equalFold_ne hallow (show "allow" ≠ "deny" by decide)
    have hon : ¬ item.OnColumns := fun hon => absurd (hallow.symm.trans hon.ne.2) (by decide)
    simp [hwire, sentPolicy, hdeny, hon]
  · have hpolicy : ∀ c, sentPolicy (columnSent name id item c) = some ⟨item.policy⟩ := fun _ => rfl
    rw [hsent.wire_eq, hsent.onColumns.ne.1]
    constructor
    · rintro ⟨w, hw, hb⟩
      obtain ⟨c, hc, rfl⟩ := List.mem_map.1 hw
      exact ⟨Or.inr ⟨hsent.onColumns, List.ne_nil_of_mem hc⟩,
        Option.some.inj ((hpolicy c).symm.trans hb)⟩
    · rintro ⟨hdeny | ⟨-, hcolumns⟩, rfl⟩
      · exact absurd hdeny (by decide)
      · obtain ⟨c, hc⟩ := List.exists_mem_of_ne_nil _ hcolumns
        exact ⟨_, List.mem_map_of_mem hc, hpolicy c⟩

/-- The policies meet the enforcement actions they belong to if there are none after an item
that allows access. -/
theorem pairwise_wire_iff (h : ∀ item ∈ result, item.Sendable) :
    ((result.flatMap ResultItem.wire).Pairwise fun w w' =>
        sentPolicy w = none → ∀ b, sentPolicy w' = some b → b = ⟨""⟩) ↔ KeepsPolicies result := by
  have hown : ∀ item ∈ result, item.wire.Pairwise fun w w' =>
      sentPolicy w = none → ∀ b, sentPolicy w' = some b → b = ⟨""⟩ := by
    intro item hitem
    refine List.pairwise_of_forall_mem_list fun w hw w' hw' hnone b hb => ?_
    -- an item is either sent with its policy or without one
    have hallow := (exists_sentPolicy_none_iff (h item hitem)).1 ⟨w, hw, hnone⟩
    have hsent := ((exists_sentPolicy_some_iff (h item hitem) b).1 ⟨w', hw', hb⟩).1
    rcases hsent with hdeny | ⟨hon, -⟩
    · exact absurd (hdeny.symm.trans (equalFold_ne hallow (by decide))) (by decide)
    · exact absurd (hallow.symm.trans hon.ne.2) (by decide)
  rw [List.pairwise_flatMap, KeepsPolicies, and_iff_right hown]
  refine List.Pairwise.iff_of_mem fun {item item'} hitem hitem' => ?_
  rw [← exists_sentPolicy_none_iff (h item hitem)]
  have hsome := exists_sentPolicy_some_iff (h item' hitem')
  constructor
  · rintro hall ⟨w, hw, hnone⟩ hsent
    obtain ⟨w', hw', hb⟩ := (hsome _).2 ⟨hsent, rfl⟩
    simpa using hall w hw w' hw' hnone _ hb
  · intro hall w hw w' hw' hnone b hb
    obtain ⟨hsent, rfl⟩ := (hsome b).1 ⟨w', hw', hb⟩
    rw [hall ⟨w, hw, hnone⟩ hsent]

theorem survives_of_wire_eq_nil (h : item.Sendable) (hwire : item.wire = []) : item.Survives := by
  rcases h.cases with ⟨-, hwire'⟩ | ⟨-, hwire'⟩ | ⟨name, id, hsent⟩
  · exact absurd (hwire'.symm.trans hwire) (by simp)
  · exact absurd (hwire'.symm.trans hwire) (by simp)
  · refine ⟨fun hdeny => absurd (hdeny.symm.trans hsent.onColumns.ne.1) (by decide),
      fun _ hcolumns => absurd ?_ hcolumns⟩
    exact List.map_eq_nil_iff.1 (hsent.wire_eq.symm.trans hwire)

/-- As many items come back as there should, if the client does not crash. -/
theorem length_convert_wire (h : item.Sendable) (hw : w ∈ item.wire) {policy : Option UsedPolicy}
    {part : List ResultItem} (hpart : convertEnforcementAction w.1 policy = some part) :
    part.length = w.2.toList.length := by
  rw [length_convertEnforcementAction hpart]
  rcases h.cases with ⟨-, hwire⟩ | ⟨-, hwire⟩ | ⟨name, id, hsent⟩
  · obtain rfl := List.mem_singleton.1 (hwire ▸ hw)
    rfl
  · obtain rfl := List.mem_singleton.1 (hwire ▸ hw)
    rfl
  · obtain ⟨c, -, rfl⟩ := List.mem_map.1 (hsent.wire_eq ▸ hw)
    rcases hsent.known with ⟨-, rfl⟩ | ⟨-, rfl | rfl⟩ <;> rfl

/-- What the client walks through: what was sent, the policy it was sent with, and the policy
that is found at its index. -/
def received (sent : List (EnforcementAction × Option ResultItem)) :
    List (((EnforcementAction × Option ResultItem) × Option UsedPolicy) × Option UsedPolicy) :=
  Gather.sideBySide (sent.map fun w => (w, sentPolicy w)) (sent.filterMap sentPolicy)

variable (sent : List (EnforcementAction × Option ResultItem))

theorem map_received : (received sent).map Prod.fst = sent.map fun w => (w, sentPolicy w) :=
  Gather.map_fst_sideBySide _ _

theorem mem_received {sent : List (EnforcementAction × Option ResultItem)}
    {x : ((EnforcementAction × Option ResultItem) × Option UsedPolicy) × Option UsedPolicy}
    (hx : x ∈ received sent) : x.1.1 ∈ sent ∧ x.1.2 = sentPolicy x.1.1 := by
  have hfst := List.mem_map_of_mem (f := Prod.fst) hx
  rw [map_received] at hfst
  obtain ⟨w, hw, heq⟩ := List.mem_map.1 hfst
  rw [← heq]
  exact ⟨hw, rfl⟩

theorem exists_received {sent : List (EnforcementAction × Option ResultItem)} (hw : w ∈ sent) :
    ∃ x ∈ received sent, x.1.1 = w := by
  have hfst : (w, sentPolicy w) ∈ (received sent).map Prod.fst := by
    rw [map_received]
    exact List.mem_map_of_mem hw
  obtain ⟨x, hx, heq⟩ := List.mem_map.1 hfst
  exact ⟨x, hx, by rw [heq]⟩

/-- The policies found are those sent if there are none after an enforcement action without
one. -/
theorem received_policies_iff :
    (∀ x ∈ received sent, ∀ b, sentPolicy x.1.1 = some b → x.2.getD ⟨""⟩ = b) ↔
      sent.Pairwise fun w w' => sentPolicy w = none → ∀ b, sentPolicy w' = some b → b = ⟨""⟩ := by
  have hwalk := Gather.sideBySide_filterMap_iff (d := (⟨""⟩ : UsedPolicy))
    (sent.map fun w => (w, sentPolicy w))
  rw [List.filterMap_map, List.pairwise_map] at hwalk
  refine Iff.trans ?_ hwalk
  refine forall₂_congr fun x hx => ?_
  rw [(mem_received hx).2]

/-- What is received stands for the items that should come back. -/
theorem flatMap_received (h : ∀ item ∈ result, item.Sendable) :
    ((received (result.flatMap ResultItem.wire)).flatMap fun x => x.1.1.2.toList)
      = result.flatMap ResultItem.expand :=
  calc ((received (result.flatMap ResultItem.wire)).flatMap fun x => x.1.1.2.toList)
      = ((received (result.flatMap ResultItem.wire)).map Prod.fst).flatMap
          fun x => x.1.2.toList := by rw [List.flatMap_map]
    _ = (result.flatMap ResultItem.wire).flatMap fun w => w.2.toList := by
        rw [map_received, List.flatMap_map]
    _ = result.flatMap ResultItem.expand := by
        rw [List.flatMap_assoc]
        exact List.flatMap_congr fun item hitem => flatMap_wire (h item hitem)

/-- The client gathers what it makes of the enforcement actions it receives. -/
theorem roundTrip_eq (decisionID : String) (out : GetPolicyDecisionsResponse)
    (datasetID : String) (op : AccessOperation) (h : ∀ item ∈ out.result, item.Sendable) :
    roundTrip decisionID out datasetID op =
      (Gather.gather (fun x => convertEnforcementAction x.1.1.1 x.2)
        (received (out.result.flatMap ResultItem.wire))).map
          fun respResult => { decisionID := decisionID, result := respResult } := by
  rw [roundTrip, convertOpenAPIRespToGrpcResp, foldlM_encodeItem h, Option.map_some,
    Option.bind_some, convertGrpcRespToOpenAPIResp_eq]
  have huses : ∀ sent : List (EnforcementAction × Option ResultItem),
      (⟨op, sent.map Prod.fst, sent.filterMap sentPolicy⟩ : OperationDecision).uses
        = (received sent).map fun x => (x.1.1.1, x.2) := by
    intro sent
    rw [OperationDecision.uses, Gather.zipIdx_map, List.drop_zero, received,
      ← Gather.sideBySide_map fun x : (EnforcementAction × Option ResultItem) × Option UsedPolicy =>
        x.1.1, List.map_map]
    rfl
  simp only [PoliciesDecisions.datasetUses, Encoded.add, List.flatMap_cons, List.flatMap_nil,
    List.append_nil, List.nil_append, huses, Gather.gather_map]

/-- When a response comes back as it was, without the items that allow access and with one
item for each column. -/
theorem roundTrip_iff (decisionID : String) (out : GetPolicyDecisionsResponse)
    (datasetID : String) (op : AccessOperation) (h : ∀ item ∈ out.result, item.Sendable) :
    (∃ back, roundTrip decisionID out datasetID op = some back ∧
        List.Forall₂ SameItem back.result (out.result.flatMap ResultItem.expand)) ↔
      (∀ item ∈ out.result, item.Survives) ∧ KeepsPolicies out.result := by
  have hlength : ∀ x ∈ received (out.result.flatMap ResultItem.wire), ∀ part,
      convertEnforcementAction x.1.1.1 x.2 = some part →
        part.length = x.1.1.2.toList.length := by
    intro x hx part hpart
    obtain ⟨item, hitem, hwire⟩ := List.mem_flatMap.1 (mem_received hx).1
    exact length_convert_wire (h item hitem) hwire hpart
  have hback : (∃ back, roundTrip decisionID out datasetID op = some back ∧
        List.Forall₂ SameItem back.result (out.result.flatMap ResultItem.expand)) ↔
      ∀ x ∈ received (out.result.flatMap ResultItem.wire), ∃ part,
        convertEnforcementAction x.1.1.1 x.2 = some part ∧
          List.Forall₂ SameItem part x.1.1.2.toList := by
    rw [← Gather.exists_gather_iff hlength, flatMap_received h, roundTrip_eq decisionID out _ _ h]
    simp
  rw [hback, ← pairwise_wire_iff h, ← received_policies_iff]
  constructor
  · intro hall
    refine ⟨fun item hitem => ?_, fun x hx => ?_⟩
    · by_cases hwire : item.wire = []
      · exact survives_of_wire_eq_nil (h item hitem) hwire
      · obtain ⟨w, hw⟩ := List.exists_mem_of_ne_nil _ hwire
        obtain ⟨x, hx, rfl⟩ := exists_received (List.mem_flatMap.2 ⟨item, hitem, hw⟩)
        exact ((convert_wire_iff (h item hitem) hw x.2).1 (hall x hx)).1
    · obtain ⟨item, hitem, hw⟩ := List.mem_flatMap.1 (mem_received hx).1
      exact ((convert_wire_iff (h item hitem) hw x.2).1 (hall x hx)).2
  · rintro ⟨hsurvives, hpolicies⟩ x hx
    obtain ⟨item, hitem, hw⟩ := List.mem_flatMap.1 (mem_received hx).1
    exact (convert_wire_iff (h item hitem) hw x.2).2 ⟨hsurvives item hitem, hpolicies x hx⟩

/-- Two columns are redacted and writing is denied. -/
def redactedResponse : GetPolicyDecisionsResponse :=
  ⟨"1", [⟨"protect", ⟨"Redact", GoMap.ofList [("columns", .arr [.str "name", .str "ssn"])]⟩⟩,
    ⟨"no export", ⟨"Deny", ∅⟩⟩, ⟨"", ⟨"Allow", ∅⟩⟩]⟩

theorem redactedResponse_roundTrip :
    ∃ back, roundTrip "2" redactedResponse "xxx" ⟨.read, ""⟩ = some back ∧
      List.Forall₂ SameItem back.result (redactedResponse.result.flatMap ResultItem.expand) :=
  (roundTrip_iff "2" redactedResponse "xxx" ⟨.read, ""⟩ (by decide)).2
    ⟨by decide, by decide⟩

/-- A column is removed. -/
def removedResponse : GetPolicyDecisionsResponse :=
  ⟨"1", [⟨"minimise", ⟨"remove", GoMap.ofList [("columns", .arr [.str "ssn"])]⟩⟩]⟩

/-- One policy allows access, the other denies it. -/
def dividedResponse : GetPolicyDecisionsResponse :=
  ⟨"1", [⟨"open data", ⟨"Allow", ∅⟩⟩, ⟨"no export", ⟨"Deny", ∅⟩⟩]⟩

theorem removedResponse_not_roundTrip :
    (∀ item ∈ removedResponse.result ++ dividedResponse.result, item.Sendable) ∧
    roundTrip "2" removedResponse "xxx" ⟨.read, ""⟩ = none ∧
    roundTrip "2" dividedResponse "xxx" ⟨.read, ""⟩ = some ⟨"2", [⟨"", ⟨"Deny", ∅⟩⟩]⟩ ∧
    ¬ List.Forall₂ SameItem [⟨"", ⟨"Deny", ∅⟩⟩]
      (dividedResponse.result.flatMap ResultItem.expand) := by
  refine ⟨by decide, by decide, by decide, fun h => ?_⟩
  have hexpand : dividedResponse.result.flatMap ResultItem.expand
      = [⟨"no export", ⟨"Deny", ∅⟩⟩] := by decide
  rw [hexpand] at h
  cases h with
  | cons hsame _ => exact absurd hsame.policy (by decide)

end Fybrik
