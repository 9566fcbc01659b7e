import Fybrik.Lib.Json
import Fybrik.Taxonomy.References

/-!
# What compiled unions accept

The meaning of schemas after JSON Schema draft 4, and the meaning of a compiled union.

* `Validator` — the JSON text of values, and the meaning of what the compiler does not touch.
* `Validator.accepts` — a value is accepted by a schema.  References and schemas inside of
  schemas are followed up to a given depth.
* `Neutral` — a schema lists no values for its properties that these do not have.  Passing on
  its enumerations does not change what it accepts.
* `Means` — the meaning of a union: one of the alternatives is named and is there, and all
  properties are values of alternatives.
* `CompiledUnion` — the schema that `oneOfRefsTransform` leaves behind, and
  `accepts_union_iff` — it accepts what the union means.
-/

namespace Fybrik.Compile

/-! ## The meaning of schemas -/

/-- The JSON text of values, by which they are compared with an enumeration, the check of the
keywords that bound values, and what `null` accepts in the place of a schema. -/
structure Validator where
  text : Json → String
  facets : Facets → Json → Bool
  null : Json → Bool
  text_eq_str : ∀ value s, text value = text (.str s) → value = .str s
  facets_default : ∀ value, facets default value = true

/-- The keyword `type`. -/
def hasType : String → Json → Bool
  | "", _ => true
  | "null", .null => true
  | "boolean", .bool _ => true
  | "integer", .num _ => true
  | "number", .num _ => true
  | "string", .str _ => true
  | "array", .arr _ => true
  | "object", .obj _ => true
  | _, _ => false

/-- The keyword `required`. -/
def hasRequired (required : List String) : Json → Bool
  | .obj members => required.all fun k => (Json.member members k).isSome
  | _ => true

section Keywords

variable (accept : Option SchemaRef → Json → Bool) (s : SchemaRef)

/-- The keyword `additionalProperties`, for the value of a property that is not listed. -/
def additionalAccepts (value : Json) : Bool :=
  match s.additionalProperties with
  | none => true
  | some ⟨some allowed, _⟩ => allowed
  | some ⟨none, some schema⟩ => accept (some schema) value
  | some ⟨none, none⟩ => true

/-- The keywords `properties`, `additionalProperties` and `items`. -/
def contentAccepted : Json → Bool
  | .obj members => members.all fun kv =>
      (Json.member members kv.1).all fun value =>
        match s.properties.lookup kv.1 with
        | some property => accept property value
        | none => additionalAccepts accept s value
  | .arr values => values.all fun value => s.items.all fun items => accept (some items) value
  | _ => true

/-- The keyword `oneOf`, which is not written out if the list is empty. -/
def exactlyOne (value : Json) : Bool :=
  s.alternatives.isEmpty || s.alternatives.countP (fun v => accept v value) == 1

end Keywords

namespace Validator

variable (val : Validator)

/-- The JSON text of a string. -/
def quote (s : String) : String := val.text (.str s)

/-- The keywords that `oneOfRefsTransform` leaves alone. -/
def others (accept : Option SchemaRef → Json → Bool) (s : SchemaRef) (value : Json) : Bool :=
  hasType s.type value && val.facets s.facets value &&
    (s.enum.isEmpty || s.enum.contains (val.text value)) && hasRequired s.required value &&
    s.allOf.all (fun v => accept v value) &&
    (s.anyOf.isEmpty || s.anyOf.any fun v => accept v value) &&
    !(s.not.any fun v => accept (some v) value)

/-- A value is accepted by a schema of a document.  Nothing but its reference matters of a
schema that has one. -/
def accepts (definitions : View) : ℕ → Option SchemaRef → Json → Bool
  | 0, _, _ => false
  | _ + 1, none, value => val.null value
  | n + 1, some s, value =>
    if s.ref ≠ "" then (definitions s.refName).any fun s' => accepts definitions n s' value
    else val.others (accepts definitions n) s value &&
      contentAccepted (accepts definitions n) s value &&
        exactlyOne (accepts definitions n) s value

end Validator

/-- A schema lists no values for its properties that these do not have. -/
def SchemaRef.Neutral (s : SchemaRef) : Prop :=
  ∀ name property, s.properties.lookup name = some (some property) → property.ref = "" →
    ∀ x ∈ (s.addedEnums name).getD [], x ∈ property.enum

instance (s : SchemaRef) : Decidable s.Neutral :=
  decidable_of_iff (∀ np ∈ s.properties, ∀ property ∈ (s.properties.lookup np.1).join,
      property.ref = "" → ∀ x ∈ (s.addedEnums np.1).getD [], x ∈ property.enum)
    ⟨fun h _ property hlookup => h _ (Assoc.mem_of_lookup hlookup) property
      (Option.join_eq_some_iff.2 hlookup), fun h np _ property hproperty =>
        h np.1 property (Option.join_eq_some_iff.1 hproperty)⟩

/-- The meaning of a union with these alternatives: an object names one of them and has a
property of that name, and each of its properties is the name or an alternative with a value
that the schema of the alternative accepts. -/
def Means (accept : Option SchemaRef → Json → Bool) (alternatives : List SchemaRef)
    (members : List (String × Json)) : Prop :=
  ∃ v ∈ alternatives, Json.member members "name" = some (.str (alternativeName v)) ∧
    (Json.member members (alternativeName v)).isSome = true ∧
    ∀ k value, Json.member members k = some value →
      k = "name" ∨ ∃ w ∈ alternatives, alternativeName w = k ∧ accept (some w) value = true

instance (accept : Option SchemaRef → Json → Bool) (alternatives : List SchemaRef)
    (members : List (String × Json)) : Decidable (Means accept alternatives members) :=
  decidable_of_iff (∃ v ∈ alternatives,
      Json.member members "name" = some (.str (alternativeName v)) ∧
        (Json.member members (alternativeName v)).isSome = true ∧
          ∀ kv ∈ members, ∀ value ∈ Json.member members kv.1,
            kv.1 = "name" ∨ ∃ w ∈ alternatives, alternativeName w = kv.1 ∧
              accept (some w) value = true)
    (by simp only [Means, Json.forall_member_iff])

/-- The alternative that an object names is listed only once. -/
def NamedOnce (alternatives : List SchemaRef) (members : List (String × Json)) : Prop :=
  ∀ v ∈ alternatives, Json.member members "name" = some (.str (alternativeName v)) →
    (alternatives.map alternativeName).count (alternativeName v) = 1

/-! ## What schemas accept -/

/-- Nothing is asked of the content of a value. -/
theorem contentAccepted_of_free {accept : Option SchemaRef → Json → Bool} {s : SchemaRef}
    (hproperties : s.properties = []) (hadditional : s.additionalProperties = none)
    (hitems : s.items = none) (value : Json) : contentAccepted accept s value = true := by
  have hfree : ∀ value, additionalAccepts accept s value = true := by
    intro value
    rw [additionalAccepts, hadditional]
  cases value with
  | obj members =>
    rw [contentAccepted, List.all_eq_true]
    intro kv _
    rw [hproperties, List.lookup_nil]
    simp [hfree]
  | arr values => simp [contentAccepted, hitems]
  | _ => rfl

/-- An object as a map: what holds of the value of every key. -/
theorem contentAccepted_obj_iff {accept : Option SchemaRef → Json → Bool} {s : SchemaRef}
    {members : List (String × Json)} :
    contentAccepted accept s (.obj members) = true ↔
      ∀ k value, Json.member members k = some value →
        (match s.properties.lookup k with
          | some property => accept property value
          | none => additionalAccepts accept s value) = true := by
  rw [contentAccepted, List.all_eq_true, Json.forall_member_iff]
  refine forall₂_congr fun kv _ => ?_
  cases Json.member members kv.1 with
  | none => simp
  | some value => simp

namespace Validator

variable {val : Validator} {definitions : View} {n : ℕ}

theorem accepts_enum_iff {x : String} {value : Json} :
    val.accepts definitions (n + 1) (some { SchemaRef.empty with enum := [val.quote x] })
      value = true ↔
      value = .str x := by
  have htext : val.text value = val.quote x ↔ value = .str x :=
    ⟨val.text_eq_str value x, fun h => by rw [h, quote]⟩
  rw [accepts, if_neg (by simp [SchemaRef.empty]), contentAccepted_of_free rfl rfl rfl]
  have hfacets := val.facets_default value
  have hrequired : hasRequired [] value = true := by cases value <;> rfl
  simp [others, exactlyOne, SchemaRef.alternatives, SchemaRef.empty, hasType, hfacets, hrequired,
    htext]

/-- The validation for an alternative. -/
theorem accepts_optionBranch_iff {x : String} {members : List (String × Json)} :
    val.accepts definitions (n + 2) (some (optionBranch val.quote x)) (.obj members) = true ↔
      Json.member members "name" = some (.str x) ∧ (Json.member members x).isSome = true := by
  have hfacets := val.facets_default (.obj members)
  have hothers : val.others (val.accepts definitions (n + 1)) (optionBranch val.quote x)
      (.obj members) = true ↔
        (Json.member members "name").isSome = true ∧ (Json.member members x).isSome = true := by
    simp [others, optionBranch, SchemaRef.empty, hasType, hfacets, hasRequired]
  have hcontent : contentAccepted (val.accepts definitions (n + 1)) (optionBranch val.quote x)
      (.obj members) = true ↔
        ∀ value, Json.member members "name" = some value → value = .str x := by
    rw [contentAccepted_obj_iff]
    constructor
    · intro h value hvalue
      exact accepts_enum_iff.1 (h "name" value hvalue)
    · intro h k value hvalue
      by_cases hk : k = "name"
      · subst hk
        exact accepts_enum_iff.2 (h value hvalue)
      · have hne : (k == "name") = false := beq_false_of_ne hk
        simp [optionBranch, List.lookup_cons, hne, additionalAccepts, SchemaRef.empty]
  rw [accepts, if_neg (by simp [optionBranch, SchemaRef.empty]), Bool.and_eq_true,
    Bool.and_eq_true, hothers, hcontent]
  have hone : exactlyOne (val.accepts definitions (n + 1)) (optionBranch val.quote x)
      (.obj members) = true := rfl
  rw [hone]
  constructor
  · rintro ⟨⟨⟨hname, hoption⟩, hvalue⟩, -⟩
    obtain ⟨value, hmember⟩ := Option.isSome_iff_exists.1 hname
    rw [hmember, hvalue value hmember]
    exact ⟨rfl, hoption⟩
  · rintro ⟨hname, hoption⟩
    rw [hname]
    exact ⟨⟨⟨rfl, hoption⟩, fun value hvalue => (Option.some.inj hvalue).symm⟩, rfl⟩

/-- The definition of the names of a union accepts them. -/
theorem accepts_name {c : SchemaRef} (hc : c.eraseEnum = nameShape) {x : String}
    (hx : val.quote x ∈ c.enum) :
    val.accepts definitions (n + 1) (some c) (.str x) = true := by
  have heq : c = { nameShape with enum := c.enum } := SchemaRef.eq_of_eraseEnum hc rfl
  have hmem : val.text (.str x) ∈ c.enum := hx
  generalize c.enum = enum at heq hmem
  subst heq
  have hfacets := val.facets_default (.str x)
  rw [accepts, if_neg (by simp [nameShape, SchemaRef.empty]), contentAccepted_of_free rfl rfl rfl]
  simp [others, exactlyOne, SchemaRef.alternatives, hasType, hfacets, hasRequired, hmem,
    nameShape, SchemaRef.empty]

/-- Nothing but the reference matters. -/
theorem accepts_of_ref {s s' : SchemaRef} (h : s'.ref = s.ref) (hs : s.ref ≠ "") (n : ℕ)
    (value : Json) :
    val.accepts definitions n (some s') value = val.accepts definitions n (some s) value := by
  cases n with
  | zero => rfl
  | succ n => rw [accepts, accepts, SchemaRef.refName, h, if_pos hs, if_pos hs]; rfl

/-- The order in which a schema lists its values does not matter. -/
theorem others_congr {accept : Option SchemaRef → Json → Bool} {s s' : SchemaRef}
    (h : s'.type = s.type ∧ s'.facets = s.facets ∧ s'.required = s.required ∧
      s'.allOf = s.allOf ∧ s'.anyOf = s.anyOf ∧ s'.not = s.not)
    (henum : ∀ x, x ∈ s'.enum ↔ x ∈ s.enum) (value : Json) :
    val.others accept s' value = val.others accept s value := by
  obtain ⟨htype, hfacets, hrequired, hallOf, hanyOf, hnot⟩ := h
  have hempty : s'.enum.isEmpty = s.enum.isEmpty := by
    rw [Bool.eq_iff_iff, List.isEmpty_iff, List.isEmpty_iff, List.eq_nil_iff_forall_not_mem,
      List.eq_nil_iff_forall_not_mem]
    exact forall_congr' fun x => not_congr (henum x)
  have hcontains : s'.enum.contains (val.text value) = s.enum.contains (val.text value) := by
    rw [Bool.eq_iff_iff, List.contains_iff_mem, List.contains_iff_mem, henum]
  rw [others, others, htype, hfacets, hrequired, hallOf, hanyOf, hnot, hempty, hcontains]

end Validator

/-! ## Schemas that list the same values -/

/-- The same schema, with the same values in its enumeration. -/
def SameValues (s s' : SchemaRef) : Prop :=
  s'.eraseEnum = s.eraseEnum ∧ ∀ x, x ∈ s'.enum ↔ x ∈ s.enum

/-- The same schema, with the same values in its enumeration and in those of its properties. -/
structure Alike (s s' : SchemaRef) : Prop where
  fields : { s'.eraseEnum with properties := [] } = { s.eraseEnum with properties := [] }
  enum : ∀ x, x ∈ s'.enum ↔ x ∈ s.enum
  properties : ∀ k, Option.Rel (Option.Rel SameValues) (s.properties.lookup k)
    (s'.properties.lookup k)

section Alike

variable {s s' : SchemaRef}

theorem rel_refl {α : Type} {R : α → α → Prop} (h : ∀ a, R a a) (o : Option α) :
    Option.Rel R o o := by
  cases o with
  | none => exact .none
  | some a => exact .some (h a)

theorem SameValues.refl (s : SchemaRef) : SameValues s s := ⟨rfl, fun _ => Iff.rfl⟩

theorem SameValues.alike (h : SameValues s s') : Alike s s' := by
  refine ⟨congrArg (fun s : SchemaRef => { s with properties := [] }) h.1, h.2, fun k => ?_⟩
  rw [show s'.properties = s.properties from (congrArg SchemaRef.properties h.1 :)]
  exact rel_refl (rel_refl SameValues.refl) _

/-- They accept the same values. -/
theorem Alike.accepts {val : Validator} {definitions : View} (h : Alike s s') (n : ℕ)
    (value : Json) :
    val.accepts definitions n (some s') value = val.accepts definitions n (some s) value := by
  induction n generalizing s s' value with
  | zero => rfl
  | succ n ih =>
    have href : s'.ref = s.ref := (congrArg SchemaRef.ref h.fields :)
    have hadditional : s'.additionalProperties = s.additionalProperties :=
      (congrArg SchemaRef.additionalProperties h.fields :)
    have hitems : s'.items = s.items := (congrArg SchemaRef.items h.fields :)
    have honeOf : s'.oneOf = s.oneOf := (congrArg SchemaRef.oneOf h.fields :)
    have hcontent : contentAccepted (val.accepts definitions n) s' value
        = contentAccepted (val.accepts definitions n) s value := by
      cases value with
      | obj members =>
        rw [Bool.eq_iff_iff, contentAccepted_obj_iff, contentAccepted_obj_iff]
        refine forall₂_congr fun k value => imp_congr_right fun _ => ?_
        have hk := h.properties k
        generalize s.properties.lookup k = p, s'.properties.lookup k = p' at hk
        cases hk with
        | none => rw [additionalAccepts, hadditional, ← additionalAccepts]
        | some hk =>
          cases hk with
          | none => exact Iff.rfl
          | some hk => exact Bool.eq_iff_iff.1 (ih hk.alike value)
      | arr values => rw [contentAccepted, contentAccepted, hitems]
      | _ => rfl
    have hothers : val.others (val.accepts definitions n) s' value
        = val.others (val.accepts definitions n) s value := by
      refine Validator.others_congr ?_ h.enum value
      exact ⟨(congrArg SchemaRef.type h.fields :), (congrArg SchemaRef.facets h.fields :),
        (congrArg SchemaRef.required h.fields :), (congrArg SchemaRef.allOf h.fields :),
        (congrArg SchemaRef.anyOf h.fields :), (congrArg SchemaRef.not h.fields :)⟩
    rw [Validator.accepts, Validator.accepts, hcontent, hothers, SchemaRef.refName, href,
      exactlyOne, SchemaRef.alternatives, honeOf]
    rfl

theorem SameValues.enrich (h : SameValues s s') {extra : List String}
    (hextra : ∀ x ∈ extra, x ∈ s.enum) : SameValues s (s'.enrich extra) := by
  refine ⟨h.1, fun x => ?_⟩
  rw [SchemaRef.enrich, mem_sortUnique, List.mem_append, h.2]
  exact ⟨fun hx => hx.elim id (hextra x), Or.inl⟩

/-- A neutral schema stays what it is when its enumerations are passed on within it. -/
theorem SchemaRef.Neutral.alike (h : s.Neutral) : Alike s s.passInline := by
  have hloop : ∀ (names : List String) (s' : SchemaRef), Alike s s' →
      Alike s (names.foldl s.passWithin s') := by
    intro names
    induction names with
    | nil => exact fun _ hs' => hs'
    | cons name names ih =>
      refine fun s' hs' => ih _ ?_
      unfold SchemaRef.passWithin
      split
      · exact hs'
      · next property hproperty =>
        replace hproperty := Option.join_eq_some_iff.1 hproperty
        split
        · next href =>
          refine ⟨hs'.fields, hs'.enum, fun k => ?_⟩
          rw [SchemaRef.enrichProperty, Assoc.lookup_modify]
          have hk := hs'.properties k
          split_ifs with hname
          · subst hname
            rw [hproperty] at hk ⊢
            generalize s'.properties.lookup k = p' at hk ⊢
            cases hk with
            | some hk =>
              cases hk with
              | some hk => exact .some (.some (hk.enrich (h k property hproperty href)))
          · exact hk
        · exact hs'
  exact hloop _ s (SameValues.refl s).alike

end Alike

/-! ## Compiled unions -/

/-- The schema that `oneOfRefsTransform` leaves behind, with the definition of its names. -/
structure CompiledUnion (val : Validator) (definitions : View) (key : String)
    (alternatives : List SchemaRef) (s : SchemaRef) : Prop where
  ref : s.ref = ""
  oneOf : s.oneOf = some ((alternatives.map alternativeName).map fun x =>
    some (optionBranch val.quote x))
  closed : ∃ p, s.additionalProperties = some p ∧ p.allowed = some false
  name : ∃ p, s.properties.lookup "name" = some (some p) ∧ p.ref ≠ "" ∧
    p.refName = nameDefinitionKey key
  names : ∃ c, definitions (nameDefinitionKey key) = some (some c) ∧ c.eraseEnum = nameShape ∧
    ∀ v ∈ alternatives, val.quote (alternativeName v) ∈ c.enum

namespace Validator

variable {val : Validator} {definitions : View} {n : ℕ} {key : String}
  {alternatives : List SchemaRef} {s : SchemaRef}

/-- The number of alternatives that are valid is the number of times the one that is named is
listed, if it is there. -/
theorem exactlyOne_union_iff (hs : CompiledUnion val definitions key alternatives s)
    (hne : alternatives ≠ []) (members : List (String × Json)) :
    exactlyOne (val.accepts definitions (n + 2)) s (.obj members) = true ↔
      ∃ v ∈ alternatives, Json.member members "name" = some (.str (alternativeName v)) ∧
        (Json.member members (alternativeName v)).isSome = true ∧
          (alternatives.map alternativeName).count (alternativeName v) = 1 := by
  have halternatives : s.alternatives
      = (alternatives.map alternativeName).map fun x => some (optionBranch val.quote x) := by
    rw [SchemaRef.alternatives, hs.oneOf, Option.getD_some]
  have hcount : s.alternatives.countP
        (fun v => val.accepts definitions (n + 2) v (.obj members))
      = (alternatives.map alternativeName).countP fun x =>
        decide (Json.member members "name" = some (.str x) ∧
          (Json.member members x).isSome = true) := by
    rw [halternatives, List.countP_map]
    refine List.countP_congr fun x _ => ?_
    simp only [Function.comp_apply, decide_eq_true_iff]
    exact accepts_optionBranch_iff
  have hnil : s.alternatives.isEmpty = false := by
    rw [halternatives]
    simpa using hne
  -- only the alternative that is named counts
  have hnamed : ∀ v, Json.member members "name" = some (.str (alternativeName v)) →
      (Json.member members (alternativeName v)).isSome = true →
      ((alternatives.map alternativeName).countP fun x =>
        decide (Json.member members "name" = some (.str x) ∧
          (Json.member members x).isSome = true))
        = (alternatives.map alternativeName).count (alternativeName v) := by
    intro v hname hoption
    refine List.countP_congr fun x _ => ?_
    rw [decide_eq_true_iff, beq_iff_eq, hname]
    constructor
    · rintro ⟨heq, -⟩
      simpa using heq.symm
    · rintro rfl
      exact ⟨rfl, hoption⟩
  rw [exactlyOne, hnil, Bool.false_or, beq_iff_eq, hcount]
  constructor
  · intro hone
    obtain ⟨x, hx, hvalid⟩ := List.countP_pos_iff.1 (by rw [hone]; exact Nat.one_pos)
    obtain ⟨v, hv, rfl⟩ := List.mem_map.1 hx
    obtain ⟨hname, hoption⟩ := decide_eq_true_iff.1 hvalid
    exact ⟨v, hv, hname, hoption, (hnamed v hname hoption).symm.trans hone⟩
  · rintro ⟨v, -, hname, hoption, hone⟩
    exact (hnamed v hname hoption).trans hone

/-- A compiled union whose properties accept what the alternatives of their names accept, each
of which is listed once, accepts what the union means. -/
theorem accepts_union_iff (hs : CompiledUnion val definitions key alternatives s)
    (hproperties : ∀ k, k ≠ "name" → ∀ value,
      (∃ property, s.properties.lookup k = some property ∧
        val.accepts definitions (n + 2) property value = true) ↔
      ∃ v ∈ alternatives, alternativeName v = k ∧
        val.accepts definitions (n + 2) (some v) value = true)
    (hne : alternatives ≠ []) (hnodup : (alternatives.map alternativeName).Nodup)
    (members : List (String × Json)) :
    val.accepts definitions (n + 3) (some s) (.obj members) = true ↔
      val.others (val.accepts definitions (n + 2)) s (.obj members) = true ∧
        Means (val.accepts definitions (n + 2)) alternatives members := by
  -- a property that is not listed is refused
  have hcontent : contentAccepted (val.accepts definitions (n + 2)) s (.obj members) = true ↔
      ∀ k value, Json.member members k = some value → ∃ property,
        s.properties.lookup k = some property ∧
          val.accepts definitions (n + 2) property value = true := by
    obtain ⟨⟨allowed, schema⟩, hadditional, hclosed⟩ := hs.closed
    obtain rfl : allowed = some false := hclosed
    rw [contentAccepted_obj_iff]
    refine forall₂_congr fun k value => imp_congr_right fun _ => ?_
    cases s.properties.lookup k with
    | none => simp [additionalAccepts, hadditional]
    | some property => simp
  rw [accepts, if_neg (by simp [hs.ref]), Bool.and_eq_true, Bool.and_eq_true, and_assoc,
    exactlyOne_union_iff hs hne, hcontent]
  refine and_congr_right fun _ => ⟨?_, ?_⟩
  · rintro ⟨hall, v, hv, hname, hoption, -⟩
    refine ⟨v, hv, hname, hoption, fun k value hvalue => ?_⟩
    by_cases hk : k = "name"
    · exact Or.inl hk
    · exact Or.inr ((hproperties k hk value).1 (hall k value hvalue))
  · rintro ⟨v, hv, hname, hoption, hall⟩
    refine ⟨fun k value hvalue => ?_, v, hv, hname, hoption,
      List.count_eq_one_of_mem hnodup (List.mem_map_of_mem hv)⟩
    by_cases hk : k = "name"
    · subst hk
      obtain rfl := Option.some.inj (hname.symm.trans hvalue)
      obtain ⟨p, hp, hpref, hprefName⟩ := hs.name
      obtain ⟨c, hc, hshape, hmem⟩ := hs.names
      refine ⟨some p, hp, ?_⟩
      rw [accepts, if_pos hpref, hprefName, hc]
      exact accepts_name hshape (hmem v hv)
    · exact (hproperties k hk value).2 ((hall k value hvalue).resolve_left hk)

end Validator

end Fybrik.Compile
