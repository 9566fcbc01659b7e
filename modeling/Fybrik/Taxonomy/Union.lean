import Mathlib.Data.List.ReduceOption
import Fybrik.Taxonomy.Merging
import Fybrik.Taxonomy.Validation

/-!
# The meaning of compiled unions

The tour of the compiler, as far as one union is concerned.

* `listedAlternatives` — the alternatives that the documents list for a union.
* `UnionSafe` — the union is visited in its own turn, and nothing else changes what becomes of
  it or of its alternatives.
* `documents_meaningKept` — a compiled document accepts an object for a union if and only if
  this is what the union means.
-/

namespace Fybrik.Compile

/-! ## The alternatives of a union -/

/-- The alternatives that documents list for a union, one document after the other. -/
def listedAlternatives (documents : List Document) (key : String) : List SchemaRef :=
  ((listings documents key).reduceOption.flatMap SchemaRef.alternatives).reduceOption

theorem alternatives_mergeDefinitions (order : IterationOrder) (documents : List Document)
    (key : String) :
    (((mergeDefinitions order documents).lookup key).join.map SchemaRef.alternatives).getD []
      = (listings documents key).reduceOption.flatMap SchemaRef.alternatives := by
  induction documents using List.reverseRecOn with
  | nil => rfl
  | append_singleton documents doc ih =>
    rw [mergeDefinitions_append, lookup_merge, listings_append, List.reduceOption_append,
      List.flatMap_append, ← ih]
    cases doc.definitions.lookup key with
    | none => simp
    | some src =>
      generalize ((mergeDefinitions order documents).lookup key).join = dst
      rw [Option.elim_some, Option.join_some]
      cases dst with
      | none =>
        rw [mergeSchemaRef_none_left]
        cases src <;> simp
      | some dst =>
        cases src with
        | none => simp [mergeSchemaRef]
        | some src => simp [mergeSchemaRef, alternatives_mergeInto]

theorem alternativeNames_eq (alternatives : List (Option SchemaRef)) :
    alternativeNames alternatives = alternatives.reduceOption.map alternativeName := by
  rw [← List.reduceOption_map, List.reduceOption, List.filterMap_map]
  rfl

section Alternatives

variable {quote : String → String} {visited : List String} {union : String} {schema : SchemaRef}

/-- What becomes of the alternatives. -/
theorem mem_outcomes {alternatives : List (Option SchemaRef)} {np : String × SchemaRef}
    (h : np ∈ (outcomes quote alternatives visited).1) :
    ∃ v visited', some v ∈ alternatives ∧
      np = (alternativeName v, (outcome quote (alternativeKey v) v visited').node) ∧
      ∀ σ ∈ (outcome quote (alternativeKey v) v visited').stops,
        σ ∈ (outcomes quote alternatives visited).2 := by
  induction alternatives generalizing visited with
  | nil => cases h
  | cons v alternatives ih =>
    cases v with
    | none => cases h
    | some v =>
      rw [outcomes] at h ⊢
      rcases List.mem_cons.1 h with rfl | h
      · exact ⟨v, visited, List.mem_cons_self, rfl, fun σ hσ => List.mem_append_left _ hσ⟩
      · obtain ⟨w, visited', hw, heq, hstops⟩ := ih h
        exact ⟨w, visited', List.mem_cons_of_mem _ hw, heq,
          fun σ hσ => List.mem_append_right _ (hstops σ hσ)⟩

/-- An alternative that is a reference stays one, and another one accepts what it did if it is
neutral or has not been visited. -/
theorem accepts_outcome {val : Validator} {definitions : View} {v : SchemaRef}
    (h : v.ref = "" → ⟨"", some v.eraseEnum⟩ ∈ (outcome quote (alternativeKey v) v visited).stops →
      v.Neutral) (n : ℕ) (value : Json) :
    val.accepts definitions n (some (outcome quote (alternativeKey v) v visited).node) value
      = val.accepts definitions n (some v) value := by
  by_cases href : v.ref = ""
  · have hkey : alternativeKey v = "" := by rw [alternativeKey, if_neg (not_not.2 href)]
    rw [hkey] at h ⊢
    by_cases hvisited : "" ∈ visited
    · rw [outcome_of_visited hvisited]
    · rw [outcome_of_not_union hvisited (by simp [applies])] at h ⊢
      exact (h href List.mem_cons_self).alike.accepts n value
  · exact Validator.accepts_of_ref (outcome_node quote _ v visited).1 href n value

theorem lookup_addProperties {added : List (String × SchemaRef)}
    (h : (added.map Prod.fst).Nodup) (l : List (String × Option SchemaRef)) (k : String) :
    (SchemaRef.addProperties added l).lookup k = ((added.lookup k).map some).or (l.lookup k) := by
  induction added generalizing l with
  | nil => rfl
  | cons np added ih =>
    obtain ⟨hnew, hnodup⟩ := List.nodup_cons.1 h
    rw [SchemaRef.addProperties, List.foldl_cons, ← SchemaRef.addProperties, ih hnodup,
      Assoc.lookup_set_eq, List.lookup_cons]
    by_cases hk : k = np.1
    · subst hk
      have hnone : added.lookup np.1 = none := by
        rw [List.lookup_eq_none_iff]
        exact fun np' hnp' => bne_iff_ne.2 fun heq => hnew (List.mem_map.2 ⟨np', hnp', heq.symm⟩)
      simp [hnone]
    · simp [hk, beq_false_of_ne hk]

/-- The only property of a union before its visit is its name. -/
theorem lookup_properties_of_applies (h : applies union schema = some true) {k : String}
    (hk : k ≠ "name") : schema.properties.lookup k = none := by
  rw [applies] at h
  split_ifs at h with hnot
  · cases h
  · simp only [not_or, not_not] at hnot
    obtain ⟨-, -, hlength, -, hname⟩ := hnot
    obtain ⟨np, hnp⟩ := List.length_eq_one_iff.1 hlength
    rw [hnp, List.lookup_cons, List.lookup_nil] at hname ⊢
    cases heq : k == np.1 with
    | false => rfl
    | true =>
      obtain rfl := beq_iff_eq.1 heq
      exact absurd (by rw [beq_false_of_ne (Ne.symm hk)]) hname

/-- A union whose alternatives have been visited is neutral if it is with the alternatives as
they are listed. -/
theorem neutral_restructured (visited : List String) (happlies : applies union schema = some true)
    (h : (schema.structural quote union).Neutral) :
    (schema.restructured quote union (alternativeNames schema.alternatives)
      (optionalOutcomes quote schema.oneOf visited).1).Neutral := by
  intro name property hlookup href x hx
  have halternatives := map_optionalOutcomes quote
    (fun v => (some v : Option SchemaRef).map fun v => (v.ref, v.enum))
    (fun v visited => by
      simp only [Option.map_some, (outcome_node quote _ v visited).1,
        (outcome_node quote _ v visited).2]) happlies visited
  have hread := SchemaRef.map_properties_restructured quote union
    (alternativeNames schema.alternatives) (fun p => p.map fun v : SchemaRef => (v.ref, v.enum))
    halternatives schema
  have hname := congrArg (List.lookup name) hread
  rw [Assoc.lookup_map, Assoc.lookup_map, hlookup] at hname
  obtain ⟨listed, hlisted, heq⟩ := Option.map_eq_some_iff.1 hname.symm
  obtain ⟨v, rfl, hv⟩ := Option.map_eq_some_iff.1 heq
  obtain ⟨hvref, hvenum⟩ := Prod.mk.inj hv
  rw [← hvenum]
  exact h name v hlisted (hvref.trans href) x hx

end Alternatives

/-! ## The reference to the names -/

/-- The reference to the names of a union leads to their definition, unless the key of the
union has a slash. -/
theorem refName_nameRef {key : String} (hkey : '/' ∉ key.toList) :
    (nameRef key).refName = nameDefinitionKey key := by
  have hslash : ∀ c ∈ (nameDefinitionKey key).toList.reverse, (decide (c ≠ '/')) = true := by
    intro c hc
    rw [List.mem_reverse, toList_nameDefinitionKey, List.mem_append] at hc
    rw [decide_eq_true_iff]
    rintro rfl
    rcases hc with hc | hc
    · exact hkey hc
    · revert hc
      decide
  have htext : (nameRef key).ref.toList.reverse
      = (nameDefinitionKey key).toList.reverse ++ "#/definitions/".toList.reverse := by
    rw [nameRef, String.toList_append, List.reverse_append]
  have hstop : "#/definitions/".toList.reverse.takeWhile (fun c => decide (c ≠ '/')) = [] := by
    decide
  rw [SchemaRef.refName, SchemaRef.afterLastSlash, htext, List.takeWhile_append_of_pos hslash,
    hstop, List.append_nil, List.reverse_reverse, String.ofList_toList]

theorem ref_nameRef_ne (key : String) : (nameRef key).ref ≠ "" := by
  intro h
  have hlist := congrArg String.toList h
  rw [nameRef, String.toList_append] at hlist
  simp at hlist

/-- The names of a union are listed after its visit. -/
theorem mem_enumAfter_names {quote : String → String} {stops : List Stop} {σ : Stop}
    {key x : String} {e : List String} (hnodup : (stops.map Stop.key).Nodup) (hσ : σ ∈ stops)
    (hdefines : σ.defines key = true) (hx : x ∈ σ.names quote) :
    x ∈ enumAfter quote key stops e := by
  obtain ⟨before, after, rfl⟩ := List.append_of_mem hσ
  rw [List.map_append, List.nodup_append] at hnodup
  have hafter : ∀ σ' ∈ after, σ'.defines key = false := by
    intro σ' hσ'
    by_contra hdefined
    rw [Bool.not_eq_false] at hdefined
    refine (List.nodup_cons.1 hnodup.2.1).1 ?_
    rw [Stop.key_eq_of_defines hdefines hdefined]
    exact List.mem_map_of_mem hσ'
  rw [enumAfter, List.foldl_append, List.foldl_cons, ← enumAfter, mem_enumAfter hafter,
    Stop.enumAt, if_pos hdefines, mem_enriched]
  exact Or.inl (Or.inl hx)

/-! ## Documents -/

/-- The conditions under which a union keeps its meaning, apart from repeated alternatives: it
has a turn on the tour and is not replaced by names; its key has no slash; it is no reference
and lists an alternative; and no values are passed on, to it or to its alternatives or within
the alternative that is visited, that are not there already. -/
structure UnionSafe (quote : String → String) (order : IterationOrder) (base : Document)
    (layers : List Document) (union : String) (schema : SchemaRef) : Prop where
  turned : ∃ τ ∈ documentTour quote order base layers, τ.key = union
  kept : ∀ σ ∈ stopsOf quote (documentTour quote order base layers), σ.defines union = false
  slash : '/' ∉ union.toList
  ref : schema.ref = ""
  nonempty : schema.alternatives ≠ []
  passed : ∀ σ ∈ stopsOf quote (documentTour quote order base layers),
    ∀ extra ∈ σ.passes quote union, ∀ x ∈ extra, x ∈ schema.enum
  neutral : (schema.structural quote union).Neutral
  titled : ∀ τ ∈ documentTour quote order base layers, τ.key = union →
    ∀ v ∈ schema.alternatives.reduceOption, v.ref = "" →
      ⟨"", some v.eraseEnum⟩ ∈ τ.stops quote → v.Neutral

/-- The document accepts an object for the union if and only if this is what the union means,
subject to its other constraints. -/
def MeaningKept (val : Validator) (definitions : View) (compiled schema : SchemaRef)
    (alternatives : List SchemaRef) : Prop :=
  ∀ n members, val.accepts definitions (n + 3) (some compiled) (.obj members) = true ↔
    val.others (val.accepts definitions (n + 2)) schema (.obj members) = true ∧
      Means (val.accepts definitions (n + 2)) alternatives members

/-- The objects that the union means name alternatives that are listed only once. -/
def MeansListedOnce (val : Validator) (definitions : View) (schema : SchemaRef)
    (alternatives : List SchemaRef) : Prop :=
  ∀ n members, val.others (val.accepts definitions (n + 2)) schema (.obj members) = true →
    Means (val.accepts definitions (n + 2)) alternatives members →
      NamedOnce alternatives members

section Documents

variable {val : Validator} {order : IterationOrder} {base : Document} {layers : List Document}
  {union : String} {schema compiled : SchemaRef} {st : View × List String}

/-- The union after its own turn and all others: the alternatives have become properties, and
the values that are listed are the same. -/
theorem UnionSafe.exists_compiled (hsafe : UnionSafe val.quote order base layers union schema)
    (hfollows : Follows val.quote (mergeDefinitions order (base :: layers)).lookup
      (documentTour val.quote order base layers) st)
    (hschema : (mergeDefinitions order (base :: layers)).lookup union = some (some schema))
    (happlies : applies union schema = some true) :
    ∃ τ ∈ documentTour val.quote order base layers, τ.key = union ∧
      τ.stops val.quote = (optionalOutcomes val.quote schema.oneOf (union :: τ.visited)).2
        ++ [⟨union, some schema.eraseEnum⟩] ∧
      ∃ compiled, st.1 union = some (some compiled) ∧
        Alike (schema.restructured val.quote union (alternativeNames schema.alternatives)
          (optionalOutcomes val.quote schema.oneOf (union :: τ.visited)).1) compiled := by
  obtain ⟨τ₀, hτ₀, hkey₀⟩ := hsafe.turned
  have hnames : (stopsOf val.quote (documentTour val.quote order base layers)).any
      (Stop.defines · union) = false :=
    List.any_eq_false.2 fun σ hσ => by rw [hsafe.kept σ hσ]; exact Bool.false_ne_true
  obtain ⟨τ, hfind⟩ : ∃ τ, (documentTour val.quote order base layers).find?
      (Turn.key · == union) = some τ :=
    Option.isSome_iff_exists.1 (List.find?_isSome.2 ⟨τ₀, hτ₀, beq_iff_eq.2 hkey₀⟩)
  have hτ := List.mem_of_find?_eq_some hfind
  have hkey : τ.key = union := beq_iff_eq.1 (by simpa using List.find?_some hfind)
  have hown : τ.schema = some schema := by
    rcases hfollows.schema τ hτ with h | h
    · rw [hkey, hnames] at h
      cases h
    · rw [hkey, hschema] at h
      exact (Option.some.inj h).symm
  have hfresh : union ∉ τ.visited := hkey ▸ hfollows.fresh τ hτ
  have hshape := hfollows.shape union
  rw [shape, hnames, if_neg Bool.false_ne_true, hfind] at hshape
  dsimp only at hshape
  rw [Turn.node, hown, hkey, Option.map_some, outcome_of_union hfresh happlies] at hshape
  obtain ⟨compiled, hcompiled, herase⟩ := eq_some_of_erased hshape
  have halike := (neutral_restructured (union :: τ.visited) happlies hsafe.neutral).alike
  refine ⟨τ, hτ, hkey, ?_, compiled, hcompiled, ?_, fun x => ?_, fun k => ?_⟩
  · rw [Turn.stops, hown, hkey]
    dsimp only
    rw [outcome_of_union hfresh happlies]
  · exact (congrArg (fun s : SchemaRef => { s with properties := [] }) herase).trans halike.fields
  · have henum := hfollows.enum union
    rw [hcompiled, hschema] at henum
    rw [show compiled.enum = _ from henum, mem_enumAfter hsafe.kept]
    refine ⟨fun h => ?_, Or.inl⟩
    rcases h with h | ⟨σ, hσ, extra, hextra, hx⟩
    · exact h
    · exact hsafe.passed σ hσ extra hextra x hx
  · have hproperties := (congrArg SchemaRef.properties herase :)
    exact (congrArg (List.lookup k) hproperties).symm ▸ halike.properties k

/-- The names of the union after all turns. -/
theorem exists_names {turns : List Turn} {m : View} {quote : String → String}
    (hfollows : Follows quote m turns st) (happlies : applies union schema = some true)
    (hstop : ⟨union, some schema.eraseEnum⟩ ∈ stopsOf quote turns) :
    ∃ c, st.1 (nameDefinitionKey union) = some (some c) ∧ c.eraseEnum = nameShape ∧
      ∀ v ∈ schema.alternatives.reduceOption, quote (alternativeName v) ∈ c.enum := by
  have hdefines : Stop.defines ⟨union, some schema.eraseEnum⟩ (nameDefinitionKey union) = true := by
    have happlies' : applies union schema.eraseEnum = some true := happlies
    simp [Stop.defines, happlies']
  have hshape := hfollows.shape (nameDefinitionKey union)
  rw [shape, if_pos (List.any_eq_true.2 ⟨_, hstop, hdefines⟩)] at hshape
  obtain ⟨c, hc, herase⟩ := eq_some_of_erased hshape
  refine ⟨c, hc, herase, fun v hv => ?_⟩
  have henum := hfollows.enum (nameDefinitionKey union)
  rw [hc] at henum
  rw [show c.enum = _ from henum]
  refine mem_enumAfter_names (hfollows.visited ▸ hfollows.nodup) hstop hdefines ?_
  change _ ∈ (alternativeNames schema.alternatives).map quote
  rw [alternativeNames_eq, List.map_map]
  exact List.mem_map.2 ⟨v, hv, rfl⟩

theorem compiledUnion_of_alike {definitions : View} {visited : List String}
    (happlies : applies union schema = some true) (href : schema.ref = "")
    (hslash : '/' ∉ union.toList)
    (h : Alike (schema.restructured val.quote union (alternativeNames schema.alternatives)
      (optionalOutcomes val.quote schema.oneOf visited).1) compiled)
    (hnames : ∃ c, definitions (nameDefinitionKey union) = some (some c) ∧
      c.eraseEnum = nameShape ∧
      ∀ v ∈ schema.alternatives.reduceOption, val.quote (alternativeName v) ∈ c.enum) :
    CompiledUnion val definitions union schema.alternatives.reduceOption compiled where
  ref := (congrArg SchemaRef.ref h.fields :).trans href
  oneOf := by
    rw [← alternativeNames_eq]
    exact (congrArg SchemaRef.oneOf h.fields :)
  closed := by
    have hadditional : compiled.additionalProperties = schema.additionalProperties.map
        fun p => { p with allowed := some false } :=
      (congrArg SchemaRef.additionalProperties h.fields :)
    rw [hadditional]
    rw [applies] at happlies
    split_ifs at happlies with hnot
    · cases happlies
    · simp only [not_or] at hnot
      cases hown : schema.additionalProperties with
      | none => exact absurd (by rw [hown]; rfl) hnot.2.2.2.1
      | some p => exact ⟨_, rfl, rfl⟩
  name := by
    have hname := h.properties "name"
    rw [SchemaRef.restructured, SchemaRef.close, Assoc.lookup_set] at hname
    generalize compiled.properties.lookup "name" = p at hname
    cases hname with
    | some hname =>
      cases hname with
      | some hname =>
        rename_i p
        have hpref : p.ref = (nameRef union).ref := (congrArg SchemaRef.ref hname.1 :)
        exact ⟨p, rfl, hpref ▸ ref_nameRef_ne union,
          (congrArg SchemaRef.afterLastSlash hpref).trans (refName_nameRef hslash)⟩
  names := hnames

/-- The properties of a compiled union accept what the alternatives of their names accept. -/
theorem accepts_property_iff {definitions : View} {visited : List String}
    (happlies : applies union schema = some true)
    (h : Alike (schema.restructured val.quote union (alternativeNames schema.alternatives)
      (optionalOutcomes val.quote schema.oneOf visited).1) compiled)
    (htitled : ∀ v ∈ schema.alternatives.reduceOption, v.ref = "" →
      ⟨"", some v.eraseEnum⟩ ∈ (optionalOutcomes val.quote schema.oneOf visited).2 → v.Neutral)
    (hnodup : (schema.alternatives.reduceOption.map alternativeName).Nodup) {n : ℕ} {k : String}
    (hk : k ≠ "name") (value : Json) :
    (∃ property, compiled.properties.lookup k = some property ∧
        val.accepts definitions n property value = true) ↔
      ∃ v ∈ schema.alternatives.reduceOption, alternativeName v = k ∧
        val.accepts definitions n (some v) value = true := by
  have hnames : (optionalOutcomes val.quote schema.oneOf visited).1.map Prod.fst
      = schema.alternatives.reduceOption.map alternativeName := by
    have hread := congrArg (List.map Prod.fst) (map_optionalOutcomes val.quote
      (fun _ => ()) (fun _ _ => rfl) happlies visited)
    rw [← alternativeNames_eq]
    simpa [Function.comp_def, SchemaRef.named, alternativeNames, List.map_filterMap] using hread
  -- what has become of an alternative accepts the same
  have hadded : ∀ np ∈ (optionalOutcomes val.quote schema.oneOf visited).1,
      ∃ v ∈ schema.alternatives.reduceOption, alternativeName v = np.1 ∧
        val.accepts definitions n (some np.2) value = val.accepts definitions n (some v) value := by
    intro np hnp
    rw [SchemaRef.alternatives] at htitled ⊢
    cases honeOf : schema.oneOf with
    | none =>
      rw [honeOf] at hnp
      cases hnp
    | some alternatives =>
      rw [honeOf] at hnp htitled
      obtain ⟨v, visited', hv, rfl, hstops⟩ := mem_outcomes hnp
      have hv' := List.reduceOption_mem_iff.2 hv
      exact ⟨v, hv', rfl, accepts_outcome (fun href hstop =>
        htitled v hv' href (hstops _ hstop)) n value⟩
  have hlookup : ∀ node, (optionalOutcomes val.quote schema.oneOf visited).1.lookup k = some node →
      ∃ v ∈ schema.alternatives.reduceOption, alternativeName v = k ∧
        val.accepts definitions n (some node) value = val.accepts definitions n (some v) value :=
    fun node hnode => hadded (k, node) (Assoc.mem_of_lookup hnode)
  have hproperty := h.properties k
  rw [SchemaRef.restructured, SchemaRef.close, Assoc.lookup_set_ne hk, SchemaRef.withProperties,
    lookup_addProperties (hnames ▸ hnodup), lookup_properties_of_applies happlies hk,
    Option.or_none] at hproperty
  cases hnode : (optionalOutcomes val.quote schema.oneOf visited).1.lookup k with
  | none =>
    rw [hnode] at hproperty
    have hnone : compiled.properties.lookup k = none := by
      generalize compiled.properties.lookup k = p at hproperty
      cases hproperty
      rfl
    refine iff_of_false ?_ ?_
    · rintro ⟨_, hsome, -⟩
      rw [hnone] at hsome
      cases hsome
    · rintro ⟨v, hv, hname, -⟩
      rw [List.lookup_eq_none_iff] at hnode
      have hmem := List.mem_map_of_mem (f := alternativeName) hv
      rw [← hnames] at hmem
      obtain ⟨np, hnp, heq⟩ := List.mem_map.1 hmem
      exact bne_iff_ne.1 (hnode np hnp) (hname.symm.trans heq.symm)
  | some node =>
    obtain ⟨v, hv, hname, haccepts⟩ := hlookup node hnode
    rw [hnode] at hproperty
    obtain ⟨p, hp, hsame⟩ : ∃ p, compiled.properties.lookup k = some (some p) ∧
        SameValues node p := by
      generalize compiled.properties.lookup k = p at hproperty
      cases hproperty with
      | some hproperty =>
        cases hproperty with
        | some hproperty => exact ⟨_, rfl, hproperty⟩
    rw [hp]
    constructor
    · rintro ⟨property, hproperty, haccepted⟩
      rw [← Option.some.inj hproperty, hsame.alike.accepts, haccepts] at haccepted
      exact ⟨v, hv, hname, haccepted⟩
    · rintro ⟨w, hw, hwname, haccepted⟩
      obtain rfl : w = v := List.inj_on_of_nodup_map hnodup hw hv (hwname.trans hname.symm)
      exact ⟨some p, rfl, by rwa [hsame.alike.accepts, haccepts]⟩

end Documents

/-- A validator that knows the text of strings, and of nothing else. -/
def stringValidator : Validator where
  text
    | .str s => quoted s
    | _ => ""
  facets := fun _ _ => true
  null := fun _ => false
  text_eq_str := by
    intro value s h
    have hlist := congrArg String.toList h
    cases value with
    | str a =>
      simp only [quoted, String.toList_append, List.append_cancel_left_eq,
        List.append_cancel_right_eq] at hlist
      rw [String.toList_inj.1 hlist]
    | _ => simp [quoted] at hlist
  facets_default := fun _ => rfl

/-- A schema with a name and alternatives. -/
def unionOf (name : SchemaRef) (alternatives : List SchemaRef) : SchemaRef :=
  { SchemaRef.empty with
    type := "object"
    properties := [("name", some name)]
    additionalProperties := some ⟨some true, none⟩
    oneOf := some (alternatives.map some) }

/-- The definition of actions in a base document. -/
def actionBase : Document :=
  documentOf
    [("Action", { unionOf (refTo "ActionName") [] with required := ["name"] }),
      ("ActionName", { SchemaRef.empty with type := "string" })]

/-- A layer that adds actions. -/
def actionLayer (actions : List String) : Document :=
  documentOf (("Action", { SchemaRef.empty with oneOf := some (actions.map (some ∘ refTo)) })
    :: actions.map fun action => (action, { SchemaRef.empty with type := "object" }))

/-- An object for an action. -/
def redaction : List (String × Json) :=
  [("name", .str "RedactAction"), ("RedactAction", .obj [])]

end Fybrik.Compile
