import Fybrik.Taxonomy.Frame

/-!
# References that lead nowhere

`propogateEnum` writes to the definition that a property refers to, and crashes if there is no
such definition; it also reads the fields of schemas that may be missing.  References elsewhere
in a schema are never followed.

* `tour` — the turns that the loop of `transform` takes, and with them the schemas that are
  visited, for the merged definitions and an order.
* `resolved` — each schema that is visited finds what it looks for.
* `enumAfter` — the enumeration of a definition after some visits.
* `Follows` — the definitions after these turns, and their enumerations.
* `documents_isSome_iff` — the compiler returns a document if and only if the schemas on its
  tour find what they look for.
-/

namespace Fybrik.Compile

/-! ## Finding what is looked for -/

/-- The definition is there and is not `null`. -/
def View.knows (d : View) (key : String) : Bool := (d key).join.isSome

/-- A schema finds what it looks for to deal with one of its properties: the property, the
validation groups, and the definition if the property is a reference. -/
def SchemaRef.resolvesAt (known : String → Bool) (s : SchemaRef) (propertyName : String) : Bool :=
  match s.properties.lookup propertyName with
  | none => true
  | some none => false
  | some (some property) =>
    (s.addedEnums propertyName).isSome && (property.ref == "" || known property.refName)

/-- A schema finds what it looks for. -/
def SchemaRef.resolves (known : String → Bool) (s : SchemaRef) : Bool :=
  (s.properties.map Prod.fst).all (s.resolvesAt known)

/-- The definition of names that a visit to a union makes. -/
def Stop.defines (σ : Stop) (key : String) : Bool :=
  σ.schema.any (fun s => applies σ.key s == some true) && key == nameDefinitionKey σ.key

variable (quote : String → String)

/-- The schema that passes on enumerations at the end of a visit, if the schema is found and the
alternatives up to the first one without an identifier. -/
def Stop.subject (σ : Stop) : Option SchemaRef :=
  σ.schema.bind fun s => (applies σ.key s).map fun union =>
    if union then s.structural quote σ.key else s

/-- A visit finds what it looks for. -/
def Stop.resolves (known : String → Bool) (σ : Stop) : Bool :=
  (σ.subject quote).any (SchemaRef.resolves known)

/-- Each of the visits finds what it looks for, where the names of the unions that have been
visited are definitions as well. -/
def resolved (quote : String → String) : (String → Bool) → List Stop → Bool
  | _, [] => true
  | known, σ :: stops =>
    σ.resolves quote (fun k => known k || σ.defines k) &&
      resolved quote (fun k => known k || σ.defines k) stops

/-! ## What is passed on -/

/-- The values of an enumeration. -/
def enumOf (s : Option (Option SchemaRef)) : List String := (s.join.map SchemaRef.enum).getD []

/-- An enumeration to which values are added several times. -/
def enriched (e : List String) (extras : List (List String)) : List String :=
  extras.foldl (fun e extra => sortUnique (e ++ extra)) e

/-- What a schema passes on for one of its properties: the definition and the values. -/
def SchemaRef.passedFor (s : SchemaRef) (propertyName : String) : Option (String × List String) :=
  (s.properties.lookup propertyName).join.bind fun property =>
    if property.ref = "" then none
    else some (property.refName, (s.addedEnums propertyName).getD [])

/-- What a visit passes on. -/
def Stop.passed (σ : Stop) : List (String × List String) :=
  ((σ.subject quote).map fun s => (s.properties.map Prod.fst).filterMap s.passedFor).getD []

/-- The values that are passed on to one definition. -/
def passesTo (key : String) (passed : List (String × List String)) : List (List String) :=
  passed.filterMap fun ke => if ke.1 = key then some ke.2 else none

/-- What a visit passes on to a definition. -/
def Stop.passes (key : String) (σ : Stop) : List (List String) :=
  passesTo key (σ.passed quote)

/-- The names of the union that is visited. -/
def Stop.names (σ : Stop) : List String :=
  (σ.schema.map fun s => (alternativeNames s.alternatives).map quote).getD []

/-- The enumeration of a definition after a visit. -/
def Stop.enumAt (key : String) (e : List String) (σ : Stop) : List String :=
  enriched (if σ.defines key then σ.names quote else e) (σ.passes quote key)

/-- The enumeration of a definition after several visits. -/
def enumAfter (key : String) (stops : List Stop) (e : List String) : List String :=
  stops.foldl (Stop.enumAt quote key) e

/-! ## The tour -/

/-- A turn of the loop of `transform` that is not skipped: the definition that is visited, and
the keys that have been visited before. -/
structure Turn where
  key : String
  schema : Option SchemaRef
  visited : List String

section Tour

variable (quote : String → String)

/-- The schemas that are visited in a turn. -/
def Turn.stops (τ : Turn) : List Stop :=
  match τ.schema with
  | none => [⟨τ.key, none⟩]
  | some s => (outcome quote τ.key s τ.visited).stops

/-- What becomes of the definition. -/
def Turn.node (τ : Turn) : Option SchemaRef :=
  τ.schema.map fun s => (outcome quote τ.key s τ.visited).node

/-- The names of a union, whatever they are. -/
def nameShape : SchemaRef := { SchemaRef.empty with type := "string" }

/-- The schemas that are visited in some turns. -/
def stopsOf (turns : List Turn) : List Stop := turns.flatMap (Turn.stops quote)

/-- The next turn: a definition is skipped if its key has been visited, and it may have become
the names of a union. -/
def takeTurn (m : View) (turns : List Turn) (key : String) : List Turn :=
  let visited := (stopsOf quote turns).map Stop.key
  if key ∈ visited then turns
  else if (stopsOf quote turns).any (Stop.defines · key) then
    turns ++ [⟨key, some nameShape, visited⟩]
  else
    match m key with
    | none => turns
    | some schema => turns ++ [⟨key, schema, visited⟩]

/-- The turns of the loop for the definitions of the base, in some order. -/
def tour (m : View) (keys : List String) : List Turn := keys.foldl (takeTurn quote m) []

end Tour

/-! ## What visits do to definitions -/

/-- A definition without its enumeration. -/
def erased (s : Option (Option SchemaRef)) : Option (Option SchemaRef) :=
  s.map (Option.map SchemaRef.eraseEnum)

section Effects

variable {quote : String → String} {d d' : View} {key : String} {s s' : SchemaRef} {σ : Stop}
  {stops : List Stop}

theorem knows_eq_erased (d : View) (k : String) : d.knows k = (erased (d k)).join.isSome := by
  rw [View.knows, erased]
  cases d k with
  | none => rfl
  | some s => cases s <;> rfl

theorem eq_some_of_erased {o : Option (Option SchemaRef)}
    (h : erased o = erased (some (some s))) :
    ∃ s', o = some (some s') ∧ s'.eraseEnum = s.eraseEnum := by
  obtain ⟨o', rfl, ho'⟩ := Option.map_eq_some_iff.1 h
  obtain ⟨s', rfl, hs'⟩ := Option.map_eq_some_iff.1 ho'
  exact ⟨s', rfl, hs'⟩

theorem View.erased_enrich {extra : List String} (h : d.enrich key extra = some d')
    (k : String) : erased (d' k) = erased (d k) := by
  obtain ⟨s, hs, rfl⟩ := Option.map_eq_some_iff.1 h
  by_cases hk : k = key
  · rw [hk, View.define_self, Option.join_eq_some_iff.1 hs]
    rfl
  · rw [View.define_of_ne hk]

theorem erased_passTo {name : String} (h : s.passTo d name = some d') (k : String) :
    erased (d' k) = erased (d k) := by
  unfold SchemaRef.passTo at h
  split at h
  · rw [Option.some.inj h]
  · cases h
  · obtain ⟨extra, -, h⟩ := Option.bind_eq_some_iff.1 h
    split_ifs at h
    · rw [Option.some.inj h]
    · exact View.erased_enrich h k

/-- Passing on enumerations changes nothing else. -/
theorem erased_passOn (h : s.passOn d = some d') (k : String) : erased (d' k) = erased (d k) :=
  Loops.foldlM_preserves (fun d' : View => erased (d' k) = erased (d k))
    (fun _ _ _ _ hs hstep => (erased_passTo hstep k).trans hs) rfl h

theorem isSome_passTo (s : SchemaRef) (d : View) (name : String) :
    (s.passTo d name).isSome = s.resolvesAt d.knows name := by
  unfold SchemaRef.passTo SchemaRef.resolvesAt
  cases s.properties.lookup name with
  | none => rfl
  | some property =>
    cases property with
    | none => rfl
    | some property =>
      cases s.addedEnums name with
      | none => rfl
      | some extra =>
        by_cases href : property.ref = ""
        · simp [href]
        · simp [href, View.enrich, View.knows]

theorem isSome_passOn (s : SchemaRef) (d : View) : (s.passOn d).isSome = s.resolves d.knows := by
  rw [Bool.eq_iff_iff, SchemaRef.resolves, List.all_eq_true]
  refine Loops.isSome_foldlM_iff (fun d' => ∀ k, erased (d' k) = erased (d k))
    (fun name _ d' hd' => ?_) (fun name _ d' d'' hd' hstep k => ?_) fun k => rfl
  · have hknows : d'.knows = d.knows := funext fun k => by
      rw [knows_eq_erased, knows_eq_erased, hd']
    rw [isSome_passTo, hknows]
  · exact (erased_passTo hstep k).trans (hd' k)

theorem knows_define (d : View) (key : String) (s : SchemaRef) (k : String) :
    (d.define key s).knows k = (d.knows k || k == key) := by
  by_cases hk : k = key
  · simp [View.knows, hk, View.define_self]
  · simp [View.knows, hk, View.define_of_ne hk]

theorem Stop.isSome_run (quote : String → String) (d : View) (σ : Stop) :
    (σ.run quote d).isSome = σ.resolves quote fun k => d.knows k || σ.defines k := by
  obtain ⟨key, schema⟩ := σ
  cases schema with
  | none => rfl
  | some s =>
    cases happlies : applies key s with
    | none => simp [Stop.run, Stop.resolves, Stop.subject, happlies]
    | some union =>
      cases union with
      | false =>
        simp [Stop.run, Stop.resolves, Stop.subject, Stop.defines, happlies, isSome_passOn]
      | true =>
        simp only [Stop.run, Stop.resolves, Stop.subject, Stop.defines, happlies,
          Option.bind_some, Option.map_some, if_true, isSome_passOn, Option.any_some,
          beq_self_eq_true, Bool.true_and]
        exact congrArg (SchemaRef.resolves · _) (funext fun k => knows_define _ _ _ _)

theorem Stop.erased_run (h : σ.run quote d = some d') (k : String) :
    erased (d' k) = if σ.defines k then some (some nameShape) else erased (d k) := by
  obtain ⟨key, schema⟩ := σ
  obtain ⟨s, hs, h⟩ := Option.bind_eq_some_iff.1 h
  obtain rfl : schema = some s := hs
  obtain ⟨union, happlies, h⟩ := Option.bind_eq_some_iff.1 h
  cases union with
  | false =>
    rw [if_neg Bool.false_ne_true] at h
    rw [erased_passOn h, Stop.defines, Option.any_some, happlies]
    rfl
  | true =>
    rw [if_pos rfl] at h
    rw [erased_passOn h, Stop.defines, Option.any_some, happlies]
    by_cases hk : k = nameDefinitionKey key
    · simp only [hk, View.define_self, beq_self_eq_true, Bool.and_self, if_true]
      rfl
    · simp [View.define_of_ne hk, hk]

/-- What several visits make of the definitions. -/
theorem erased_runStops (h : runStops quote d stops = some d') (k : String) :
    erased (d' k)
      = if stops.any (Stop.defines · k) then some (some nameShape) else erased (d k) := by
  induction stops generalizing d with
  | nil =>
    rw [← Option.some.inj h]
    rfl
  | cons σ stops ih =>
    rw [runStops, Loops.foldlM_cons_bind] at h
    obtain ⟨d₁, hfirst, hrest⟩ := Option.bind_eq_some_iff.1 h
    rw [ih hrest, Stop.erased_run hfirst, List.any_cons]
    cases σ.defines k <;> cases stops.any (Stop.defines · k) <;> rfl

theorem toList_nameDefinitionKey (key : String) :
    (nameDefinitionKey key).toList = key.toList ++ ['N', 'a', 'm', 'e'] := by
  rw [nameDefinitionKey, String.toList_append]
  rfl

/-- Names are defined by a visit under one key only. -/
theorem Stop.key_eq_of_defines {σ' : Stop} (h : σ.defines key = true)
    (h' : σ'.defines key = true) : σ.key = σ'.key := by
  have hkey : ∀ {σ : Stop}, σ.defines key = true → key = nameDefinitionKey σ.key := fun h =>
    beq_iff_eq.1 (Bool.and_eq_true _ _ ▸ h).2
  have hlist := congrArg String.toList ((hkey h).symm.trans (hkey h'))
  rw [toList_nameDefinitionKey, toList_nameDefinitionKey] at hlist
  exact String.toList_inj.1 (List.append_cancel_right hlist)

theorem knows_runStops (h : runStops quote d stops = some d') (k : String) :
    d'.knows k = (d.knows k || stops.any (Stop.defines · k)) := by
  rw [knows_eq_erased, erased_runStops h, knows_eq_erased]
  cases stops.any (Stop.defines · k) <;> simp

theorem enumOf_passTo {name : String} (h : s.passTo d name = some d') (k : String) :
    enumOf (d' k) = enriched (enumOf (d k)) (passesTo k (s.passedFor name).toList) := by
  unfold SchemaRef.passTo at h
  unfold SchemaRef.passedFor
  split at h
  · next hlookup =>
    rw [Option.some.inj h, hlookup]
    rfl
  · cases h
  · next property hlookup =>
    obtain ⟨extra, hextra, h⟩ := Option.bind_eq_some_iff.1 h
    rw [hlookup, hextra, Option.join_some]
    split_ifs at h with href
    · simp [← Option.some.inj h, href, enriched, passesTo]
    · obtain ⟨target, htarget, rfl⟩ := Option.map_eq_some_iff.1 h
      by_cases hk : k = property.refName
      · subst hk
        simp [View.define_self, enumOf, Option.join_eq_some_iff.1 htarget, href, enriched,
          SchemaRef.enrich, passesTo]
      · simp [View.define_of_ne hk, Ne.symm hk, href, enriched, passesTo]

theorem enumOf_passOn (h : s.passOn d = some d') (k : String) :
    enumOf (d' k) = enriched (enumOf (d k))
      (passesTo k ((s.properties.map Prod.fst).filterMap s.passedFor)) := by
  rw [SchemaRef.passOn] at h
  generalize s.properties.map Prod.fst = names at h ⊢
  induction names generalizing d with
  | nil =>
    rw [← Option.some.inj h]
    rfl
  | cons name names ih =>
    rw [Loops.foldlM_cons_bind] at h
    obtain ⟨d₁, hfirst, hrest⟩ := Option.bind_eq_some_iff.1 h
    rw [ih hrest, enumOf_passTo hfirst, enriched, enriched, enriched, ← List.foldl_append,
      passesTo, passesTo, passesTo, ← List.filterMap_append, List.filterMap_cons]
    cases s.passedFor name <;> rfl

theorem mem_enriched {e : List String} {extras : List (List String)} {x : String} :
    x ∈ enriched e extras ↔ x ∈ e ∨ ∃ extra ∈ extras, x ∈ extra := by
  induction extras generalizing e with
  | nil => simp [enriched]
  | cons extra extras ih =>
    rw [enriched, List.foldl_cons, ← enriched, ih, mem_sortUnique, List.mem_append]
    simp [or_assoc]

/-- Visits that do not replace a definition only pass on values to it. -/
theorem enumAfter_eq_enriched (h : ∀ σ ∈ stops, σ.defines key = false) (e : List String) :
    enumAfter quote key stops e = enriched e (stops.flatMap (Stop.passes quote key)) := by
  induction stops generalizing e with
  | nil => rfl
  | cons σ stops ih =>
    obtain ⟨hσ, hstops⟩ := List.forall_mem_cons.1 h
    rw [enumAfter, List.foldl_cons, ← enumAfter, ih hstops, Stop.enumAt, hσ,
      if_neg Bool.false_ne_true, List.flatMap_cons, enriched, enriched, enriched,
      List.foldl_append]

/-- What a definition lists after visits that do not replace it. -/
theorem mem_enumAfter {e : List String} (h : ∀ σ ∈ stops, σ.defines key = false) {x : String} :
    x ∈ enumAfter quote key stops e ↔
      x ∈ e ∨ ∃ σ ∈ stops, ∃ extra ∈ σ.passes quote key, x ∈ extra := by
  rw [enumAfter_eq_enriched h, mem_enriched]
  simp only [List.mem_flatMap]
  exact or_congr_right ⟨fun ⟨extra, ⟨σ, hσ, hextra⟩, hx⟩ => ⟨σ, hσ, extra, hextra, hx⟩,
    fun ⟨σ, hσ, extra, hextra, hx⟩ => ⟨extra, ⟨σ, hσ, hextra⟩, hx⟩⟩

theorem Stop.enumOf_run (h : σ.run quote d = some d') (k : String) :
    enumOf (d' k) = σ.enumAt quote k (enumOf (d k)) := by
  obtain ⟨key, schema⟩ := σ
  obtain ⟨s, hs, h⟩ := Option.bind_eq_some_iff.1 h
  obtain rfl : schema = some s := hs
  obtain ⟨union, happlies, h⟩ := Option.bind_eq_some_iff.1 h
  cases union with
  | false =>
    rw [if_neg Bool.false_ne_true] at h
    rw [enumOf_passOn h]
    simp [Stop.enumAt, Stop.defines, Stop.passes, Stop.passed, Stop.subject, happlies]
  | true =>
    rw [if_pos rfl] at h
    rw [enumOf_passOn h]
    by_cases hk : k = nameDefinitionKey key
    · subst hk
      simp [Stop.enumAt, Stop.defines, Stop.passes, Stop.passed, Stop.subject, Stop.names, happlies,
        View.define_self, enumOf, nameSchema]
    · simp [Stop.enumAt, Stop.defines, Stop.passes, Stop.passed, Stop.subject, happlies, hk,
        View.define_of_ne hk]

theorem enumOf_runStops (h : runStops quote d stops = some d') (k : String) :
    enumOf (d' k) = enumAfter quote k stops (enumOf (d k)) := by
  induction stops generalizing d with
  | nil =>
    rw [← Option.some.inj h]
    rfl
  | cons σ stops ih =>
    rw [runStops, Loops.foldlM_cons_bind] at h
    obtain ⟨d₁, hfirst, hrest⟩ := Option.bind_eq_some_iff.1 h
    rw [ih hrest, Stop.enumOf_run hfirst]
    rfl

theorem isSome_runStops (quote : String → String) (d : View) (stops : List Stop) :
    (runStops quote d stops).isSome = resolved quote d.knows stops := by
  induction stops generalizing d with
  | nil => rfl
  | cons σ stops ih =>
    rw [runStops, Loops.foldlM_cons_bind, resolved, ← Stop.isSome_run]
    cases hfirst : σ.run quote d with
    | none => rfl
    | some d₁ =>
      have hknows : d₁.knows = fun k => d.knows k || σ.defines k := funext fun k => by
        have hone := knows_runStops ((runStops_singleton quote d σ).trans hfirst) k
        simpa using hone
      rw [Option.bind_some, Option.isSome_some, Bool.true_and, ← hknows]
      exact ih d₁

theorem resolved_append (quote : String → String) (known : String → Bool)
    (stops stops' : List Stop) :
    resolved quote known (stops ++ stops') = (resolved quote known stops &&
      resolved quote (fun k => known k || stops.any (Stop.defines · k)) stops') := by
  induction stops generalizing known with
  | nil => simp [resolved]
  | cons σ stops ih =>
    rw [List.cons_append, resolved, resolved, ih, Bool.and_assoc]
    simp only [List.any_cons, Bool.or_assoc]

theorem SchemaRef.eraseEnum_passInline (h : s'.eraseEnum = s.eraseEnum) :
    s'.passInline.eraseEnum = s.passInline.eraseEnum := by
  have hloop : ∀ (names : List String) (a b : SchemaRef), a.eraseEnum = b.eraseEnum →
      (names.foldl s.passWithin a).eraseEnum = (names.foldl s.passWithin b).eraseEnum := by
    intro names
    induction names with
    | nil => exact fun a b hab => hab
    | cons name names ih =>
      exact fun a b hab => ih _ _ (SchemaRef.eraseEnum_passWithin s hab name)
  have halike := PassesAlike.of_eraseEnum h
  rw [passInline, halike.passWithin_eq, halike.names]
  exact hloop _ _ _ h

/-- The enumeration of a schema does not matter for its visit. -/
theorem outcome_congr (h : s'.eraseEnum = s.eraseEnum) (quote : String → String) (key : String)
    (visited : List String) :
    (outcome quote key s' visited).stops = (outcome quote key s visited).stops ∧
      (outcome quote key s' visited).node.eraseEnum
        = (outcome quote key s visited).node.eraseEnum := by
  have happlies : applies key s' = applies key s := (congrArg (applies key) h :)
  have honeOf : s'.oneOf = s.oneOf := (congrArg SchemaRef.oneOf h :)
  by_cases hvisited : key ∈ visited
  · rw [outcome_of_visited hvisited, outcome_of_visited hvisited]
    exact ⟨rfl, h⟩
  · by_cases hunion : applies key s = some true
    · rw [outcome_of_union hvisited (happlies.trans hunion), outcome_of_union hvisited hunion,
        honeOf, h, SchemaRef.alternatives, honeOf, ← SchemaRef.alternatives]
      refine ⟨rfl, SchemaRef.eraseEnum_passInline ?_⟩
      have hrestructured : ∀ (s : SchemaRef) options alternatives,
          (s.restructured quote key options alternatives).eraseEnum
            = s.eraseEnum.restructured quote key options alternatives := fun _ _ _ => rfl
      rw [hrestructured, hrestructured, h]
    · rw [outcome_of_not_union hvisited (happlies ▸ hunion), outcome_of_not_union hvisited hunion,
        h]
      exact ⟨rfl, SchemaRef.eraseEnum_passInline h⟩

end Effects

/-! ## Following the tour -/

/-- The definitions after some turns. -/
def shape (m : View) (turns : List Turn) : View := fun key =>
  if (stopsOf quote turns).any (Stop.defines · key) then some (some nameShape)
  else
    match turns.find? (Turn.key · == key) with
    | none => m key
    | some τ => some (τ.node quote)

/-- The state of the loop after some turns: these keys have been visited, and the definitions
and their enumerations are known. -/
structure Follows (quote : String → String) (m : View) (turns : List Turn)
    (st : View × List String) : Prop where
  visited : st.2 = (stopsOf quote turns).map Stop.key
  nodup : st.2.Nodup
  turned : ∀ τ ∈ turns, τ.key ∈ st.2
  fresh : ∀ τ ∈ turns, τ.key ∉ τ.visited
  schema : ∀ τ ∈ turns, (stopsOf quote turns).any (Stop.defines · τ.key) = true ∨
    m τ.key = some τ.schema
  shape : ∀ k, erased (st.1 k) = erased (Compile.shape quote m turns k)
  knows : ∀ k, st.1.knows k = (m.knows k || (stopsOf quote turns).any (Stop.defines · k))
  enum : ∀ k, enumOf (st.1 k) = enumAfter quote k (stopsOf quote turns) (enumOf (m k))

section Following

variable {quote : String → String} {m : View} {turns : List Turn} {st : View × List String}
  {key : String} {s s' : SchemaRef}

theorem stopsOf_append (turns turns' : List Turn) :
    stopsOf quote (turns ++ turns') = stopsOf quote turns ++ stopsOf quote turns' :=
  List.flatMap_append

theorem stopsOf_singleton (τ : Turn) : stopsOf quote [τ] = τ.stops quote :=
  List.flatMap_singleton _ _

theorem turn_of_visited (h : key ∈ st.2) : turn quote st key = some st := by
  unfold turn
  split
  · rfl
  · rw [if_pos h]
  · rw [if_pos h]

theorem key_mem_stops (h : key ∉ st.2) :
    key ∈ (outcome quote key s st.2).stops.map Stop.key := by
  by_cases hunion : applies key s = some true
  · rw [outcome_of_union h hunion]
    simp
  · rw [outcome_of_not_union h hunion]
    simp

/-- The turn of a definition, which is as expected apart from its enumeration. -/
theorem Follows.turn (h : Follows quote m turns st) (hkey : key ∉ st.2)
    (hs' : st.1 key = some (some s')) (herase : s'.eraseEnum = s.eraseEnum)
    (hs : if (stopsOf quote turns).any (Stop.defines · key) then s = nameShape
      else m key = some (some s)) :
    (turn quote st key).isSome
        = resolved quote (fun k => m.knows k || (stopsOf quote turns).any (Stop.defines · k))
            ((⟨key, some s, st.2⟩ : Turn).stops quote) ∧
      ∀ st', turn quote st key = some st' →
        Follows quote m (turns ++ [⟨key, some s, st.2⟩]) st' := by
  obtain ⟨hstops, hnode⟩ := outcome_congr herase quote key st.2
  have hturn : Compile.turn quote st key
      = (runStops quote (st.1.define key (outcome quote key s' st.2).node)
          (outcome quote key s st.2).stops).map fun d =>
            (d, st.2 ++ (outcome quote key s st.2).stops.map Stop.key) := by
    rw [Compile.turn, hs']
    simp only [if_neg hkey, hstops]
  -- the definition was known before
  have hknows : ∀ k, (st.1.define key (outcome quote key s' st.2).node).knows k
      = (m.knows k || (stopsOf quote turns).any (Stop.defines · k)) := by
    intro k
    rw [knows_define, h.knows]
    by_cases hk : k = key
    · have hknown : st.1.knows key = true := by rw [View.knows, hs']; rfl
      rw [h.knows] at hknown
      rw [hk, hknown]
      rfl
    · simp [hk]
  have hnew : (⟨key, some s, st.2⟩ : Turn).stops quote = (outcome quote key s st.2).stops := rfl
  refine ⟨?_, fun st' hst' => ?_⟩
  · rw [hturn, Option.isSome_map, isSome_runStops, funext hknows]
    rfl
  · rw [hturn] at hst'
    obtain ⟨d', hrun, rfl⟩ := Option.map_eq_some_iff.1 hst'
    refine ⟨?_, ?_, fun τ hτ => ?_, fun τ hτ => ?_, fun τ hτ => ?_, fun k => ?_, fun k => ?_,
      fun k => ?_⟩
    · rw [stopsOf_append, List.map_append, ← h.visited, stopsOf_singleton, hnew]
    · obtain ⟨hnodup, hfresh⟩ := nodup_outcome quote key s st.2
      refine List.nodup_append.2 ⟨h.nodup, hnodup, fun x hx y hy heq => ?_⟩
      obtain ⟨σ, hσ, rfl⟩ := List.mem_map.1 hy
      exact hfresh σ hσ (heq ▸ hx)
    · rcases List.mem_append.1 hτ with hτ | hτ
      · exact List.mem_append_left _ (h.turned τ hτ)
      · rw [List.mem_singleton.1 hτ]
        exact List.mem_append_right _ (key_mem_stops hkey)
    · rcases List.mem_append.1 hτ with hτ | hτ
      · exact h.fresh τ hτ
      · rw [List.mem_singleton.1 hτ]
        exact hkey
    · rw [stopsOf_append, List.any_append, Bool.or_eq_true]
      rcases List.mem_append.1 hτ with hτ | hτ
      · exact (h.schema τ hτ).imp_left Or.inl
      · rw [List.mem_singleton.1 hτ]
        split_ifs at hs with hdefined
        · exact Or.inl (Or.inl hdefined)
        · exact Or.inr hs
    · rw [erased_runStops hrun, Compile.shape, stopsOf_append, stopsOf_singleton, hnew,
        List.any_append, List.find?_append]
      have hbefore := h.shape k
      rw [Compile.shape] at hbefore
      cases hdefined : (outcome quote key s st.2).stops.any (Stop.defines · k) with
      | true => rw [if_pos rfl, if_pos (Bool.or_true _)]; rfl
      | false =>
        rw [Bool.or_false, if_neg Bool.false_ne_true]
        by_cases hk : k = key
        · subst hk
          rw [View.define_self]
          have hnot : turns.find? (Turn.key · == k) = none := by
            rw [List.find?_eq_none]
            exact fun τ hτ heq => hkey (beq_iff_eq.1 heq ▸ h.turned τ hτ)
          have hfind : ([⟨k, some s, st.2⟩] : List Turn).find? (Turn.key · == k)
              = some ⟨k, some s, st.2⟩ := by simp
          rw [hnot, Option.none_or, hfind]
          split_ifs with hnames
          · rw [if_pos hnames] at hs
            rw [hs] at hnode
            refine congrArg (fun s => some (some s)) (hnode.trans ?_)
            rw [outcome_of_not_union hkey (by simp [applies, nameShape, SchemaRef.empty])]
            rfl
          · exact congrArg (fun s => some (some s)) hnode
        · have hfind : ([⟨key, some s, st.2⟩] : List Turn).find? (Turn.key · == k) = none := by
            simp [Ne.symm hk]
          rw [View.define_of_ne hk, hbefore, hfind, Option.or_none]
    · rw [knows_runStops hrun, hknows, stopsOf_append, stopsOf_singleton, hnew, List.any_append,
        Bool.or_assoc]
    · have henum : enumOf (st.1.define key (outcome quote key s' st.2).node k)
          = enumOf (st.1 k) := by
        by_cases hk : k = key
        · rw [hk, View.define_self, hs']
          exact (outcome_node quote key s' st.2).2
        · rw [View.define_of_ne hk]
      rw [enumOf_runStops hrun, henum, h.enum, stopsOf_append, stopsOf_singleton, hnew, enumAfter,
        enumAfter, enumAfter, List.foldl_append]

/-- The next turn. -/
theorem Follows.takeTurn (h : Follows quote m turns st) (key : String) :
    ∃ next, Compile.takeTurn quote m turns key = turns ++ next ∧
      (Compile.turn quote st key).isSome
          = resolved quote (fun k => m.knows k || (stopsOf quote turns).any (Stop.defines · k))
              (stopsOf quote next) ∧
        ∀ st', Compile.turn quote st key = some st' → Follows quote m (turns ++ next) st' := by
  have hself : ∀ st', some st = some st' → Follows quote m (turns ++ []) st' := by
    rintro st' heq
    rw [← Option.some.inj heq, List.append_nil]
    exact h
  rw [Compile.takeTurn, ← h.visited]
  by_cases hkey : key ∈ st.2
  · refine ⟨[], by simp [hkey], ?_, ?_⟩
    · rw [turn_of_visited hkey]
      rfl
    · rw [turn_of_visited hkey]
      exact hself
  rw [if_neg hkey]
  have hshape := h.shape key
  rw [Compile.shape] at hshape
  cases hnames : (stopsOf quote turns).any (Stop.defines · key) with
  | true =>
    rw [hnames, if_pos rfl] at hshape
    obtain ⟨s', hs', herase⟩ := eq_some_of_erased hshape
    obtain ⟨hsome, hnext⟩ := h.turn (s := nameShape) hkey hs' herase (by rw [if_pos hnames])
    exact ⟨[⟨key, some nameShape, st.2⟩], by simp, by rw [hsome, stopsOf_singleton], hnext⟩
  | false =>
    have hfind : turns.find? (Turn.key · == key) = none := by
      rw [List.find?_eq_none]
      exact fun τ hτ heq => hkey (beq_iff_eq.1 heq ▸ h.turned τ hτ)
    rw [hnames, if_neg Bool.false_ne_true, hfind] at hshape
    rw [if_neg Bool.false_ne_true]
    cases hm : m key with
    | none =>
      have hnone : st.1 key = none := by
        rw [hm] at hshape
        simpa [erased] using hshape
      have hturn : Compile.turn quote st key = some st := by rw [Compile.turn, hnone]
      exact ⟨[], by simp, by rw [hturn]; rfl, by rw [hturn]; exact hself⟩
    | some schema =>
      cases schema with
      | none =>
        have hnull : st.1 key = some none := by
          rw [hm] at hshape
          simpa [erased] using hshape
        have hturn : Compile.turn quote st key = none := by
          rw [Compile.turn, hnull]
          simp only [if_neg hkey]
        refine ⟨[⟨key, none, st.2⟩], rfl, ?_, fun st' hst' => ?_⟩
        · rw [hturn, stopsOf_singleton]
          rfl
        · rw [hturn] at hst'
          cases hst'
      | some s =>
        rw [hm] at hshape
        obtain ⟨s', hs', herase⟩ := eq_some_of_erased hshape
        obtain ⟨hsome, hnext⟩ := h.turn (s := s) hkey hs' herase (by simp [hnames, hm])
        exact ⟨[⟨key, some s, st.2⟩], rfl, by rw [hsome, stopsOf_singleton], hnext⟩

theorem exists_foldl_takeTurn (quote : String → String) (m : View) (keys : List String)
    (turns : List Turn) :
    ∃ next, keys.foldl (Compile.takeTurn quote m) turns = turns ++ next := by
  induction keys generalizing turns with
  | nil => exact ⟨[], (List.append_nil _).symm⟩
  | cons key keys ih =>
    have hfirst : ∃ next, Compile.takeTurn quote m turns key = turns ++ next := by
      unfold Compile.takeTurn
      dsimp only
      split_ifs
      · exact ⟨[], (List.append_nil _).symm⟩
      · exact ⟨_, rfl⟩
      · split
        · exact ⟨[], (List.append_nil _).symm⟩
        · exact ⟨_, rfl⟩
    obtain ⟨next, hnext⟩ := hfirst
    obtain ⟨others, hothers⟩ := ih (turns ++ next)
    exact ⟨next ++ others, by rw [List.foldl_cons, hnext, hothers, List.append_assoc]⟩

/-- The loop of `transform` follows the tour: it crashes exactly if a schema on the tour does not
find what it looks for. -/
theorem foldlM_turn_follows (keys : List String) (h : Follows quote m turns st)
    (hresolved : resolved quote m.knows (stopsOf quote turns) = true) :
    (keys.foldlM (turn quote) st).isSome
        = resolved quote m.knows (stopsOf quote (keys.foldl (Compile.takeTurn quote m) turns)) ∧
      ∀ st', keys.foldlM (turn quote) st = some st' →
        Follows quote m (keys.foldl (Compile.takeTurn quote m) turns) st' := by
  induction keys generalizing turns st with
  | nil =>
    refine ⟨hresolved.symm, fun st' hst' => ?_⟩
    rw [← Option.some.inj hst']
    exact h
  | cons key keys ih =>
    obtain ⟨next, htake, hsome, hnext⟩ := h.takeTurn key
    rw [Loops.foldlM_cons_bind, List.foldl_cons, htake]
    have happend : resolved quote m.knows (stopsOf quote (turns ++ next))
        = (turn quote st key).isSome := by
      rw [stopsOf_append, resolved_append, hresolved, Bool.true_and, hsome]
    cases hturn : turn quote st key with
    | none =>
      refine ⟨?_, fun st' hst' => by cases hst'⟩
      rw [hturn] at happend
      obtain ⟨others, hothers⟩ := exists_foldl_takeTurn quote m keys (turns ++ next)
      rw [hothers, stopsOf_append, resolved_append, happend]
      rfl
    | some st₁ =>
      rw [hturn] at happend
      exact ih (hnext st₁ hturn) happend

theorem follows_nil (quote : String → String) (m : View) : Follows quote m [] (m, []) :=
  ⟨rfl, List.nodup_nil, nofun,
    nofun, nofun,
    fun _ => rfl, fun k => by simp [stopsOf], fun _ => rfl⟩

end Following

/-! ## Documents -/

section Documents

variable (quote : String → String) (order : IterationOrder) (base : Document)
  (layers : List Document)

/-- The tour of the compiler through the merged definitions. -/
def documentTour : List Turn :=
  tour quote (mergeDefinitions order (base :: layers)).lookup
    (order.definitions base.definitions.keys)

/-- The schemas on the tour of the compiler find what they look for. -/
def ResolvedTour : Prop :=
  resolved quote (View.knows (mergeDefinitions order (base :: layers)).lookup)
    (stopsOf quote (documentTour quote order base layers)) = true

instance : Decidable (ResolvedTour quote order base layers) :=
  inferInstanceAs (Decidable (_ = true))

/-- The compiler follows its tour. -/
theorem run_follows :
    ((visitAll quote order base (mergeDefinitions order (base :: layers))).isSome = true ↔
      ResolvedTour quote order base layers) ∧
    ∀ t, visitAll quote order base (mergeDefinitions order (base :: layers)) = some t →
      ∃ st, Refines t st ∧ Follows quote (mergeDefinitions order (base :: layers)).lookup
        (documentTour quote order base layers) st := by
  have hrefines := foldlM_visit_refines quote order (order.definitions base.definitions.keys)
    (refines_load (mergeDefinitions order (base :: layers)))
  obtain ⟨hsome, hfollows⟩ := foldlM_turn_follows (order.definitions base.definitions.keys)
    (follows_nil quote (mergeDefinitions order (base :: layers)).lookup) rfl
  rw [ResolvedTour, documentTour, tour, ← hsome, visitAll]
  revert hfollows
  generalize (order.definitions base.definitions.keys).foldlM (turn quote) _ = turns at hrefines ⊢
  generalize (order.definitions base.definitions.keys).foldlM (visit quote order) _ = run
    at hrefines ⊢
  intro hfollows
  cases hrefines with
  | none => exact ⟨Iff.rfl, fun t ht => by cases ht⟩
  | some hst =>
    refine ⟨Iff.rfl, fun t ht => ?_⟩
    rw [← Option.some.inj ht]
    exact ⟨_, hst, hfollows _ rfl⟩

/-- **References that lead nowhere make the compiler crash**, and so do schemas that are missing.
It returns a document if and only if the schemas on its tour find what they look for. -/
theorem documents_isSome_iff :
    (documents quote order base layers false).isSome = true ↔
      ResolvedTour quote order base layers := by
  rw [← (run_follows quote order base layers).1, documents, transform]
  cases visitAll quote order base (mergeDefinitions order (base :: layers)) with
  | none => simp
  | some t => simp

/-- The text of a string. -/
def quoted (s : String) : String := "\"" ++ s ++ "\""

/-- A reference to a definition. -/
def refTo (key : String) : SchemaRef := { SchemaRef.empty with ref := "#/definitions/" ++ key }

/-- A document with some definitions. -/
def documentOf (definitions : List (String × SchemaRef)) : Document :=
  { schema := SchemaRef.empty
    schemaVersion := ""
    definitions := GoMap.ofList (definitions.map fun ks => (ks.1, some ks.2)) }

/-- A definition whose property refers to a definition of another file. -/
def foreignBase : Document :=
  documentOf
    [("Asset", { SchemaRef.empty with
        type := "object"
        properties := [("connection",
          some { SchemaRef.empty with ref := "catalog.json#/definitions/Connection" })] })]

/-- The compiler crashes on it, without any layers. -/
theorem foreignBase_crashes : documents quoted listedOrder foreignBase [] false = none := by
  rw [← Option.isNone_iff_eq_none]
  decide +kernel

end Documents

end Fybrik.Compile
