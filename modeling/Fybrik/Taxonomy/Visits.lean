import Fybrik.Lib.Commute
import Fybrik.Taxonomy.Transform

/-!
# What the compiler visits

A visit to a definition visits the alternatives of a union, and so on, before it passes on
enumerations.  Which schemas are visited, and what becomes of them, can be told without a memory
of variables, which is all that the other modules need to know of `transformSchema`.

* `View` — the definitions; `View.define` and `View.enrich` are what a visit does to them.
* `Stop` — a schema that is visited, and `Stop.run` what this does to the definitions.
* `outcome` — the schemas that a visit comes by, and what becomes of the schema itself.
* `turn` — one turn of the loop of `transform`.
-/

namespace Fybrik.Compile

/-! ## Definitions -/

/-- Definitions, by their keys.  A definition can be missing, and it can be `null`. -/
abbrev View := String → Option (Option SchemaRef)

namespace View

/-- A definition is assigned. -/
def define (d : View) (key : String) (s : SchemaRef) : View :=
  Function.update d key (some (some s))

/-- Values are added to the enumeration of a definition. -/
def enrich (d : View) (key : String) (extra : List String) : Option View :=
  (d key).join.map fun s => d.define key (s.enrich extra)

end View

/-! ## Passing on enumerations -/

namespace SchemaRef

/-- What a schema does to the definitions for one of its properties. -/
def passTo (s : SchemaRef) (d : View) (propertyName : String) : Option View :=
  match s.properties.lookup propertyName with
  | none => some d
  | some none => none
  | some (some property) =>
    (s.addedEnums propertyName).bind fun extra =>
      if property.ref = "" then some d else d.enrich property.refName extra

/-- What a schema does to the definitions. -/
def passOn (s : SchemaRef) (d : View) : Option View :=
  (s.properties.map Prod.fst).foldlM s.passTo d

/-- What a schema `s` does to a property of its own. -/
def passWithin (s s' : SchemaRef) (propertyName : String) : SchemaRef :=
  match (s.properties.lookup propertyName).join with
  | none => s'
  | some property =>
    if property.ref = "" then s'.enrichProperty propertyName ((s.addedEnums propertyName).getD [])
    else s'

/-- What a schema does to its properties. -/
def passInline (s : SchemaRef) : SchemaRef := (s.properties.map Prod.fst).foldl s.passWithin s

/-- Properties with some more assigned to them. -/
def addProperties (added : List (String × SchemaRef)) (l : List (String × Option SchemaRef)) :
    List (String × Option SchemaRef) :=
  added.foldl (fun l np => Assoc.set np.1 (some np.2) l) l

/-- A schema with properties added to it. -/
def withProperties (s : SchemaRef) (added : List (String × SchemaRef)) : SchemaRef :=
  { s with properties := addProperties added s.properties }

/-- A union of the alternatives that are given with their names. -/
def restructured (quote : String → String) (key : String) (options : List String)
    (alternatives : List (String × SchemaRef)) (s : SchemaRef) : SchemaRef :=
  (s.withProperties alternatives).close quote key options

/-- The alternatives that a schema lists, with their names. -/
def named (s : SchemaRef) : List (String × SchemaRef) :=
  s.alternatives.filterMap (Option.map fun v => (alternativeName v, v))

/-- A union with its alternatives as they are listed. -/
def structural (quote : String → String) (key : String) (s : SchemaRef) : SchemaRef :=
  s.restructured quote key (alternativeNames s.alternatives) s.named

end SchemaRef

/-- A schema without its enumeration. -/
def SchemaRef.eraseEnum (s : SchemaRef) : SchemaRef := { s with enum := [] }

/-! ## Stops -/

/-- A schema that is visited.  Its own enumeration does not matter and is left out. -/
structure Stop where
  key : String
  schema : Option SchemaRef

/-- What a visit to a schema does to the definitions, apart from the visits to its
alternatives. -/
def Stop.run (quote : String → String) (d : View) (σ : Stop) : Option View :=
  σ.schema.bind fun s => (applies σ.key s).bind fun union =>
    if union then
      (s.structural quote σ.key).passOn
        (d.define (nameDefinitionKey σ.key) (nameSchema quote (alternativeNames s.alternatives)))
    else s.passOn d

/-- What a visit leads to. -/
structure Visit where
  node : SchemaRef
  stops : List Stop

section Outcomes

variable (quote : String → String)

mutual

/-- The schemas that a visit comes by, apart from those whose keys are visited already, in the
order in which the visits end, and what becomes of the schema. -/
def outcome (key : String) : SchemaRef → List String → Visit
  | s@⟨_, _, _, _, _, _, _, _, oneOf, _, _, _, _, _, _⟩, visited =>
    if key ∈ visited then ⟨s, []⟩
    else if applies key s = some true then
      let inner := optionalOutcomes oneOf (key :: visited)
      ⟨(s.restructured quote key (alternativeNames s.alternatives) inner.1).passInline,
        inner.2 ++ [⟨key, some s.eraseEnum⟩]⟩
    else ⟨s.passInline, [⟨key, some s.eraseEnum⟩]⟩
termination_by structural s => s

/-- The same for alternatives that may be missing. -/
def optionalOutcomes : Option (List (Option SchemaRef)) → List String →
    List (String × SchemaRef) × List Stop
  | none, _ => ([], [])
  | some alternatives, visited => outcomes alternatives visited
termination_by structural oneOf => oneOf

/-- What becomes of the alternatives, and the schemas that are visited on the way. -/
def outcomes : List (Option SchemaRef) → List String → List (String × SchemaRef) × List Stop
  | [], _ => ([], [])
  | none :: _, _ => ([], [⟨"", none⟩])
  | some v :: alternatives, visited =>
    let first := outcome (alternativeKey v) v visited
    let others := outcomes alternatives (first.stops.map Stop.key ++ visited)
    ((alternativeName v, first.node) :: others.1, first.stops ++ others.2)
termination_by structural alternatives => alternatives

end

/-- What the schemas that are visited do to the definitions. -/
def runStops (d : View) (stops : List Stop) : Option View := stops.foldlM (Stop.run quote) d

/-- One turn of the loop of `transform`, on the definitions and the keys that are visited. -/
def turn (st : View × List String) (key : String) : Option (View × List String) :=
  match st.1 key with
  | none => some st
  | some none => if key ∈ st.2 then some st else none
  | some (some s) =>
    if key ∈ st.2 then some st
    else
      (runStops quote (st.1.define key (outcome quote key s st.2).node)
        (outcome quote key s st.2).stops).map fun d =>
          (d, st.2 ++ (outcome quote key s st.2).stops.map Stop.key)

end Outcomes

/-! ## What passing on depends on -/

/-- Two schemas pass on the same: what their properties refer to and what is listed for them
agrees. -/
structure PassesAlike (s s' : SchemaRef) : Prop where
  names : s'.properties.map Prod.fst = s.properties.map Prod.fst
  refs : ∀ propertyName, (s'.properties.lookup propertyName).map (Option.map SchemaRef.ref)
    = (s.properties.lookup propertyName).map (Option.map SchemaRef.ref)
  added : s'.addedEnums = s.addedEnums

namespace SchemaRef

variable {s s' s'' : SchemaRef}

theorem eq_of_eraseEnum (h : s.eraseEnum = s'.eraseEnum) (henum : s.enum = s'.enum) :
    s = s' := by
  have hself : ∀ s : SchemaRef, { s.eraseEnum with enum := s.enum } = s := fun ⟨_, _, _, _, _, _, _,
    _, _, _, _, _, _, _, _⟩ => rfl
  rw [← hself s, ← hself s', h, henum]

theorem eraseEnum_enrich (s : SchemaRef) (extra : List String) :
    (s.enrich extra).eraseEnum = s.eraseEnum := rfl

theorem enum_passWithin (s s' : SchemaRef) (propertyName : String) :
    (s.passWithin s' propertyName).enum = s'.enum := by
  unfold passWithin
  split
  · rfl
  · split <;> rfl

theorem enum_passInline (s : SchemaRef) : s.passInline.enum = s.enum :=
  Loops.foldl_untouched SchemaRef.enum (fun _ _ _ => enum_passWithin _ _ _) s

/-- What is read of the properties of a union depends on what is read of the alternatives. -/
theorem map_properties_restructured {β : Type} (quote : String → String) (key : String)
    (options : List String) (read : Option SchemaRef → β)
    {alternatives alternatives' : List (String × SchemaRef)}
    (h : (alternatives'.map fun np => (np.1, read (some np.2)))
      = alternatives.map fun np => (np.1, read (some np.2))) (s : SchemaRef) :
    ((s.restructured quote key options alternatives').properties.map fun np => (np.1, read np.2))
      = (s.restructured quote key options alternatives).properties.map
          fun np => (np.1, read np.2) := by
  have hadded : ∀ (added : List (String × SchemaRef)) (l : List (String × Option SchemaRef)),
      ((addProperties added l).map fun np => (np.1, read np.2))
        = (added.map fun np => (np.1, read (some np.2))).foldl
            (fun l np => Assoc.set np.1 np.2 l) (l.map fun np => (np.1, read np.2)) := by
    intro added
    induction added with
    | nil => exact fun l => rfl
    | cons np added ih =>
      intro l
      refine (ih _).trans (congrArg (List.foldl _ · _) ?_)
      exact Assoc.map_set read np.1 (some np.2) l
  simp only [restructured, close, withProperties, Assoc.map_set, hadded, h]

theorem withProperties_nil (s : SchemaRef) : s.withProperties [] = s := by
  obtain ⟨_, _, _, _, _, _, _, _, _, _, _, _, _, _, _⟩ := s
  rfl

end SchemaRef

namespace PassesAlike

variable {s s' s'' : SchemaRef}

theorem refl (s : SchemaRef) : PassesAlike s s := ⟨rfl, fun _ => rfl, rfl⟩

theorem trans (h : PassesAlike s s') (h' : PassesAlike s' s'') : PassesAlike s s'' :=
  ⟨h'.names.trans h.names, fun name => (h'.refs name).trans (h.refs name), h'.added.trans h.added⟩

theorem of_eraseEnum (h : s'.eraseEnum = s.eraseEnum) : PassesAlike s s' := by
  have hproperties : s'.properties = s.properties := (congrArg SchemaRef.properties h :)
  have hallOf : s'.allOf = s.allOf := (congrArg SchemaRef.allOf h :)
  have hanyOf : s'.anyOf = s.anyOf := (congrArg SchemaRef.anyOf h :)
  have honeOf : s'.oneOf = s.oneOf := (congrArg SchemaRef.oneOf h :)
  refine ⟨by rw [hproperties], fun _ => by rw [hproperties], funext fun propertyName => ?_⟩
  rw [SchemaRef.addedEnums, SchemaRef.addedEnums, hallOf, hanyOf, SchemaRef.alternatives, honeOf,
    SchemaRef.alternatives]

/-- Enumerations of properties do not matter. -/
theorem enrichProperty (s : SchemaRef) (propertyName : String) (extra : List String) :
    PassesAlike s (s.enrichProperty propertyName extra) := by
  refine ⟨Assoc.map_fst_modify _ _ _, fun name => ?_, rfl⟩
  rw [SchemaRef.enrichProperty, Assoc.lookup_modify]
  split_ifs
  · cases s.properties.lookup name with
    | none => rfl
    | some property => cases property <;> rfl
  · rfl

theorem passWithin (s s' : SchemaRef) (propertyName : String) :
    PassesAlike s' (s.passWithin s' propertyName) := by
  unfold SchemaRef.passWithin
  split
  · exact refl s'
  · split
    · exact enrichProperty s' propertyName _
    · exact refl s'

/-- The properties of the same name are of the same kind. -/
theorem lookup (h : PassesAlike s s') (name : String) :
    s'.properties.lookup name = none ∧ s.properties.lookup name = none ∨
      s'.properties.lookup name = some none ∧ s.properties.lookup name = some none ∨
        ∃ property property', s'.properties.lookup name = some (some property') ∧
          s.properties.lookup name = some (some property) ∧ property'.ref = property.ref := by
  have hrefs := h.refs name
  cases hs : s.properties.lookup name with
  | none =>
    rw [hs, Option.map_none, Option.map_eq_none_iff] at hrefs
    exact Or.inl ⟨hrefs, rfl⟩
  | some property =>
    rw [hs, Option.map_some, Option.map_eq_some_iff] at hrefs
    obtain ⟨property', hs', href⟩ := hrefs
    cases property with
    | none => exact Or.inr (Or.inl ⟨by rw [hs', Option.map_eq_none_iff.1 href], rfl⟩)
    | some property =>
      rw [Option.map_some, Option.map_eq_some_iff] at href
      obtain ⟨property', rfl, href⟩ := href
      exact Or.inr (Or.inr ⟨property, property', hs', rfl, href⟩)

theorem passTo (h : PassesAlike s s') : s'.passTo = s.passTo := by
  funext d propertyName
  unfold SchemaRef.passTo SchemaRef.refName
  rw [h.added]
  rcases h.lookup propertyName with ⟨hs', hs⟩ | ⟨hs', hs⟩ | ⟨property, property', hs', hs, href⟩
  · rw [hs', hs]
  · rw [hs', hs]
  · simp only [hs', hs, href]

theorem passWithin_eq (h : PassesAlike s s') : s'.passWithin = s.passWithin := by
  funext s'' propertyName
  unfold SchemaRef.passWithin
  rw [h.added]
  rcases h.lookup propertyName with ⟨hs', hs⟩ | ⟨hs', hs⟩ | ⟨property, property', hs', hs, href⟩
  · rw [hs', hs]
  · rw [hs', hs]
  · simp only [hs', hs, Option.join_some, href]

theorem passOn (h : PassesAlike s s') : s'.passOn = s.passOn := by
  funext d
  rw [SchemaRef.passOn, SchemaRef.passOn, h.names, h.passTo]

/-- Unions of alternatives with the same names and references. -/
theorem restructured (quote : String → String) (key : String) (options : List String)
    {alternatives alternatives' : List (String × SchemaRef)}
    (h : alternatives'.map (fun np => (np.1, np.2.ref)) = alternatives.map fun np => (np.1, np.2.ref))
    (s : SchemaRef) :
    PassesAlike (s.restructured quote key options alternatives)
      (s.restructured quote key options alternatives') := by
  have hrefs : (alternatives'.map fun np => (np.1, (some np.2).map SchemaRef.ref))
      = alternatives.map fun np => (np.1, (some np.2).map SchemaRef.ref) := by
    simpa [Function.comp_def] using congrArg (List.map fun nr => (nr.1, some nr.2)) h
  have hread := SchemaRef.map_properties_restructured quote key options (Option.map SchemaRef.ref)
    hrefs s
  refine ⟨?_, fun name => ?_, rfl⟩
  · simpa [Function.comp_def] using congrArg (List.map Prod.fst) hread
  · rw [← Assoc.lookup_map, ← Assoc.lookup_map, hread]

end PassesAlike

/-! ## Visits by their cases -/

section Cases

variable {quote : String → String} {key : String} {s : SchemaRef} {visited : List String}

theorem outcome_of_visited (h : key ∈ visited) : outcome quote key s visited = ⟨s, []⟩ := by
  obtain ⟨_, _, _, _, _, _, _, _, _, _, _, _, _, _, _⟩ := s
  rw [outcome, if_pos h]

theorem outcome_of_union (h : key ∉ visited) (happlies : applies key s = some true) :
    outcome quote key s visited =
      ⟨(s.restructured quote key (alternativeNames s.alternatives)
          (optionalOutcomes quote s.oneOf (key :: visited)).1).passInline,
        (optionalOutcomes quote s.oneOf (key :: visited)).2 ++ [⟨key, some s.eraseEnum⟩]⟩ := by
  obtain ⟨_, _, _, _, _, _, _, _, _, _, _, _, _, _, _⟩ := s
  rw [outcome, if_neg h, if_pos happlies]

theorem outcome_of_not_union (h : key ∉ visited) (happlies : applies key s ≠ some true) :
    outcome quote key s visited = ⟨s.passInline, [⟨key, some s.eraseEnum⟩]⟩ := by
  obtain ⟨_, _, _, _, _, _, _, _, _, _, _, _, _, _, _⟩ := s
  rw [outcome, if_neg h, if_neg happlies]

/-- What a visit leaves of the reference and the enumeration of a schema. -/
theorem outcome_node (quote : String → String) (key : String) (s : SchemaRef)
    (visited : List String) :
    (outcome quote key s visited).node.ref = s.ref ∧
      (outcome quote key s visited).node.enum = s.enum := by
  have hinline : ∀ s : SchemaRef, s.passInline.ref = s.ref := fun s =>
    Loops.foldl_untouched SchemaRef.ref (fun name _ s' => by
      unfold SchemaRef.passWithin
      split
      · rfl
      · split <;> rfl) s
  by_cases h : key ∈ visited
  · rw [outcome_of_visited h]
    exact ⟨rfl, rfl⟩
  · by_cases happlies : applies key s = some true
    · rw [outcome_of_union h happlies]
      exact ⟨hinline _, SchemaRef.enum_passInline _⟩
    · rw [outcome_of_not_union h happlies]
      exact ⟨hinline _, SchemaRef.enum_passInline _⟩

theorem ne_none_of_identified {alternatives : List (Option SchemaRef)}
    (h : identified alternatives = some true) : none ∉ alternatives := by
  induction alternatives with
  | nil => exact List.not_mem_nil
  | cons v alternatives ih =>
    cases v with
    | none => cases h
    | some v =>
      rw [identified] at h
      split_ifs at h
      · cases h
      · simpa using ih h

theorem ne_none_of_applies (h : applies key s = some true) : none ∉ s.alternatives := by
  rw [applies] at h
  split_ifs at h
  · cases h
  · exact ne_none_of_identified h

/-- What is read of the alternatives after their visits, if no visit changes it. -/
theorem map_optionalOutcomes (quote : String → String) {β : Type} (read : SchemaRef → β)
    (hread : ∀ v visited, read (outcome quote (alternativeKey v) v visited).node = read v)
    (happlies : applies key s = some true) (visited : List String) :
    ((optionalOutcomes quote s.oneOf visited).1.map fun np => (np.1, read np.2))
      = s.named.map fun np => (np.1, read np.2) := by
  have hlist : ∀ (alternatives : List (Option SchemaRef)) (visited : List String),
      none ∉ alternatives →
      ((outcomes quote alternatives visited).1.map fun np => (np.1, read np.2))
        = (alternatives.filterMap (Option.map fun v => (alternativeName v, v))).map
            fun np => (np.1, read np.2) := by
    intro alternatives
    induction alternatives with
    | nil => exact fun _ _ => rfl
    | cons v alternatives ih =>
      intro visited hnone
      cases v with
      | none => exact absurd List.mem_cons_self hnone
      | some v =>
        rw [outcomes, List.filterMap_cons, List.map_cons, hread]
        exact congrArg _ (ih _ fun hmem => hnone (List.mem_cons_of_mem _ hmem))
  have hnone := ne_none_of_applies happlies
  rw [SchemaRef.named, SchemaRef.alternatives] at *
  cases hs : s.oneOf with
  | none => simp [optionalOutcomes]
  | some alternatives =>
    rw [hs] at hnone
    exact hlist alternatives visited hnone

/-- A union passes on what it would with its alternatives as they are listed. -/
theorem passOn_restructured (happlies : applies key s = some true) (visited : List String) :
    (s.restructured quote key (alternativeNames s.alternatives)
      (optionalOutcomes quote s.oneOf visited).1).passOn = (s.structural quote key).passOn :=
  (PassesAlike.restructured quote key _
    (map_optionalOutcomes quote SchemaRef.ref (fun v visited => (outcome_node quote _ v visited).1)
      happlies visited) s).passOn

section Fresh

variable (quote : String → String)

mutual

/-- No key is visited twice. -/
theorem nodup_outcome (key : String) : (s : SchemaRef) → (visited : List String) →
    ((outcome quote key s visited).stops.map Stop.key).Nodup ∧
      ∀ σ ∈ (outcome quote key s visited).stops, σ.key ∉ visited
  | ⟨_, _, _, _, _, _, _, _, oneOf, _, _, _, _, _, _⟩, visited => by
    rw [outcome]
    split_ifs with hvisited happlies
    · exact ⟨List.nodup_nil, nofun⟩
    · obtain ⟨hnodup, hfresh⟩ := nodup_optionalOutcomes oneOf (ne_none_of_applies happlies)
        (key :: visited)
      refine ⟨?_, fun σ hσ => ?_⟩
      · rw [List.map_append, List.nodup_append]
        refine ⟨hnodup, List.nodup_singleton _, fun x hx y hy heq => ?_⟩
        obtain ⟨σ, hσ, rfl⟩ := List.mem_map.1 hx
        exact hfresh σ hσ (heq ▸ List.mem_singleton.1 hy ▸ List.mem_cons_self)
      · rcases List.mem_append.1 hσ with hσ | hσ
        · exact fun hmem => hfresh σ hσ (List.mem_cons_of_mem _ hmem)
        · rwa [List.mem_singleton.1 hσ]
    · exact ⟨List.nodup_singleton _, fun σ hσ => by rwa [List.mem_singleton.1 hσ]⟩
termination_by structural s => s

theorem nodup_optionalOutcomes : (oneOf : Option (List (Option SchemaRef))) →
    none ∉ oneOf.getD [] → (visited : List String) →
      ((optionalOutcomes quote oneOf visited).2.map Stop.key).Nodup ∧
        ∀ σ ∈ (optionalOutcomes quote oneOf visited).2, σ.key ∉ visited
  | none, _, _ => ⟨List.nodup_nil, nofun⟩
  | some alternatives, h, visited => nodup_outcomes alternatives h visited
termination_by structural oneOf => oneOf

theorem nodup_outcomes : (alternatives : List (Option SchemaRef)) → none ∉ alternatives →
    (visited : List String) → ((outcomes quote alternatives visited).2.map Stop.key).Nodup ∧
      ∀ σ ∈ (outcomes quote alternatives visited).2, σ.key ∉ visited
  | [], _, _ => ⟨List.nodup_nil, nofun⟩
  | none :: _, h, _ => absurd List.mem_cons_self h
  | some v :: alternatives, h, visited => by
    obtain ⟨hnodup, hfresh⟩ := nodup_outcome (alternativeKey v) v visited
    obtain ⟨hnodup', hfresh'⟩ := nodup_outcomes alternatives
      (fun hmem => h (List.mem_cons_of_mem _ hmem))
      ((outcome quote (alternativeKey v) v visited).stops.map Stop.key ++ visited)
    rw [outcomes, List.map_append, List.nodup_append]
    refine ⟨⟨hnodup, hnodup', fun x hx y hy heq => ?_⟩, fun σ hσ => ?_⟩
    · obtain ⟨σ, hσ, rfl⟩ := List.mem_map.1 hy
      exact hfresh' σ hσ (List.mem_append_left _ (heq ▸ hx))
    · rcases List.mem_append.1 hσ with hσ | hσ
      · exact hfresh σ hσ
      · exact fun hmem => hfresh' σ hσ (List.mem_append_right _ hmem)
termination_by structural alternatives => alternatives

end

end Fresh

/-- The stop at a schema. -/
theorem Stop.run_eraseEnum (d : View) : Stop.run quote d ⟨key, some s.eraseEnum⟩
    = (applies key s).bind fun union =>
        if union then
          (s.structural quote key).passOn
            (d.define (nameDefinitionKey key) (nameSchema quote (alternativeNames s.alternatives)))
        else s.passOn d := by
  have hpass : ∀ s s' : SchemaRef, s'.eraseEnum = s.eraseEnum → s'.passOn = s.passOn :=
    fun s s' h => (PassesAlike.of_eraseEnum h).passOn
  have happlies : applies key s.eraseEnum = applies key s := rfl
  have halternatives : s.eraseEnum.alternatives = s.alternatives := rfl
  rw [Stop.run, Option.bind_some, happlies, halternatives, hpass s s.eraseEnum rfl,
    hpass (s.structural quote key) (s.eraseEnum.structural quote key) rfl]

theorem runStops_append (quote : String → String) (d : View) (stops stops' : List Stop) :
    runStops quote d (stops ++ stops') = (runStops quote d stops).bind fun d =>
      runStops quote d stops' := by
  rw [runStops, List.foldlM_append]
  rfl

theorem runStops_singleton (quote : String → String) (d : View) (σ : Stop) :
    runStops quote d [σ] = σ.run quote d := by
  rw [runStops, Loops.foldlM_cons_bind]
  exact Option.bind_fun_some _

end Cases

/-! ## Any order -/

theorem SchemaRef.enrich_enrich_comm (s : SchemaRef) (extra extra' : List String) :
    (s.enrich extra).enrich extra' = (s.enrich extra').enrich extra := by
  simp only [SchemaRef.enrich, sortUnique_append_comm s.enum extra extra']

namespace View

variable {d : View} {key key' : String} {s : SchemaRef} {extra extra' : List String}

theorem define_self (d : View) (key : String) (s : SchemaRef) :
    d.define key s key = some (some s) := Function.update_self _ _ _

theorem define_of_ne (h : key' ≠ key) : d.define key s key' = d key' :=
  Function.update_of_ne h _ _

theorem enrich_of_some (h : d key = some (some s)) :
    d.enrich key extra = some (d.define key (s.enrich extra)) := by
  rw [enrich, h]
  rfl

theorem enrich_of_none (h : (d key).join = none) : d.enrich key extra = none := by
  rw [enrich, h]
  rfl

/-- Values can be added in any order. -/
theorem enrich_comm (d : View) (key key' : String) (extra extra' : List String) :
    (d.enrich key extra).bind (fun d => d.enrich key' extra')
      = (d.enrich key' extra').bind fun d => d.enrich key extra := by
  by_cases hkey : key' = key
  · subst hkey
    cases hs : (d key').join with
    | none => rw [enrich_of_none hs, enrich_of_none hs]; rfl
    | some s =>
      have hs' := Option.join_eq_some_iff.1 hs
      rw [enrich_of_some hs', enrich_of_some hs', Option.bind_some, Option.bind_some,
        enrich_of_some (define_self _ _ _), enrich_of_some (define_self _ _ _), define, define,
        define, define, Function.update_idem, Function.update_idem,
        SchemaRef.enrich_enrich_comm]
  · cases hs : (d key).join with
    | none =>
      rw [enrich_of_none hs, Option.bind_none]
      cases hs' : (d key').join with
      | none => rw [enrich_of_none hs']; rfl
      | some s' =>
        rw [enrich_of_some (Option.join_eq_some_iff.1 hs'), Option.bind_some, enrich_of_none]
        rw [define_of_ne (Ne.symm hkey), hs]
    | some s =>
      rw [enrich_of_some (Option.join_eq_some_iff.1 hs), Option.bind_some]
      cases hs' : (d key').join with
      | none =>
        rw [enrich_of_none hs', Option.bind_none, enrich_of_none]
        rw [define_of_ne hkey, hs']
      | some s' =>
        rw [enrich_of_some (Option.join_eq_some_iff.1 hs'), Option.bind_some,
          enrich_of_some ((define_of_ne hkey).trans (Option.join_eq_some_iff.1 hs')),
          enrich_of_some ((define_of_ne (Ne.symm hkey)).trans (Option.join_eq_some_iff.1 hs)), define,
          define, define, define, Function.update_comm hkey]

end View

namespace SchemaRef

variable {s : SchemaRef}

theorem passTo_commutes (s : SchemaRef) (name name' : String) :
    Loops.Commutes s.passTo name name' := by
  intro d
  unfold passTo
  cases s.properties.lookup name with
  | none =>
    rw [Option.bind_some]
    exact (Option.bind_fun_some _).symm
  | some property =>
    cases property with
    | none =>
      rw [Option.bind_none]
      exact (Option.bind_eq_none_iff.2 fun _ _ => rfl).symm
    | some property =>
      cases s.properties.lookup name' with
      | none =>
        rw [Option.bind_some]
        exact Option.bind_fun_some _
      | some property' =>
        cases property' with
        | none =>
          rw [Option.bind_none]
          exact Option.bind_eq_none_iff.2 fun _ _ => rfl
        | some property' =>
          cases s.addedEnums name with
          | none => simp
          | some extra =>
            cases s.addedEnums name' with
            | none => simp
            | some extra' =>
              simp only [Option.bind_some]
              by_cases href : property.ref = ""
              · simp [href]
              · by_cases href' : property'.ref = ""
                · simp [href']
                · simpa [href, href'] using View.enrich_comm _ _ _ _ _

theorem passOn_perm {names : List String} (h : names.Perm (s.properties.map Prod.fst))
    (d : View) : names.foldlM s.passTo d = s.passOn d :=
  Loops.foldlM_perm h (fun _ _ _ _ _ => passTo_commutes s _ _) d

theorem enrichProperty_comm (s : SchemaRef) (name name' : String) (extra extra' : List String) :
    (s.enrichProperty name extra).enrichProperty name' extra'
      = (s.enrichProperty name' extra').enrichProperty name extra := by
  simp only [enrichProperty]
  rw [Assoc.modify_comm fun _ property => ?_]
  cases property with
  | none => rfl
  | some property => exact congrArg some (enrich_enrich_comm property extra extra')

theorem passWithin_comm (s s' : SchemaRef) (name name' : String) :
    s.passWithin (s.passWithin s' name) name' = s.passWithin (s.passWithin s' name') name := by
  unfold passWithin
  cases (s.properties.lookup name).join with
  | none => rfl
  | some property =>
    cases (s.properties.lookup name').join with
    | none => rfl
    | some property' =>
      dsimp only
      split_ifs
      · exact enrichProperty_comm _ _ _ _ _
      · rfl
      · rfl
      · rfl

theorem passInline_perm {names : List String} (h : names.Perm (s.properties.map Prod.fst)) :
    names.foldl s.passWithin s = s.passInline :=
  h.foldl_eq' (fun _ _ _ _ s' => passWithin_comm s s' _ _) s

theorem eraseEnum_passWithin (s : SchemaRef) {s' s'' : SchemaRef}
    (h : s'.eraseEnum = s''.eraseEnum) (name : String) :
    (s.passWithin s' name).eraseEnum = (s.passWithin s'' name).eraseEnum := by
  have hproperties : s'.properties = s''.properties := (congrArg SchemaRef.properties h :)
  have henrich : ∀ (s : SchemaRef) extra, (s.enrichProperty name extra).eraseEnum
      = { s.eraseEnum with properties := (s.enrichProperty name extra).properties } :=
    fun _ _ => rfl
  unfold passWithin
  split
  · exact h
  · split
    · rw [henrich, henrich, h, enrichProperty, enrichProperty, hproperties]
    · exact h

end SchemaRef

end Fybrik.Compile
