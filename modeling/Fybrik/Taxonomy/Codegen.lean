import Fybrik.Lib.Descent
import Fybrik.Taxonomy.References

/-!
# Code generation

With the option for code generation the compiler removes validation from all definitions in the
end.  `removeComplexValidation` calls itself for the schemas in a schema and for the definitions
that properties refer to, and does not remember where it has been.

* `stripped`, `followed` — what the calls leave of a schema, and the calls they make.
* `exists_removeEach_iff` — with some limit on the number of open calls they return if and only
  if no definition leads back to itself; `isSome_removeFromDefinitions` — the limit of the model
  is high enough.
* `tourSuccessors` — where the definitions lead after the tour of the compiler.
* `generates_iff` — the compiler returns if and only if the schemas on its tour find what they
  look for and no definition leads back to itself after it.
-/

namespace Fybrik.Compile

/-! ## What the calls do -/

mutual

/-- A schema without validation.  Properties that are references are left alone. -/
def stripped : SchemaRef → SchemaRef
  | ⟨ref, type, title, description, properties, additionalProperties, items, default, _, _, _, _,
      required, enum, facets⟩ =>
    ⟨ref, type, title, description, strippedProperties properties,
      strippedAdditional additionalProperties, strippedOptional items, default, none, [],
      [], none, required, enum, facets⟩
termination_by structural schema => schema

/-- The same for a schema that may be missing. -/
def strippedOptional : Option SchemaRef → Option SchemaRef
  | none => none
  | some schema => some (stripped schema)
termination_by structural schema => schema

/-- The same for properties. -/
def strippedProperties : List (String × Option SchemaRef) → List (String × Option SchemaRef)
  | [] => []
  | (propertyName, none) :: properties => (propertyName, none) :: strippedProperties properties
  | (propertyName, some property) :: properties =>
    (propertyName, some (if property.ref = "" then stripped property else property))
      :: strippedProperties properties
termination_by structural properties => properties

/-- The same for the schema of additional properties. -/
def strippedAdditional : Option (AdditionalPropertiesType SchemaRef) →
    Option (AdditionalPropertiesType SchemaRef)
  | none => none
  | some ⟨allowed, schema⟩ => some ⟨allowed, strippedOptional schema⟩
termination_by structural additional => additional

end

mutual

/-- The definitions that calls are made for within a schema. -/
def followed : SchemaRef → List String
  | ⟨_, _, _, _, properties, additionalProperties, items, _, _, _, _, _, _, _, _⟩ =>
    followedProperties properties ++ followedAdditional additionalProperties
      ++ followedOptional items
termination_by structural schema => schema

/-- The same for properties, each of which is followed or looked into. -/
def followedProperties : List (String × Option SchemaRef) → List String
  | [] => []
  | (_, none) :: properties => followedProperties properties
  | (_, some property) :: properties =>
    (if property.ref = "" then followed property else [property.refName])
      ++ followedProperties properties
termination_by structural properties => properties

/-- The same for additional properties. -/
def followedAdditional : Option (AdditionalPropertiesType SchemaRef) → List String
  | none => []
  | some ⟨_, schema⟩ => followedOptional schema
termination_by structural additional => additional

/-- The same for items. -/
def followedOptional : Option SchemaRef → List String
  | none => []
  | some schema => followed schema
termination_by structural schema => schema

end


section Trees

mutual

/-- A schema loses its validation, and the definitions it leads to are followed, one after the
other. -/
theorem removeComplexValidation_eq : (s : SchemaRef) → ∃ l : List String, l.Perm (followed s) ∧ ∀ follow d,
    removeComplexValidation follow s d = (l.foldlM (fun d k => follow k d) d).map fun d => (stripped s, d)
  | ⟨ref, type, title, description, properties, additionalProperties, items, default, oneOf, anyOf,
      allOf, not, required, enum, facets⟩ => by
    obtain ⟨l₁, hl₁, h₁⟩ := removeFromProperties_eq properties
    obtain ⟨l₂, hl₂, h₂⟩ := removeFromAdditional_eq additionalProperties
    obtain ⟨l₃, hl₃, h₃⟩ := removeFromOptional_eq items
    refine ⟨l₁ ++ l₃ ++ l₂, ?_, fun follow d => ?_⟩
    · rw [followed, List.append_assoc, List.append_assoc]
      exact hl₁.append ((hl₃.append hl₂).trans List.perm_append_comm)
    · simp [removeComplexValidation, stripped, h₁, h₂, h₃, List.foldlM_append, Option.bind_map,
        Function.comp_def]
termination_by structural s => s

theorem removeFromProperties_eq : (properties : List (String × Option SchemaRef)) →
    ∃ l : List String, l.Perm (followedProperties properties) ∧ ∀ follow d,
      removeFromProperties follow properties d
        = (l.foldlM (fun d k => follow k d) d).map fun d => (strippedProperties properties, d)
  | [] => ⟨[], by rw [followedProperties], fun _ _ => by rw [removeFromProperties]; rfl⟩
  | (propertyName, none) :: properties => by
    obtain ⟨l, hl, h⟩ := removeFromProperties_eq properties
    refine ⟨l, by rwa [followedProperties], fun follow d => ?_⟩
    rw [removeFromProperties, h, Option.map_map]
    rfl
  | (propertyName, some property) :: properties => by
    obtain ⟨l₁, hl₁, h₁⟩ := removeComplexValidation_eq property
    obtain ⟨l₂, hl₂, h₂⟩ := removeFromProperties_eq properties
    by_cases href : property.ref = ""
    · refine ⟨l₁ ++ l₂, ?_, fun follow d => ?_⟩
      · rw [followedProperties, if_pos href]
        exact hl₁.append hl₂
      · simp [removeFromProperties, strippedProperties, href, h₁, h₂, List.foldlM_append,
          Option.bind_map, Function.comp_def]
    · refine ⟨property.refName :: l₂, ?_, fun follow d => ?_⟩
      · rw [followedProperties, if_neg href]
        exact hl₂.cons _
      · simp [removeFromProperties, strippedProperties, href, h₂, Option.bind_map,
          Function.comp_def]
termination_by structural properties => properties

theorem removeFromAdditional_eq :
    (additional : Option (AdditionalPropertiesType SchemaRef)) → ∃ l : List String,
      l.Perm (followedAdditional additional) ∧ ∀ follow d,
        removeFromAdditional follow additional d
          = (l.foldlM (fun d k => follow k d) d).map fun d => (strippedAdditional additional, d)
  | none => ⟨[], by rw [followedAdditional], fun _ _ => by rw [removeFromAdditional]; rfl⟩
  | some ⟨allowed, schema⟩ => by
    obtain ⟨l, hl, h⟩ := removeFromOptional_eq schema
    refine ⟨l, by rwa [followedAdditional], fun follow d => ?_⟩
    rw [removeFromAdditional, h, Option.map_map]
    rfl
termination_by structural additional => additional

theorem removeFromOptional_eq : (schema : Option SchemaRef) → ∃ l : List String,
    l.Perm (followedOptional schema) ∧ ∀ follow d,
      removeFromOptional follow schema d
        = (l.foldlM (fun d k => follow k d) d).map fun d => (strippedOptional schema, d)
  | none => ⟨[], by rw [followedOptional], fun _ _ => by rw [removeFromOptional]; rfl⟩
  | some schema => by
    obtain ⟨l, hl, h⟩ := removeComplexValidation_eq schema
    refine ⟨l, by rwa [followedOptional], fun follow d => ?_⟩
    rw [removeFromOptional, h, Option.map_map]
    rfl
termination_by structural schema => schema

end

theorem ref_stripped (s : SchemaRef) : (stripped s).ref = s.ref := by
  obtain ⟨_, _, _, _, _, _, _, _, _, _, _, _, _, _, _⟩ := s
  rw [stripped]

mutual

/-- Once validation is removed nothing is left to remove, and the references are still there. -/
theorem stripped_stripped : (s : SchemaRef) →
    stripped (stripped s) = stripped s ∧ followed (stripped s) = followed s
  | ⟨_, _, _, _, properties, additionalProperties, items, _, _, _, _, _, _, _, _⟩ => by
    have h₁ := strippedProperties_idem properties
    have h₂ := strippedAdditional_idem additionalProperties
    have h₃ := strippedOptional_idem items
    simp only [stripped, followed, h₁, h₂, h₃, and_self]
termination_by structural s => s

theorem strippedProperties_idem : (properties : List (String × Option SchemaRef)) →
    strippedProperties (strippedProperties properties) = strippedProperties properties ∧
      followedProperties (strippedProperties properties) = followedProperties properties
  | [] => ⟨by simp only [strippedProperties], by simp only [strippedProperties]⟩
  | (_, none) :: properties => by
    have h := strippedProperties_idem properties
    simp only [strippedProperties, followedProperties, h, and_self]
  | (_, some property) :: properties => by
    have hproperty := stripped_stripped property
    have h := strippedProperties_idem properties
    by_cases hempty : property.ref = ""
    · simp [strippedProperties, followedProperties, h, hempty, ref_stripped, hproperty]
    · simp [strippedProperties, followedProperties, h, hempty]
termination_by structural properties => properties

theorem strippedAdditional_idem : (additional : Option (AdditionalPropertiesType SchemaRef)) →
    strippedAdditional (strippedAdditional additional) = strippedAdditional additional ∧
      followedAdditional (strippedAdditional additional) = followedAdditional additional
  | none => ⟨by simp only [strippedAdditional], by simp only [strippedAdditional]⟩
  | some ⟨_, schema⟩ => by
    have h := strippedOptional_idem schema
    simp only [strippedAdditional, followedAdditional, h, and_self]
termination_by structural additional => additional

theorem strippedOptional_idem : (schema : Option SchemaRef) →
    strippedOptional (strippedOptional schema) = strippedOptional schema ∧
      followedOptional (strippedOptional schema) = followedOptional schema
  | none => ⟨by simp only [strippedOptional], by simp only [strippedOptional]⟩
  | some schema => by
    have h := stripped_stripped schema
    simp only [strippedOptional, followedOptional, h, and_self]
termination_by structural schema => schema

end

end Trees

/-- The definitions that a definition leads to. -/
def successors (d : View) (key : String) : List String := followedOptional (d key).join

/-- Some definitions have lost their validation. -/
def Stripped (d d' : GoMap String (Option SchemaRef)) : Prop :=
  ∀ key, d'.lookup key = d.lookup key ∨
    d'.lookup key = (d.lookup key).map strippedOptional

section Definitions

variable {d d' d'' : GoMap String (Option SchemaRef)} {key : String} {n : ℕ}

theorem Stripped.refl (d : GoMap String (Option SchemaRef)) : Stripped d d := fun _ => Or.inl rfl

theorem map_strippedOptional_idem (schema : Option (Option SchemaRef)) :
    (schema.map strippedOptional).map strippedOptional
      = schema.map strippedOptional := by
  cases schema with
  | none => rfl
  | some s => rw [Option.map_some, Option.map_some, (strippedOptional_idem s).1]

/-- A definition that has lost its validation stays as it is. -/
theorem Stripped.lookup_eq (h : Stripped d' d'')
    (hkey : d'.lookup key = (d.lookup key).map strippedOptional) :
    d''.lookup key = (d.lookup key).map strippedOptional := by
  rcases h key with hsame | hmap
  · rw [hsame, hkey]
  · rw [hmap, hkey, map_strippedOptional_idem]

theorem Stripped.trans (h : Stripped d d') (h' : Stripped d' d'') : Stripped d d'' := by
  intro key
  rcases h key with hsame | hmap
  · rw [← hsame]
    exact h' key
  · exact Or.inr (h'.lookup_eq hmap)

theorem Stripped.successors_eq (h : Stripped d d') :
    successors d'.lookup = successors d.lookup := by
  funext key
  rcases h key with hsame | hmap
  · rw [successors, hsame, successors]
  · rw [successors, hmap, successors]
    cases d.lookup key with
    | none => rfl
    | some s => exact (strippedOptional_idem s).2

theorem mem_keys_of_successors (h : successors d.lookup key ≠ []) : key ∈ d.keys := by
  rw [← AList.mem_keys, ← AList.lookup_isSome]
  cases hkey : d.lookup key with
  | none => exact absurd (by rw [successors, hkey]; rfl) h
  | some s => rfl

/-- The call for a definition that is there: the definitions it leads to are followed, and then
it is assigned. -/
theorem removeDefinition_eq (n : ℕ) {s : SchemaRef} (h : (d.lookup key).join = some s) :
    ∃ l : List String, l.Perm (followed s) ∧
      removeDefinition (n + 1) key d
        = (l.foldlM (fun d k => removeDefinition n k d) d).map fun d =>
            d.set key (some (stripped s)) := by
  obtain ⟨l, hl, hremove⟩ := removeComplexValidation_eq s
  refine ⟨l, hl, ?_⟩
  rw [removeDefinition, h]
  simp only [hremove, Option.map_map, Function.comp_def]

/-- A call that returns has removed the validation of its definition, and maybe that of
others. -/
theorem stripped_removeDefinition (h : removeDefinition n key d = some d') :
    Stripped d d' ∧ d'.lookup key = (d.lookup key).map strippedOptional := by
  induction n generalizing key d d' with
  | zero => exact absurd h (by simp [removeDefinition])
  | succ n ih =>
    cases hkey : (d.lookup key).join with
    | none =>
      rw [removeDefinition, hkey] at h
      cases h
      refine ⟨Stripped.refl d, ?_⟩
      rcases Option.join_eq_none_iff.1 hkey with hkey | hkey <;> rw [hkey] <;> rfl
    | some s =>
      obtain ⟨l, -, heq⟩ := removeDefinition_eq n hkey
      rw [heq, Option.map_eq_some_iff] at h
      obtain ⟨d₁, hloop, rfl⟩ := h
      have hstripped : Stripped d d₁ := Loops.foldlM_preserves (Stripped d)
        (fun k _ d₂ d₃ hd₂ hstep => hd₂.trans (ih hstep).1) (Stripped.refl d) hloop
      have hown : (d₁.set key (some (stripped s))).lookup key
          = (d.lookup key).map strippedOptional := by
        rw [Option.join_eq_some_iff.1 hkey]
        exact AList.lookup_insert _
      refine ⟨fun k => ?_, hown⟩
      by_cases hk : k = key
      · rw [hk]
        exact Or.inr hown
      · have hne : (d₁.set key (some (stripped s))).lookup k = d₁.lookup k :=
          AList.lookup_insert_ne hk
        rw [hne]
        exact hstripped k

/-- A call returns if and only if the descent along the references ends. -/
theorem isSome_removeDefinition (n : ℕ) (key : String) (d : GoMap String (Option SchemaRef)) :
    (removeDefinition n key d).isSome = true ↔ Descent.ends (successors d.lookup) n key = true := by
  induction n generalizing key d with
  | zero => simp [removeDefinition, Descent.ends]
  | succ n ih =>
    cases hkey : (d.lookup key).join with
    | none => simp [removeDefinition, Descent.ends, successors, hkey, followedOptional]
    | some s =>
      obtain ⟨l, hl, heq⟩ := removeDefinition_eq n hkey
      have hsuccessors : successors d.lookup key = followed s := by rw [successors, hkey]; rfl
      have hloop : (l.foldlM (fun d k => removeDefinition n k d) d).isSome = true ↔
          ∀ k ∈ l, Descent.ends (successors d.lookup) n k = true := by
        refine Loops.isSome_foldlM_iff (Stripped d) (fun k _ d₁ hd₁ => ?_)
          (fun k _ d₁ d₂ hd₁ hstep => hd₁.trans (stripped_removeDefinition hstep).1)
          (Stripped.refl d)
        rw [ih, hd₁.successors_eq]
      rw [heq, Option.isSome_map, hloop, Descent.ends_succ_iff, hsuccessors]
      exact forall_congr' fun k => imp_congr_left hl.mem_iff

variable (order : IterationOrder)

/-- The loop returns if and only if all calls do. -/
theorem isSome_removeEach (n : ℕ) (d : GoMap String (Option SchemaRef)) :
    (removeEach order n d).isSome = true ↔
      ∀ key ∈ d.keys, Descent.ends (successors d.lookup) n key = true := by
  have hloop : (removeEach order n d).isSome = true ↔
      ∀ key ∈ order.definitions d.keys, Descent.ends (successors d.lookup) n key = true := by
    refine Loops.isSome_foldlM_iff (Stripped d) (fun key _ d₁ hd₁ => ?_)
      (fun key _ d₁ d₂ hd₁ hstep => hd₁.trans (stripped_removeDefinition hstep).1)
      (Stripped.refl d)
    rw [isSome_removeDefinition, hd₁.successors_eq]
  rw [hloop]
  exact forall_congr' fun key => imp_congr_left (order.definitions_perm _).mem_iff

theorem stripped_foldlM {l : List String}
    (h : l.foldlM (fun d k => removeDefinition n k d) d = some d') : Stripped d d' :=
  Loops.foldlM_preserves (Stripped d)
    (fun _ _ _ _ hd hstep => hd.trans (stripped_removeDefinition hstep).1) (Stripped.refl d) h

/-- In the end all definitions have lost their validation, each one in its own turn at the
latest. -/
theorem lookup_removeEach {order : IterationOrder} (h : removeEach order n d = some d')
    (key : String) : d'.lookup key = (d.lookup key).map strippedOptional := by
  by_cases hkey : key ∈ d.keys
  · obtain ⟨l₁, l₂, hl⟩ := List.append_of_mem ((order.definitions_perm d.keys).mem_iff.2 hkey)
    rw [removeEach, hl, List.foldlM_append] at h
    obtain ⟨d₁, hbefore, hafter⟩ := Option.bind_eq_some_iff.1 h
    rw [List.foldlM_cons] at hafter
    obtain ⟨d₂, hown, hrest⟩ := Option.bind_eq_some_iff.1 hafter
    refine (stripped_foldlM hrest).lookup_eq ?_
    rw [(stripped_removeDefinition hown).2]
    rcases stripped_foldlM hbefore key with hsame | hmap
    · rw [hsame]
    · rw [hmap, map_strippedOptional_idem]
  · have hnone : d.lookup key = none := by
      rw [AList.lookup_eq_none, AList.mem_keys]
      exact hkey
    rcases stripped_foldlM h key with hsame | hmap
    · rw [hsame, hnone]
      rfl
    · exact hmap

/-- With some limit the loop returns if and only if no definition leads back to itself. -/
theorem exists_removeEach_iff (d : GoMap String (Option SchemaRef)) :
    (∃ n, (removeEach order n d).isSome = true) ↔ ¬ Descent.Cyclic (successors d.lookup) := by
  simp only [isSome_removeEach]
  exact Descent.exists_ends_iff fun key => mem_keys_of_successors

theorem isSome_removeFromDefinitions (d : GoMap String (Option SchemaRef)) :
    (removeFromDefinitions order d).isSome = true ↔ ¬ Descent.Cyclic (successors d.lookup) := by
  refine ⟨fun h => (exists_removeEach_iff order d).1 ⟨_, h⟩, fun h => ?_⟩
  rw [removeFromDefinitions, isSome_removeEach]
  exact fun key _ => Descent.ends_of_not_cyclic h (fun _ => mem_keys_of_successors) key

end Definitions

/-! ## Documents -/

/-- The compiler returns a document none of whose definitions has validation left. -/
def Generates (quote : String → String) (order : IterationOrder) (base : Document)
    (layers : List Document) : Prop :=
  ∃ doc, documents quote order base layers true = some doc ∧
    ∀ key s, doc.definitions.lookup key = some (some s) →
      s.oneOf = none ∧ s.anyOf = [] ∧ s.allOf = [] ∧ s.not = none

/-- The compiler returns if and only if no definition leads back to itself before validation is
removed. -/
theorem generates_iff_run {quote : String → String} {order : IterationOrder} {base : Document}
    {layers : List Document} : Generates quote order base layers ↔
    ∃ t, visitAll quote order base (mergeDefinitions order (base :: layers)) = some t ∧
      ¬ Descent.Cyclic (successors t.read.lookup) := by
  simp only [← isSome_removeFromDefinitions order, Option.isSome_iff_exists]
  constructor
  · rintro ⟨doc, h, -⟩
    obtain ⟨t, hrun, hrest⟩ := Option.bind_eq_some_iff.1 h
    obtain ⟨d, hd, -⟩ := Option.map_eq_some_iff.1 hrest
    exact ⟨t, hrun, d, hd⟩
  · rintro ⟨t, hrun, d, hd⟩
    have hdoc : documents quote order base layers true = some
        { schema := base.schema, schemaVersion := base.schemaVersion, definitions := d } := by
      rw [documents, transform, hrun, Option.bind_some, if_pos rfl, hd, Option.map_some]
    refine ⟨_, hdoc, fun key s hs => ?_⟩
    replace hs : d.lookup key = some (some s) := hs
    rw [lookup_removeEach hd key] at hs
    obtain ⟨schema, -, hschema⟩ := Option.map_eq_some_iff.1 hs
    cases schema with
    | none => cases hschema
    | some schema =>
      obtain ⟨_, _, _, _, _, _, _, _, _, _, _, _, _, _, _⟩ := schema
      rw [strippedOptional, stripped] at hschema
      cases hschema
      exact ⟨rfl, rfl, rfl, rfl⟩

/-! ## Where definitions lead after the tour -/

/-- The definitions that a property leads to. -/
def leads : Option SchemaRef → List String
  | none => []
  | some property => if property.ref = "" then followed property else [property.refName]

/-- The definitions that a definition leads to after some turns: the names of a union lead
nowhere, and a union that was visited leads to its alternatives and to its names. -/
def tourSuccessors (quote : String → String) (m : View) (turns : List Turn) (key : String) :
    List String :=
  if (stopsOf quote turns).any (Stop.defines · key) then []
  else
    match turns.find? (Turn.key · == key) with
    | none => successors m key
    | some τ => followedOptional (τ.schema.map fun s =>
        if applies key s = some true then s.structural quote key else s)

section Tour

variable {quote : String → String} {m d d' : View} {turns : List Turn} {s : SchemaRef}

theorem followedProperties_eq (properties : List (String × Option SchemaRef)) :
    followedProperties properties = properties.flatMap fun np => leads np.2 := by
  induction properties with
  | nil => rw [followedProperties]; rfl
  | cons np properties ih =>
    obtain ⟨name, property⟩ := np
    cases property with
    | none => rw [followedProperties, ih]; rfl
    | some property => rw [followedProperties, ih]; rfl

theorem followed_eq (s : SchemaRef) : followed s
    = s.properties.flatMap (fun np => leads np.2) ++ followedAdditional s.additionalProperties
        ++ followedOptional s.items := by
  obtain ⟨_, _, _, _, properties, _, _, _, _, _, _, _, _, _, _⟩ := s
  rw [followed, followedProperties_eq]

theorem flatMap_leads_eq {l l' : List (String × Option SchemaRef)}
    (h : (l'.map fun np => (np.1, leads np.2)) = l.map fun np => (np.1, leads np.2)) :
    (l'.flatMap fun np => leads np.2) = l.flatMap fun np => leads np.2 := by
  have hread := congrArg (List.flatMap Prod.snd) h
  rwa [List.flatMap_map, List.flatMap_map] at hread

theorem followed_eraseEnum (s : SchemaRef) : followed s.eraseEnum = followed s := by
  rw [followed_eq, followed_eq]
  rfl

theorem leads_enrich (extra : List String) (property : Option SchemaRef) :
    leads (property.map (SchemaRef.enrich extra)) = leads property := by
  cases property with
  | none => rfl
  | some property =>
    have hfollowed : followed (property.enrich extra) = followed property := by
      rw [← followed_eraseEnum, SchemaRef.eraseEnum_enrich, followed_eraseEnum]
    rw [Option.map_some, leads, leads, hfollowed]
    rfl

/-- Enumerations of properties lead nowhere. -/
theorem followed_passInline (s : SchemaRef) : followed s.passInline = followed s := by
  refine Loops.foldl_untouched followed (fun name _ s' => ?_) s
  unfold SchemaRef.passWithin
  split
  · rfl
  · split
    · rw [followed_eq, followed_eq]
      exact congrArg (· ++ _ ++ _)
        (flatMap_leads_eq (Assoc.map_modify (leads_enrich _) name s'.properties))
    · rfl

theorem leads_outcome (v : SchemaRef) (visited : List String) :
    leads (some (outcome quote (alternativeKey v) v visited).node) = leads (some v) := by
  have href := (outcome_node quote (alternativeKey v) v visited).1
  rw [leads, leads, SchemaRef.refName, href, ← SchemaRef.refName]
  split_ifs with hempty
  · -- an alternative without a reference has no key, and is not taken for a union
    have hkey : alternativeKey v = "" := by rw [alternativeKey, if_neg (not_not.2 hempty)]
    by_cases hvisited : alternativeKey v ∈ visited
    · rw [outcome_of_visited hvisited]
    · rw [outcome_of_not_union hvisited (by simp [hkey, applies]), followed_passInline]
  · rfl

theorem followed_restructured {key : String} (happlies : applies key s = some true)
    (visited : List String) :
    followed (s.restructured quote key (alternativeNames s.alternatives)
      (optionalOutcomes quote s.oneOf visited).1) = followed (s.structural quote key) := by
  have hread := SchemaRef.map_properties_restructured quote key (alternativeNames s.alternatives)
    leads (map_optionalOutcomes quote (fun v => leads (some v)) leads_outcome happlies visited) s
  rw [followed_eq, flatMap_leads_eq hread, SchemaRef.structural, followed_eq]
  rfl

theorem successors_eq_of_erased (h : ∀ k, erased (d k) = erased (d' k)) :
    successors d = successors d' := by
  have hown : ∀ (d : View) k, successors d k = followedOptional (erased (d k)).join := by
    intro d k
    rw [successors, erased]
    cases d k with
    | none => rfl
    | some s =>
      cases s with
      | none => rfl
      | some s => exact (followed_eraseEnum s).symm
  funext k
  rw [hown, hown, h]

theorem successors_shape (hfresh : ∀ τ ∈ turns, τ.key ∉ τ.visited) :
    successors (shape quote m turns) = tourSuccessors quote m turns := by
  funext key
  rw [successors, shape, tourSuccessors]
  split_ifs
  · rw [Option.join_some, followedOptional, followed_eq]
    rfl
  · cases hfind : turns.find? (Turn.key · == key) with
    | none => rfl
    | some τ =>
      have hkey : τ.key = key := beq_iff_eq.1 (by simpa using List.find?_some hfind)
      subst hkey
      have hτ := hfresh τ (List.mem_of_find?_eq_some hfind)
      dsimp only
      rw [Option.join_some, Turn.node]
      cases τ.schema with
      | none => rfl
      | some s =>
        rw [Option.map_some, Option.map_some, followedOptional, followedOptional]
        split_ifs with happlies
        · rw [outcome_of_union hτ happlies, followed_passInline, followed_restructured happlies]
        · rw [outcome_of_not_union hτ happlies, followed_passInline]

end Tour

section Results

variable (quote : String → String) (order : IterationOrder) (base : Document)
  (layers : List Document)

theorem successors_run {t : Transformer}
    (hrun : visitAll quote order base (mergeDefinitions order (base :: layers)) = some t) :
    successors t.read.lookup
      = tourSuccessors quote (mergeDefinitions order (base :: layers)).lookup
          (documentTour quote order base layers) := by
  obtain ⟨st, hrefines, hfollows⟩ := (run_follows quote order base layers).2 t hrun
  rw [← successors_shape hfollows.fresh]
  refine successors_eq_of_erased fun k => ?_
  rw [← hfollows.shape, hrefines.view]

/-- **Code generation returns**, with all validation removed, if and only if the schemas on the
tour of the compiler find what they look for, and no definition leads back to itself after the
tour. -/
theorem generates_iff : Generates quote order base layers ↔
    ResolvedTour quote order base layers ∧
      ¬ Descent.Cyclic (tourSuccessors quote (mergeDefinitions order (base :: layers)).lookup
        (documentTour quote order base layers)) := by
  rw [generates_iff_run, ← (run_follows quote order base layers).1, Option.isSome_iff_exists]
  constructor
  · rintro ⟨t, hrun, hcycle⟩
    exact ⟨⟨t, hrun⟩, successors_run quote order base layers hrun ▸ hcycle⟩
  · rintro ⟨⟨t, hrun⟩, hcycle⟩
    exact ⟨t, hrun, (successors_run quote order base layers hrun).symm ▸ hcycle⟩

/-- A definition of lists, which refers to itself. -/
def listBase : Document :=
  documentOf
    [("Node", { SchemaRef.empty with
        type := "object"
        properties := [("next", some (refTo "Node"))] })]

/-- Code generation does not return for it, though the compiler does without the option. -/
theorem listBase_not_generates : (∀ order, ¬ Generates quoted order listBase []) ∧
    (documents quoted listedOrder listBase [] false).isSome = true := by
  refine ⟨fun order hgenerates => ?_, by decide +kernel⟩
  have hkeys : order.definitions listBase.definitions.keys = ["Node"] :=
    List.perm_singleton.1 (order.definitions_perm _)
  have hmerged : mergeDefinitions order [listBase] = listBase.definitions := by
    have hmerging : order.merging [.document 0] listBase.definitions.keys = ["Node"] :=
      List.perm_singleton.1 (order.merging_perm _ _)
    simp only [mergeDefinitions, List.zipIdx_cons, List.zipIdx_nil, List.foldl_cons,
      List.foldl_nil, merge, mergeDefinition, hmerging]
    rfl
  obtain ⟨t, hrun, hcycle⟩ := generates_iff_run.1 hgenerates
  rw [successors_run quoted order listBase [] hrun, documentTour, hkeys, hmerged] at hcycle
  refine hcycle ⟨"Node", .single ?_⟩
  rw [Descent.Edge]
  decide +kernel

end Results

end Fybrik.Compile
