import Fybrik.Lib.Layers
import Fybrik.Taxonomy.Schema

/-!
# What merging keeps

The definitions of several documents are merged from the first document to the last.  A schema
that is found in several of them, as a definition or anywhere in the properties and items of
one, is merged from those schemas alone, and it does not matter in which order the loops over
maps go.

* `SchemaRef.locate` — the schema at a path of properties and items.
* `mergeSchemaRef_canonical` — the loops can go in any order.
* `locate_mergeSchemaRef` — merging goes along with following a path.
* `Constraint` — the keywords with one value; `SchemaRef.setting` is the value, if it is set.
* `Lossless` — what the merged definitions are to have from the documents.
* `mergeDefinitions_lossless_iff` — required names get lost unless they are listed in
  ascending order, and nothing else does.
-/

namespace Fybrik.Compile

/-! ## Paths -/

/-- A step from a schema to a part of it. -/
inductive Part where
  | property (propertyName : String)
  | items
  deriving DecidableEq, Repr

/-- The part of a schema. -/
def SchemaRef.part : Part → SchemaRef → Option SchemaRef
  | .property propertyName, s => (s.properties.lookup propertyName).join
  | .items, s => s.items

/-- The schema at a path. -/
def SchemaRef.locate : List Part → SchemaRef → Option SchemaRef
  | [], s => some s
  | p :: path, s => (s.part p).bind (SchemaRef.locate path)

mutual

/-- Properties are maps, which are listed in the order of their names, also in the schemas that
are merged with this one. -/
def ordered : SchemaRef → Bool
  | ⟨_, _, _, _, properties, additionalProperties, items, _, _, _, _, not, _, _, _⟩ =>
    decide (Assoc.Ordered properties) && orderedProperties properties
      && orderedAdditional additionalProperties && orderedOptional items && orderedOptional not
termination_by structural schema => schema

/-- The same for each property. -/
def orderedProperties : List (String × Option SchemaRef) → Bool
  | [] => true
  | (_, property) :: properties => orderedOptional property && orderedProperties properties
termination_by structural properties => properties

/-- The same for additional properties. -/
def orderedAdditional : Option (AdditionalPropertiesType SchemaRef) → Bool
  | none => true
  | some ⟨_, schema⟩ => orderedOptional schema
termination_by structural additional => additional

/-- The same for a schema that may be missing. -/
def orderedOptional : Option SchemaRef → Bool
  | none => true
  | some schema => ordered schema
termination_by structural schema => schema

end

/-- The properties in a document are maps. -/
def Document.WellFormed (doc : Document) : Prop :=
  ∀ ks ∈ doc.definitions.pairs, orderedOptional ks.2 = true

instance (doc : Document) : Decidable doc.WellFormed :=
  inferInstanceAs (Decidable (∀ ks ∈ doc.definitions.pairs, orderedOptional ks.2 = true))

/-- What the documents have for a definition. -/
def listings (documents : List Document) (key : String) : List (Option SchemaRef) :=
  documents.filterMap fun doc => doc.definitions.lookup key

/-- The schemas at a path of a definition, document by document. -/
def occurrences (documents : List Document) (key : String) (path : List Part) : List SchemaRef :=
  (listings documents key).filterMap fun s => s.bind (SchemaRef.locate path)

/-! ## Keywords with one value -/

/-- The keywords that have one value. -/
inductive Constraint where
  | title | description | default | format | pattern
  | minimum | maximum | multipleOf | exclusiveMinimum | exclusiveMaximum
  | minLength | maxLength | minItems | maxItems | uniqueItems | minProperties | maxProperties
  deriving DecidableEq, Repr

/-- The value of such a keyword. -/
inductive Setting where
  | text (s : String)
  | count (n : ℤ)
  | number (x : ℚ)
  | flag
  deriving DecidableEq

/-- A text that is set. -/
def textSetting (s : String) : Option Setting := if s ≠ "" then some (.text s) else none

/-- A flag that is set. -/
def flagSetting (b : Bool) : Option Setting := if b then some .flag else none

/-- The value of a keyword, if it is set. -/
def SchemaRef.setting (c : Constraint) (s : SchemaRef) : Option Setting :=
  match c with
  | .title => textSetting s.title
  | .description => textSetting s.description
  | .default => s.default.map .text
  | .format => textSetting s.facets.format
  | .pattern => textSetting s.facets.pattern
  | .minimum => s.facets.min.map .number
  | .maximum => s.facets.max.map .number
  | .multipleOf => s.facets.multipleOf.map .number
  | .exclusiveMinimum => flagSetting s.facets.exclusiveMin
  | .exclusiveMaximum => flagSetting s.facets.exclusiveMax
  | .minLength => s.facets.minLength.map .count
  | .maxLength => s.facets.maxLength.map .count
  | .minItems => s.facets.minItems.map .count
  | .maxItems => s.facets.maxItems.map .count
  | .uniqueItems => flagSetting s.facets.uniqueItems
  | .minProperties => s.facets.minProps.map .count
  | .maxProperties => s.facets.maxProps.map .count

/-! ## Loops in any order -/

section Orders

variable {order order' : IterationOrder} {place place' : List Place}

theorem orderedProperties_iff {l : List (String × Option SchemaRef)} :
    orderedProperties l = true ↔ ∀ np ∈ l, orderedOptional np.2 = true := by
  induction l with
  | nil => simp [orderedProperties]
  | cons np l ih => rw [orderedProperties, Bool.and_eq_true, ih, List.forall_mem_cons]

theorem orderedOptional_join_lookup {l : List (String × Option SchemaRef)}
    (h : orderedProperties l = true) (propertyName : String) :
    orderedOptional (l.lookup propertyName).join = true := by
  cases hlookup : l.lookup propertyName with
  | none => rfl
  | some property =>
    exact orderedProperties_iff.1 h _ (Assoc.mem_of_lookup hlookup)

theorem ordered_mergeProperties (order : IterationOrder) (place : List Place)
    {dst : List (String × Option SchemaRef)} (h : Assoc.Ordered dst) (src : List (String × (Option SchemaRef → Option SchemaRef))) :
    Assoc.Ordered (mergeProperties order place dst src) := by
  refine List.foldlRecOn _ _ h fun l hl propertyName _ => ?_
  rw [mergeProperty]
  cases src.lookup propertyName with
  | none => exact hl
  | some merged => exact hl.set _ _

/-- The properties are the same in all orders, if this is known of each of them. -/
theorem mergeProperties_canonical (order order' : IterationOrder) (place place' : List Place)
    {dst src : List (String × Option SchemaRef)}
    (hdst : Assoc.Ordered dst) (hin : orderedProperties dst = true) (hsrc : Assoc.Ordered src)
    (hmerge : ∀ np ∈ src, ∀ (place place' : List Place) {dst : Option SchemaRef},
      orderedOptional dst = true →
        mergeSchemaRef order place dst np.2 = mergeSchemaRef order' place' dst np.2 ∧
          orderedOptional (mergeSchemaRef order place dst np.2) = true) :
    mergeProperties order place dst (propertyMerges order place src)
        = mergeProperties order' place' dst (propertyMerges order' place' src) ∧
      orderedProperties (mergeProperties order place dst (propertyMerges order place src))
        = true := by
  have hresult := ordered_mergeProperties order place hdst (propertyMerges order place src)
  refine ⟨hresult.eq_of_lookup (ordered_mergeProperties order' place' hdst _)
    fun propertyName => ?_, orderedProperties_iff.2 fun np hnp => ?_⟩
  · rw [lookup_mergeProperties dst hsrc.nodup, lookup_mergeProperties dst hsrc.nodup]
    cases hlookup : src.lookup propertyName with
    | none => rfl
    | some property =>
      exact congrArg some (hmerge _ (Assoc.mem_of_lookup hlookup) _ _
        (orderedOptional_join_lookup hin propertyName)).1
  · have hlookup := hresult.lookup_of_mem hnp
    rw [lookup_mergeProperties dst hsrc.nodup] at hlookup
    cases hproperty : src.lookup np.1 with
    | none =>
      rw [hproperty, Option.elim_none] at hlookup
      exact orderedProperties_iff.1 hin _ (Assoc.mem_of_lookup hlookup)
    | some property =>
      rw [hproperty, Option.elim_some] at hlookup
      rw [← Option.some.inj hlookup]
      exact (hmerge _ (Assoc.mem_of_lookup hproperty) _ place
        (orderedOptional_join_lookup hin np.1)).2

variable (order order')

mutual

theorem mergeInto_canonical : (src : SchemaRef) → ordered src = true →
    ∀ (place place' : List Place) {dst : SchemaRef}, ordered dst = true →
      mergeInto order place dst src = mergeInto order' place' dst src ∧
        ordered (mergeInto order place dst src) = true
  | ⟨_, _, _, _, properties, additionalProperties, items, _, _, _, _, not, _, _, _⟩, hsrc,
      place, place', ⟨_, _, _, _, properties', additionalProperties', items', _, _, _, _, not', _,
        _, _⟩, hdst => by
    simp only [ordered, Bool.and_eq_true, decide_eq_true_eq] at hsrc hdst
    obtain ⟨⟨⟨⟨hprops, hin⟩, hadditional⟩, hitems⟩, hnot⟩ := hsrc
    obtain ⟨⟨⟨⟨hprops', hin'⟩, hadditional'⟩, hitems'⟩, hnot'⟩ := hdst
    have h₁ := mergeProperties_canonical order order' place place' hprops' hin' hprops
      fun np hnp => propertyMerges_canonical properties hin np hnp
    have h₂ := mergeAdditional_canonical additionalProperties hadditional place place'
      hadditional'
    have h₃ := mergeSchemaRef_canonical items hitems (.items :: place) (.items :: place') hitems'
    have h₄ := mergeSchemaRef_canonical not hnot (.not :: place) (.not :: place') hnot'
    rw [mergeInto, mergeInto]
    refine ⟨by rw [h₁.1, h₂.1, h₃.1, h₄.1], ?_⟩
    simp only [ordered, Bool.and_eq_true, decide_eq_true_eq]
    exact ⟨⟨⟨⟨ordered_mergeProperties order place hprops' _, h₁.2⟩, h₂.2⟩, h₃.2⟩, h₄.2⟩
termination_by structural src => src

/-- The loops over maps can go in any order. -/
theorem mergeSchemaRef_canonical : (src : Option SchemaRef) → orderedOptional src = true →
    ∀ (place place' : List Place) {dst : Option SchemaRef}, orderedOptional dst = true →
      mergeSchemaRef order place dst src = mergeSchemaRef order' place' dst src ∧
        orderedOptional (mergeSchemaRef order place dst src) = true
  | none, _, _, _, _, hdst => ⟨rfl, hdst⟩
  | some _, hsrc, _, _, none, _ => ⟨rfl, hsrc⟩
  | some src, hsrc, place, place', some _, hdst =>
    have h := mergeInto_canonical src hsrc place place' hdst
    ⟨congrArg some h.1, h.2⟩
termination_by structural src => src

theorem mergeAdditional_canonical : (src : Option (AdditionalPropertiesType SchemaRef)) →
    orderedAdditional src = true → ∀ (place place' : List Place)
      {dst : Option (AdditionalPropertiesType SchemaRef)}, orderedAdditional dst = true →
        mergeAdditional order place dst src = mergeAdditional order' place' dst src ∧
          orderedAdditional (mergeAdditional order place dst src) = true
  | none, _, _, _, _, hdst => ⟨rfl, hdst⟩
  | some ⟨some _, _⟩, _, _, _, _, _ => ⟨rfl, rfl⟩
  | some ⟨none, none⟩, _, _, _, _, hdst => ⟨rfl, hdst⟩
  | some ⟨none, some _⟩, hsrc, _, _, none, _ => ⟨rfl, hsrc⟩
  | some ⟨none, some _⟩, hsrc, _, _, some ⟨_, none⟩, _ => ⟨rfl, hsrc⟩
  | some ⟨none, some src⟩, hsrc, place, place', some ⟨_, some dst⟩, hdst => by
    have h := mergeInto_canonical src hsrc (.additionalProperties :: place)
      (.additionalProperties :: place') hdst
    have hsame : ∀ {s s' : SchemaRef}, s = s' → some (AdditionalPropertiesType.mk none (some s))
        = some (AdditionalPropertiesType.mk none (some s')) := fun h => h ▸ rfl
    exact ⟨hsame h.1, h.2⟩
termination_by structural src => src

theorem propertyMerges_canonical : (src : List (String × Option SchemaRef)) →
    orderedProperties src = true → ∀ np ∈ src, ∀ (place place' : List Place)
      {dst : Option SchemaRef}, orderedOptional dst = true →
        mergeSchemaRef order place dst np.2 = mergeSchemaRef order' place' dst np.2 ∧
          orderedOptional (mergeSchemaRef order place dst np.2) = true
  | [], _, _, hnp, _, _, _, _ => absurd hnp List.not_mem_nil
  | (_, property) :: src, hsrc, np, hnp, place, place', _, hdst => by
    rw [orderedProperties, Bool.and_eq_true] at hsrc
    rcases List.mem_cons.1 hnp with rfl | hnp
    · exact mergeSchemaRef_canonical property hsrc.1 place place' hdst
    · exact propertyMerges_canonical src hsrc.2 np hnp place place' hdst
termination_by structural src => src

end

end Orders

/-! ## Merging two schemas -/

section Two

variable {dst src : SchemaRef}

/-- One schema on top of another one. -/
def onTop (dst src : SchemaRef) : SchemaRef := mergeInto listedOrder [] dst src

theorem mergeSchemaRef_none_left {order : IterationOrder} {place : List Place}
    (src : Option SchemaRef) : mergeSchemaRef order place none src = src := by
  cases src <;> rfl

theorem textSetting_maybeOverride (dst src : String) :
    textSetting (maybeOverrideString dst src) = (textSetting src).or (textSetting dst) := by
  unfold textSetting maybeOverrideString
  by_cases h : src = ""
  · simp [h]
  · simp [h]

theorem flagSetting_or (dst src : Bool) :
    flagSetting (src || dst) = (flagSetting src).or (flagSetting dst) := by
  cases src <;> rfl

theorem map_orElse {α β : Type} (f : α → β) (dst src : Option α) :
    (src <|> dst).map f = (src.map f).or (dst.map f) := by
  cases src <;> rfl

/-- The second schema decides if it sets the keyword. -/
theorem setting_onTop (c : Constraint) :
    (onTop dst src).setting c = (src.setting c).or (dst.setting c) := by
  obtain ⟨_, _, title, description, _, _, _, default, _, _, _, _, _, _, facets⟩ := src
  rw [onTop, mergeInto]
  cases c <;>
    first
      | exact textSetting_maybeOverride _ _
      | exact flagSetting_or _ _
      | exact map_orElse _ _ _

theorem alternatives_mergeInto {order : IterationOrder} {place : List Place} :
    (mergeInto order place dst src).alternatives = dst.alternatives ++ src.alternatives := by
  obtain ⟨_, _, _, _, _, _, _, _, oneOf, _, _, _, _, _, _⟩ := src
  rw [mergeInto]
  change (appendRefs dst.oneOf oneOf).getD [] = dst.oneOf.getD [] ++ oneOf.getD []
  unfold appendRefs
  cases dst.oneOf with
  | none =>
    cases oneOf with
    | none => rfl
    | some l => cases l <;> rfl
  | some l => rfl

/-- The property names are those of both schemas. -/
theorem isSome_lookup_onTop (propertyName : String) :
    ((onTop dst src).properties.lookup propertyName).isSome = true ↔
      (dst.properties.lookup propertyName).isSome = true ∨
        (src.properties.lookup propertyName).isSome = true := by
  obtain ⟨_, _, _, _, properties, _, _, _, _, _, _, _, _, _, _⟩ := src
  have hloop : ∀ (names : List String) (l : List (String × Option SchemaRef)),
      ((names.foldl (mergeProperty (propertyMerges listedOrder [] properties)) l).lookup
          propertyName).isSome = true ↔ (l.lookup propertyName).isSome = true ∨
            propertyName ∈ names ∧ (properties.lookup propertyName).isSome = true := by
    intro names
    induction names with
    | nil => simp
    | cons name names ih =>
      intro l
      rw [List.foldl_cons, ih, List.mem_cons]
      simp only [mergeProperty, lookup_propertyMerges]
      cases hproperty : properties.lookup name with
      | none =>
        simp only [Option.map_none]
        by_cases hname : propertyName = name
        · subst hname
          simp [hproperty]
        · simp [hname]
      | some property =>
        simp only [Option.map_some, Assoc.lookup_set_eq]
        by_cases hname : propertyName = name
        · subst hname
          simp [hproperty]
        · simp [hname]
  rw [onTop, mergeInto]
  refine (hloop _ _).trans (or_congr Iff.rfl (and_iff_right_of_imp fun h => ?_))
  obtain ⟨property, hproperty⟩ := Option.isSome_iff_exists.1 h
  rw [map_fst_propertyMerges]
  exact List.mem_map_of_mem (Assoc.mem_of_lookup hproperty)

end Two

/-! ## Paths in merged schemas -/

section Paths

variable {order : IterationOrder} {documents : List Document} {key : String}

theorem orderedOptional_part {s : SchemaRef} (h : ordered s = true) (p : Part) :
    orderedOptional (s.part p) = true := by
  obtain ⟨_, _, _, _, properties, _, items, _, _, _, _, _, _, _, _⟩ := s
  simp only [ordered, Bool.and_eq_true] at h
  cases p with
  | property propertyName => exact orderedOptional_join_lookup h.1.1.1.2 propertyName
  | items => exact h.1.2

/-- The parts of a merged schema are merged. -/
theorem part_mergeSchemaRef (order : IterationOrder) (place : List Place)
    (dst : Option SchemaRef) {src : Option SchemaRef} (h : orderedOptional src = true) (p : Part) :
    ∃ place', (mergeSchemaRef order place dst src).bind (SchemaRef.part p)
      = mergeSchemaRef order place' (dst.bind (SchemaRef.part p))
          (src.bind (SchemaRef.part p)) := by
  cases src with
  | none => exact ⟨[], rfl⟩
  | some src =>
    cases dst with
    | none => exact ⟨[], (mergeSchemaRef_none_left _).symm⟩
    | some dst =>
      obtain ⟨_, _, _, _, properties, _, items, _, _, _, _, _, _, _, _⟩ := src
      simp only [orderedOptional, ordered, Bool.and_eq_true, decide_eq_true_eq] at h
      cases p with
      | property propertyName =>
        refine ⟨.property propertyName :: place, ?_⟩
        have hlookup : (mergeProperties order place dst.properties
            (propertyMerges order place properties)).lookup propertyName = _ :=
          lookup_mergeProperties dst.properties h.1.1.1.1.nodup propertyName
        refine (congrArg Option.join hlookup).trans ?_
        change _ = mergeSchemaRef order _ (dst.properties.lookup propertyName).join
          (properties.lookup propertyName).join
        cases properties.lookup propertyName <;> rfl
      | items => exact ⟨.items :: place, rfl⟩

/-- What is found at a path of a merged schema is merged from what is found at this path. -/
theorem locate_mergeSchemaRef {place : List Place} {dst src : Option SchemaRef}
    (hdst : orderedOptional dst = true) (hsrc : orderedOptional src = true)
    (path : List Part) :
    (mergeSchemaRef order place dst src).bind (SchemaRef.locate path)
      = mergeSchemaRef listedOrder [] (dst.bind (SchemaRef.locate path))
          (src.bind (SchemaRef.locate path)) := by
  induction path generalizing dst src place with
  | nil =>
    have hself : ∀ s : Option SchemaRef, s.bind (SchemaRef.locate []) = s :=
      fun s => Option.bind_fun_some s
    rw [hself, hself, hself]
    exact (mergeSchemaRef_canonical order listedOrder src hsrc place [] hdst).1
  | cons p path ih =>
    have hstep : ∀ s : Option SchemaRef, s.bind (SchemaRef.locate (p :: path))
        = (s.bind (SchemaRef.part p)).bind (SchemaRef.locate path) := by
      intro s
      cases s <;> rfl
    have hpart : ∀ {s : Option SchemaRef}, orderedOptional s = true →
        orderedOptional (s.bind (SchemaRef.part p)) = true := by
      intro s hs
      cases s with
      | none => rfl
      | some s => exact orderedOptional_part hs p
    obtain ⟨place', hmerge⟩ := part_mergeSchemaRef order place dst hsrc p
    rw [hstep, hstep, hstep, hmerge]
    exact ih (hpart hdst) (hpart hsrc)

theorem listings_append (documents : List Document) (doc : Document) (key : String) :
    listings (documents ++ [doc]) key
      = listings documents key ++ (doc.definitions.lookup key).toList := by
  rw [listings, List.filterMap_append]
  cases h : doc.definitions.lookup key <;> simp [listings, h]

theorem mergeSchemaRef_stack (schemas : List SchemaRef) (src : Option SchemaRef) :
    mergeSchemaRef listedOrder [] (Layers.stack onTop schemas) src
      = Layers.stack onTop (schemas ++ src.toList) := by
  cases src with
  | none => rw [Option.toList_none, List.append_nil]; rfl
  | some src =>
    rw [Option.toList_some, Layers.stack_append]
    cases Layers.stack onTop schemas <;> rfl

/-- What is found at a path of the merged documents is merged from what the documents have
there. -/
theorem locate_mergeDefinitions (order : IterationOrder)
    (h : ∀ doc ∈ documents, doc.WellFormed) (key : String) :
    orderedOptional ((mergeDefinitions order documents).lookup key).join = true ∧
      ∀ path, ((mergeDefinitions order documents).lookup key).join.bind (SchemaRef.locate path)
        = Layers.stack onTop (occurrences documents key path) := by
  induction documents using List.reverseRecOn with
  | nil => exact ⟨rfl, fun path => rfl⟩
  | append_singleton documents doc ih =>
    obtain ⟨hordered, hlocate⟩ := ih fun d hd => h d (List.mem_append_left _ hd)
    have hdoc : doc.WellFormed := h doc (by simp)
    rw [mergeDefinitions_append, lookup_merge]
    simp only [occurrences, listings_append, List.filterMap_append]
    cases hs : doc.definitions.lookup key with
    | none => simpa using ⟨hordered, hlocate⟩
    | some s =>
      have hs' : orderedOptional s = true := hdoc _ (GoMap.mem_pairs.2 hs)
      refine ⟨(mergeSchemaRef_canonical order order s hs' _ [] hordered).2, fun path => ?_⟩
      refine (locate_mergeSchemaRef hordered hs' path).trans ?_
      rw [hlocate path, mergeSchemaRef_stack, occurrences]
      cases hpart : s.bind (SchemaRef.locate path) <;> simp [hpart]

theorem mem_mergeDefinitions (order : IterationOrder) (documents : List Document)
    (key : String) : key ∈ mergeDefinitions order documents ↔
      ∃ doc ∈ documents, key ∈ doc.definitions := by
  induction documents using List.reverseRecOn with
  | nil => simp [mergeDefinitions]
  | append_singleton documents doc ih =>
    have hstep : key ∈ mergeDefinitions order (documents ++ [doc]) ↔
        key ∈ mergeDefinitions order documents ∨ key ∈ doc.definitions := by
      simp only [← AList.lookup_isSome, mergeDefinitions_append, lookup_merge]
      cases doc.definitions.lookup key <;> simp
    rw [hstep, ih]
    simp [or_and_right, exists_or]

end Paths

/-! ## What is kept -/

/-- What a schema has from those it is merged from: names and values of all of them, the
alternatives one after the other, the last value that is set of every other keyword, and the
type and the reference of the first one. -/
structure Merged (schemas : List SchemaRef) (s : SchemaRef) : Prop where
  properties : ∀ propertyName, (s.properties.lookup propertyName).isSome = true ↔
    ∃ o ∈ schemas, (o.properties.lookup propertyName).isSome = true
  required : ∀ propertyName, propertyName ∈ s.required ↔ ∃ o ∈ schemas, propertyName ∈ o.required
  enum : ∀ value, value ∈ s.enum ↔ ∃ o ∈ schemas, value ∈ o.enum
  oneOf : s.alternatives = schemas.flatMap SchemaRef.alternatives
  anyOf : s.anyOf = schemas.flatMap SchemaRef.anyOf
  allOf : s.allOf = schemas.flatMap SchemaRef.allOf
  setting : ∀ c, s.setting c = (schemas.filterMap (SchemaRef.setting c)).getLast?
  type : schemas.head?.map SchemaRef.type = some s.type
  ref : schemas.head?.map SchemaRef.ref = some s.ref

/-- Merging loses nothing: there are the definitions of all documents, one that only one
document has stays as it is, and every schema in the others, at whatever path, is merged from
those that the documents have there. -/
structure Lossless (documents : List Document) (merged : GoMap String (Option SchemaRef)) :
    Prop where
  names : ∀ key, key ∈ merged ↔ ∃ doc ∈ documents, key ∈ doc.definitions
  single : ∀ key s, listings documents key = [s] → merged.lookup key = some s
  merged : ∀ key path,
    match (merged.lookup key).join.bind (SchemaRef.locate path) with
    | none => occurrences documents key path = []
    | some s => Merged (occurrences documents key path) s

section Kept

variable {schemas : List SchemaRef} {s : SchemaRef}

/-- The required names of a schema that is merged from several ones are the records among
theirs. -/
theorem required_stack (h : Layers.stack onTop schemas = some s) :
    s.required = if schemas.length = 1 then schemas.flatMap SchemaRef.required
      else records (schemas.flatMap SchemaRef.required) := by
  refine (Layers.stack_induction (P := fun schemas s => schemas ≠ [] ∧ s.required =
    if schemas.length = 1 then schemas.flatMap SchemaRef.required
      else records (schemas.flatMap SchemaRef.required)) (fun a => ?_) (fun l m a hm => ?_) h).2
  · simp
  · obtain ⟨hl, hm⟩ := hm
    have hlength : (l ++ [a]).length ≠ 1 := by simpa using hl
    have hrequired : (onTop m a).required = records (m.required ++ a.required) := by
      obtain ⟨_, _, _, _, _, _, _, _, _, _, _, _, _, _, _⟩ := a
      rw [onTop, mergeInto, uniqueStrings]
    refine ⟨by simp, ?_⟩
    rw [hrequired, if_neg hlength, List.flatMap_append, List.flatMap_singleton, hm]
    split_ifs with hone
    · rfl
    · exact records_append_left _ _

/-- A schema has what it is merged from, apart from required names that are out of order. -/
theorem merged_stack_iff (h : Layers.stack onTop schemas = some s) :
    Merged schemas s ↔ (1 < schemas.length →
      mentionsAscend [] (schemas.flatMap SchemaRef.required) = true) := by
  have hsome : schemas ≠ [] := by
    rintro rfl
    cases h
  have hpos := List.length_pos_iff.2 hsome
  have hrequired := required_stack h
  constructor
  · intro hmerged hlt
    rw [if_neg (by omega)] at hrequired
    rw [← records_complete_iff, ← hrequired]
    intro propertyName hname
    obtain ⟨o, ho, hname⟩ := List.mem_flatMap.1 hname
    exact (hmerged.required propertyName).2 ⟨o, ho, hname⟩
  · intro hascend
    refine ⟨fun propertyName => ?_, fun propertyName => ?_, fun value => ?_, ?_, ?_, ?_,
      fun c => ?_, ?_, ?_⟩
    · exact Layers.stack_iff
        (P := fun s => (s.properties.lookup propertyName).isSome = true)
        (fun dst src => isSome_lookup_onTop propertyName) h
    · rw [hrequired, ← List.mem_flatMap]
      split_ifs with hone
      · rfl
      · exact ⟨mem_of_mem_records,
          records_complete_iff.2 (hascend (by omega)) propertyName⟩
    · refine Layers.stack_iff (P := fun s => value ∈ s.enum) (fun dst src => ?_) h
      obtain ⟨_, _, _, _, _, _, _, _, _, _, _, _, _, enum, _⟩ := src
      rw [onTop, mergeInto, mem_sortUnique, List.mem_append]
    · exact Layers.stack_flatMap (fun dst src => alternatives_mergeInto) h
    · refine Layers.stack_flatMap (fun dst src => ?_) h
      obtain ⟨_, _, _, _, _, _, _, _, _, anyOf, _, _, _, _, _⟩ := src
      rw [onTop, mergeInto]
    · refine Layers.stack_flatMap (fun dst src => ?_) h
      obtain ⟨_, _, _, _, _, _, _, _, _, _, allOf, _, _, _, _⟩ := src
      rw [onTop, mergeInto]
    · exact Layers.stack_getLast (fun _ _ => setting_onTop c) h
    · refine Layers.stack_head (fun dst src => ?_) h
      obtain ⟨_, _, _, _, _, _, _, _, _, _, _, _, _, _, _⟩ := src
      rw [onTop, mergeInto]
    · refine Layers.stack_head (fun dst src => ?_) h
      obtain ⟨_, _, _, _, _, _, _, _, _, _, _, _, _, _, _⟩ := src
      rw [onTop, mergeInto]

end Kept

/-- The names that the documents require at a path which several of them have ascend, each
where it is mentioned for the first time. -/
def RequiredAscend (documents : List Document) : Prop :=
  ∀ key path, 1 < (occurrences documents key path).length →
    mentionsAscend [] ((occurrences documents key path).flatMap SchemaRef.required) = true

/-- **Merging loses required names, and nothing else.**  Nothing gets lost if and only if the
names that several documents require at one path are listed in ascending order. -/
theorem mergeDefinitions_lossless_iff (order : IterationOrder) (documents : List Document)
    (h : ∀ doc ∈ documents, doc.WellFormed) :
    Lossless documents (mergeDefinitions order documents) ↔ RequiredAscend documents := by
  have hlocate := fun key => (locate_mergeDefinitions order h key).2
  constructor
  · intro hlossless key path hlt
    have hmerged := hlossless.merged key path
    rw [hlocate key path] at hmerged
    cases hstack : Layers.stack onTop (occurrences documents key path) with
    | none =>
      rw [Layers.stack_eq_none_iff.1 hstack] at hlt
      exact absurd hlt (by decide)
    | some s =>
      rw [hstack] at hmerged
      exact (merged_stack_iff hstack).1 hmerged hlt
  · intro hascend
    refine ⟨mem_mergeDefinitions order documents, fun key s hone => ?_, fun key path => ?_⟩
    · -- there is one entry, and it is the only one that is merged
      have hmem : key ∈ mergeDefinitions order documents := by
        rw [mem_mergeDefinitions]
        have hs : s ∈ listings documents key := hone ▸ List.mem_singleton_self s
        obtain ⟨doc, hdoc, hs⟩ := List.mem_filterMap.1 hs
        exact ⟨doc, hdoc, AList.lookup_isSome.1 (hs ▸ rfl)⟩
      obtain ⟨s', hs'⟩ := Option.isSome_iff_exists.1 (AList.lookup_isSome.2 hmem)
      have hroot := hlocate key []
      rw [hs', occurrences, hone] at hroot
      have hself : ∀ s : Option SchemaRef, s.bind (SchemaRef.locate []) = s :=
        fun s => Option.bind_fun_some s
      rw [hs']
      refine congrArg some ((hself s').symm.trans (hroot.trans ?_))
      cases s <;> rfl
    · rw [hlocate key path]
      cases hstack : Layers.stack onTop (occurrences documents key path) with
      | none => exact Layers.stack_eq_none_iff.1 hstack
      | some s => exact (merged_stack_iff hstack).2 (hascend key path)

/-- An action with a name, which is required. -/
def redactAction : SchemaRef :=
  { SchemaRef.empty with
    type := "object"
    properties := [("name", some { SchemaRef.empty with type := "string" })]
    required := ["name"] }

/-- An addition to this action, which is required as well. -/
def redactAddition (propertyName : String) : SchemaRef :=
  { SchemaRef.empty with
    title := "Redaction"
    properties := [(propertyName, some { SchemaRef.empty with type := "array" })]
    required := [propertyName] }

/-- The document with this action. -/
def redactBase : Document :=
  { schema := SchemaRef.empty
    schemaVersion := "http://json-schema.org/draft-04/schema#"
    definitions := GoMap.ofList [("Redact", some redactAction)] }

/-- The layer with the addition. -/
def redactLayer (propertyName : String) : Document :=
  { schema := SchemaRef.empty
    schemaVersion := "http://json-schema.org/draft-04/schema#"
    definitions := GoMap.ofList
      [("Redact", some (redactAddition propertyName)), ("Columns", none)] }

/-- Options come after the name, and no other path is in both documents. -/
theorem requiredAscend_options : RequiredAscend [redactBase, redactLayer "options"] := by
  have htwo : ∀ {α β : Type} {f : α → Option β} {x y : α}, 1 < ([x, y].filterMap f).length →
      f x ≠ none ∧ f y ≠ none := by
    intro α β f x y h
    cases hx : f x <;> cases hy : f y <;> simp [hx, hy] at h ⊢
  intro key path hlt
  by_cases hkey : key = "Redact"
  · subst hkey
    cases path with
    | nil => decide +kernel
    | cons p path =>
      have hlocated := htwo (x := some redactAction) (y := some (redactAddition "options")) hlt
      cases p with
      | items => exact absurd rfl hlocated.1
      | property propertyName =>
        by_cases hname : propertyName = "name"
        · subst hname
          exact absurd rfl hlocated.2
        · have hnone : redactAction.part (.property propertyName) = none := by
            rw [SchemaRef.part, redactAction, List.lookup_cons, beq_false_of_ne hname]
            rfl
          exact absurd (by rw [Option.bind_some, SchemaRef.locate, hnone]; rfl) hlocated.1
  · have hnone : redactBase.definitions.lookup key = none := AList.lookup_insert_ne hkey
    have hboth := htwo (x := redactBase) (y := redactLayer "options")
      (hlt.trans_le (List.length_filterMap_le _ _))
    exact absurd hnone hboth.1

/-- Nothing is lost of a layer that requires options. -/
theorem redact_options_lossless :
    (∀ doc ∈ [redactBase, redactLayer "options"], doc.WellFormed) ∧
      Lossless [redactBase, redactLayer "options"]
        (mergeDefinitions listedOrder [redactBase, redactLayer "options"]) :=
  ⟨by decide +kernel, (mergeDefinitions_lossless_iff _ _ (by decide +kernel)).2
    requiredAscend_options⟩

/-- The columns that are to be redacted need not be given any more. -/
theorem redact_columns_lost :
    ((mergeDefinitions listedOrder [redactBase, redactLayer "columns"]).lookup "Redact").join.map
        SchemaRef.required = some ["name"] ∧
      ¬ Lossless [redactBase, redactLayer "columns"]
        (mergeDefinitions listedOrder [redactBase, redactLayer "columns"]) := by
  have hrequired : ((mergeDefinitions listedOrder [redactBase, redactLayer "columns"]).lookup
      "Redact").join.map SchemaRef.required = some ["name"] := by decide +kernel
  refine ⟨hrequired, fun hlossless => ?_⟩
  have hmerged := hlossless.merged "Redact" []
  obtain ⟨s, hs, hnames⟩ := Option.map_eq_some_iff.1 hrequired
  rw [hs] at hmerged
  have hcolumns : "columns" ∈ s.required := (hmerged.required "columns").2 (by decide +kernel)
  rw [hnames] at hcolumns
  exact absurd hcolumns (by decide)

end Fybrik.Compile
