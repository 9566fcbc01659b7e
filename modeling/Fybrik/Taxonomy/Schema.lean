import Fybrik.Lib.Assoc
import Fybrik.Lib.Loops
import Fybrik.Lib.MapLoops
import Mathlib.Data.Rat.Defs

/-!
# Taxonomy documents

The schemas of `pkg/taxonomy/model`, and the merging of documents from `merge.go`.

* `SchemaRef` — a schema, or a reference to one.  Wherever a document has a schema it may have
  `null` instead, which is the missing pointer.  The values of an enumeration, which the
  compiler only compares by their JSON text, are given by it.
* `IterationOrder` — the orders in which the loops over maps go.
* `mergeSchemaRef` — one schema on top of another one.
* `mergeDefinitions` — the definitions of several documents; the alternatives of a union are
  those of all documents, one after the other (`alternatives_mergeDefinitions`).
-/

namespace Fybrik.Compile

/-! ## Schemas -/

/-- The keywords that bound strings, numbers, arrays and the number of properties. -/
structure Facets where
  minProps : Option ℤ
  maxProps : Option ℤ
  format : String
  minLength : Option ℤ
  maxLength : Option ℤ
  pattern : String
  min : Option ℚ
  max : Option ℚ
  multipleOf : Option ℚ
  exclusiveMin : Bool
  exclusiveMax : Bool
  minItems : Option ℤ
  maxItems : Option ℤ
  uniqueItems : Bool
  deriving DecidableEq, Inhabited

/-- `AdditionalPropertiesType`: a boolean or a schema. -/
structure AdditionalPropertiesType (α : Type) where
  allowed : Option Bool
  schema : Option α
  deriving DecidableEq, Inhabited

/-- `SchemaRef`.  A list of alternatives may be missing or empty, which makes a difference
for the compiler.  Maps are association lists. -/
structure SchemaRef where
  ref : String
  type : String
  title : String
  description : String
  properties : List (String × Option SchemaRef)
  additionalProperties : Option (AdditionalPropertiesType SchemaRef)
  items : Option SchemaRef
  default : Option String
  oneOf : Option (List (Option SchemaRef))
  anyOf : List (Option SchemaRef)
  allOf : List (Option SchemaRef)
  not : Option SchemaRef
  required : List String
  enum : List String
  facets : Facets

namespace SchemaRef

/-- The schema without any keyword. -/
def empty : SchemaRef :=
  ⟨"", "", "", "", [], none, none, none, none, [], [], none, [], [], Inhabited.default⟩

instance : Inhabited SchemaRef := ⟨empty⟩

/-- The part of a text after the last slash. -/
def afterLastSlash (s : String) : String :=
  String.ofList (s.toList.reverse.takeWhile (· ≠ '/')).reverse

/-- `RefName`. -/
def refName (s : SchemaRef) : String := afterLastSlash s.ref

/-- The alternatives of a union. -/
def alternatives (s : SchemaRef) : List (Option SchemaRef) := s.oneOf.getD []

end SchemaRef

/-- `Document`. -/
structure Document where
  schema : SchemaRef
  schemaVersion : String
  definitions : GoMap String (Option SchemaRef)

/-! ## Loops over maps -/

/-- A step on the way to a loop of `merge.go`. -/
inductive Place where
  | document (n : ℕ)
  | definition (key : String)
  | property (propertyName : String)
  | additionalProperties
  | items
  | not
  deriving DecidableEq, Repr

/-- The orders in which the loops over maps take their keys: those that merge definitions and
properties, by their places, the one over the definitions of the base, and the ones over the
properties of each schema that is visited.  Any order is possible. -/
structure IterationOrder where
  merging : List Place → List String → List String
  merging_perm : ∀ place keys, (merging place keys).Perm keys
  definitions : List String → List String
  definitions_perm : ∀ keys, (definitions keys).Perm keys
  properties : String → List String → List String
  properties_perm : ∀ key keys, (properties key keys).Perm keys

/-- Loops that take the keys as they are listed. -/
def listedOrder : IterationOrder :=
  ⟨fun _ => id, fun _ => .refl, id, .refl, fun _ => id, fun _ => .refl⟩

/-! ## Merging -/

/-- `maybeOverrideString`. -/
def maybeOverrideString (dst src : String) : String := if src ≠ "" then src else dst

/-- The keywords of both schemas, where those of the second take precedence. -/
def Facets.merge (dst src : Facets) : Facets :=
  { minProps := src.minProps <|> dst.minProps
    maxProps := src.maxProps <|> dst.maxProps
    format := maybeOverrideString dst.format src.format
    minLength := src.minLength <|> dst.minLength
    maxLength := src.maxLength <|> dst.maxLength
    pattern := maybeOverrideString dst.pattern src.pattern
    min := src.min <|> dst.min
    max := src.max <|> dst.max
    multipleOf := src.multipleOf <|> dst.multipleOf
    exclusiveMin := src.exclusiveMin || dst.exclusiveMin
    exclusiveMax := src.exclusiveMax || dst.exclusiveMax
    minItems := src.minItems <|> dst.minItems
    maxItems := src.maxItems <|> dst.maxItems
    uniqueItems := src.uniqueItems || dst.uniqueItems }

/-- `unique.Strings`, which is made for sorted lists: it keeps the first name and then each name
that is greater than the last one it has kept. -/
def uniqueStrings (names : List String) : List String := records names

/-- `append(dst, src...)` for lists that may be missing. -/
def appendRefs (dst src : Option (List (Option SchemaRef))) : Option (List (Option SchemaRef)) :=
  match dst, src with
  | none, none | none, some [] => none
  | none, some (v :: l) => some (v :: l)
  | some l, src => some (l ++ src.getD [])

section Merging

variable (order : IterationOrder)

/-- A property of the second schema, which is given by what it makes of one of the first. -/
def mergeProperty (src : List (String × (Option SchemaRef → Option SchemaRef)))
    (dst : List (String × Option SchemaRef)) (propertyName : String) :
    List (String × Option SchemaRef) :=
  match src.lookup propertyName with
  | none => dst
  | some merged => Assoc.set propertyName (merged (dst.lookup propertyName).join) dst

/-- The loop over the properties of the second schema. -/
def mergeProperties (place : List Place) (dst : List (String × Option SchemaRef))
    (src : List (String × (Option SchemaRef → Option SchemaRef))) :
    List (String × Option SchemaRef) :=
  (order.merging place (src.map Prod.fst)).foldl (mergeProperty src) dst

mutual

/-- The assignments of `mergeSchemaRef`.  The type and the reference of the first schema
stay. -/
def mergeInto (place : List Place) (dst : SchemaRef) : SchemaRef → SchemaRef
  | ⟨_, _, title, description, properties, additionalProperties, items, default, oneOf, anyOf,
      allOf, not, required, enum, facets⟩ =>
    { dst with
      title := maybeOverrideString dst.title title
      description := maybeOverrideString dst.description description
      properties := mergeProperties order place dst.properties (propertyMerges place properties)
      additionalProperties :=
        mergeAdditional place dst.additionalProperties additionalProperties
      items := mergeSchemaRef (.items :: place) dst.items items
      default := default <|> dst.default
      oneOf := appendRefs dst.oneOf oneOf
      allOf := dst.allOf ++ allOf
      anyOf := dst.anyOf ++ anyOf
      not := mergeSchemaRef (.not :: place) dst.not not
      required := uniqueStrings (dst.required ++ required)
      enum := sortUnique (dst.enum ++ enum)
      facets := dst.facets.merge facets }
termination_by structural src => src

/-- `mergeSchemaRef`: a schema that is missing is no schema to merge. -/
def mergeSchemaRef (place : List Place) (dst : Option SchemaRef) :
    Option SchemaRef → Option SchemaRef
  | none => dst
  | some src => some (dst.elim src fun dst => mergeInto place dst src)
termination_by structural src => src

/-- The case of additional properties: a boolean overrides what was there before. -/
def mergeAdditional (place : List Place) (dst : Option (AdditionalPropertiesType SchemaRef)) :
    Option (AdditionalPropertiesType SchemaRef) → Option (AdditionalPropertiesType SchemaRef)
  | none => dst
  | some ⟨some allowed, _⟩ => some ⟨some allowed, none⟩
  | some ⟨none, none⟩ => dst
  | some ⟨none, some src⟩ =>
    some ⟨none, mergeSchemaRef (.additionalProperties :: place)
      (dst.bind AdditionalPropertiesType.schema) (some src)⟩
termination_by structural src => src

/-- What the properties of the second schema make of those of the first one. -/
def propertyMerges (place : List Place) : List (String × Option SchemaRef) →
    List (String × (Option SchemaRef → Option SchemaRef))
  | [] => []
  | (propertyName, srcProperty) :: rest =>
    (propertyName, fun dst => mergeSchemaRef (.property propertyName :: place) dst srcProperty)
      :: propertyMerges place rest
termination_by structural src => src

end

/-- One turn of the loop of `merge`. -/
def mergeDefinition (n : ℕ) (src : Document) (dst : GoMap String (Option SchemaRef))
    (definitionKey : String) : GoMap String (Option SchemaRef) :=
  match src.definitions.lookup definitionKey with
  | none => dst
  | some srcSchemaRef =>
    dst.set definitionKey (mergeSchemaRef order [.definition definitionKey, .document n]
      (dst.lookup definitionKey).join srcSchemaRef)

/-- `merge`. -/
def merge (n : ℕ) (dst : GoMap String (Option SchemaRef)) (src : Document) :
    GoMap String (Option SchemaRef) :=
  (order.merging [.document n] src.definitions.keys).foldl (mergeDefinition order n src) dst

/-- `mergeDefinitions`. -/
def mergeDefinitions (documents : List Document) : GoMap String (Option SchemaRef) :=
  documents.zipIdx.foldl (fun dst doc => merge order doc.2 dst doc.1) ∅

/-! ## What the loops read -/

variable {order} {place : List Place}

theorem lookup_propertyMerges (src : List (String × Option SchemaRef)) (propertyName : String) :
    (propertyMerges order place src).lookup propertyName
      = (src.lookup propertyName).map fun srcProperty dst =>
          mergeSchemaRef order (.property propertyName :: place) dst srcProperty := by
  induction src with
  | nil => rfl
  | cons np src ih =>
    rw [propertyMerges, List.lookup_cons, List.lookup_cons, ih]
    by_cases hname : propertyName = np.1
    · simp [hname]
    · rw [beq_false_of_ne hname]

theorem map_fst_propertyMerges (src : List (String × Option SchemaRef)) :
    (propertyMerges order place src).map Prod.fst = src.map Prod.fst := by
  induction src with
  | nil => rfl
  | cons np src ih => rw [propertyMerges, List.map_cons, List.map_cons, ih]

/-- A property is merged with the one of the same name. -/
theorem lookup_mergeProperties (dst : List (String × Option SchemaRef))
    {src : List (String × Option SchemaRef)} (h : (src.map Prod.fst).Nodup)
    (propertyName : String) :
    (mergeProperties order place dst (propertyMerges order place src)).lookup propertyName
      = (src.lookup propertyName).elim (dst.lookup propertyName) fun srcProperty =>
          some (mergeSchemaRef order (.property propertyName :: place)
            (dst.lookup propertyName).join srcProperty) := by
  have hperm := order.merging_perm place (src.map Prod.fst)
  have hloop := Loops.foldl_assign (mergeProperty (propertyMerges order place src))
    (fun l k => l.lookup k)
    (fun propertyName property => (src.lookup propertyName).elim property
      fun srcProperty => some (mergeSchemaRef order (.property propertyName :: place)
        property.join srcProperty))
    (fun l k k' => by
      rw [mergeProperty, lookup_propertyMerges]
      cases src.lookup k with
      | none =>
        dsimp only [Option.map_none, Option.elim_none]
        split_ifs with hk
        · rw [hk]
        · rfl
      | some srcProperty =>
        simp only [Option.map_some, Option.elim_some]
        exact Assoc.lookup_set_eq k k' _ l)
    (hperm.nodup_iff.2 h) dst propertyName
  rw [mergeProperties, map_fst_propertyMerges]
  refine hloop.trans ?_
  split_ifs with hmem
  · rfl
  · rw [hperm.mem_iff] at hmem
    have hnone : src.lookup propertyName = none := by
      rw [List.lookup_eq_none_iff]
      exact fun np hnp => bne_iff_ne.2 fun heq => hmem (List.mem_map.2 ⟨np, hnp, heq.symm⟩)
    rw [hnone, Option.elim_none]

/-- A definition is merged with the one of the same name. -/
theorem lookup_merge (n : ℕ) (dst : GoMap String (Option SchemaRef)) (src : Document)
    (key : String) :
    (merge order n dst src).lookup key
      = (src.definitions.lookup key).elim (dst.lookup key) fun s =>
          some (mergeSchemaRef order [.definition key, .document n] (dst.lookup key).join s) := by
  have hperm := order.merging_perm [.document n] src.definitions.keys
  have hloop := Loops.foldl_assign (mergeDefinition order n src) (fun m k => m.lookup k)
    (fun definitionKey schema => (src.definitions.lookup definitionKey).elim schema
      fun s => some (mergeSchemaRef order [.definition definitionKey, .document n] schema.join s))
    (fun m k k' => by
      rw [mergeDefinition]
      cases src.definitions.lookup k with
      | none =>
        dsimp only [Option.elim_none]
        split_ifs with hk
        · rw [hk]
        · rfl
      | some s =>
        simp only [Option.elim_some]
        split_ifs with hk
        · rw [hk]
          exact AList.lookup_insert _
        · exact AList.lookup_insert_ne hk)
    (hperm.nodup_iff.2 src.definitions.nodupKeys) dst key
  refine hloop.trans ?_
  split_ifs with hmem
  · rfl
  · rw [hperm.mem_iff] at hmem
    rw [AList.lookup_eq_none.2 hmem, Option.elim_none]

theorem mergeDefinitions_append (documents : List Document) (doc : Document) :
    mergeDefinitions order (documents ++ [doc])
      = merge order documents.length (mergeDefinitions order documents) doc := by
  rw [mergeDefinitions, List.zipIdx_append, List.foldl_append]
  simp [mergeDefinitions]

end Merging

end Fybrik.Compile
