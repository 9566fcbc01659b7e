import Fybrik.Lib.Heap
import Fybrik.Taxonomy.Schema

/-!
# The taxonomy compiler

`transform.go` and `compile.go`: the definitions of a base document and its layers are merged
and then made structural, in place.

* `Transformer` — the definitions as variables in memory, since the compiler follows
  references and changes what it finds there.
* `transformSchema` — as in the source: unions are rewritten (`oneOfRefsTransform`), and
  enumerations are passed on to properties (`propogateEnum`).  It crashes wherever the source
  reads a field of a schema that is missing.
* `removeComplexValidation` — validation is removed for code generation.
* `documents` — the whole compiler.
-/

namespace Fybrik.Compile

/-- `transformer`, with the definitions in memory. -/
structure Transformer where
  heap : Heap SchemaRef
  definitions : GoMap String (Option ℕ)
  visited : List String

/-! ## Passing on enumerations -/

/-- The values that a property of a schema lists, if there is such a property. -/
def propertyEnum : Option (Option SchemaRef) → Option (List String)
  | none => some []
  | some validationProperty => validationProperty.map SchemaRef.enum

mutual

/-- The values a schema of a validation group lists for a property, in its own properties and
in groups of its own. -/
def itemEnums (propertyName : String) : SchemaRef → Option (List String)
  | ⟨_, _, _, _, properties, _, _, _, oneOf, anyOf, allOf, _, _, _, _⟩ => do
    let own ← propertyEnum (properties.lookup propertyName)
    let inAllOf ← propogateEnumFromValidationGroup propertyName allOf
    let inAnyOf ← propogateEnumFromValidationGroup propertyName anyOf
    let inOneOf ← optionalGroupEnums propertyName oneOf
    return own ++ inAllOf ++ inAnyOf ++ inOneOf
termination_by structural schema => schema

/-- `propogateEnumFromValidationGroup`: the values that are appended. -/
def propogateEnumFromValidationGroup (propertyName : String) :
    List (Option SchemaRef) → Option (List String)
  | [] => some []
  | none :: _ => none
  | some validationItem :: validationGroup => do
    let first ← itemEnums propertyName validationItem
    let others ← propogateEnumFromValidationGroup propertyName validationGroup
    return first ++ others
termination_by structural validationGroup => validationGroup

/-- The same for a group that may be missing. -/
def optionalGroupEnums (propertyName : String) :
    Option (List (Option SchemaRef)) → Option (List String)
  | none => some []
  | some validationGroup => propogateEnumFromValidationGroup propertyName validationGroup
termination_by structural validationGroup => validationGroup

end

/-- The values that the validation groups of a schema list for one of its properties. -/
def SchemaRef.addedEnums (schema : SchemaRef) (propertyName : String) : Option (List String) := do
  let inAllOf ← propogateEnumFromValidationGroup propertyName schema.allOf
  let inAnyOf ← propogateEnumFromValidationGroup propertyName schema.anyOf
  let inOneOf ← propogateEnumFromValidationGroup propertyName schema.alternatives
  return inAllOf ++ inAnyOf ++ inOneOf

/-- A schema with more values in its enumeration, which is sorted. -/
def SchemaRef.enrich (extra : List String) (s : SchemaRef) : SchemaRef :=
  { s with enum := sortUnique (s.enum ++ extra) }

/-- A schema with more values in the enumeration of one of its properties. -/
def SchemaRef.enrichProperty (propertyName : String) (extra : List String) (s : SchemaRef) :
    SchemaRef :=
  { s with
    properties := Assoc.modify propertyName (Option.map (SchemaRef.enrich extra)) s.properties }

/-- A schema with an assignment to one of its properties. -/
def SchemaRef.setProperty (s : SchemaRef) (propertyName : String) (property : SchemaRef) :
    SchemaRef :=
  { s with properties := Assoc.set propertyName (some property) s.properties }

variable (t : Transformer)

/-- An assignment to fields of a schema. -/
def Transformer.modify (a : ℕ) (f : SchemaRef → SchemaRef) : Transformer :=
  { t with heap := t.heap.write a (f (t.heap.read a)) }

variable (key : String)

/-- An assignment to the map of definitions. -/
def Transformer.define (s : SchemaRef) : Transformer :=
  { t with heap := t.heap.alloc s, definitions := t.definitions.set key (some t.heap.size) }

/-- One turn of the loop of `propogateEnum`.  A property that is a reference stands for the
definition; the program crashes if there is none. -/
def propogateToProperty (a : ℕ) (t : Transformer) (propertyName : String) : Option Transformer :=
  let schema := t.heap.read a
  match schema.properties.lookup propertyName with
  | none => some t
  | some none => none
  | some (some property) =>
    (schema.addedEnums propertyName).bind fun extra =>
      if property.ref = "" then some (t.modify a (SchemaRef.enrichProperty propertyName extra))
      else (t.definitions.lookup property.refName).join.map fun b =>
        t.modify b (SchemaRef.enrich extra)

variable (order : IterationOrder)

/-- `propogateEnum`. -/
def propogateEnum (key : String) (a : ℕ) (t : Transformer) : Option Transformer :=
  (order.properties key ((t.heap.read a).properties.map Prod.fst)).foldlM
    (propogateToProperty a) t

/-! ## Unions -/

/-- `IsAllowed`. -/
def isAllowed (a : Option (AdditionalPropertiesType SchemaRef)) : Bool :=
  a.any fun a => a.allowed == some true

/-- The check that each alternative has an identifier. -/
def identified : List (Option SchemaRef) → Option Bool
  | [] => some true
  | none :: _ => none
  | some v :: alternatives =>
    if v.title = "" ∧ v.ref = "" then some false else identified alternatives

/-- The checks of `oneOfRefsTransform`. -/
def applies (schema : SchemaRef) : Option Bool :=
  if key = "" ∨ schema.oneOf = none ∨ schema.properties.length ≠ 1 ∨
      isAllowed schema.additionalProperties = false ∨ schema.properties.lookup "name" = none then
    some false
  else identified schema.alternatives

/-- The name of an alternative. -/
def alternativeName (v : SchemaRef) : String := if v.ref ≠ "" then v.refName else v.title

/-- The key under which an alternative is visited. -/
def alternativeKey (v : SchemaRef) : String := if v.ref ≠ "" then v.refName else ""

/-- The names of a list of alternatives. -/
def alternativeNames (alternatives : List (Option SchemaRef)) : List String :=
  alternatives.filterMap (Option.map alternativeName)

variable (quote : String → String)

/-- The definition of the names of a union. -/
def nameSchema (options : List String) : SchemaRef :=
  { SchemaRef.empty with type := "string", enum := options.map quote }

/-- The key of this definition. -/
def nameDefinitionKey : String := key ++ "Name"

/-- A reference to this definition. -/
def nameRef : SchemaRef :=
  { SchemaRef.empty with ref := "#/definitions/" ++ nameDefinitionKey key }

/-- The validation for one alternative: it is the one that is named, and it is there. -/
def optionBranch (option : String) : SchemaRef :=
  { SchemaRef.empty with
    properties := [("name", some { SchemaRef.empty with enum := [quote option] })]
    required := ["name", option] }

/-- What `oneOfRefsTransform` does to a union after the loop over its alternatives. -/
def SchemaRef.close (key : String) (options : List String) (s : SchemaRef) : SchemaRef :=
  { s with
    properties := Assoc.set "name" (some (nameRef key)) s.properties
    oneOf := some (options.map fun option => some (optionBranch quote option))
    additionalProperties := s.additionalProperties.map fun p =>
      { p with allowed := some false } }

/-- The end of `oneOfRefsTransform`, after the loop over the alternatives. -/
def nameOptions (key : String) (a : ℕ) (options : List String) (t : Transformer) : Transformer :=
  (t.define (nameDefinitionKey key) (nameSchema quote options)).modify a
    (SchemaRef.close quote key options)

section Schemas

variable (quote : String → String) (order : IterationOrder)

mutual

/-- `transformSchema`: the schema is the one at the address, and is visited once for each
key. -/
def transformSchema (key : String) (a : ℕ) : SchemaRef → Transformer → Option Transformer
  | schema@⟨_, _, _, _, _, _, _, _, oneOf, _, _, _, _, _, _⟩, t =>
    if key ∈ t.visited then some t
    else (applies key schema).bind fun union =>
      if union then
        (oneOfRefsTransform a oneOf { t with visited := key :: t.visited }).bind fun t =>
          propogateEnum order key a
            (nameOptions quote key a (alternativeNames schema.alternatives) t)
      else propogateEnum order key a { t with visited := key :: t.visited }
termination_by structural schema => schema

/-- The loop of `oneOfRefsTransform` over the alternatives, if there are any. -/
def oneOfRefsTransform (a : ℕ) : Option (List (Option SchemaRef)) → Transformer →
    Option Transformer
  | none, t => some t
  | some alternatives, t => transformAlternatives a alternatives t
termination_by structural oneOf => oneOf

/-- Each alternative is visited, and becomes the property of its name. -/
def transformAlternatives (a : ℕ) : List (Option SchemaRef) → Transformer → Option Transformer
  | [], t => some t
  | none :: _, _ => none
  | some v :: alternatives, t =>
    (transformSchema (alternativeKey v) t.heap.size v { t with heap := t.heap.alloc v }).bind
      fun t' => transformAlternatives a alternatives
        (t'.modify a fun s => s.setProperty (alternativeName v) (t'.heap.read t.heap.size))
termination_by structural alternatives => alternatives

end

end Schemas

/-! ## Code generation -/

section Calls

variable (follow : String → GoMap String (Option SchemaRef) →
  Option (GoMap String (Option SchemaRef)))

mutual

/-- `removeComplexValidation` of a schema.  Calls for definitions that properties refer to are made
by `follow`. -/
def removeComplexValidation : SchemaRef → GoMap String (Option SchemaRef) →
    Option (SchemaRef × GoMap String (Option SchemaRef))
  | ⟨ref, type, title, description, properties, additionalProperties, items, default, _, _, _, _,
      required, enum, facets⟩, d =>
    (removeFromProperties properties d).bind fun (properties, d) =>
      (removeFromOptional items d).bind fun (items, d) =>
        (removeFromAdditional additionalProperties d).map fun (additionalProperties, d) =>
          (⟨ref, type, title, description, properties, additionalProperties, items, default, none,
            [], [], none, required, enum, facets⟩, d)
termination_by structural schema => schema

/-- The loop over the properties, which are dereferenced. -/
def removeFromProperties : List (String × Option SchemaRef) → GoMap String (Option SchemaRef) →
    Option (List (String × Option SchemaRef) × GoMap String (Option SchemaRef))
  | [], d => some ([], d)
  | (propertyName, none) :: properties, d =>
    (removeFromProperties properties d).map fun (properties, d) =>
      ((propertyName, none) :: properties, d)
  | (propertyName, some property) :: properties, d =>
    (if property.ref = "" then removeComplexValidation property d
      else (follow property.refName d).map fun d => (property, d)).bind fun (property, d) =>
        (removeFromProperties properties d).map fun (properties, d) =>
          ((propertyName, some property) :: properties, d)
termination_by structural properties => properties

/-- The call for the schema of additional properties. -/
def removeFromAdditional : Option (AdditionalPropertiesType SchemaRef) →
    GoMap String (Option SchemaRef) →
      Option (Option (AdditionalPropertiesType SchemaRef) × GoMap String (Option SchemaRef))
  | none, d => some (none, d)
  | some ⟨allowed, schema⟩, d =>
    (removeFromOptional schema d).map fun (schema, d) => (some ⟨allowed, schema⟩, d)
termination_by structural additional => additional

/-- The call for a schema that may be missing. -/
def removeFromOptional : Option SchemaRef → GoMap String (Option SchemaRef) →
    Option (Option SchemaRef × GoMap String (Option SchemaRef))
  | none, d => some (none, d)
  | some schema, d => (removeComplexValidation schema d).map fun (schema, d) => (some schema, d)
termination_by structural schema => schema

end

end Calls

/-- `removeComplexValidation` of a definition, if no more than a number of calls for definitions
may be open at a time.  Nothing happens if the definition is missing.  The definition is assigned
when the call returns: a call for the same definition in between does not return either. -/
def removeDefinition : ℕ → String → GoMap String (Option SchemaRef) →
    Option (GoMap String (Option SchemaRef))
  | 0, _, _ => none
  | n + 1, key, d =>
    match (d.lookup key).join with
    | none => some d
    | some schema =>
      (removeComplexValidation (removeDefinition n) schema d).map fun (schema, d) => d.set key (some schema)

/-- The loop of `transform` for code generation, with this limit. -/
def removeEach (n : ℕ) (d : GoMap String (Option SchemaRef)) :
    Option (GoMap String (Option SchemaRef)) :=
  (order.definitions d.keys).foldlM (fun d key => removeDefinition n key d) d

/-- The loop of `transform` for code generation.  If more calls are open than there are
definitions, one of them is for a definition with a call open, and the program crashes. -/
def removeFromDefinitions (d : GoMap String (Option SchemaRef)) :
    Option (GoMap String (Option SchemaRef)) :=
  removeEach order (d.keys.length + 1) d

/-! ## Documents -/

/-- A definition, which may be `null`, in memory. -/
def Transformer.loadDefinition : Option SchemaRef → Transformer
  | none => { t with definitions := t.definitions.set key none }
  | some schema => t.define key schema

/-- Definitions in memory. -/
def Transformer.load (definitions : GoMap String (Option SchemaRef)) : Transformer :=
  definitions.pairs.foldl (fun t ks => t.loadDefinition ks.1 ks.2)
    { heap := ⟨[]⟩, definitions := ∅, visited := [] }

/-- The definitions that are found in memory. -/
def Transformer.read : GoMap String (Option SchemaRef) :=
  t.definitions.mapVal fun _ a => a.map t.heap.read

/-- The documents have the same definitions, in whatever order they are listed. -/
structure SameDocument (doc doc' : Document) : Prop where
  schema : doc.schema = doc'.schema
  schemaVersion : doc.schemaVersion = doc'.schemaVersion
  lookup : ∀ key, doc.definitions.lookup key = doc'.definitions.lookup key

section Documents

variable (quote : String → String) (order : IterationOrder)

/-- One turn of the loop of `transform` over the definitions of the base. -/
def visit (t : Transformer) (definitionKey : String) : Option Transformer :=
  match t.definitions.lookup definitionKey with
  | none => some t
  | some none => if definitionKey ∈ t.visited then some t else none
  | some (some a) => transformSchema quote order definitionKey a (t.heap.read a) t

/-- The loop of `transform` over the definitions of the base. -/
def visitAll (base : Document) (definitions : GoMap String (Option SchemaRef)) :
    Option Transformer :=
  (order.definitions base.definitions.keys).foldlM (visit quote order)
    (Transformer.load definitions)

/-- `transform`. -/
def transform (base doc : Document) (codegenTarget : Bool) : Option Document :=
  (visitAll quote order base doc.definitions).bind fun t =>
    (if codegenTarget then removeFromDefinitions order t.read else some t.read).map
      fun definitions => { doc with definitions := definitions }

/-- `Documents`. -/
def documents (base : Document) (layers : List Document) (codegenTarget : Bool) :
    Option Document :=
  transform quote order base
    { schema := base.schema
      schemaVersion := base.schemaVersion
      definitions := mergeDefinitions order (base :: layers) } codegenTarget

end Documents

end Fybrik.Compile
