import Fybrik.Connectors.Grpc
import Fybrik.Lib.MapLoops

/-!
# Values with a name and other properties

`taxonomy/module.go` and `taxonomy/catalog.go`: actions and connections are JSON objects with a
name and any other members.  Both are encoded and decoded in the same way.

* `unmarshalObject` — what the library does with a JSON value that should be an object.
* `unmarshalNamed`, `marshalNamed` — the two methods that the types have in common; `Action` and
  `Connection` are instances.
* `Exact` — what is wanted of a decoder and an encoder.
* `decoding_exact_iff` — this holds for a JSON value unless it is `null`, or an object without a
  name that is a string: the decoders crash on these.
-/

namespace Fybrik

/-! ## The source -/

/-- How the library calls a kind of JSON values in its errors. -/
def jsonKind : Json → String
  | .null => "null"
  | .bool _ => "bool"
  | .num _ => "number"
  | .str _ => "string"
  | .arr _ => "array"
  | .obj _ => "object"

/-- `json.Unmarshal` into a map.  The value `null` leaves the map without members; of several
members of one name the last one counts. -/
def unmarshalObject : Json → Except String (GoMap String Json)
  | .null => .ok ∅
  | .obj members => .ok (GoMap.ofList members)
  | j => .error ("json: cannot unmarshal " ++ jsonKind j
      ++ " into Go value of type map[string]interface \x7b\x7d")

section Named

variable {α : Type} (make : String → GoMap String Json → α)

/-- The method `UnmarshalJSON`.  The program crashes if the name is missing or no string. -/
def unmarshalNamed (j : Json) : Option (Except String α) :=
  match unmarshalObject j with
  | .error err => some (.error err)
  | .ok items =>
    match items.lookup "name" with
    | some (.str name) => some (.ok (make name (items.delete "name")))
    | _ => none

end Named

/-- The method `MarshalJSON`: the name, and then the other properties. -/
def marshalNamed (name : String) (additionalProperties : GoMap String Json) : Json :=
  .obj (GoMap.setAll (GoMap.set ∅ "name" (.str name)) additionalProperties.pairs).pairs

/-- Decoding an `Action`. -/
def Action.decode : Json → Option (Except String Action) := unmarshalNamed Action.mk

/-- `Action.MarshalJSON`. -/
def Action.encode (o : Action) : Json := marshalNamed o.name o.additionalProperties

/-- Decoding a `Connection`. -/
def Connection.decode : Json → Option (Except String Connection) := unmarshalNamed Connection.mk

/-- `Connection.MarshalJSON`. -/
def Connection.encode (o : Connection) : Json := marshalNamed o.name o.additionalProperties

/-- `Action.UnmarshalJSON` of an object that is known. -/
theorem Action.decode_obj (members : List (String × Json)) :
    Action.decode (.obj members) = (Action.unmarshalJSON (GoMap.ofList members)).map .ok := by
  rw [Action.decode, unmarshalNamed, unmarshalObject, Action.unmarshalJSON]
  dsimp only
  cases (GoMap.ofList members).lookup "name" with
  | none => rfl
  | some value => cases value <;> rfl

/-! ## What is wanted -/

/-- An object with a name that is a string. -/
def HasName (j : Json) : Prop :=
  ∃ members name, j = .obj members ∧ (GoMap.ofList members).lookup "name" = some (.str name)

/-- The values are objects with the same members. -/
def SameObject (j j' : Json) : Prop :=
  ∃ members members', j = .obj members ∧ j' = .obj members' ∧
    ∀ key, (GoMap.ofList members).lookup key = (GoMap.ofList members').lookup key

/-- The decoder does not crash, and fails exactly on what has no name.  What it returns is
encoded as the value it comes from, and can be decoded again.  The relation says that decoded
values are the same. -/
def Exact {α : Type} (Same : α → α → Prop) (decode : Json → Option (Except String α))
    (encode : α → Json) (j : Json) : Prop :=
  ((∃ err, decode j = some (.error err)) ∧ ¬ HasName j) ∨
    HasName j ∧ ∃ a, decode j = some (.ok a) ∧ SameObject (encode a) j ∧
      ∃ a', decode (encode a) = some (.ok a') ∧ Same a' a

/-- The actions have the same name and the same properties. -/
def Action.Same (a a' : Action) : Prop :=
  a.name = a'.name ∧
    ∀ key, a.additionalProperties.lookup key = a'.additionalProperties.lookup key

@[inherit_doc Action.Same]
def Connection.Same (c c' : Connection) : Prop :=
  c.name = c'.name ∧
    ∀ key, c.additionalProperties.lookup key = c'.additionalProperties.lookup key

/-- The value is not `null`, and has a name that is a string if it is an object. -/
def Readable : Json → Prop
  | .null => False
  | .obj members => ∃ name, (GoMap.ofList members).lookup "name" = some (.str name)
  | _ => True

/-! ## What is the case -/

theorem lookup_ofList_pairs (m : GoMap String Json) (key : String) :
    (GoMap.ofList m.pairs).lookup key = m.lookup key := by
  have hpairs := GoMap.lookup_ofList_map_pairs m (fun _ value => value) key
  simpa using hpairs

/-- The members of an encoded value. -/
theorem lookup_marshalNamed (name : String) (items : GoMap String Json) (key : String) :
    (GoMap.ofList (GoMap.setAll (GoMap.set ∅ "name" (.str name)) items.pairs).pairs).lookup key
      = (items.lookup key).or (if key = "name" then some (.str name) else none) := by
  have hitems := lookup_ofList_pairs items key
  rw [GoMap.ofList, GoMap.lookup_setAll, AList.lookup_empty, Option.or_none] at hitems
  rw [lookup_ofList_pairs, GoMap.lookup_setAll, hitems]
  by_cases hkey : key = "name"
  · rw [if_pos hkey, hkey]
    exact congrArg _ (AList.lookup_insert _)
  · rw [if_neg hkey]
    exact congrArg _ (AList.lookup_insert_ne hkey)

section Named

variable {α : Type} (make : String → GoMap String Json → α)

/-- Decoding fails, crashes, or returns the parts of an object. -/
theorem unmarshalNamed_cases (j : Json) :
    (¬ HasName j ∧ Readable j ∧ ∃ err, unmarshalNamed make j = some (.error err)) ∨
      (¬ HasName j ∧ ¬ Readable j ∧ unmarshalNamed make j = none) ∨
      ∃ members name, j = .obj members ∧
        (GoMap.ofList members).lookup "name" = some (.str name) ∧
        unmarshalNamed make j = some (.ok (make name ((GoMap.ofList members).delete "name"))) := by
  have hother : (∀ members, j ≠ .obj members) → ¬ HasName j := by
    rintro hj ⟨members, -, rfl, -⟩
    exact hj members rfl
  cases j with
  | null => exact Or.inr (Or.inl ⟨hother (by simp), id, rfl⟩)
  | bool b => exact Or.inl ⟨hother (by simp), trivial, _, rfl⟩
  | num n => exact Or.inl ⟨hother (by simp), trivial, _, rfl⟩
  | str s => exact Or.inl ⟨hother (by simp), trivial, _, rfl⟩
  | arr xs => exact Or.inl ⟨hother (by simp), trivial, _, rfl⟩
  | obj members =>
    by_cases hname : ∃ name, (GoMap.ofList members).lookup "name" = some (.str name)
    · obtain ⟨name, hlookup⟩ := hname
      refine Or.inr (Or.inr ⟨members, name, rfl, hlookup, ?_⟩)
      simp only [unmarshalNamed, unmarshalObject, hlookup]
    · refine Or.inr (Or.inl ⟨?_, hname, ?_⟩)
      · rintro ⟨members', name, hj, hlookup⟩
        obtain rfl := Json.obj.inj hj
        exact hname ⟨name, hlookup⟩
      · rw [unmarshalNamed, unmarshalObject]
        dsimp only
        split
        · rename_i name hlookup
          exact absurd ⟨name, hlookup⟩ hname
        · rfl

/-- Decoding an encoded value that has no other member called name. -/
theorem unmarshalNamed_marshalNamed (name : String) (items : GoMap String Json)
    (hitems : items.lookup "name" = none) :
    ∃ items', unmarshalNamed make (marshalNamed name items) = some (.ok (make name items')) ∧
      ∀ key, items'.lookup key = items.lookup key := by
  have hlookup := lookup_marshalNamed name items
  refine ⟨(GoMap.ofList (GoMap.setAll (GoMap.set ∅ "name" (.str name))
    items.pairs).pairs).delete "name", ?_, fun key => ?_⟩
  · have hname := hlookup "name"
    rw [hitems, Option.none_or, if_pos rfl] at hname
    simp only [unmarshalNamed, marshalNamed, unmarshalObject, hname]
  · by_cases hkey : key = "name"
    · rw [hkey, hitems]
      exact AList.lookup_erase _ _
    · refine (AList.lookup_erase_ne hkey).trans ?_
      rw [hlookup key, if_neg hkey, Option.or_none]

/-- The general result: the decoder and the encoder are exact unless the decoder crashes. -/
theorem exact_named_iff {Same : α → α → Prop} {encode : α → Json}
    (hsame : ∀ name items items', (∀ key, items'.lookup key = items.lookup key) →
      Same (make name items') (make name items))
    (hencode : ∀ name items, encode (make name items) = marshalNamed name items) (j : Json) :
    Exact Same (unmarshalNamed make) encode j ↔ Readable j := by
  rcases unmarshalNamed_cases make j with ⟨hnot, hreadable, herr⟩ | ⟨-, hnot, hcrash⟩ |
    ⟨members, name, rfl, hname, hdecode⟩
  · exact iff_of_true (Or.inl ⟨herr, hnot⟩) hreadable
  · refine iff_of_false ?_ hnot
    rintro (⟨⟨err, herr⟩, -⟩ | ⟨-, a, ha, -⟩)
    · cases hcrash.symm.trans herr
    · cases hcrash.symm.trans ha
  · refine iff_of_true (Or.inr ⟨⟨members, name, rfl, hname⟩, _, hdecode, ?_, ?_⟩) ⟨name, hname⟩
    · rw [hencode]
      refine ⟨_, members, rfl, rfl, fun key => ?_⟩
      rw [lookup_marshalNamed]
      by_cases hkey : key = "name"
      · rw [hkey, if_pos rfl, hname]
        exact congrArg (Option.or · _) (AList.lookup_erase _ _)
      · rw [if_neg hkey, Option.or_none]
        exact AList.lookup_erase_ne hkey
    · obtain ⟨items', hdecode', hitems'⟩ := unmarshalNamed_marshalNamed make name
        ((GoMap.ofList members).delete "name") (AList.lookup_erase _ _)
      exact ⟨_, by rw [hencode, hdecode'], hsame _ _ _ hitems'⟩

end Named

/-- **Decoding is exact, but not total.**  For both types the decoder crashes on `null` and on
objects without a name that is a string, and everything else is as it should be. -/
theorem decoding_exact_iff (j : Json) :
    (Exact Action.Same Action.decode Action.encode j ↔ Readable j) ∧
      (Exact Connection.Same Connection.decode Connection.encode j ↔ Readable j) := by
  constructor
  · exact exact_named_iff Action.mk (fun _ _ _ h => ⟨rfl, h⟩) (fun _ _ => rfl) j
  · exact exact_named_iff Connection.mk (fun _ _ _ h => ⟨rfl, h⟩) (fun _ _ => rfl) j

/-- Both decoders crash on the empty object, and on `null`. -/
theorem emptyObject_crashes :
    Action.decode (.obj []) = none ∧ Connection.decode (.obj []) = none ∧
      Action.decode .null = none ∧ Connection.decode .null = none :=
  ⟨rfl, rfl, rfl, rfl⟩

end Fybrik
