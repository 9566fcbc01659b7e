import Fybrik.Lib.GoMap

/-!
# JSON values and dotted field paths

The values a Go program holds in an `interface{}` after decoding JSON, with the
operations the control plane uses on them.

* `Json` — the values; an object is the list of its members.
* `nestedField`, `nestedString` — the nested accessors of the Kubernetes
  `unstructured` package: an absent member is no error, a step into something
  that is not an object is one.
* `setField` — the assignment to a nested field, which makes the objects on the way
  to it that are missing.
* `splitDots` — `strings.Split(s, ".")`.
-/

/-- A decoded JSON value. -/
inductive Json where
  | null
  | bool (b : Bool)
  | num (n : Int)
  | str (s : String)
  | arr (xs : List Json)
  | obj (members : List (String × Json))
  deriving Inhabited, Repr

namespace Json

mutual

/-- Equality of JSON values is decidable. -/
def decEq : (a b : Json) → Decidable (a = b)
  | .null, .null => isTrue rfl
  | .bool a, .bool b => decidable_of_iff (a = b) (by simp)
  | .num a, .num b => decidable_of_iff (a = b) (by simp)
  | .str a, .str b => decidable_of_iff (a = b) (by simp)
  | .arr xs, .arr ys =>
    match decEqList xs ys with
    | isTrue h => isTrue (by rw [h])
    | isFalse h => isFalse (by simpa using h)
  | .obj xs, .obj ys =>
    match decEqMembers xs ys with
    | isTrue h => isTrue (by rw [h])
    | isFalse h => isFalse (by simpa using h)
  | .null, .bool _ | .null, .num _ | .null, .str _ | .null, .arr _ | .null, .obj _
  | .bool _, .null | .bool _, .num _ | .bool _, .str _ | .bool _, .arr _ | .bool _, .obj _
  | .num _, .null | .num _, .bool _ | .num _, .str _ | .num _, .arr _ | .num _, .obj _
  | .str _, .null | .str _, .bool _ | .str _, .num _ | .str _, .arr _ | .str _, .obj _
  | .arr _, .null | .arr _, .bool _ | .arr _, .num _ | .arr _, .str _ | .arr _, .obj _
  | .obj _, .null | .obj _, .bool _ | .obj _, .num _ | .obj _, .str _ | .obj _, .arr _ =>
    isFalse (by simp)

/-- The same for the elements of an array. -/
def decEqList : (xs ys : List Json) → Decidable (xs = ys)
  | [], [] => isTrue rfl
  | [], _ :: _ | _ :: _, [] => isFalse (by simp)
  | x :: xs, y :: ys =>
    match decEq x y, decEqList xs ys with
    | isTrue h, isTrue h' => isTrue (by rw [h, h'])
    | isFalse h, _ => isFalse (by simp [h])
    | _, isFalse h => isFalse (by simp [h])

/-- The same for the members of an object. -/
def decEqMembers : (xs ys : List (String × Json)) → Decidable (xs = ys)
  | [], [] => isTrue rfl
  | [], _ :: _ | _ :: _, [] => isFalse (by simp)
  | (k, x) :: xs, (k', y) :: ys =>
    if hk : k = k' then
      match decEq x y, decEqMembers xs ys with
      | isTrue h, isTrue h' => isTrue (by rw [hk, h, h'])
      | isFalse h, _ => isFalse (by simp [h])
      | _, isFalse h => isFalse (by simp [h])
    else isFalse (by simp [hk])

end

instance : DecidableEq Json := decEq

/-- The member of an object under a key. -/
def member (members : List (String × Json)) (k : String) : Option Json :=
  (members.find? fun kv => kv.1 == k).map Prod.snd

/-- What holds of all members of an object, each of which is the one under its key. -/
theorem forall_member_iff {members : List (String × Json)} {P : String → Json → Prop} :
    (∀ k v, member members k = some v → P k v) ↔
      ∀ kv ∈ members, ∀ v ∈ member members kv.1, P kv.1 v := by
  constructor
  · intro h kv _ v hv
    exact h kv.1 v hv
  · intro h k v hv
    obtain ⟨kv, hkv, -⟩ := Option.map_eq_some_iff.1 hv
    have hk : kv.1 = k := by simpa using List.find?_some hkv
    subst hk
    exact h kv (List.mem_of_find?_eq_some hkv) v hv

/-- The assignment `members[k] = v`. -/
def setMember (members : List (String × Json)) (k : String) (v : Json) : List (String × Json) :=
  if members.any fun kv => kv.1 == k then
    members.map fun kv => if kv.1 == k then (k, v) else kv
  else members ++ [(k, v)]

/-- The assignment of a value to the field a path leads to: the members, and whether
the path was free. -/
def setField (v : Json) : List (String × Json) → List String → List (String × Json) × Bool
  | members, [] => (members, true)
  | members, [k] => (setMember members k v, true)
  | members, k :: path =>
    match member members k with
    | none => (setMember members k (.obj (setField v [] path).1), (setField v [] path).2)
    | some (.obj inner) =>
      (setMember members k (.obj (setField v inner path).1), (setField v inner path).2)
    | some _ => (members, false)

/-- `unstructured.NestedFieldNoCopy`: follow a path of keys.  An absent member
(or a step into `null`) is reported as not found, a step into anything else
that is not an object as an error. -/
def nestedField : Json → List String → Except String (Option Json)
  | v, [] => .ok (some v)
  | .null, _ :: _ => .ok none
  | .obj members, k :: path =>
    match member members k with
    | none => .ok none
    | some v => nestedField v path
  | _, _ :: _ => .error "accessor error: expected map[string]interface{}"

/-- `unstructured.NestedString`: the same, and what is found must be a string. -/
def nestedString (v : Json) (path : List String) : Except String (Option String) :=
  match nestedField v path with
  | .error e => .error e
  | .ok none => .ok none
  | .ok (some (.str s)) => .ok (some s)
  | .ok (some _) => .error "accessor error: expected string"

end Json

/-- `strings.Split(s, ".")`. -/
def splitDots (s : String) : List String := (s.toList.splitOn '.').map String.ofList

example : splitDots "metadata.region" = ["metadata", "region"] := by decide
