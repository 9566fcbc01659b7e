import Fybrik.Blueprint.Controller
import Fybrik.Lib.Nested

/-!
# The values of charts

`applyChartResource` overrides the arguments of an instance by the values that the chart
comes with.  The keys of these values are dotted paths, and the loop goes through them in any
order.

* `copyMap` — as in the source.
* `overrideValues` — the loop over the values of the chart.
* `overrideValues_confluent` — the order does not matter, and which values are found at
  their paths afterwards.
-/

namespace Fybrik

open Nested

mutual

/-- The value that is copied: an object is copied in turn. -/
def copyValue : Json → Json
  | .obj vm => .obj (copyMap vm)
  | v => v
termination_by structural v => v

/-- `CopyMap`. -/
def copyMap : List (String × Json) → List (String × Json)
  | [] => []
  | (k, v) :: m => Json.setMember (copyMap m) k (copyValue v)
termination_by structural m => m

end

/-- The loop of `applyChartResource` over the values of the chart.  Whether an assignment is
refused is not looked at. -/
def overrideValues (args : List (String × Json)) (values : List (String × String)) :
    List (String × Json) :=
  values.foldl (fun args kv => BlueprintReconciler.setMapField args kv.1 (.str kv.2)) args

/-! ## Copies and paths -/

theorem member_copyMap (m : List (String × Json)) (k : String) :
    Json.member (copyMap m) k = (Json.member m k).map copyValue := by
  induction m with
  | nil => rfl
  | cons kv m ih =>
    rw [copyMap, Json.member_setMember, Json.member_cons, ih]
    by_cases hk : kv.1 = k
    · rw [if_pos hk.symm, if_pos hk, Option.map_some]
    · rw [if_neg (Ne.symm hk), if_neg hk]

/-- A copy holds what the map holds. -/
theorem view_copyMap (m : List (String × Json)) : Json.view (copyMap m) = Json.view m := by
  funext path
  induction path generalizing m with
  | nil => rfl
  | cons k path ih =>
    have hcopy : Json.view (copyMap m) (k :: path) = _ := congrFun (Json.view_cons (copyMap m) k) path
    have hold : Json.view m (k :: path) = _ := congrFun (Json.view_cons m k) path
    rw [hcopy, hold, member_copyMap]
    cases Json.member m k with
    | none => rfl
    | some v =>
      cases v with
      | obj vm =>
        rw [Option.map_some, copyValue]
        exact ih vm
      | _ => rfl

theorem splitDots_ne_nil (s : String) : splitDots s ≠ [] := by
  rw [splitDots, Ne, List.map_eq_nil_iff]
  exact List.splitOn_ne_nil _ _

theorem splitDots_injective : Function.Injective splitDots := by
  intro s s' h
  have hlists : s.toList.splitOn '.' = s'.toList.splitOn '.' :=
    List.map_injective_iff.2 (fun _ _ => String.ofList_inj.1) h
  have hjoin := congrArg (List.intercalate ['.']) hlists
  rw [List.intercalate_splitOn, List.intercalate_splitOn] at hjoin
  exact String.toList_inj.1 hjoin

/-- The loop makes the assignments. -/
theorem view_overrideValues (args : List (String × Json)) (values : List (String × String)) :
    Json.view (overrideValues args values)
      = assignAll (values.map fun kv => (splitDots kv.1, Json.str kv.2)) (Json.view args) := by
  induction values generalizing args with
  | nil => rfl
  | cons kv values ih =>
    have hfirst : Json.view (BlueprintReconciler.setMapField args kv.1 (.str kv.2))
        = assign (splitDots kv.1) (.str kv.2) (Json.view args) :=
      (Json.view_setField (by simp) (splitDots_ne_nil kv.1) args).1
    change Json.view (overrideValues (BlueprintReconciler.setMapField args kv.1 (.str kv.2)) values)
      = assignAll (values.map _) (assign _ _ (Json.view args))
    rw [ih, hfirst]

/-- The paths of a map of values are different. -/
theorem nodup_paths {values : GoMap String String} {entries : List (String × String)}
    (h : entries.Perm values.pairs) :
    ((entries.map fun kv => (splitDots kv.1, Json.str kv.2)).map Prod.fst).Nodup := by
  have hkeys : (entries.map Prod.fst).Nodup :=
    (h.map Prod.fst).nodup_iff.2 values.nodup_keys_pairs
  rw [List.map_map]
  have hcomp : (Prod.fst ∘ fun kv : String × String => (splitDots kv.1, Json.str kv.2))
      = splitDots ∘ Prod.fst := rfl
  rw [hcomp, ← List.map_map]
  exact hkeys.map splitDots_injective

/-! ## The order of the values -/

/-- The values of a chart override the arguments in any order with the same result: a value is
found at its path exactly if no other key leads there and no value of the arguments that is no
map is on the way.  An assignment that is refused changes nothing. -/
theorem overrideValues_confluent (args : List (String × Json)) (values : GoMap String String)
    (entries : List (String × String)) (h : entries.Perm values.pairs) :
    Json.SameMap (overrideValues (copyMap args) entries)
        (overrideValues (copyMap args) values.pairs) ∧
    (∀ k v, values.lookup k = some v →
      (Json.find (overrideValues (copyMap args) entries) (splitDots k) = some (.str v) ↔
        (∀ k' v', values.lookup k' = some v' → ¬ Leads (splitDots k') (splitDots k)) ∧
          ∀ path w, Leads path (splitDots k) → Json.find args path = some w →
            ∃ inner, w = .obj inner)) ∧
    ∀ (obj : List (String × Json)) (k : String) (v : Json),
      (Json.setField v obj (splitDots k)).2 = false →
        Json.SameMap (BlueprintReconciler.setMapField obj k v) obj := by
  refine ⟨?_, fun k v hk => ?_, fun obj k v => Json.sameMap_setField_of_false⟩
  · rw [Json.SameMap, view_overrideValues, view_overrideValues]
    exact assignAll_perm (h.map _) (nodup_paths h) _
  · have hentry : (splitDots k, Json.str v)
        ∈ entries.map fun kv => (splitDots kv.1, Json.str kv.2) :=
      List.mem_map.2 ⟨(k, v), h.mem_iff.2 (GoMap.mem_pairs.2 hk), rfl⟩
    have hfind : Json.find (overrideValues (copyMap args) entries) (splitDots k) = some (.str v) ↔
        Json.view (overrideValues (copyMap args) entries) (splitDots k)
          = some (.leaf (.str v)) := by
      simp [Json.view_eq_leaf_iff]
    rw [hfind, view_overrideValues, view_copyMap,
      assignAll_eq_leaf_iff (Json.closed_view args) (nodup_paths h) hentry,
      Json.not_blocked_view_iff]
    refine and_congr_left fun _ => ?_
    constructor
    · intro hothers k' v' hk'
      exact hothers (splitDots k', .str v')
        (List.mem_map.2 ⟨(k', v'), h.mem_iff.2 (GoMap.mem_pairs.2 hk'), rfl⟩)
    · intro hothers e he
      obtain ⟨⟨k', v'⟩, hmem, rfl⟩ := List.mem_map.1 he
      exact hothers k' v' (GoMap.mem_pairs.1 (h.mem_iff.1 hmem))

/-- The arguments of a reader. -/
def readerArguments : List (String × Json) :=
  [("image", .obj [("tag", .str "v1")]), ("replicas", .num 1)]

/-- The values of its chart; the last one cannot be set. -/
def readerValues : GoMap String String :=
  GoMap.ofList [("image.tag", "v2"), ("image", "reader"), ("replicas.min", "2")]

/-- Two orders for the reader: the image is replaced, whether or not its tag is set before. -/
theorem readerValues_confluent :
    Json.SameMap (overrideValues (copyMap readerArguments) readerValues.pairs.reverse)
        (overrideValues (copyMap readerArguments) readerValues.pairs) ∧
      Json.find (overrideValues (copyMap readerArguments) readerValues.pairs.reverse) ["image"]
        = some (.str "reader") ∧
      Json.find (overrideValues (copyMap readerArguments) readerValues.pairs.reverse)
        ["image", "tag"] = none :=
  ⟨(overrideValues_confluent readerArguments readerValues readerValues.pairs.reverse
    (List.reverse_perm _)).1, by decide +kernel, by decide +kernel⟩

end Fybrik
