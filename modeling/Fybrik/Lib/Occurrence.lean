import Fybrik.Lib.GoMap
import Mathlib.Data.List.Induction
import Mathlib.Data.List.Nodup

/-!
# Grouping in the order of first occurrence

The order of a map is lost.  A loop that groups elements under keys and has to return the groups
in order therefore keeps a list of its keys besides the map.

* `Groups`, `Groups.add` — the list of keys and the map, and a turn of the loop.
* `compact` — one value for each key, in the order of first occurrence, made of all elements with
  this key; `values_foldl_add` says that the loop computes it.
* `compact_flatMap` — to compact what has been compacted in parts is to compact everything at
  once.
-/

namespace Fybrik.Occurrence

/-! ## First occurrences -/

section Keys

variable {K : Type} [DecidableEq K]

theorem eraseDups_concat (l : List K) (k : K) :
    (l ++ [k]).eraseDups = if k ∈ l then l.eraseDups else l.eraseDups ++ [k] := by
  rw [List.eraseDups_append]
  split_ifs with hk
  · simp [List.removeAll, hk]
  · simp [List.removeAll, hk, List.eraseDups_cons]

theorem nodup_eraseDups (l : List K) : l.eraseDups.Nodup := by
  induction l using List.reverseRecOn with
  | nil => exact List.nodup_nil
  | append_singleton l k ih =>
    rw [eraseDups_concat]
    split_ifs with hk
    · exact ih
    · refine List.nodup_append.2 ⟨ih, List.nodup_singleton k, fun a ha b hb => ?_⟩
      rw [List.mem_singleton.1 hb]
      rintro rfl
      exact hk (List.mem_eraseDups.1 ha)

theorem eraseDups_filter (p : K → Bool) (l : List K) :
    (l.filter p).eraseDups = l.eraseDups.filter p := by
  induction l using List.reverseRecOn with
  | nil => rfl
  | append_singleton l k ih =>
    rw [List.filter_append, eraseDups_concat]
    cases hp : p k with
    | false =>
      simp only [List.filter_cons, hp, List.filter_nil, Bool.false_eq_true, if_false,
        List.append_nil, ih]
      split_ifs with hk
      · rfl
      · simp [hp]
    | true =>
      simp only [List.filter_cons, hp, List.filter_nil, if_true]
      rw [eraseDups_concat, ih]
      by_cases hk : k ∈ l
      · simp [hk, hp]
      · simp [hk, hp]

/-- What occurs first in the parts occurs first in the whole. -/
theorem eraseDups_flatMap_eraseDups (ls : List (List K)) :
    (ls.flatMap List.eraseDups).eraseDups = ls.flatten.eraseDups := by
  have hself : ∀ l : List K, l.eraseDups.eraseDups = l.eraseDups := by
    intro l
    induction l using List.reverseRecOn with
    | nil => rfl
    | append_singleton l k ih =>
      rw [eraseDups_concat]
      split_ifs with hk
      · exact ih
      · rw [eraseDups_concat, if_neg (fun hmem => hk (List.mem_eraseDups.1 hmem)), ih]
  induction ls with
  | nil => rfl
  | cons l ls ih =>
    have hremove : ∀ l' : List K, l'.removeAll l.eraseDups = l'.filter fun k => decide (k ∉ l) := by
      intro l'
      refine List.filter_congr fun k _ => ?_
      simp
    have hremove' : ∀ l' : List K, l'.removeAll l = l'.filter fun k => decide (k ∉ l) := by
      intro l'
      refine List.filter_congr fun k _ => ?_
      simp
    rw [List.flatMap_cons, List.flatten_cons, List.eraseDups_append, List.eraseDups_append, hself,
      hremove, hremove', eraseDups_filter, eraseDups_filter, ih]

end Keys

/-! ## The loop -/

/-- The keys in their order, and the map. -/
structure Groups (K V : Type) [DecidableEq K] where
  keys : List K
  map : GoMap K V

section Loop

variable {α K V : Type} [DecidableEq K] [Inhabited V]

/-- The values in the order of the keys. -/
def Groups.values (g : Groups K V) : List V := g.keys.map g.map.get

/-- One turn of the loop: a group is started if there is none, and then it is extended. -/
def Groups.add (key : α → K) (start : α → V) (extend : V → α → V) (g : Groups K V) (a : α) :
    Groups K V :=
  let g' : Groups K V := if (g.map.lookup (key a)).isSome then g
    else ⟨g.keys ++ [key a], g.map.set (key a) (start a)⟩
  ⟨g'.keys, g'.map.set (key a) (extend (g'.map.get (key a)) a)⟩

/-- One value for each key, made of the elements with this key. -/
def compact (key : α → K) (join : K → List α → V) (l : List α) : List V :=
  (l.map key).eraseDups.map fun k => join k (l.filter fun a => key a = k)

variable {key : α → K} {start : α → V} {extend : V → α → V} {join : K → List α → V}

omit [Inhabited V] in
theorem filter_eq_nil_of_not_mem {l : List α} {k : K} (h : k ∉ l.map key) :
    (l.filter fun a => key a = k) = [] := by
  refine List.filter_eq_nil_iff.2 fun a ha hkey => h ?_
  exact List.mem_map.2 ⟨a, ha, of_decide_eq_true hkey⟩

theorem Groups.keys_add (g : Groups K V) (a : α) : (g.add key start extend a).keys
    = if (g.map.lookup (key a)).isSome then g.keys else g.keys ++ [key a] := by
  rw [add]
  split_ifs
  · rfl
  · rfl

theorem Groups.lookup_add (g : Groups K V) (a : α) (k : K) :
    (g.add key start extend a).map.lookup k = if k = key a then
      some (extend ((g.map.lookup (key a)).getD (start a)) a) else g.map.lookup k := by
  rw [add]
  split_ifs with hsome hk hk
  · obtain ⟨v, hv⟩ := Option.isSome_iff_exists.1 hsome
    rw [hk, hv, Option.getD_some, ← GoMap.get_of_lookup hv]
    exact AList.lookup_insert _
  · exact AList.lookup_insert_ne hk
  · have hnone : g.map.lookup (key a) = none := by simpa using hsome
    have hstart : (g.map.set (key a) (start a)).get (key a) = start a := GoMap.get_set _ _ _
    rw [hk, hnone, Option.getD_none]
    simp only [hstart]
    exact AList.lookup_insert _
  · exact (AList.lookup_insert_ne hk).trans (AList.lookup_insert_ne hk)

/-- The state of the loop. -/
theorem foldl_add_spec (hstart : ∀ a, extend (start a) a = join (key a) [a])
    (hextend : ∀ k l a, extend (join k l) a = join k (l ++ [a])) (l : List α) :
    (l.foldl (Groups.add key start extend) ⟨[], ∅⟩).keys = (l.map key).eraseDups ∧
      ∀ k, (l.foldl (Groups.add key start extend) ⟨[], ∅⟩).map.lookup k =
        if k ∈ l.map key then some (join k (l.filter fun a => key a = k)) else none := by
  induction l using List.reverseRecOn with
  | nil => exact ⟨rfl, fun k => rfl⟩
  | append_singleton l a ih =>
    obtain ⟨hkeys, hmap⟩ := ih
    rw [List.foldl_append, List.foldl_cons, List.foldl_nil]
    generalize l.foldl (Groups.add key start extend) ⟨[], ∅⟩ = g at hkeys hmap ⊢
    rw [Groups.keys_add, hkeys, List.map_append, List.map_cons, List.map_nil, eraseDups_concat]
    refine ⟨?_, fun k => ?_⟩
    · rw [hmap]
      by_cases hmem : key a ∈ l.map key
      · simp only [if_pos hmem, Option.isSome_some, if_true]
      · simp only [if_neg hmem, Option.isSome_none, Bool.false_eq_true, if_false]
    · rw [Groups.lookup_add, List.filter_append]
      by_cases hk : k = key a
      · -- the group of the new element
        subst hk
        rw [if_pos rfl, if_pos (by simp), hmap, List.filter_cons_of_pos (by simp),
          List.filter_nil]
        by_cases hmem : key a ∈ l.map key
        · rw [if_pos hmem, Option.getD_some, hextend]
        · rw [if_neg hmem, Option.getD_none, hstart, filter_eq_nil_of_not_mem hmem,
            List.nil_append]
      · rw [if_neg hk, hmap, List.filter_cons_of_neg (by simpa using Ne.symm hk), List.filter_nil,
          List.append_nil]
        simp [hk]

/-- The loop, followed by one over the keys. -/
theorem values_foldl_add (hstart : ∀ a, extend (start a) a = join (key a) [a])
    (hextend : ∀ k l a, extend (join k l) a = join k (l ++ [a])) (l : List α) :
    (l.foldl (Groups.add key start extend) ⟨[], ∅⟩).values = compact key join l := by
  obtain ⟨hkeys, hmap⟩ := foldl_add_spec hstart hextend l
  rw [Groups.values, compact, hkeys]
  refine List.map_congr_left fun k hk => ?_
  have hlookup := hmap k
  rw [if_pos (List.mem_eraseDups.1 hk)] at hlookup
  exact GoMap.get_of_lookup hlookup

end Loop

/-! ## Compacting in parts -/

theorem flatMap_flatten {α β : Type} (f : α → List β) (ls : List (List α)) :
    ls.flatten.flatMap f = ls.flatMap (List.flatMap f) := by
  rw [← List.flatMap_id, List.flatMap_assoc]
  rfl

section Parts

variable {α K : Type} [DecidableEq K] {key : α → K} {join : K → List α → α}

theorem map_key_compact (hkey : ∀ k l, key (join k l) = k) (l : List α) :
    (compact key join l).map key = (l.map key).eraseDups := by
  rw [compact, List.map_map]
  refine (List.map_congr_left fun k _ => hkey k _).trans (List.map_id _)

/-- The value for a key, if there is one. -/
theorem filter_compact (hkey : ∀ k l, key (join k l) = k) (l : List α) (k : K) :
    (compact key join l).filter (fun a => key a = k)
      = if k ∈ l.map key then [join k (l.filter fun a => key a = k)] else [] := by
  have hfilter : (compact key join l).filter (fun a => key a = k)
      = ((l.map key).eraseDups.filter fun k' => k' = k).map
          fun k => join k (l.filter fun a => key a = k) := by
    rw [compact, List.filter_map]
    refine congrArg _ (List.filter_congr fun k' _ => ?_)
    simp [hkey]
  rw [hfilter, ← List.filter_congr fun k' _ => (beq_eq_decide k' k), List.filter_beq]
  split_ifs with hk
  · rw [List.count_eq_one_of_mem (nodup_eraseDups _) (List.mem_eraseDups.2 hk)]
    rfl
  · rw [List.count_eq_zero_of_not_mem fun hmem => hk (List.mem_eraseDups.1 hmem)]
    rfl

/-- The values for a key in the parts: those that do not have the key have none. -/
theorem filter_flatMap_compact (hkey : ∀ k l, key (join k l) = k) (ls : List (List α)) (k : K) :
    (ls.flatMap (compact key join)).filter (fun a => key a = k)
      = ((ls.filter fun l => k ∈ l.map key).map (List.filter fun a => key a = k)).map (join k) := by
  induction ls with
  | nil => rfl
  | cons l ls ih =>
    rw [List.flatMap_cons, List.filter_append, filter_compact hkey, ih]
    by_cases hk : k ∈ l.map key
    · rw [if_pos hk, List.filter_cons_of_pos (by simpa using hk)]
      rfl
    · rw [if_neg hk, List.filter_cons_of_neg (by simpa using hk)]
      rfl

theorem flatten_filter (ls : List (List α)) (k : K) :
    ((ls.filter fun l => k ∈ l.map key).map (List.filter fun a => key a = k)).flatten
      = ls.flatten.filter fun a => key a = k := by
  induction ls with
  | nil => rfl
  | cons l ls ih =>
    rw [List.flatten_cons, List.filter_append, ← ih]
    by_cases hk : k ∈ l.map key
    · rw [List.filter_cons_of_pos (by simpa using hk)]
      rfl
    · rw [List.filter_cons_of_neg (by simpa using hk), filter_eq_nil_of_not_mem hk,
        List.nil_append]

/-- Compacting what has been compacted in parts. -/
theorem compact_flatMap (hkey : ∀ k l, key (join k l) = k)
    (hjoin : ∀ k (parts : List (List α)), join k (parts.map (join k)) = join k parts.flatten)
    (ls : List (List α)) :
    compact key join (ls.flatMap (compact key join)) = compact key join ls.flatten := by
  have hkeys : ((ls.flatMap (compact key join)).map key).eraseDups
      = (ls.flatten.map key).eraseDups := by
    have hparts : (ls.map (List.map key)).flatMap List.eraseDups
        = (ls.flatMap (compact key join)).map key := by
      rw [List.map_flatMap, List.flatMap_map]
      simp only [map_key_compact hkey]
    rw [← hparts, eraseDups_flatMap_eraseDups, List.map_flatten]
  rw [compact, compact, hkeys]
  refine List.map_congr_left fun k _ => ?_
  rw [filter_flatMap_compact hkey, hjoin, flatten_filter]

end Parts

end Fybrik.Occurrence
