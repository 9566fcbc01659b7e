import Mathlib.Data.List.AList

/-!
# Go maps

A Go `map[K]V` is modelled by a Mathlib association list: a list of key/value
entries with no key occurring twice.  The order of the list is the order in
which a `range` loop happens to walk the map; results that must not depend on
that order are stated through `lookup`.

* `GoMap.get` — the indexing expression `m[k]`, which yields the zero value of
  the element type for an absent key.
* `GoMap.pairs` — what a `range` loop sees; `mem_pairs` says it is the graph of
  `lookup`.
* `GoMap.ofList` — a map literal, or a loop of assignments `m[k] = v`:
  `lookup_setAll` says which of several assignments to one key survives.
* `GoMap.deleteAll` — a loop of deletions: `lookup_deleteAll_pairs` says what a loop
  over the map itself leaves.
-/

/-- A Go map with keys `K` and elements `V`. -/
abbrev GoMap (K V : Type) := AList (fun _ : K => V)

namespace GoMap

variable {K V : Type}

/-- The entries in the order of a `range` loop. -/
def pairs (m : GoMap K V) : List (K × V) := m.entries.map fun e => (e.1, e.2)

variable {k : K} {v : V} {l : List (K × V)}

/-- A further entry for one key is none for another. -/
theorem mem_append_ne {k' : K} {v' : V} (hne : k' ≠ k) :
    (k', v') ∈ l ++ [(k, v)] ↔ (k', v') ∈ l := by
  simp [hne]

variable [DecidableEq K]

/-- Two maps with the same entries in the same order are equal; written as a
term so that it computes. -/
instance [DecidableEq V] : DecidableEq (GoMap K V) := fun m n =>
  decidable_of_iff (m.entries = n.entries) AList.ext_iff.symm

/-- The indexing expression `m[k]`. -/
def get [Inhabited V] (m : GoMap K V) (k : K) : V := (m.lookup k).getD default

/-- The assignment `m[k] = v`. -/
abbrev set (m : GoMap K V) (k : K) (v : V) : GoMap K V := AList.insert k v m

/-- The statement `delete(m, k)`. -/
abbrev delete (m : GoMap K V) (k : K) : GoMap K V := AList.erase k m

/-- A loop of assignments `m[k] = v`, from left to right. -/
def setAll (m : GoMap K V) (l : List (K × V)) : GoMap K V :=
  l.foldl (fun m kv => m.set kv.1 kv.2) m

/-- A map built from nothing by a loop of assignments. -/
def ofList (l : List (K × V)) : GoMap K V := setAll ∅ l

theorem mem_pairs {m : GoMap K V} : (k, v) ∈ m.pairs ↔ m.lookup k = some v := by
  rw [← Option.mem_def, AList.mem_lookup_iff, pairs, List.mem_map]
  constructor
  · rintro ⟨⟨k', v'⟩, he, heq⟩
    obtain ⟨rfl, rfl⟩ := Prod.mk.injEq .. ▸ heq
    exact he
  · intro he
    exact ⟨⟨k, v⟩, he, rfl⟩

theorem get_of_lookup [Inhabited V] {m : GoMap K V} (h : m.lookup k = some v) : m.get k = v := by
  rw [get, h, Option.getD_some]

theorem get_of_lookup_none [Inhabited V] {m : GoMap K V} (h : m.lookup k = none) :
    m.get k = default := by
  rw [get, h, Option.getD_none]

variable (m : GoMap K V)

@[simp] theorem get_set [Inhabited V] (k : K) (v : V) : (m.set k v).get k = v :=
  get_of_lookup (AList.lookup_insert m)

theorem get_set_ne [Inhabited V] {k' : K} (v : V) (h : k ≠ k') : (m.set k' v).get k = m.get k := by
  rw [get, get, AList.lookup_insert_ne h]

/-- An entry after an assignment is the new one, or it was there before. -/
theorem eq_or_of_lookup_set {m : GoMap K V} {k' : K} {v' : V}
    (h : (m.set k v).lookup k' = some v') : (k' = k ∧ v' = v) ∨ m.lookup k' = some v' := by
  by_cases hk : k' = k
  · rw [hk, set, AList.lookup_insert] at h
    exact Or.inl ⟨hk, (Option.some.inj h).symm⟩
  · rw [set, AList.lookup_insert_ne hk] at h
    exact Or.inr h

theorem lookup_of_delete {m : GoMap K V} {k' : K} (h : (m.delete k).lookup k' = some v) :
    m.lookup k' = some v := by
  by_cases hk : k' = k
  · rw [hk, delete, AList.lookup_erase] at h
    cases h
  · rwa [delete, AList.lookup_erase_ne hk] at h

theorem isSome_lookup_delete {m : GoMap K V} {k' : K} :
    ((m.delete k).lookup k').isSome = true ↔ (m.lookup k').isSome = true ∧ k' ≠ k := by
  by_cases hk : k' = k
  · subst hk
    rw [delete, AList.lookup_erase]
    simp
  · rw [delete, AList.lookup_erase_ne hk]
    simp [hk]

@[simp] theorem setAll_nil : m.setAll [] = m := rfl

@[simp] theorem setAll_cons (k : K) (v : V) (l : List (K × V)) :
    m.setAll ((k, v) :: l) = (m.set k v).setAll l := rfl

theorem setAll_append (l l' : List (K × V)) : m.setAll (l ++ l') = (m.setAll l).setAll l' := by
  rw [setAll, setAll, setAll, List.foldl_append]

/-- After a loop of assignments a key holds the last value assigned to it, or
what it held before if the loop never touched it. -/
theorem lookup_setAll (l : List (K × V)) (k : K) :
    (m.setAll l).lookup k
      = ((l.filter fun kv => kv.1 = k).getLast?.map Prod.snd).or (m.lookup k) := by
  induction l generalizing m with
  | nil => simp
  | cons kv l ih =>
    obtain ⟨k', v⟩ := kv
    rw [setAll_cons, ih, List.filter_cons]
    by_cases hk : k' = k
    · subst hk
      rw [if_pos (by simp), AList.lookup_insert, List.getLast?_cons]
      cases (l.filter fun kv => kv.1 = k').getLast? <;> simp
    · rw [if_neg (by simpa using hk), AList.lookup_insert_ne (Ne.symm hk)]

theorem lookup_setAll_of_not_mem (h : ∀ kv ∈ l, kv.1 ≠ k) : (m.setAll l).lookup k = m.lookup k := by
  have hnil : l.filter (fun kv => kv.1 = k) = [] := by
    rw [List.filter_eq_nil_iff]
    intro kv hkv
    simpa using h kv hkv
  rw [lookup_setAll, hnil]
  simp

/-- A key assigned at least once holds one of the values assigned to it. -/
theorem lookup_setAll_of_mem (h : ∃ kv ∈ l, kv.1 = k) :
    ∃ v, (k, v) ∈ l ∧ (m.setAll l).lookup k = some v := by
  obtain ⟨kv₀, hkv₀, hk₀⟩ := h
  have hne : l.filter (fun kv => kv.1 = k) ≠ [] :=
    List.ne_nil_of_mem (List.mem_filter.2 ⟨hkv₀, by simpa using hk₀⟩)
  obtain ⟨⟨k', v⟩, hlast⟩ : ∃ kv, (l.filter fun kv => kv.1 = k).getLast? = some kv :=
    ⟨_, List.getLast?_eq_some_getLast hne⟩
  have hmem := List.mem_of_getLast? hlast
  rw [List.mem_filter] at hmem
  obtain ⟨hkl, hk'⟩ := hmem
  have hk : k' = k := by simpa using hk'
  subst hk
  exact ⟨v, hkl, by rw [lookup_setAll, hlast]; rfl⟩

theorem mem_of_lookup_ofList (h : (ofList l).lookup k = some v) : (k, v) ∈ l := by
  by_cases hmem : ∃ kv ∈ l, kv.1 = k
  · obtain ⟨v', hv', hlookup⟩ := lookup_setAll_of_mem ∅ hmem
    rwa [Option.some.inj (h.symm.trans hlookup)]
  · have hnone := lookup_setAll_of_not_mem ∅ fun kv hkv hk => hmem ⟨kv, hkv, hk⟩
    cases h.symm.trans hnone

/-- After a loop that assigns one value to several keys, they all hold it. -/
theorem lookup_setAll_const {α : Type} (l : List α) (f : α → K) (v : V) (k : K) :
    (m.setAll (l.map fun a => (f a, v))).lookup k
      = if ∃ a ∈ l, f a = k then some v else m.lookup k := by
  split
  · rename_i hmem
    obtain ⟨a, ha, hk⟩ := hmem
    have hentry : (k, v) ∈ l.map fun a => (f a, v) := List.mem_map.2 ⟨a, ha, by rw [hk]⟩
    obtain ⟨v', hv', hlookup⟩ := m.lookup_setAll_of_mem ⟨(k, v), hentry, rfl⟩
    obtain ⟨a', -, heq⟩ := List.mem_map.1 hv'
    rw [hlookup, (Prod.mk.inj heq).2]
  · rename_i hmem
    refine m.lookup_setAll_of_not_mem fun kv hkv hk => hmem ?_
    obtain ⟨a, ha, rfl⟩ := List.mem_map.1 hkv
    exact ⟨a, ha, hk⟩

/-! ## Deleting in a loop -/

/-- A loop over some entries that deletes the keys of those that meet a condition. -/
def deleteAll (m : GoMap K V) (c : K × V → Bool) (l : List (K × V)) : GoMap K V :=
  l.foldl (fun m kv => if c kv then m.delete kv.1 else m) m

theorem deleteAll_cons (c : K × V → Bool) (kv : K × V) (l : List (K × V)) :
    m.deleteAll c (kv :: l) = (if c kv then m.delete kv.1 else m).deleteAll c l := rfl

theorem lookup_deleteAll_eq_none {c : K × V → Bool} (hmem : (k, v) ∈ l) (hc : c (k, v) = true) :
    (m.deleteAll c l).lookup k = none := by
  have hgone : ∀ (l : List (K × V)) (m : GoMap K V), m.lookup k = none →
      (m.deleteAll c l).lookup k = none := by
    intro l
    induction l with
    | nil => exact fun m hm => hm
    | cons kv l ih =>
      intro m hm
      rw [deleteAll_cons]
      apply ih
      by_cases hkv : c kv = true
      · rw [if_pos hkv]
        by_cases hk : k = kv.1
        · rw [hk, AList.lookup_erase]
        · rw [AList.lookup_erase_ne hk, hm]
      · rw [if_neg hkv, hm]
  obtain ⟨front, back, rfl⟩ := List.append_of_mem hmem
  rw [deleteAll, List.foldl_append, List.foldl_cons, if_pos hc]
  exact hgone back _ (AList.lookup_erase _ _)

theorem lookup_deleteAll_of_forall {c : K × V → Bool} (h : ∀ kv ∈ l, kv.1 = k → c kv = false) :
    (m.deleteAll c l).lookup k = m.lookup k := by
  induction l generalizing m with
  | nil => rfl
  | cons kv l ih =>
    rw [deleteAll_cons, ih _ fun kv' hkv' => h kv' (List.mem_cons_of_mem kv hkv')]
    by_cases hkv : c kv = true
    · have hk : k ≠ kv.1 := fun hk => by
        rw [h kv List.mem_cons_self hk.symm] at hkv
        cases hkv
      rw [if_pos hkv, AList.lookup_erase_ne hk]
    · rw [if_neg hkv]

/-- A loop over a map that deletes the entries that meet a condition. -/
theorem lookup_deleteAll_pairs (c : K × V → Bool) :
    (m.deleteAll c m.pairs).lookup k = some v ↔ m.lookup k = some v ∧ c (k, v) = false := by
  cases hlookup : m.lookup k with
  | none =>
    rw [lookup_deleteAll_of_forall, hlookup]
    · simp
    · rintro ⟨k', v'⟩ hmem rfl
      exact absurd ((mem_pairs.1 hmem).symm.trans hlookup) (by simp)
  | some v' =>
    by_cases hc : c (k, v') = true
    · rw [lookup_deleteAll_eq_none m (mem_pairs.2 hlookup) hc]
      constructor
      · exact fun h => absurd h (by simp)
      · rintro ⟨hv, hc'⟩
        rw [← Option.some.inj hv, hc] at hc'
        exact absurd hc' (by simp)
    · rw [lookup_deleteAll_of_forall, hlookup]
      · constructor
        · intro hv
          rw [← Option.some.inj hv]
          exact ⟨rfl, eq_false_of_ne_true hc⟩
        · exact And.left
      · rintro ⟨k', v''⟩ hmem rfl
        rw [← Option.some.inj (hlookup.symm.trans (mem_pairs.1 hmem))]
        exact eq_false_of_ne_true hc

end GoMap
