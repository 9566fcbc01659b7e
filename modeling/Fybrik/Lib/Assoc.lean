import Mathlib.Data.List.Dedup
import Mathlib.Data.List.Sort
import Mathlib.Data.String.Basic

/-!
# Association lists and ordered lists of strings

Maps inside of trees are association lists, which are read by `List.lookup`.

* `Assoc.set` — the assignment to a key, which keeps a list in the order of its keys;
  `lookup_set`, `lookup_set_ne` say what is read afterwards.
* `Assoc.Ordered` — the keys ascend.  Such a list is given by what is read from it
  (`Ordered.eq_of_lookup`).
* `Assoc.modify` — a change to what is there; changes commute (`modify_comm`).
* `sortUnique` — a list is sorted and freed of repetitions.  Two lists with the same
  members become the same list (`sortUnique_congr`), so additions can be made in any order.
* `records` — the members of a list that are greater than all before them.  No member is
  missing if and only if the members ascend when each is mentioned for the first time
  (`records_complete_iff`).
-/

namespace Assoc

variable {α : Type}

/-- The assignment `m[k] = v`. -/
def set (k : String) (v : α) : List (String × α) → List (String × α)
  | [] => [(k, v)]
  | kv :: l =>
    if kv.1 = k then (k, v) :: l else if k < kv.1 then (k, v) :: kv :: l else kv :: set k v l

theorem lookup_set (k : String) (v : α) (l : List (String × α)) :
    (set k v l).lookup k = some v := by
  induction l with
  | nil => simp [set]
  | cons kv l ih =>
    rw [set]
    split_ifs with hk hlt
    · simp
    · simp
    · have hne : (k == kv.1) = false := beq_false_of_ne fun h => hk h.symm
      rw [List.lookup_cons, hne, ih]

theorem lookup_set_ne {k k' : String} (h : k' ≠ k) (v : α) (l : List (String × α)) :
    (set k v l).lookup k' = l.lookup k' := by
  have hne : (k' == k) = false := beq_false_of_ne h
  induction l with
  | nil => simp [set, h]
  | cons kv l ih =>
    rw [set]
    split_ifs with hk hlt
    · rw [List.lookup_cons, List.lookup_cons, hk, hne]
    · rw [List.lookup_cons, hne]
    · rw [List.lookup_cons, List.lookup_cons, ih]

theorem lookup_set_eq (k k' : String) (v : α) (l : List (String × α)) :
    (set k v l).lookup k' = if k' = k then some v else l.lookup k' := by
  split_ifs with h
  · rw [h, lookup_set]
  · exact lookup_set_ne h v l

/-- What is read of the values after an assignment depends on what was read before. -/
theorem map_set {β : Type} (f : α → β) (k : String) (v : α) (l : List (String × α)) :
    ((set k v l).map fun kv => (kv.1, f kv.2)) = set k (f v) (l.map fun kv => (kv.1, f kv.2)) := by
  induction l with
  | nil => rfl
  | cons kv l ih =>
    rw [set, List.map_cons, set]
    split_ifs
    · rfl
    · rfl
    · rw [List.map_cons, ih]

/-! ## Lists in the order of their keys -/

/-- The keys ascend. -/
def Ordered (l : List (String × α)) : Prop := l.Pairwise fun kv kv' => kv.1 < kv'.1

instance (l : List (String × α)) : Decidable (Ordered l) :=
  inferInstanceAs (Decidable (l.Pairwise fun kv kv' => kv.1 < kv'.1))

variable {l : List (String × α)}

theorem mem_set {k : String} {v : α} {kv : String × α} (h : kv ∈ set k v l) :
    kv = (k, v) ∨ kv ∈ l := by
  induction l with
  | nil => exact Or.inl (List.mem_singleton.1 h)
  | cons kv' l ih =>
    rw [set] at h
    split_ifs at h with hk hlt
    · exact (List.mem_cons.1 h).imp_right (List.mem_cons_of_mem _)
    · exact List.mem_cons.1 h
    · rcases List.mem_cons.1 h with rfl | h
      · exact Or.inr List.mem_cons_self
      · exact (ih h).imp_right (List.mem_cons_of_mem _)

theorem Ordered.set (h : Ordered l) (k : String) (v : α) : Ordered (set k v l) := by
  induction l with
  | nil => exact List.pairwise_singleton _ _
  | cons kv l ih =>
    obtain ⟨hfirst, hrest⟩ := List.pairwise_cons.1 h
    rw [Assoc.set]
    split_ifs with hk hlt
    · exact List.pairwise_cons.2 ⟨fun kv' hkv' => hk ▸ hfirst kv' hkv', hrest⟩
    · refine List.pairwise_cons.2 ⟨fun kv' hkv' => ?_, h⟩
      rcases List.mem_cons.1 hkv' with rfl | hkv'
      · exact hlt
      · exact hlt.trans (hfirst kv' hkv')
    · refine List.pairwise_cons.2 ⟨fun kv' hkv' => ?_, ih hrest⟩
      rcases mem_set hkv' with rfl | hkv'
      · exact lt_of_le_of_ne (not_lt.1 hlt) hk
      · exact hfirst kv' hkv'

theorem mem_of_lookup {k : String} {v : α} (h : l.lookup k = some v) : (k, v) ∈ l := by
  obtain ⟨l₁, l₂, rfl, -⟩ := List.lookup_eq_some_iff.1 h
  simp

theorem Ordered.nodup (h : Ordered l) : (l.map Prod.fst).Nodup := by
  rw [List.Nodup, List.pairwise_map]
  exact h.imp fun hlt => hlt.ne

theorem Ordered.lookup_of_mem (h : Ordered l) {kv : String × α} (hkv : kv ∈ l) :
    l.lookup kv.1 = some kv.2 := by
  obtain ⟨l₁, l₂, rfl⟩ := List.append_of_mem hkv
  refine List.lookup_eq_some_iff.2 ⟨l₁, l₂, rfl, fun kv' hkv' => bne_iff_ne.2 ?_⟩
  exact ((List.pairwise_append.1 h).2.2 kv' hkv' kv List.mem_cons_self).ne'

/-- Lists in the order of their keys from which the same is read are the same. -/
theorem Ordered.eq_of_lookup {l' : List (String × α)} (h : Ordered l) (h' : Ordered l')
    (hlookup : ∀ k, l.lookup k = l'.lookup k) : l = l' := by
  have hmem : ∀ {l l' : List (String × α)}, Ordered l →
      (∀ k, l.lookup k = l'.lookup k) → ∀ kv ∈ l, kv ∈ l' := fun h hlookup kv hkv =>
    mem_of_lookup ((hlookup kv.1).symm.trans (h.lookup_of_mem hkv))
  have hnodup : ∀ {l : List (String × α)}, Ordered l → l.Nodup := fun h => h.nodup.of_map _
  have hperm : l.Perm l' := (List.perm_ext_iff_of_nodup (hnodup h) (hnodup h')).2 fun kv =>
    ⟨hmem h hlookup kv, hmem h' (fun k => (hlookup k).symm) kv⟩
  exact hperm.eq_of_pairwise (fun kv kv' _ _ hlt hlt' => absurd (hlt.trans hlt') (lt_irrefl _))
    h h'

/-! ## Changes in place -/

/-- A change to the value at a key, if there is one. -/
def modify (k : String) (f : α → α) : List (String × α) → List (String × α)
  | [] => []
  | kv :: l => if kv.1 = k then (kv.1, f kv.2) :: l else kv :: modify k f l

theorem lookup_modify (k k' : String) (f : α → α) (l : List (String × α)) :
    (modify k f l).lookup k' = if k' = k then (l.lookup k').map f else l.lookup k' := by
  induction l with
  | nil => simp [modify]
  | cons kv l ih =>
    rw [modify]
    by_cases hk : kv.1 = k
    · rw [if_pos hk, List.lookup_cons, List.lookup_cons, hk]
      by_cases hk' : k' = k
      · simp [hk']
      · simp [hk', beq_false_of_ne hk']
    · rw [if_neg hk, List.lookup_cons, List.lookup_cons, ih]
      by_cases hk' : k' = k
      · subst hk'
        have hne : (k' == kv.1) = false := beq_false_of_ne fun h => hk h.symm
        rw [hne]
      · simp [hk']

/-- Changes at different keys commute, and so do those at one key that commute there. -/
theorem modify_comm {k k' : String} {f g : α → α} (h : k = k' → ∀ a, f (g a) = g (f a))
    (l : List (String × α)) : modify k f (modify k' g l) = modify k' g (modify k f l) := by
  induction l with
  | nil => rfl
  | cons kv l ih =>
    by_cases hk : kv.1 = k
    · by_cases hk' : kv.1 = k'
      · simp [modify, hk, ← hk.symm.trans hk', h (hk.symm.trans hk')]
      · simp [modify, hk, show ¬ k = k' from hk ▸ hk']
    · by_cases hk' : kv.1 = k'
      · simp [modify, hk', show ¬ k' = k from hk' ▸ hk]
      · simp [modify, hk, hk', ih]

/-- A change that some reading of the values does not see. -/
theorem map_modify {β : Type} {f : α → α} {g : α → β} (h : ∀ a, g (f a) = g a) (k : String)
    (l : List (String × α)) :
    ((modify k f l).map fun kv => (kv.1, g kv.2)) = l.map fun kv => (kv.1, g kv.2) := by
  induction l with
  | nil => rfl
  | cons kv l ih =>
    rw [modify]
    split
    · rw [List.map_cons, List.map_cons, h]
    · rw [List.map_cons, List.map_cons, ih]

theorem map_fst_modify (k : String) (f : α → α) (l : List (String × α)) :
    (modify k f l).map Prod.fst = l.map Prod.fst := by
  induction l with
  | nil => rfl
  | cons kv l ih =>
    rw [modify]
    split
    · rfl
    · rw [List.map_cons, List.map_cons, ih]

theorem lookup_map {β : Type} (f : α → β) (l : List (String × α)) (k : String) :
    (l.map fun kv => (kv.1, f kv.2)).lookup k = (l.lookup k).map f := by
  induction l with
  | nil => rfl
  | cons kv l ih =>
    rw [List.map_cons, List.lookup_cons, List.lookup_cons, ih]
    cases k == kv.1 <;> rfl

end Assoc

/-- The list in order and without repetitions. -/
def sortUnique (l : List String) : List String := l.dedup.insertionSort (· ≤ ·)

@[simp] theorem mem_sortUnique {l : List String} {x : String} : x ∈ sortUnique l ↔ x ∈ l := by
  rw [sortUnique, List.mem_insertionSort, List.mem_dedup]

theorem sortUnique_congr {l l' : List String} (h : ∀ x, x ∈ l ↔ x ∈ l') :
    sortUnique l = sortUnique l' := by
  have hdedup : l.dedup.Perm l'.dedup := by
    rw [List.perm_ext_iff_of_nodup l.nodup_dedup l'.nodup_dedup]
    simpa using h
  have hperm : (sortUnique l).Perm (sortUnique l') :=
    (List.perm_insertionSort _ _).trans (hdedup.trans (List.perm_insertionSort _ _).symm)
  exact hperm.eq_of_pairwise (fun _ _ _ _ => le_antisymm) (List.pairwise_insertionSort _ _)
    (List.pairwise_insertionSort _ _)

theorem sortUnique_append_comm (l extra extra' : List String) :
    sortUnique (sortUnique (l ++ extra) ++ extra')
      = sortUnique (sortUnique (l ++ extra') ++ extra) :=
  sortUnique_congr fun x => by
    simp only [List.mem_append, mem_sortUnique]
    tauto

/-! ## Records -/

section Records

variable {α : Type} [LinearOrder α]

/-- The members of a list that are greater than a bound and than all members before them. -/
def recordsAbove (last : α) : List α → List α
  | [] => []
  | x :: l => if last < x then x :: recordsAbove x l else recordsAbove last l

/-- The members of a list that are greater than all members before them. -/
def records : List α → List α
  | [] => []
  | x :: l => x :: recordsAbove x l

/-- The members ascend, apart from those that have been mentioned before. -/
def mentionsAscend : List α → List α → Bool
  | _, [] => true
  | seen, x :: l => (decide (x ∈ seen) || seen.all fun y => decide (y < x))
      && mentionsAscend (x :: seen) l

variable {last x : α} {l l' : List α}

theorem mem_of_mem_recordsAbove (h : x ∈ recordsAbove last l) : x ∈ l ∧ last < x := by
  induction l generalizing last with
  | nil => cases h
  | cons y l ih =>
    rw [recordsAbove] at h
    split_ifs at h with hlt
    · rcases List.mem_cons.1 h with rfl | h
      · exact ⟨List.mem_cons_self, hlt⟩
      · exact ⟨List.mem_cons_of_mem _ (ih h).1, hlt.trans (ih h).2⟩
    · exact ⟨List.mem_cons_of_mem _ (ih h).1, (ih h).2⟩

theorem mem_of_mem_records (h : x ∈ records l) : x ∈ l := by
  cases l with
  | nil => exact h
  | cons y l =>
    rcases List.mem_cons.1 h with rfl | h
    · exact List.mem_cons_self
    · exact List.mem_cons_of_mem _ (mem_of_mem_recordsAbove h).1

theorem recordsAbove_append_left (last : α) (l l' : List α) :
    recordsAbove last (recordsAbove last l ++ l') = recordsAbove last (l ++ l') := by
  induction l generalizing last with
  | nil => rfl
  | cons y l ih =>
    rw [recordsAbove, List.cons_append, recordsAbove]
    split_ifs with hlt
    · rw [List.cons_append, recordsAbove, if_pos hlt, ih]
    · exact ih last

/-- Records are taken of a list at once or as it grows. -/
theorem records_append_left (l l' : List α) : records (records l ++ l') = records (l ++ l') := by
  cases l with
  | nil => rfl
  | cons y l => rw [records, List.cons_append, records, List.cons_append, records,
      recordsAbove_append_left]

/-- What is seen and greater than all before is kept as long as the members ascend. -/
theorem recordsAbove_complete_iff {seen : List α} (hlast : last ∈ seen)
    (hmax : ∀ y ∈ seen, y ≤ last) :
    (∀ x ∈ l, x ∈ seen ∨ x ∈ recordsAbove last l) ↔ mentionsAscend seen l = true := by
  induction l generalizing last seen with
  | nil => simp [mentionsAscend]
  | cons y l ih =>
    rw [mentionsAscend, Bool.and_eq_true, Bool.or_eq_true, decide_eq_true_iff, List.all_eq_true,
      recordsAbove]
    by_cases hlt : last < y
    · have hall : ∀ z ∈ seen, decide (z < y) = true := fun z hz =>
        decide_eq_true ((hmax z hz).trans_lt hlt)
      have hmax' : ∀ z ∈ y :: seen, z ≤ y := by
        intro z hz
        rcases List.mem_cons.1 hz with rfl | hz
        · exact le_rfl
        · exact ((hmax z hz).trans_lt hlt).le
      rw [if_pos hlt, ← ih List.mem_cons_self hmax', and_iff_right (Or.inr hall)]
      simp only [List.mem_cons, forall_eq_or_imp, true_or, or_true, true_and]
      exact forall₂_congr fun x _ => by rw [← or_assoc, or_comm (a := x ∈ seen)]
    · have hnot : ¬ ∀ z ∈ seen, decide (z < y) = true := fun hall =>
        hlt (of_decide_eq_true (hall last hlast))
      rw [if_neg hlt, or_iff_left hnot]
      by_cases hseen : y ∈ seen
      · have hmax' : ∀ z ∈ y :: seen, z ≤ last := by
          intro z hz
          rcases List.mem_cons.1 hz with rfl | hz
          · exact hmax z hseen
          · exact hmax z hz
        rw [← ih (List.mem_cons_of_mem _ hlast) hmax', and_iff_right hseen]
        simp only [List.mem_cons, forall_eq_or_imp, hseen, true_or, true_and]
        refine forall₂_congr fun x _ => ⟨fun h => h.imp_left Or.inr, fun h => ?_⟩
        rcases h with (rfl | h) | h
        · exact Or.inl hseen
        · exact Or.inl h
        · exact Or.inr h
      · refine iff_of_false (fun h => ?_) fun h => hseen h.1
        rcases h y List.mem_cons_self with h | h
        · exact hseen h
        · exact hlt (mem_of_mem_recordsAbove h).2

/-- All members are among the records if and only if they ascend. -/
theorem records_complete_iff : (∀ x ∈ l, x ∈ records l) ↔ mentionsAscend [] l = true := by
  cases l with
  | nil => simp [mentionsAscend]
  | cons y l =>
    have hrest := recordsAbove_complete_iff (l := l) (List.mem_singleton_self y)
      fun z hz => (List.mem_singleton.1 hz).le
    simpa [mentionsAscend, records] using hrest

end Records
