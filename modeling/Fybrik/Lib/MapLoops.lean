import Fybrik.Lib.GoMap
import Mathlib.Data.List.Induction

/-!
# Loops that fill a map

What is in a map after a loop over a list, and what was lost on the way.

* `ofList l` — assignments: `ofList_pairs_perm` says that the `survivors` remain,
  the assignments whose key is not assigned again; the others are `overwritten`.
* `groupBy key l` — every element is appended to the list under its key:
  `groupBy_perm` says that nothing is lost.
* `unifyBy key combine l` — every element is combined with what is under its key:
  `Unifies.perm` says that what `combine` drops of the `repeated` elements is all
  that is lost.
-/

namespace GoMap

variable {K V α β : Type} [DecidableEq K]

/-! ## Assignments to a map, as lists -/

variable (m : GoMap K V)

theorem pairs_set (k : K) (v : V) :
    (m.set k v).pairs = (k, v) :: (m.delete k).pairs := rfl

theorem pairs_perm_of_lookup {m : GoMap K V} {k : K} {w : V} (h : m.lookup k = some w) :
    m.pairs.Perm ((k, w) :: (m.delete k).pairs) := by
  have hmem : (k, w) ∈ m.pairs := mem_pairs.2 h
  have hkeys : k ∈ m.entries.keys := AList.lookup_isSome.1 (by rw [h]; rfl)
  obtain ⟨b, l₁, l₂, hl₁, heq, herase⟩ := List.exists_of_kerase hkeys
  have hb : b = w := by
    have hlookup : m.lookup k = some b := AList.mem_lookup_iff.2 (by rw [heq]; simp)
    exact Option.some.inj (hlookup.symm.trans h)
  have hdelete : (m.delete k).pairs = (l₁ ++ l₂).map fun e => (e.1, e.2) := by
    rw [← herase]
    rfl
  rw [hdelete, pairs, heq, hb, List.map_append, List.map_cons, List.map_append]
  exact List.perm_middle

theorem pairs_delete_of_lookup {m : GoMap K V} {k : K} (h : m.lookup k = none) :
    (m.delete k).pairs = m.pairs := by
  have hkeys : k ∉ m.entries.keys := AList.lookup_eq_none.1 h
  show (List.kerase k m.entries).map _ = _
  rw [List.kerase_of_notMem_keys hkeys]
  rfl

omit [DecidableEq K] in
theorem nodup_keys_pairs : (m.pairs.map Prod.fst).Nodup := by
  rw [pairs, List.map_map]
  exact m.nodupKeys

omit [DecidableEq K] in
theorem nodup_pairs : m.pairs.Nodup := m.nodup_keys_pairs.of_map _

/-- The assignments whose key is not assigned again later. -/
def survivors : List (K × V) → List (K × V)
  | [] => []
  | kv :: l => if kv.1 ∈ l.map Prod.fst then survivors l else kv :: survivors l

/-- The assignments whose key is assigned again later. -/
def overwritten : List (K × V) → List (K × V)
  | [] => []
  | kv :: l => if kv.1 ∈ l.map Prod.fst then kv :: overwritten l else overwritten l

theorem survivors_overwritten_perm (l : List (K × V)) : (survivors l ++ overwritten l).Perm l := by
  induction l with
  | nil => exact List.Perm.refl _
  | cons kv l ih =>
    rw [survivors, overwritten]
    split
    · exact List.perm_middle.trans (ih.cons kv)
    · exact ih.cons kv

variable {l : List (K × V)}

theorem fst_mem_of_mem_survivors {kv : K × V} (h : kv ∈ survivors l) : kv.1 ∈ l.map Prod.fst := by
  have hmem := (survivors_overwritten_perm l).subset (List.mem_append_left _ h)
  exact List.mem_map.2 ⟨kv, hmem, rfl⟩

theorem nodup_keys_survivors (l : List (K × V)) : ((survivors l).map Prod.fst).Nodup := by
  induction l with
  | nil => exact List.nodup_nil
  | cons kv l ih =>
    rw [survivors]
    split
    · exact ih
    · rename_i hnot
      rw [List.map_cons, List.nodup_cons]
      refine ⟨fun hmem => ?_, ih⟩
      obtain ⟨kv', hkv', heq⟩ := List.mem_map.1 hmem
      exact hnot (heq ▸ fst_mem_of_mem_survivors hkv')

/-- The survivor with a key is the last assignment to it. -/
theorem mem_survivors {k : K} {v : V} :
    (k, v) ∈ survivors l ↔ (l.filter fun kv => kv.1 = k).getLast?.map Prod.snd = some v := by
  induction l with
  | nil => simp [survivors]
  | cons kv l ih =>
    obtain ⟨k', v'⟩ := kv
    by_cases hk : k' = k
    · subst hk
      rw [List.filter_cons_of_pos (by simp), List.getLast?_cons, survivors]
      by_cases hmem : k' ∈ l.map Prod.fst
      · obtain ⟨kv', hkv', heq⟩ := List.mem_map.1 hmem
        have hne : l.filter (fun kv => kv.1 = k') ≠ [] :=
          List.ne_nil_of_mem (List.mem_filter.2 ⟨hkv', by simpa using heq⟩)
        rw [if_pos hmem, ih, List.getLast?_eq_some_getLast hne]
        rfl
      · have hnil : l.filter (fun kv => kv.1 = k') = [] := by
          rw [List.filter_eq_nil_iff]
          intro kv' hkv' heq
          exact hmem (List.mem_map.2 ⟨kv', hkv', by simpa using heq⟩)
        have hnot : (k', v) ∉ survivors l := fun h => hmem (fst_mem_of_mem_survivors h)
        rw [if_neg hmem, hnil, List.mem_cons]
        simp [hnot, eq_comm]
    · rw [List.filter_cons_of_neg (by simpa using hk), ← ih, survivors]
      split
      · exact Iff.rfl
      · simp [Ne.symm hk]

/-- After a loop of assignments the survivors remain. -/
theorem ofList_pairs_perm (l : List (K × V)) : (ofList l).pairs.Perm (survivors l) := by
  refine (List.perm_ext_iff_of_nodup (nodup_pairs _) ((nodup_keys_survivors l).of_map _)).2 ?_
  rintro ⟨k, v⟩
  rw [mem_pairs, mem_survivors, ofList, lookup_setAll, AList.lookup_empty, Option.or_none]

/-- Nothing is lost if whatever is overwritten contributes nothing. -/
theorem flatMap_overwritten_eq_nil_iff (f : K × V → List β) (l : List (K × V)) :
    (overwritten l).flatMap f = [] ↔ l.Pairwise fun a b => a.1 = b.1 → f a = [] := by
  induction l with
  | nil => simp [overwritten]
  | cons kv l ih =>
    rw [overwritten, List.pairwise_cons, ← ih]
    split
    · rename_i hmem
      rw [List.flatMap_cons, List.append_eq_nil_iff]
      refine and_congr_left fun _ => ⟨fun h b _ _ => h, fun h => ?_⟩
      obtain ⟨b, hb, heq⟩ := List.mem_map.1 hmem
      exact h b hb heq.symm
    · rename_i hnot
      refine ⟨fun h => ⟨fun b hb heq => absurd (List.mem_map.2 ⟨b, hb, heq.symm⟩) hnot, h⟩,
        fun h => h.2⟩

/-- Assignments to different keys all survive. -/
theorem ofList_pairs_perm_of_nodup (h : (l.map Prod.fst).Nodup) : (ofList l).pairs.Perm l := by
  have hnil : (overwritten l).flatMap (fun kv => [kv]) = [] := by
    rw [flatMap_overwritten_eq_nil_iff]
    exact (List.pairwise_map.1 h).imp fun hne heq => absurd heq hne
  have hnil' : overwritten l = [] := by
    cases ho : overwritten l with
    | nil => rfl
    | cons kv l' => rw [ho] at hnil; simp at hnil
  have hperm := survivors_overwritten_perm l
  rw [hnil', List.append_nil] at hperm
  exact (ofList_pairs_perm l).trans hperm

theorem exists_lookup_ofList_iff {k : K} :
    (∃ v, (ofList l).lookup k = some v) ↔ k ∈ l.map Prod.fst := by
  constructor
  · rintro ⟨v, h⟩
    exact List.mem_map.2 ⟨(k, v), mem_of_lookup_ofList h, rfl⟩
  · intro h
    obtain ⟨v, -, hlookup⟩ := lookup_setAll_of_mem ∅ (List.mem_map.1 h)
    exact ⟨v, hlookup⟩

/-- Every assignment holds in the end exactly if those to the same key agree. -/
theorem forall_lookup_ofList_iff :
    (∀ kv ∈ l, (ofList l).lookup kv.1 = some kv.2) ↔
      ∀ kv ∈ l, ∀ kv' ∈ l, kv.1 = kv'.1 → kv.2 = kv'.2 := by
  constructor
  · intro h kv hkv kv' hkv' hkey
    have heq := h kv hkv
    rw [hkey, h kv' hkv'] at heq
    exact (Option.some.inj heq).symm
  · intro h kv hkv
    obtain ⟨v, hv, hlookup⟩ := lookup_setAll_of_mem ∅ ⟨kv, hkv, rfl⟩
    rw [ofList, hlookup, h kv hkv _ hv rfl]

/-- Assignments to different keys may come in any order. -/
theorem lookup_setAll_perm {l' : List (K × V)} (h : l.Perm l') (hkeys : (l.map Prod.fst).Nodup)
    (k : K) : (m.setAll l).lookup k = (m.setAll l').lookup k := by
  -- at most one assignment to the key is left, so that the order plays no part
  have heq : (l.filter fun kv => kv.1 = k) = l'.filter fun kv => kv.1 = k := by
    have hl : l.Pairwise fun a b => a.1 ≠ b.1 := List.pairwise_map.1 hkeys
    have hl' : l'.Pairwise fun a b => a.1 ≠ b.1 := hl.perm h fun hne => hne.symm
    refine (h.filter fun kv => kv.1 = k).eq_of_pairwise ?_ (hl.filter _) (hl'.filter _)
    intro a b ha hb hne _
    have hak : a.1 = k := of_decide_eq_true (List.mem_filter.1 ha).2
    have hbk : b.1 = k := of_decide_eq_true (List.mem_filter.1 hb).2
    exact absurd (hak.trans hbk.symm) hne
  rw [lookup_setAll, lookup_setAll, heq]

/-- A loop that computes a value for each entry of a map. -/
theorem lookup_ofList_map_pairs {W : Type} (f : K → V → W) (k : K) :
    (ofList (m.pairs.map fun kv => (kv.1, f kv.1 kv.2))).lookup k = (m.lookup k).map (f k) := by
  cases hlookup : m.lookup k with
  | none =>
    refine lookup_setAll_of_not_mem ∅ ?_
    rintro kw hkw rfl
    obtain ⟨⟨k', v⟩, hkv, rfl⟩ := List.mem_map.1 hkw
    rw [mem_pairs, hlookup] at hkv
    cases hkv
  | some v =>
    have hmem : (k, f k v) ∈ m.pairs.map fun kv => (kv.1, f kv.1 kv.2) :=
      List.mem_map.2 ⟨(k, v), mem_pairs.2 hlookup, rfl⟩
    obtain ⟨w, hw, hset⟩ := lookup_setAll_of_mem ∅ ⟨(k, f k v), hmem, rfl⟩
    obtain ⟨⟨k', v'⟩, hkv, heq⟩ := List.mem_map.1 hw
    obtain ⟨rfl, rfl⟩ := Prod.mk.inj heq
    rw [mem_pairs, hlookup] at hkv
    cases hkv
    exact hset

/-- The order in which a loop takes the values of a map.  Any order is possible. -/
structure RangeOrder (K V : Type) where
  values : GoMap K V → List V
  perm : ∀ m, (values m).Perm (m.pairs.map Prod.snd)

/-- The values in the order the map lists them. -/
def RangeOrder.listed : RangeOrder K V := ⟨fun m => m.pairs.map Prod.snd, fun _ => .refl _⟩

/-! ## The values of a map -/

section Values

variable {W : Type} (f g : K → V → W)

/-- A map with the same keys, and values computed from those of `m`. -/
def mapVal (m : GoMap K V) : GoMap K W where
  entries := m.entries.map fun e => ⟨e.1, f e.1 e.2⟩
  nodupKeys := by
    show (List.map Sigma.fst _).Nodup
    rw [List.map_map]
    exact m.nodupKeys

variable (m : GoMap K V)

omit [DecidableEq K] in
theorem pairs_mapVal : (m.mapVal f).pairs = m.pairs.map fun kv => (kv.1, f kv.1 kv.2) := by
  rw [pairs, pairs, mapVal, List.map_map, List.map_map]
  rfl

theorem lookup_mapVal (k : K) : (m.mapVal f).lookup k = (m.lookup k).map (f k) := by
  ext w
  rw [← mem_pairs, pairs_mapVal]
  simp [Option.map_eq_some_iff, mem_pairs]

theorem get_mapVal [Inhabited V] [Inhabited W] {k : K} (h : f k default = default)
    (m : GoMap K V) : (m.mapVal f).get k = f k (m.get k) := by
  rw [get, get, lookup_mapVal]
  cases m.lookup k with
  | none => exact h.symm
  | some v => rfl

theorem mapVal_delete (k : K) : (m.delete k).mapVal f = (m.mapVal f).delete k := by
  refine AList.ext ?_
  show (List.kerase k m.entries).map _ = List.kerase k (m.entries.map _)
  rw [List.kerase, List.kerase, List.eraseP_map]
  rfl

theorem mapVal_set (k : K) (v : V) : (m.set k v).mapVal f = (m.mapVal f).set k (f k v) := by
  refine AList.ext ?_
  show _ :: ((m.delete k).mapVal f).entries = _ :: ((m.mapVal f).delete k).entries
  rw [mapVal_delete]

variable {f g}

theorem mapVal_congr {m : GoMap K V} (h : ∀ k v, m.lookup k = some v → f k v = g k v) :
    m.mapVal f = m.mapVal g := by
  refine AList.ext ?_
  refine List.map_congr_left ?_
  rintro ⟨k, v⟩ hkv
  rw [h k v (AList.mem_lookup_iff.2 hkv)]

omit [DecidableEq K] in
theorem mapVal_mapVal {X : Type} (g : K → W → X) :
    (m.mapVal f).mapVal g = m.mapVal fun k v => g k (f k v) := by
  refine AList.ext ?_
  show (m.entries.map _).map _ = m.entries.map _
  rw [List.map_map]
  rfl

theorem mapVal_eq_self {m : GoMap K V} {f : K → V → V}
    (h : ∀ k v, m.lookup k = some v → f k v = v) : m.mapVal f = m := by
  refine AList.ext ?_
  refine (List.map_congr_left ?_).trans (List.map_id _)
  rintro ⟨k, v⟩ hkv
  exact congrArg (Sigma.mk k) (h k v (AList.mem_lookup_iff.2 hkv))

/-- What a key held before plays no part after an assignment to it. -/
theorem mapVal_set_congr {m : GoMap K V} {k : K}
    (h : ∀ k' v, m.lookup k' = some v → k' ≠ k → f k' v = g k' v) (w : W) :
    (m.mapVal f).set k w = (m.mapVal g).set k w := by
  have hdelete : (m.delete k).mapVal f = (m.delete k).mapVal g := by
    refine mapVal_congr ?_
    intro k' v hlookup
    have hne : k' ≠ k := (isSome_lookup_delete.1 (Option.isSome_iff_exists.2 ⟨v, hlookup⟩)).2
    exact h k' v (lookup_of_delete hlookup) hne
  refine AList.ext ?_
  show _ :: ((m.mapVal f).delete k).entries = _ :: ((m.mapVal g).delete k).entries
  rw [← mapVal_delete, hdelete, mapVal_delete]

end Values

/-! ## Grouping -/

/-- Every element is appended to the list under its key. -/
def groupBy (key : α → K) (l : List α) : GoMap K (List α) :=
  l.foldl (fun m a => m.set (key a) (m.get (key a) ++ [a])) ∅

variable (key : α → K)

theorem groupBy_append (l : List α) (a : α) :
    groupBy key (l ++ [a])
      = (groupBy key l).set (key a) ((groupBy key l).get (key a) ++ [a]) := by
  rw [groupBy, List.foldl_append]
  rfl

theorem get_groupBy (l : List α) (k : K) : (groupBy key l).get k = l.filter fun a => key a = k := by
  induction l using List.reverseRecOn with
  | nil => rfl
  | append_singleton l a ih =>
    rw [groupBy_append, List.filter_append]
    by_cases hk : key a = k
    · subst hk
      rw [get_set, ih]
      simp
    · rw [get_set_ne _ _ (Ne.symm hk), ih]
      simp [hk]

theorem eq_filter_of_mem_groupBy {key : α → K} {l l' : List α} {k : K}
    (h : (k, l') ∈ (groupBy key l).pairs) : l' = l.filter fun a => key a = k := by
  rw [← get_groupBy, get_of_lookup (mem_pairs.1 h)]

theorem lookup_groupBy_of_mem {l : List α} {a : α} (h : a ∈ l) :
    (groupBy key l).lookup (key a) = some (l.filter fun b => key b = key a) := by
  have hmem : a ∈ (groupBy key l).get (key a) := by
    rw [get_groupBy]
    exact List.mem_filter.2 ⟨h, decide_eq_true rfl⟩
  cases hlookup : (groupBy key l).lookup (key a) with
  | none =>
    rw [get_of_lookup_none hlookup] at hmem
    cases hmem
  | some l' => rw [← get_groupBy, get_of_lookup hlookup]

theorem lookup_groupBy_eq_none {l : List α} {k : K} (h : ∀ a ∈ l, key a ≠ k) :
    (groupBy key l).lookup k = none := by
  induction l using List.reverseRecOn with
  | nil => rfl
  | append_singleton l a ih =>
    rw [groupBy_append, AList.lookup_insert_ne (h a (by simp)).symm]
    exact ih fun b hb => h b (List.mem_append_left _ hb)

/-- The group of a key depends only on the elements that have it. -/
theorem lookup_groupBy_congr {key : α → K} {l l' : List α} {k : K}
    (h : (l.filter fun a => key a = k) = l'.filter fun a => key a = k) :
    (groupBy key l).lookup k = (groupBy key l').lookup k := by
  cases hl : l.filter fun a => key a = k with
  | nil =>
    have hnone : ∀ l₁ : List α, (l₁.filter fun a => key a = k) = [] →
        (groupBy key l₁).lookup k = none := by
      intro l₁ hnil
      refine lookup_groupBy_eq_none key fun a ha hkey => ?_
      exact List.filter_eq_nil_iff.1 hnil a ha (decide_eq_true hkey)
    rw [hnone l hl, hnone l' (h.symm.trans hl)]
  | cons a _ =>
    have ha : a ∈ l.filter fun a => key a = k := by
      rw [hl]
      exact List.mem_cons_self
    have ha' := h ▸ ha
    obtain rfl := of_decide_eq_true (List.mem_filter.1 ha).2
    rw [lookup_groupBy_of_mem key (List.mem_filter.1 ha).1,
      lookup_groupBy_of_mem key (List.mem_filter.1 ha').1, h]

theorem groupBy_map (key : β → K) (f : α → β) (l : List α) :
    groupBy key (l.map f) = (groupBy (fun a => key (f a)) l).mapVal fun _ => List.map f := by
  induction l using List.reverseRecOn with
  | nil => rfl
  | append_singleton l a ih =>
    rw [List.map_append, List.map_singleton, groupBy_append, groupBy_append, mapVal_set, ← ih,
      get_groupBy, get_groupBy, List.filter_map, List.map_append, List.map_singleton]
    rfl

theorem groupBy_perm (l : List α) : ((groupBy key l).pairs.flatMap Prod.snd).Perm l := by
  induction l using List.reverseRecOn with
  | nil => exact List.Perm.refl _
  | append_singleton l a ih =>
    rw [groupBy_append, pairs_set, List.flatMap_cons]
    cases h : (groupBy key l).lookup (key a) with
    | none =>
      rw [get_of_lookup_none h, pairs_delete_of_lookup h]
      exact (List.perm_append_comm).trans (ih.append_right [a])
    | some w =>
      have hperm := ((pairs_perm_of_lookup h).flatMap_right Prod.snd).symm.trans ih
      rw [List.flatMap_cons] at hperm
      rw [get_of_lookup h, List.append_assoc]
      refine (List.Perm.append_left w List.perm_append_comm).trans ?_
      rw [← List.append_assoc]
      exact hperm.append_right [a]

/-! ## Unifying -/

/-- Every element is combined with what is under its key. -/
def unifyStep (key : α → K) (combine : α → α → α) (m : GoMap K α) (a : α) : GoMap K α :=
  match m.lookup (key a) with
  | none => m.set (key a) a
  | some b => m.set (key a) (combine b a)

@[inherit_doc unifyStep]
def unifyBy (key : α → K) (combine : α → α → α) (l : List α) : GoMap K α :=
  l.foldl (unifyStep key combine) ∅

/-- The elements whose key has been seen before, in `seen` or in the list. -/
def repeated (key : α → K) : List K → List α → List α
  | _, [] => []
  | seen, a :: l =>
    if key a ∈ seen then a :: repeated key seen l else repeated key (key a :: seen) l

theorem flatMap_repeated_eq_nil_iff (dropped : α → List β) (seen : List K) (l : List α) :
    (repeated key seen l).flatMap dropped = [] ↔
      (∀ b ∈ l, key b ∈ seen → dropped b = []) ∧
        l.Pairwise fun a b => key a = key b → dropped b = [] := by
  induction l generalizing seen with
  | nil => simp [repeated]
  | cons a l ih =>
    rw [repeated, List.forall_mem_cons, List.pairwise_cons]
    split
    · rename_i hseen
      rw [List.flatMap_cons, List.append_eq_nil_iff, ih]
      constructor
      · rintro ⟨ha, hl, hpair⟩
        exact ⟨⟨fun _ => ha, hl⟩, fun b hb heq => hl b hb (heq ▸ hseen), hpair⟩
      · rintro ⟨⟨ha, hl⟩, -, hpair⟩
        exact ⟨ha hseen, hl, hpair⟩
    · rename_i hseen
      rw [ih]
      constructor
      · rintro ⟨hl, hpair⟩
        exact ⟨⟨fun h => absurd h hseen, fun b hb h => hl b hb (List.mem_cons_of_mem _ h)⟩,
          fun b hb heq => hl b hb (heq ▸ List.mem_cons_self), hpair⟩
      · rintro ⟨⟨-, hl⟩, ha, hpair⟩
        refine ⟨fun b hb h => ?_, hpair⟩
        rcases List.mem_cons.1 h with heq | h
        · exact ha b hb heq.symm
        · exact hl b hb h

section Unify

variable {key : α → K} {combine : α → α → α} {P : α → Prop}

/-- Combining elements with `P` and the same key yields an element with `P` and
that key. -/
structure Unifies (key : α → K) (combine : α → α → α) (P : α → Prop) : Prop where
  key_combine : ∀ b a, key b = key a → key (combine b a) = key b
  combine : ∀ b a, P b → P a → P (combine b a)

theorem unifyBy_append (l : List α) (a : α) : unifyBy key combine (l ++ [a])
    = unifyStep key combine (unifyBy key combine l) a := by
  rw [unifyBy, List.foldl_append]
  rfl

theorem lookup_unifyStep (m : GoMap K α) (a : α) (k : K) :
    (unifyStep key combine m a).lookup k = if k = key a then
      some ((m.lookup (key a)).elim a fun b => combine b a) else m.lookup k := by
  unfold unifyStep
  by_cases hk : k = key a
  · subst hk
    rw [if_pos rfl]
    split
    · rename_i h; rw [AList.lookup_insert, h]; rfl
    · rename_i h; rw [AList.lookup_insert, h]; rfl
  · rw [if_neg hk]
    split
    · rw [AList.lookup_insert_ne hk]
    · rw [AList.lookup_insert_ne hk]

/-- What is in the map is under its own key and has `P`. -/
def Holds (key : α → K) (P : α → Prop) (m : GoMap K α) : Prop :=
  ∀ k b, m.lookup k = some b → key b = k ∧ P b

theorem Unifies.step (h : Unifies key combine P) {m : GoMap K α} (hm : Holds key P m) {a : α}
    (ha : P a) : Holds key P (unifyStep key combine m a) := by
  intro k b hb
  rw [lookup_unifyStep] at hb
  split at hb
  · rename_i hk
    subst hk
    cases hlookup : m.lookup (key a) with
    | none =>
      rw [hlookup] at hb
      cases hb
      exact ⟨rfl, ha⟩
    | some c =>
      rw [hlookup] at hb
      cases hb
      obtain ⟨hc, hPc⟩ := hm _ _ hlookup
      exact ⟨(h.key_combine c a hc).trans hc, h.combine c a hPc ha⟩
  · exact hm k b hb

theorem Unifies.unifyBy (h : Unifies key combine P) (l : List α) (hl : ∀ a ∈ l, P a) :
    Holds key P (unifyBy key combine l) := by
  induction l using List.reverseRecOn with
  | nil => exact fun k b hb => absurd hb (by simp [GoMap.unifyBy])
  | append_singleton l a ih =>
    rw [unifyBy_append]
    exact h.step (ih fun x hx => hl x (List.mem_append_left _ hx)) (hl a (by simp))

/-- The keys of the map are those of the elements. -/
theorem isSome_lookup_unifyBy (l : List α) (k : K) :
    ((unifyBy key combine l).lookup k).isSome = true ↔ ∃ a ∈ l, key a = k := by
  induction l using List.reverseRecOn with
  | nil => simp [unifyBy]
  | append_singleton l a ih =>
    rw [unifyBy_append, lookup_unifyStep]
    split
    · rename_i hk
      exact ⟨fun _ => ⟨a, by simp, hk.symm⟩, fun _ => rfl⟩
    · rename_i hk
      rw [ih]
      constructor
      · rintro ⟨b, hb, hkb⟩
        exact ⟨b, List.mem_append_left _ hb, hkb⟩
      · rintro ⟨b, hb, hkb⟩
        rcases List.mem_append.1 hb with hb | hb
        · exact ⟨b, hb, hkb⟩
        · exact absurd (List.mem_singleton.1 hb ▸ hkb).symm hk

theorem perm_append_right_comm (a b c : List β) : (a ++ b ++ c).Perm (a ++ c ++ b) := by
  rw [List.append_assoc, List.append_assoc]
  exact List.perm_append_comm.append_left a

/-- One turn of the loop: what the element contributes is in the map, or was dropped
because there was one with its key. -/
theorem unifyStep_perm {f dropped : α → List β}
    (hf : ∀ b a, key b = key a → P b → P a →
      (f (combine b a) ++ dropped a).Perm (f b ++ f a))
    {m : GoMap K α} (hm : Holds key P m) {a : α} (ha : P a) :
    ((unifyStep key combine m a).pairs.flatMap (fun kb => f kb.2) ++
      (if (m.lookup (key a)).isSome then dropped a else [])).Perm
      (m.pairs.flatMap (fun kb => f kb.2) ++ f a) := by
  cases hlookup : m.lookup (key a) with
  | none =>
    have hpairs : (unifyStep key combine m a).pairs = (key a, a) :: m.pairs := by
      rw [unifyStep, hlookup]
      simp only
      rw [pairs_set, pairs_delete_of_lookup hlookup]
    rw [hpairs, List.flatMap_cons, Option.isSome_none, if_neg Bool.false_ne_true, List.append_nil]
    exact List.perm_append_comm
  | some b =>
    have hpairs : (unifyStep key combine m a).pairs
        = (key a, combine b a) :: (m.delete (key a)).pairs := by
      rw [unifyStep, hlookup]
      rfl
    have hold := (pairs_perm_of_lookup hlookup).flatMap_right (fun kb => f kb.2)
    obtain ⟨hb, hPb⟩ := hm _ _ hlookup
    rw [hpairs, List.flatMap_cons, Option.isSome_some, if_pos rfl]
    refine (perm_append_right_comm _ _ _).trans ?_
    refine ((hf b a hb hPb ha).append_right _).trans ?_
    exact (perm_append_right_comm _ _ _).trans (hold.symm.append_right _)

/-- The loop from any map on: whatever the elements contribute is in the map, or
was dropped of a repeated one. -/
theorem Unifies.foldl_perm (h : Unifies key combine P) {f dropped : α → List β}
    (hf : ∀ b a, key b = key a → P b → P a →
      (f (combine b a) ++ dropped a).Perm (f b ++ f a))
    (l : List α) (hl : ∀ a ∈ l, P a) (m : GoMap K α) (hm : Holds key P m) (seen : List K)
    (hseen : ∀ k, k ∈ seen ↔ (m.lookup k).isSome = true) :
    ((l.foldl (unifyStep key combine) m).pairs.flatMap (fun kb => f kb.2) ++
      (repeated key seen l).flatMap dropped).Perm
      (m.pairs.flatMap (fun kb => f kb.2) ++ l.flatMap f) := by
  induction l generalizing m seen with
  | nil => exact List.Perm.refl _
  | cons a l ih =>
    have ha := hl a List.mem_cons_self
    have ih := ih (fun x hx => hl x (List.mem_cons_of_mem _ hx)) (unifyStep key combine m a)
      (h.step hm ha)
    have hstep := unifyStep_perm hf hm ha
    have hnext : ∀ k, k ∈ key a :: seen ↔ ((unifyStep key combine m a).lookup k).isSome = true := by
      intro k
      rw [lookup_unifyStep, List.mem_cons, hseen]
      split
      · simp [*]
      · simp [*]
    rw [List.foldl_cons, repeated, List.flatMap_cons, ← List.append_assoc]
    by_cases hmem : key a ∈ seen
    · rw [if_pos ((hseen _).1 hmem)] at hstep
      have hsame : ∀ k, k ∈ seen ↔ ((unifyStep key combine m a).lookup k).isSome = true := by
        intro k
        rw [← hnext, List.mem_cons]
        exact ⟨Or.inr, fun hk => hk.elim (fun heq => heq ▸ hmem) id⟩
      rw [if_pos hmem, List.flatMap_cons, ← List.append_assoc]
      refine (perm_append_right_comm _ _ _).trans (((ih seen hsame).append_right _).trans ?_)
      exact (perm_append_right_comm _ _ _).trans (hstep.append_right _)
    · rw [if_neg (mt (hseen _).2 hmem), List.append_nil] at hstep
      rw [if_neg hmem]
      exact (ih (key a :: seen) hnext).trans (hstep.append_right _)

/-- Unifying loses what is dropped of the repeated elements, and nothing else. -/
theorem Unifies.perm (h : Unifies key combine P) (f dropped : α → List β)
    (hf : ∀ b a, key b = key a → P b → P a →
      (f (combine b a) ++ dropped a).Perm (f b ++ f a))
    (l : List α) (hl : ∀ a ∈ l, P a) :
    ((GoMap.unifyBy key combine l).pairs.flatMap (fun kb => f kb.2) ++
      (repeated key [] l).flatMap dropped).Perm (l.flatMap f) :=
  h.foldl_perm hf l hl ∅ (nofun) [] (fun k => by simp)

end Unify

end GoMap
