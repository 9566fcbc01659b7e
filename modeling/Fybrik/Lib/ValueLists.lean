import Fybrik.Lib.GoMap

/-!
# Lists of admissible values

A requirement `(k, vs)` asks that the property `k` is known and has one of the
values `vs`.  Several requirements are kept in a map from properties to lists,
one requirement being added after the other by intersecting lists.

* `Admits` — what a list of requirements means.
* `Summarises` — a map stands for a list of requirements when each property is
  mapped to the common values of its non-empty lists.  The two ways of adding a
  requirement, `Summarises.assign` for a property without values and
  `Summarises.intersect` for one with values, preserve it.
* `Satisfiable` — every restricted property has a value that all its lists admit.
* `Summarises.admits_iff` — what the map then means.  It is the conjunction of the
  requirements up to empty lists: `Summarises.conjunction_iff` says when the
  difference shows.
-/

namespace ValueLists

variable {K V : Type}

/-- The properties given by `value` meet all requirements. -/
def Admits (value : K → Option V) (l : List (K × List V)) : Prop :=
  ∀ kv ∈ l, ∃ v, value kv.1 = some v ∧ v ∈ kv.2

/-- Every property that is restricted has a value that all its lists admit. -/
def Satisfiable (l : List (K × List V)) : Prop :=
  ∀ kv ∈ l, ∃ v, ∀ vs, (kv.1, vs) ∈ l → v ∈ vs

variable {l l' : List (K × List V)}

theorem Satisfiable.of_append (h : Satisfiable (l ++ l')) : Satisfiable l := by
  intro kv hkv
  obtain ⟨v, hv⟩ := h kv (List.mem_append_left l' hkv)
  exact ⟨v, fun vs hvs => hv vs (List.mem_append_left l' hvs)⟩

/-- Only the set of requirements matters. -/
theorem satisfiable_congr (h : ∀ kv, kv ∈ l ↔ kv ∈ l') : Satisfiable l ↔ Satisfiable l' := by
  simp only [Satisfiable, h]

/-- One requirement more: its list has to share a value with all earlier ones for the same
property. -/
theorem satisfiable_append_singleton (h : Satisfiable l) (k : K) (vs : List V) :
    Satisfiable (l ++ [(k, vs)]) ↔ ∃ v ∈ vs, ∀ us, (k, us) ∈ l → v ∈ us := by
  constructor
  · intro hall
    obtain ⟨v, hv⟩ := hall (k, vs) (by simp)
    exact ⟨v, hv vs (by simp), fun us hus => hv us (List.mem_append_left _ hus)⟩
  · rintro ⟨v, hvs, hv⟩ kv hkv
    by_cases hk : kv.1 = k
    · refine ⟨v, fun us hus => ?_⟩
      rw [hk] at hus
      rcases List.mem_append.1 hus with hus | hus
      · exact hv us hus
      · simp only [List.mem_singleton, Prod.mk.injEq, true_and] at hus
        exact hus ▸ hvs
    · have hmem : kv ∈ l := (GoMap.mem_append_ne (v := vs) hk).1 hkv
      obtain ⟨w, hw⟩ := h kv hmem
      exact ⟨w, fun us hus => hw us ((GoMap.mem_append_ne hk).1 hus)⟩

variable [DecidableEq K]

/-- A map with a non-empty list for every property can be satisfied. -/
theorem satisfiable_pairs {m : GoMap K (List V)} (h : ∀ kv ∈ m.pairs, kv.2 ≠ []) :
    Satisfiable m.pairs := by
  rintro ⟨k, vs⟩ hkvs
  obtain ⟨v, hv⟩ := List.exists_mem_of_ne_nil vs (h _ hkvs)
  refine ⟨v, fun us hus => ?_⟩
  rw [GoMap.mem_pairs] at hkvs hus
  exact Option.some.inj (hkvs.symm.trans hus) ▸ hv

/-- The map `m` stands for the requirements `l`. -/
structure Summarises (m : GoMap K (List V)) (l : List (K × List V)) : Prop where
  mem_iff : ∀ k, k ∈ m ↔ ∃ vs, (k, vs) ∈ l
  /-- A property has the common values of its non-empty lists. -/
  mem_get : ∀ k v, v ∈ m.get k ↔
    (∃ vs, (k, vs) ∈ l ∧ vs ≠ []) ∧ ∀ vs, (k, vs) ∈ l → vs ≠ [] → v ∈ vs
  /-- A property without values has no non-empty list. -/
  eq_nil : ∀ k, m.get k = [] → ∀ vs, (k, vs) ∈ l → vs = []

/-- A map stands for its own entries. -/
theorem summarises_pairs (m : GoMap K (List V)) : Summarises m m.pairs where
  mem_iff k := by
    simp only [GoMap.mem_pairs, ← AList.lookup_isSome, Option.isSome_iff_exists]
  mem_get k v := by
    simp only [GoMap.mem_pairs]
    constructor
    · intro hv
      cases hlookup : m.lookup k with
      | none =>
        rw [GoMap.get_of_lookup_none hlookup] at hv
        cases hv
      | some vs =>
        rw [GoMap.get_of_lookup hlookup] at hv
        refine ⟨⟨vs, rfl, List.ne_nil_of_mem hv⟩, fun vs' hvs' _ => ?_⟩
        rwa [← Option.some.inj hvs']
    · rintro ⟨⟨vs, hlookup, hne⟩, hall⟩
      rw [GoMap.get_of_lookup hlookup]
      exact hall vs hlookup hne
  eq_nil k hnil vs hvs := by
    rw [← hnil, GoMap.get_of_lookup (GoMap.mem_pairs.1 hvs)]

namespace Summarises

variable {m : GoMap K (List V)} {l : List (K × List V)} {k : K} {vs : List V}

theorem mem_iff_set (h : Summarises m l) (ws : List V) (k' : K) :
    k' ∈ m.set k ws ↔ ∃ us, (k', us) ∈ l ++ [(k, vs)] := by
  rw [AList.mem_insert, h.mem_iff]
  simp only [List.mem_append, List.mem_singleton, Prod.mk.injEq]
  constructor
  · rintro (rfl | ⟨us, hus⟩)
    · exact ⟨vs, Or.inr ⟨rfl, rfl⟩⟩
    · exact ⟨us, Or.inl hus⟩
  · rintro ⟨us, hus | ⟨rfl, -⟩⟩
    · exact Or.inr ⟨us, hus⟩
    · exact Or.inl rfl

/-- A map that agrees with `m` outside `k` stands for the requirements extended
by one on `k`, if it does so at `k`. -/
theorem extend (h : Summarises m l) {ws : List V}
    (hget : ∀ v, v ∈ ws ↔ (∃ us, (k, us) ∈ l ++ [(k, vs)] ∧ us ≠ []) ∧
      ∀ us, (k, us) ∈ l ++ [(k, vs)] → us ≠ [] → v ∈ us)
    (hnil : ws = [] → ∀ us, (k, us) ∈ l ++ [(k, vs)] → us = []) :
    Summarises (m.set k ws) (l ++ [(k, vs)]) where
  mem_iff := h.mem_iff_set ws
  mem_get k' v := by
    by_cases hk : k' = k
    · subst hk
      rw [GoMap.get_set]
      exact hget v
    · simp only [GoMap.get_set_ne m ws hk, GoMap.mem_append_ne hk]
      exact h.mem_get k' v
  eq_nil k' := by
    by_cases hk : k' = k
    · subst hk
      rw [GoMap.get_set]
      exact hnil
    · simp only [GoMap.get_set_ne m ws hk, GoMap.mem_append_ne hk]
      exact h.eq_nil k'

theorem assign (h : Summarises m l) (hempty : m.get k = []) :
    Summarises (m.set k vs) (l ++ [(k, vs)]) := by
  have hold := h.eq_nil k hempty
  refine h.extend (fun v => ?_) (fun hvs us hus => ?_)
  · constructor
    · intro hv
      refine ⟨⟨vs, by simp, List.ne_nil_of_mem hv⟩, fun us hus hne => ?_⟩
      rcases List.mem_append.1 hus with hus | hus
      · exact absurd (hold us hus) hne
      · simp only [List.mem_singleton, Prod.mk.injEq, true_and] at hus
        exact hus ▸ hv
    · rintro ⟨⟨us, hus, hne⟩, hall⟩
      rcases List.mem_append.1 hus with hus | hus
      · exact absurd (hold us hus) hne
      · simp only [List.mem_singleton, Prod.mk.injEq, true_and] at hus
        exact hall vs (by simp) (hus ▸ hne)
  · rcases List.mem_append.1 hus with hus | hus
    · exact hold us hus
    · simp only [List.mem_singleton, Prod.mk.injEq, true_and] at hus
      exact hus.trans hvs

/-- Adding a requirement on a property that has values, where some of them stay
admissible. -/
theorem intersect (h : Summarises m l) {ws : List V}
    (hws : ∀ v, v ∈ ws ↔ v ∈ m.get k ∧ v ∈ vs) (hne : ws ≠ []) :
    Summarises (m.set k ws) (l ++ [(k, vs)]) := by
  obtain ⟨w, hw⟩ := List.exists_mem_of_ne_nil ws hne
  have hvs : vs ≠ [] := List.ne_nil_of_mem ((hws w).1 hw).2
  refine h.extend (fun v => ?_) (fun hnil => absurd hnil hne)
  rw [hws, h.mem_get]
  simp only [List.mem_append, List.mem_singleton, Prod.mk.injEq, true_and]
  constructor
  · rintro ⟨⟨⟨us, hus, husne⟩, hall⟩, hv⟩
    refine ⟨⟨us, Or.inl hus, husne⟩, ?_⟩
    rintro us' (hus' | rfl) hne'
    · exact hall us' hus' hne'
    · exact hv
  · rintro ⟨-, hall⟩
    -- the property had a value, so it had a non-empty list
    have hold := ((h.mem_get k w).1 ((hws w).1 hw).1).1
    exact ⟨⟨hold, fun us hus husne => hall us (Or.inl hus) husne⟩, hall vs (Or.inr rfl) hvs⟩

/-- If all lists are non-empty, what a property is mapped to are the values that all its
lists admit. -/
theorem mem_get_of_ne_nil (h : Summarises m l) (hne : ∀ kv ∈ l, kv.2 ≠ []) {us : List V}
    (hus : (k, us) ∈ l) {v : V} : v ∈ m.get k ↔ ∀ vs, (k, vs) ∈ l → v ∈ vs := by
  rw [h.mem_get]
  constructor
  · rintro ⟨-, hall⟩ vs hvs
    exact hall vs hvs (hne _ hvs)
  · intro hall
    exact ⟨⟨us, hus, hne _ hus⟩, fun vs hvs _ => hall vs hvs⟩

/-- Maps that stand for the same requirements have the same properties with the same
values. -/
theorem lookup_rel {m' : GoMap K (List V)} {l' : List (K × List V)} (h : Summarises m l)
    (h' : Summarises m' l') (hsame : ∀ kv, kv ∈ l ↔ kv ∈ l') (k : K) :
    Option.Rel (fun vs vs' => ∀ v, v ∈ vs ↔ v ∈ vs') (m.lookup k) (m'.lookup k) := by
  have hkeys : k ∈ m ↔ k ∈ m' := by
    rw [h.mem_iff, h'.mem_iff]
    simp only [hsame]
  have hvalues : ∀ v, v ∈ m.get k ↔ v ∈ m'.get k := by
    intro v
    rw [h.mem_get, h'.mem_get]
    simp only [hsame]
  rw [← AList.lookup_isSome, ← AList.lookup_isSome] at hkeys
  cases hlookup : m.lookup k with
  | none =>
    rw [hlookup] at hkeys
    rw [Option.not_isSome_iff_eq_none.1 fun hsome => absurd (hkeys.2 hsome) (by simp)]
    exact .none
  | some vs =>
    rw [hlookup] at hkeys
    obtain ⟨vs', hlookup'⟩ := Option.isSome_iff_exists.1 (hkeys.1 rfl)
    rw [GoMap.get_of_lookup hlookup, GoMap.get_of_lookup hlookup'] at hvalues
    rw [hlookup']
    exact .some hvalues

variable {value : K → Option V}

/-- What the map means: every property that is restricted has a non-empty list,
and all non-empty lists are respected. -/
theorem admits_iff (h : Summarises m l) :
    Admits value m.pairs ↔ ∀ k us, (k, us) ∈ l →
      (∃ vs, (k, vs) ∈ l ∧ vs ≠ []) ∧ (us ≠ [] → ∃ v, value k = some v ∧ v ∈ us) := by
  constructor
  · intro hadmits k us hus
    obtain ⟨ws, hws⟩ := Option.isSome_iff_exists.1
      (AList.lookup_isSome.2 ((h.mem_iff k).2 ⟨us, hus⟩))
    obtain ⟨v, hv, hmem⟩ := hadmits (k, ws) (GoMap.mem_pairs.2 hws)
    have hget : v ∈ m.get k := by
      rw [GoMap.get_of_lookup hws]
      exact hmem
    obtain ⟨hsome, hall⟩ := (h.mem_get k v).1 hget
    exact ⟨hsome, fun hne => ⟨v, hv, hall us hus hne⟩⟩
  · rintro hall ⟨k, ws⟩ hkws
    have hlookup := GoMap.mem_pairs.1 hkws
    obtain ⟨us, hus⟩ := (h.mem_iff k).1
      (AList.lookup_isSome.1 (Option.isSome_iff_exists.2 ⟨ws, hlookup⟩))
    obtain ⟨⟨vs, hvs, hne⟩, -⟩ := hall k us hus
    obtain ⟨v, hv, -⟩ := (hall k vs hvs).2 hne
    refine ⟨v, hv, ?_⟩
    rw [← GoMap.get_of_lookup hlookup]
    refine (h.mem_get k v).2 ⟨⟨vs, hvs, hne⟩, fun us' hus' hne' => ?_⟩
    obtain ⟨v', hv', hmem'⟩ := (hall k us' hus').2 hne'
    rwa [Option.some.inj (hv'.symm.trans hv)] at hmem'

/-- The map means the conjunction of the requirements, unless a requirement with
an empty list is hidden: it exists, another one gives its property values, and
all non-empty lists are respected. -/
theorem conjunction_iff (h : Summarises m l) :
    (Admits value m.pairs ↔ Admits value l) ↔
      (∀ k, (k, []) ∉ l) ∨ (∃ k us, (k, us) ∈ l ∧ us ≠ [] ∧ ¬ ∃ v, value k = some v ∧ v ∈ us) ∨
        ∃ k us, (k, us) ∈ l ∧ ∀ vs, (k, vs) ∈ l → vs = [] := by
  rw [h.admits_iff]
  constructor
  · intro hiff
    by_contra hhidden
    simp only [not_or, not_forall, not_not, not_exists, not_and] at hhidden
    obtain ⟨⟨k, hk⟩, hrespected, hvalues⟩ := hhidden
    have hmap : ∀ k us, (k, us) ∈ l →
        (∃ vs, (k, vs) ∈ l ∧ vs ≠ []) ∧ (us ≠ [] → ∃ v, value k = some v ∧ v ∈ us) := by
      intro k us hus
      obtain ⟨vs, hvs, hne⟩ := hvalues k us hus
      refine ⟨⟨vs, hvs, hne⟩, fun hne' => ?_⟩
      obtain ⟨v, hv, hmem⟩ := hrespected k us hus hne'
      exact ⟨v, hv, hmem⟩
    obtain ⟨v, -, hv⟩ := hiff.1 hmap (k, []) hk
    exact List.not_mem_nil hv
  · intro hcase
    constructor
    · rintro hmap ⟨k, us⟩ hus
      rcases hcase with hnone | ⟨k', us', hus', hne', hfails⟩ | ⟨k', us', hus', hempty⟩
      · exact (hmap k us hus).2 (fun hnil => hnone k (hnil ▸ hus))
      · exact absurd ((hmap k' us' hus').2 hne') hfails
      · obtain ⟨⟨vs, hvs, hne⟩, -⟩ := hmap k' us' hus'
        exact absurd (hempty vs hvs) hne
    · intro hall k us hus
      obtain ⟨v, hv, hmem⟩ := hall (k, us) hus
      exact ⟨⟨us, hus, List.ne_nil_of_mem hmem⟩, fun _ => ⟨v, hv, hmem⟩⟩

end Summarises

end ValueLists
