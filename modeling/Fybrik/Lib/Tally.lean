import Fybrik.Lib.GoMap

/-!
# Tallies

Verdicts about keys come in one after the other, and a map keeps a value for every key that
a verdict was about.  The value of a key is good exactly if all verdicts about it were.

* `Tallies` — the map stands for the verdicts so far.
* `Tallies.start`, `Tallies.keep`, `Tallies.spoil` — the three things that can happen to
  the map when a verdict comes in.
* `Tallies.foldl` — a loop with some verdicts in every round.
-/

variable {K V : Type} [DecidableEq K] {good : V → Bool}

/-- The map has the keys there are verdicts about, and a value is good exactly if all
verdicts about its key are. -/
structure Tallies (good : V → Bool) (verdicts : List (K × Bool)) (m : GoMap K V) : Prop where
  isSome_iff : ∀ k, (m.lookup k).isSome = true ↔ ∃ b, (k, b) ∈ verdicts
  good_iff : ∀ k v, m.lookup k = some v → (good v = true ↔ ∀ b, (k, b) ∈ verdicts → b = true)

namespace Tallies

variable {verdicts : List (K × Bool)} {m : GoMap K V} {k : K} {v : V}

theorem empty : Tallies good ([] : List (K × Bool)) (∅ : GoMap K V) :=
  ⟨fun k => by simp, nofun⟩

/-- A value for the key of a new verdict that takes the earlier ones into account. -/
theorem set (h : Tallies good verdicts m) {b : Bool}
    (hv : good v = true ↔ b = true ∧ ∀ b', (k, b') ∈ verdicts → b' = true) :
    Tallies good (verdicts ++ [(k, b)]) (m.set k v) := by
  constructor
  · intro k'
    by_cases hk : k' = k
    · subst hk
      exact iff_of_true (by simp) ⟨b, by simp⟩
    · simp only [AList.lookup_insert_ne hk, GoMap.mem_append_ne hk]
      exact h.isSome_iff k'
  · intro k' v' hlookup
    by_cases hk : k' = k
    · subst hk
      obtain rfl := Option.some.inj ((AList.lookup_insert _).symm.trans hlookup)
      rw [hv]
      simp only [List.mem_append, List.mem_singleton, Prod.mk.injEq, true_and]
      constructor
      · rintro ⟨hb, hall⟩ b' (hmem | rfl)
        · exact hall b' hmem
        · exact hb
      · intro hall
        exact ⟨hall b (Or.inr rfl), fun b' hmem => hall b' (Or.inl hmem)⟩
    · rw [AList.lookup_insert_ne hk] at hlookup
      simp only [GoMap.mem_append_ne hk]
      exact h.good_iff k' v' hlookup

theorem start (h : Tallies good verdicts m) (hk : m.lookup k = none) :
    Tallies good (verdicts ++ [(k, good v)]) (m.set k v) := by
  refine h.set ⟨fun hgood => ⟨hgood, fun b hb => ?_⟩, And.left⟩
  exact absurd ((h.isSome_iff k).2 ⟨b, hb⟩) (by simp [hk])

theorem spoil (h : Tallies good verdicts m) (hv : good v = false) :
    Tallies good (verdicts ++ [(k, false)]) (m.set k v) :=
  h.set (by simp [hv])

theorem keep (h : Tallies good verdicts m) (hk : m.lookup k = some v) :
    Tallies good (verdicts ++ [(k, true)]) m := by
  constructor
  · intro k'
    by_cases hne : k' = k
    · subst hne
      exact iff_of_true (by simp [hk]) ⟨true, by simp⟩
    · simp only [GoMap.mem_append_ne hne]
      exact h.isSome_iff k'
  · intro k' v' hlookup
    rw [h.good_iff k' v' hlookup]
    constructor
    · intro hall b hmem
      rcases List.mem_append.1 hmem with hmem | hmem
      · exact hall b hmem
      · exact (Prod.mk.inj (List.mem_singleton.1 hmem)).2
    · intro hall b hmem
      exact hall b (List.mem_append_left _ hmem)

/-- A loop in each round of which some verdicts come in. -/
theorem foldl {α : Type} {step : GoMap K V → α → GoMap K V} {new : α → List (K × Bool)}
    (hstep : ∀ verdicts m a, Tallies good verdicts m → Tallies good (verdicts ++ new a) (step m a))
    (h : Tallies good verdicts m) (l : List α) :
    Tallies good (verdicts ++ l.flatMap new) (l.foldl step m) := by
  induction l generalizing verdicts m with
  | nil =>
    rw [List.flatMap_nil, List.append_nil]
    exact h
  | cons a l ih =>
    rw [List.flatMap_cons, ← List.append_assoc, List.foldl_cons]
    exact ih (hstep verdicts m a h)

end Tallies
