import Mathlib.Data.List.Induction

/-!
# Layers on top of each other

A list of layers is combined from the first to the last, each on top of what there is.

* `stack` — the result; there is none for no layers.
* `stack_iff`, `stack_flatMap`, `stack_getLast`, `stack_head` — what is known of two layers
  is known of all of them: whatever one of them has the result has, lists are joined in order,
  the last layer that sets a value decides, or the first layer does.
-/

namespace Layers

variable {α β : Type} {combine : α → α → α}

/-- The layers combined. -/
def stack (combine : α → α → α) : List α → Option α
  | [] => none
  | a :: l => some (l.foldl combine a)

theorem stack_eq_none_iff : stack combine l = none ↔ l = [] := by
  cases l with
  | nil => simp [stack]
  | cons a l => simp [stack]

/-- A further layer. -/
theorem stack_append (l : List α) (a : α) :
    stack combine (l ++ [a]) = some (((stack combine l).map (combine · a)).getD a) := by
  cases l with
  | nil => rfl
  | cons b l => simp [stack]

variable {l : List α} {m : α}

/-- The layers are combined one by one. -/
theorem stack_induction {P : List α → α → Prop} (hone : ∀ a, P [a] a)
    (hnext : ∀ l m a, P l m → P (l ++ [a]) (combine m a)) (h : stack combine l = some m) :
    P l m := by
  induction l using List.reverseRecOn generalizing m with
  | nil => cases h
  | append_singleton l a ih =>
    rw [stack_append] at h
    cases h
    cases hl : stack combine l with
    | none =>
      rw [stack_eq_none_iff.1 hl]
      exact hone a
    | some m => exact hnext l m a (ih hl)

theorem stack_iff {P : α → Prop} (hcombine : ∀ m a, P (combine m a) ↔ P m ∨ P a)
    (h : stack combine l = some m) : P m ↔ ∃ a ∈ l, P a := by
  refine stack_induction (P := fun l m => P m ↔ ∃ a ∈ l, P a) (by simp) ?_ h
  intro l m a hm
  rw [hcombine, hm]
  simp [or_and_right, exists_or]

theorem stack_flatMap {φ : α → List β} (hcombine : ∀ m a, φ (combine m a) = φ m ++ φ a)
    (h : stack combine l = some m) : φ m = l.flatMap φ := by
  refine stack_induction (P := fun l m => φ m = l.flatMap φ) (by simp) ?_ h
  intro l m a hm
  rw [hcombine, hm, List.flatMap_append, List.flatMap_singleton]

theorem stack_getLast {φ : α → Option β} (hcombine : ∀ m a, φ (combine m a) = (φ a).or (φ m))
    (h : stack combine l = some m) : φ m = (l.filterMap φ).getLast? := by
  refine stack_induction (P := fun l m => φ m = (l.filterMap φ).getLast?) ?_ ?_ h
  · intro a
    cases ha : φ a <;> simp [ha]
  · intro l m a hm
    rw [hcombine, hm, List.filterMap_append]
    cases ha : φ a <;> simp [ha]

theorem stack_head {φ : α → β} (hcombine : ∀ m a, φ (combine m a) = φ m)
    (h : stack combine l = some m) : l.head?.map φ = some (φ m) := by
  refine stack_induction (P := fun l m => l.head?.map φ = some (φ m)) (fun _ => rfl) ?_ h
  intro l m a hm
  rw [hcombine, ← hm]
  cases l with
  | nil => cases hm
  | cons b l => rfl

end Layers
