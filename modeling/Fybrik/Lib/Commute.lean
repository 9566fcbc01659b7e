import Fybrik.Lib.Loops

/-!
# Loops whose turns commute

The turns of a loop that may crash, in different orders.

* `Commutes` — two turns lead to the same state in either order, or to a crash in either.
* `foldlM_perm` — a loop all of whose turns commute can go through its list in any order.
-/

namespace Loops

variable {σ α : Type} {f : σ → α → Option σ}

/-- Two turns can be exchanged. -/
def Commutes (f : σ → α → Option σ) (a b : α) : Prop :=
  ∀ s, (f s a).bind (fun t => f t b) = (f s b).bind fun t => f t a

theorem foldlM_cons_bind (a : α) (l : List α) (s : σ) :
    (a :: l).foldlM f s = (f s a).bind fun t => l.foldlM f t := by
  rw [List.foldlM_cons]
  rfl

/-- A loop whose turns commute does not depend on the order of its list. -/
theorem foldlM_perm {l l' : List α} (h : l.Perm l')
    (hcomm : ∀ a ∈ l, ∀ b ∈ l, a ≠ b → Commutes f a b) (s : σ) :
    l.foldlM f s = l'.foldlM f s := by
  induction h generalizing s with
  | nil => rfl
  | cons a _ ih =>
    rw [foldlM_cons_bind, foldlM_cons_bind]
    exact congrArg _ (funext fun t => ih (fun b hb c hc =>
      hcomm b (List.mem_cons_of_mem a hb) c (List.mem_cons_of_mem a hc)) t)
  | swap a b l =>
    simp only [foldlM_cons_bind]
    by_cases hab : a = b
    · rw [hab]
    · rw [← Option.bind_assoc, ← Option.bind_assoc, hcomm a (by simp) b (by simp) hab s]
  | trans h₁ _ ih₁ ih₂ =>
    rw [ih₁ hcomm s]
    exact ih₂ (fun a ha b hb => hcomm a (h₁.mem_iff.2 ha) b (h₁.mem_iff.2 hb)) s

end Loops
