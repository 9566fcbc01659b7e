import Mathlib.Order.Filter.AtTopBot.Basic
import Mathlib.Order.Filter.Finite

/-!
# Stages of a run

Several actors take turns in any order, and the run goes on forever.  If each of them
acts again and again, the run passes through one stage after the other: a stage that no
step leaves, and that an actor enters whenever it acts, is reached for good.

* `Run` — an infinite run, with the actor of each step.
* `Run.Recurs` — an actor acts again and again.
* `Run.Lasts` — from some time on, a property holds for good.
* `Run.lasts_of_invariant`, `Run.Lasts.next` — where the run starts, and how it gets from
  one stage to the next; `Run.Lasts.next_all` — the same for several actors.
-/

namespace Stages

variable {S A ι : Type}

/-- An infinite run of a system, with the actor of each step. -/
structure Run (step : A → S → S → Prop) where
  state : ℕ → S
  actor : ℕ → A
  steps : ∀ t, step (actor t) (state t) (state (t + 1))

namespace Run

open Filter

variable {step : A → S → S → Prop} {e : Run step} {P Q : S → Prop}

/-- An actor acts again and again. -/
def Recurs (e : Run step) (a : A) : Prop := ∃ᶠ t in atTop, e.actor t = a

/-- From some time on, a property holds for good. -/
def Lasts (e : Run step) (P : S → Prop) : Prop := ∀ᶠ t in atTop, P (e.state t)

/-- What is true at some time and kept by all later steps stays true. -/
theorem forall_of_kept {t₀ : ℕ} (h₀ : P (e.state t₀))
    (hkept : ∀ t, t₀ ≤ t → P (e.state t) → P (e.state (t + 1))) :
    ∀ t, t₀ ≤ t → P (e.state t) := fun _ ht => Nat.le_induction h₀ hkept _ ht

theorem lasts_of_invariant {t₀ : ℕ} (h₀ : P (e.state t₀))
    (hkept : ∀ a s s', step a s s' → P s → P s') : e.Lasts P :=
  eventually_atTop.2 ⟨t₀, forall_of_kept h₀ fun t _ => hkept _ _ _ (e.steps t)⟩

/-- From one stage to the next: the next one is kept by all steps within the first one, and
entered whenever a certain actor acts, who does so again and again. -/
theorem Lasts.next (h : e.Lasts P) {a : A} (ha : e.Recurs a)
    (hkept : ∀ a s s', step a s s' → P s → P s' → Q s → Q s')
    (henters : ∀ s s', step a s s' → P s → P s' → Q s') : e.Lasts Q := by
  obtain ⟨t₁, ht₁⟩ := eventually_atTop.1 h
  obtain ⟨t₂, hle, hactor⟩ := frequently_atTop.1 ha t₁
  have hfirst : ∀ t, t₁ ≤ t → P (e.state t) ∧ P (e.state (t + 1)) :=
    fun t ht => ⟨ht₁ t ht, ht₁ _ (Nat.le_succ_of_le ht)⟩
  have hentered : Q (e.state (t₂ + 1)) := by
    obtain ⟨hbefore, hafter⟩ := hfirst t₂ hle
    exact henters _ _ (hactor ▸ e.steps t₂) hbefore hafter
  refine eventually_atTop.2 ⟨t₂ + 1, forall_of_kept hentered fun t ht => ?_⟩
  obtain ⟨hbefore, hafter⟩ := hfirst t (hle.trans (Nat.le_of_succ_le ht))
  exact hkept _ _ _ (e.steps t) hbefore hafter

theorem Lasts.and (hP : e.Lasts P) (hQ : e.Lasts Q) : e.Lasts fun s => P s ∧ Q s :=
  Eventually.and hP hQ

/-- If each member of a list has an actor of its own, all of them get to the next stage. -/
theorem Lasts.next_all (h : e.Lasts P) {l : List ι} {actorOf : ι → A} {Q : ι → S → Prop}
    (ha : ∀ i ∈ l, e.Recurs (actorOf i))
    (hkept : ∀ i ∈ l, ∀ a s s', step a s s' → P s → P s' → Q i s → Q i s')
    (henters : ∀ i ∈ l, ∀ s s', step (actorOf i) s s' → P s → P s' → Q i s') :
    e.Lasts fun s => ∀ i ∈ l, Q i s :=
  (eventually_all_finite l.finite_toSet).2 fun i hi => h.next (ha i hi) (hkept i hi) (henters i hi)

end Run

end Stages
