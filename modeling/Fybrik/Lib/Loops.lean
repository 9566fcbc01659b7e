import Mathlib.Data.List.Forall2
import Mathlib.Data.List.Induction
import Mathlib.Data.List.Perm.Basic

/-!
# Loops over lists

Shapes of `for` loops, each with what it computes.

* a loop that skips some elements and appends the results of the others:
  `flatMap_ite_nil`.
* a loop that keeps overwriting its choice: `foldl_overwrite` says that the last
  acceptable element is what is left, `getLast?_filter_of_imp` compares two such
  loops.
* two loops that run side by side: `forall₂_iff_right`.
* a loop that is left early on an error: `foldlM_ends` carries an invariant
  to wherever it ends, `foldlM_rounds` does so for each element by itself.
* a loop that may crash: `foldlM_preserves` carries an invariant to its end,
  `exists_foldlM_eq_some` says that it ends if no turn crashes, `foldlM_rel_mapM`
  compares it with a loop that has no state.
* what such a loop does on the way: `trace`, with `forall_mem_trace` for a property of
  all of it and `foldlM_eq_none_iff` for what makes the loop crash.
* a loop whose rounds do not interfere: `foldl_view` says what each round leaves
  behind, `foldl_assign` what is read after assignments to different keys, `foldl_count`
  how many rounds succeed.
* items forwarded along a line of stations, each of which keeps what it supports
  and hands the rest on: `shares` and `leftover`.  An item ends up at the first
  station that supports it (`getElem?_shares`), or is left over if there is none
  (`leftover_eq`); nothing is lost and nothing duplicated (`shares_perm`).
-/

namespace Loops

/-! ## Skipping -/

variable {α β : Type}

theorem flatMap_ite_nil (l : List α) (c : α → Bool) (f : α → List β) :
    (l.flatMap fun x => if c x then f x else []) = (l.filter c).flatMap f := by
  induction l with
  | nil => rfl
  | cons x l ih =>
    rw [List.flatMap_cons, List.filter_cons, ih]
    by_cases hx : c x = true
    · rw [if_pos hx, if_pos hx, List.flatMap_cons]
    · rw [if_neg hx, if_neg hx, List.nil_append]

/-! ## Overwriting -/

/-- A loop that overwrites its result at every acceptable element ends with the
last one of them. -/
theorem foldl_overwrite (accepts : α → Bool) (value : α → β) (l : List α) (init : β) :
    l.foldl (fun b a => if accepts a then value a else b) init
      = ((l.filter accepts).getLast?).elim init value := by
  induction l using List.reverseRecOn with
  | nil => rfl
  | append_singleton l a ih =>
    rw [List.foldl_append, ih, List.foldl_cons, List.foldl_nil, List.filter_append]
    by_cases ha : accepts a = true
    · rw [if_pos ha, List.filter_singleton, ha, Bool.cond_true, List.getLast?_concat]
      rfl
    · rw [if_neg ha, List.filter_singleton, eq_false_of_ne_true ha, Bool.cond_false,
        List.append_nil]

variable {l : List α}

/-- If the last element that passes a test also passes a stricter one, it is the
last to pass that one too. -/
theorem getLast?_filter_of_imp {strict weak : α → Bool} {a : α}
    (himp : ∀ x, strict x = true → weak x = true) (h : (l.filter weak).getLast? = some a)
    (ha : strict a = true) : (l.filter strict).getLast? = some a := by
  obtain ⟨init, hinit⟩ := List.getLast?_eq_some_iff.1 h
  have hfilter : l.filter strict = (l.filter weak).filter strict := by
    rw [List.filter_filter]
    refine List.filter_congr fun x _ => ?_
    cases hx : strict x with
    | false => rfl
    | true => rw [himp x hx, Bool.and_self]
  rw [hfilter, hinit, List.filter_append, List.filter_singleton, ha, Bool.cond_true,
    List.getLast?_concat]

/-! ## Corresponding lists -/

variable {l' : List β} {S R : α → β → Prop}

/-- If corresponding elements are related such that a second relation only
depends on the right one, the second relation is a property of the right list. -/
theorem forall₂_iff_right {Q : β → Prop} (h : List.Forall₂ R l l')
    (hS : ∀ a, ∀ b ∈ l', R a b → (S a b ↔ Q b)) : List.Forall₂ S l l' ↔ ∀ b ∈ l', Q b := by
  induction h with
  | nil => simp
  | cons hab _ ih =>
    rw [List.forall₂_cons, hS _ _ List.mem_cons_self hab, List.forall_mem_cons,
      ih fun a b hb => hS a b (List.mem_cons_of_mem _ hb)]

variable {f : α → Option β}

theorem exists_of_mapM_eq_some (h : l.mapM f = some l') {a : α} (ha : a ∈ l) :
    ∃ b ∈ l', f a = some b := by
  induction l generalizing l' with
  | nil => cases ha
  | cons a' l ih =>
    rw [List.mapM_cons] at h
    obtain ⟨b, hb, h⟩ := Option.bind_eq_some_iff.1 h
    obtain ⟨l₁, hl₁, h⟩ := Option.bind_eq_some_iff.1 h
    cases h
    rcases List.mem_cons.1 ha with rfl | ha
    · exact ⟨b, List.mem_cons_self, hb⟩
    · obtain ⟨b', hb', hfa⟩ := ih hl₁ ha
      exact ⟨b', List.mem_cons_of_mem _ hb', hfa⟩

theorem mapM_eq_none_iff : l.mapM f = none ↔ ∃ a ∈ l, f a = none := by
  induction l with
  | nil => simp
  | cons a l ih =>
    rw [List.mapM_cons, List.exists_mem_cons_iff, ← ih]
    cases f a with
    | none => simp
    | some b => cases l.mapM f <;> simp

theorem exists_of_mem_mapM (h : l.mapM f = some l') {b : β} (hb : b ∈ l') :
    ∃ a ∈ l, f a = some b := by
  induction l generalizing l' with
  | nil =>
    cases h
    cases hb
  | cons a l ih =>
    rw [List.mapM_cons] at h
    obtain ⟨b', hb', h⟩ := Option.bind_eq_some_iff.1 h
    obtain ⟨l₁, hl₁, h⟩ := Option.bind_eq_some_iff.1 h
    cases h
    rcases List.mem_cons.1 hb with rfl | hb
    · exact ⟨a, List.mem_cons_self, hb'⟩
    · obtain ⟨a', ha', hfa⟩ := ih hl₁ hb
      exact ⟨a', List.mem_cons_of_mem _ ha', hfa⟩

theorem exists_mapM_eq_some (h : ∀ a ∈ l, ∃ b, f a = some b ∧ S a b) :
    ∃ l', l.mapM f = some l' ∧ List.Forall₂ S l l' := by
  induction l with
  | nil => exact ⟨[], rfl, .nil⟩
  | cons a l ih =>
    obtain ⟨b, hb, hab⟩ := h a List.mem_cons_self
    obtain ⟨l', hl', hrest⟩ := ih fun a' ha' => h a' (List.mem_cons_of_mem _ ha')
    exact ⟨b :: l', by simp [List.mapM_cons, hb, hl'], .cons hab hrest⟩

theorem mapM_filter_eq_some {p : α → Bool} {q : β → Bool} (hpq : ∀ a b, f a = some b → q b = p a)
    (h : l.mapM f = some l') : (l.filter p).mapM f = some (l'.filter q) := by
  induction l generalizing l' with
  | nil =>
    cases h
    rfl
  | cons a l ih =>
    rw [List.mapM_cons] at h
    obtain ⟨b, hb, h⟩ := Option.bind_eq_some_iff.1 h
    obtain ⟨l₁, hl₁, h⟩ := Option.bind_eq_some_iff.1 h
    cases h
    have hrest := ih hl₁
    by_cases hp : p a = true
    · rw [List.filter_cons_of_pos hp, List.filter_cons_of_pos ((hpq a b hb).trans hp)]
      simp [List.mapM_cons, hb, hrest]
    · rw [List.filter_cons_of_neg hp, List.filter_cons_of_neg (by rwa [hpq a b hb])]
      exact hrest

/-- Two loops over elements that look the same compute the same. -/
theorem mapM_congr_of_map_eq {γ δ : Type} {f : α → Option γ} {g : β → Option γ} {v : α → δ}
    {w : β → δ} (h : l.map v = l'.map w) (hfg : ∀ a ∈ l, ∀ b ∈ l', v a = w b → f a = g b) :
    l.mapM f = l'.mapM g := by
  induction l generalizing l' with
  | nil =>
    obtain rfl := List.map_eq_nil_iff.1 h.symm
    rfl
  | cons a l ih =>
    obtain ⟨b, l', rfl, hb, hl'⟩ := List.map_eq_cons_iff.1 h.symm
    rw [List.mapM_cons, List.mapM_cons,
      hfg a List.mem_cons_self b List.mem_cons_self hb.symm,
      ih hl'.symm fun a ha b hb =>
        hfg a (List.mem_cons_of_mem _ ha) b (List.mem_cons_of_mem _ hb)]

/-- A condition on pairs within each class of elements. -/
theorem forall_pairwise_filter [DecidableEq β] (f : α → β) (R : α → α → Prop) (l : List α) :
    (∀ c, (l.filter fun a => f a = c).Pairwise R) ↔ l.Pairwise fun a b => f a = f b → R a b := by
  simp only [List.pairwise_filter, decide_eq_true_eq]
  simp only [List.pairwise_iff_getElem]
  constructor
  · intro h i j hi hj hij heq
    exact h (f l[j]) i j hi hj hij heq rfl
  · intro h c i j hi hj hij hic hjc
    exact h i j hi hj hij (hic.trans hjc.symm)

/-- Part of a list is all of it exactly if nothing is left. -/
theorem perm_iff_of_append_perm {kept lost all : List α} (h : (kept ++ lost).Perm all) :
    kept.Perm all ↔ lost = [] := by
  constructor
  · intro hkept
    have hlength := (h.trans hkept.symm).length_eq
    rw [List.length_append] at hlength
    exact List.length_eq_zero_iff.1 (by omega)
  · rintro rfl
    rwa [List.append_nil] at h

theorem forall_mem_iff_of_forall₂ {P : α → Prop} {Q : β → Prop} (h : List.Forall₂ S l l')
    (hPQ : ∀ a c, S a c → (P a ↔ Q c)) : (∀ a ∈ l, P a) ↔ ∀ c ∈ l', Q c := by
  induction h with
  | nil => simp
  | cons hac _ ih => rw [List.forall_mem_cons, List.forall_mem_cons, ih, hPQ _ _ hac]

/-- A condition on the pairs of two related lists. -/
theorem pairwise_iff_of_forall₂ {R : α → α → Prop} {R' : β → β → Prop} (h : List.Forall₂ S l l')
    (hR : ∀ a b c d, S a c → S b d → (R a b ↔ R' c d)) : l.Pairwise R ↔ l'.Pairwise R' := by
  induction h with
  | nil => simp
  | @cons a c l l' hac hrest ih =>
    have hhead := forall_mem_iff_of_forall₂ hrest fun b d hbd => hR a b c d hac hbd
    rw [List.pairwise_cons, List.pairwise_cons, ih, hhead]

/-- Values made of two parts, of which the second come from another list. -/
theorem flatMap_perm_of_forall₂ {f g : α → List β} {parts : List (List β)}
    (h : List.Forall₂ (fun a part => f a = g a ++ part) l parts) :
    (l.flatMap f).Perm (parts.flatten ++ l.flatMap g) := by
  induction h with
  | nil => exact .nil
  | @cons a part l parts hfg _ ih =>
    rw [List.flatMap_cons, List.flatMap_cons, List.flatten_cons, hfg]
    calc List.Perm (g a ++ part ++ l.flatMap f) (g a ++ part ++ (parts.flatten ++ l.flatMap g)) :=
          ih.append_left _
      List.Perm _ (part ++ g a ++ (parts.flatten ++ l.flatMap g)) :=
          List.perm_append_comm.append_right _
      List.Perm _ (part ++ parts.flatten ++ (g a ++ l.flatMap g)) := by
          rw [List.append_assoc, List.append_assoc]
          exact (List.perm_append_comm_assoc ..).append_left _

variable {ε : Type}

theorem exists_of_mapM_eq_error {f : α → Except ε β} {e : ε} (h : l.mapM f = .error e) :
    ∃ a ∈ l, f a = .error e := by
  induction l with
  | nil => exact absurd h (by simp [pure, Except.pure])
  | cons a l ih =>
    rw [List.mapM_cons] at h
    cases hf : f a with
    | error e' =>
      rw [hf] at h
      cases h
      exact ⟨a, List.mem_cons_self, hf⟩
    | ok b =>
      rw [hf] at h
      cases hl : l.mapM f with
      | error e' =>
        rw [hl] at h
        obtain ⟨a', ha', hfa'⟩ := ih (hl.trans h)
        exact ⟨a', List.mem_cons_of_mem _ ha', hfa'⟩
      | ok bs =>
        rw [hl] at h
        exact absurd h (by simp [bind, Except.bind, pure, Except.pure])

/-! ## Leaving early -/

/-- How a computation that may be left early ends: properly in a state with `P`,
or early with something that has `Q`. -/
def Ends {σ ε : Type} (P : σ → Prop) (Q : ε → Prop) : Except ε σ → Prop
  | .ok s => P s
  | .error e => Q e

variable {σ : Type} {s : σ} {P : List α → σ → Prop}

/-- What each turn of a loop that may be left early preserves holds of the
elements walked so far wherever the loop ends. -/
theorem foldlM_ends {step : σ → α → Except ε σ} {Q : ε → Prop}
    (hstep : ∀ l s a, P l s → Ends (P (l ++ [a])) Q (step s a)) (l₀ l : List α) (h₀ : P l₀ s) :
    Ends (P (l₀ ++ l)) Q (l.foldlM step s) := by
  induction l generalizing l₀ s with
  | nil =>
    rw [List.append_nil]
    exact h₀
  | cons a l ih =>
    have ha := hstep l₀ s a h₀
    rw [List.foldlM_cons]
    cases hs : step s a with
    | error e =>
      rw [hs] at ha
      exact ha
    | ok t =>
      rw [hs] at ha
      rw [List.append_cons]
      exact ih (l₀ ++ [a]) ha

/-- A loop that is left exactly if the elements walked so far violate `C`, which no further
element can repair: it comes to its end if all elements together meet `C`. -/
theorem foldlM_decides {step : σ → α → Except ε σ} {Q : ε → Prop} {C : List α → Prop}
    (hdown : ∀ l l', C (l ++ l') → C l) (hmeets : ∀ l s, P l s → C l)
    (hstep : ∀ l₁ s, ∀ a ∈ l, P l₁ s → (∃ t, step s a = .ok t ∧ P (l₁ ++ [a]) t) ∨
      ∃ e, step s a = .error e ∧ Q e ∧ ¬ C (l₁ ++ [a])) (l₀ : List α) (h₀ : P l₀ s) :
    (C (l₀ ++ l) ∧ ∃ t, l.foldlM step s = .ok t ∧ P (l₀ ++ l) t) ∨
      ¬ C (l₀ ++ l) ∧ ∃ e, l.foldlM step s = .error e ∧ Q e := by
  induction l generalizing l₀ s with
  | nil =>
    rw [List.append_nil]
    exact Or.inl ⟨hmeets l₀ s h₀, s, rfl, h₀⟩
  | cons a l ih =>
    rw [List.foldlM_cons, List.append_cons]
    rcases hstep l₀ s a List.mem_cons_self h₀ with ⟨t, hok, ht⟩ | ⟨e, herr, he, hviolates⟩
    · rw [hok]
      exact ih (fun l₁ s b hb => hstep l₁ s b (List.mem_cons_of_mem a hb)) (l₀ ++ [a]) ht
    · rw [herr]
      exact Or.inr ⟨fun hall => hviolates (hdown _ _ hall), e, rfl, he⟩

/-- Elements that a loop skips can be left out. -/
theorem foldlM_filter_of_skip {step : σ → α → Except ε σ} {keep : α → Bool}
    (hskip : ∀ a, keep a = false → ∀ s, step s a = .ok s) (l : List α) (s : σ) :
    (l.filter keep).foldlM step s = l.foldlM step s := by
  induction l generalizing s with
  | nil => rfl
  | cons a l ih =>
    cases hkeep : keep a with
    | true =>
      rw [List.filter_cons_of_pos hkeep, List.foldlM_cons, List.foldlM_cons]
      exact congrArg (step s a >>= ·) (funext ih)
    | false =>
      rw [List.filter_cons_of_neg (by simp [hkeep]), List.foldlM_cons, hskip a hkeep s, ih]
      rfl

/-- A loop over several lists, one after the other. -/
theorem foldlM_flatMap {step : σ → β → Except ε σ} {outer : σ → α → Except ε σ} {f : α → List β}
    (h : ∀ a ∈ l, ∀ s, outer s a = (f a).foldlM step s) (s : σ) :
    l.foldlM outer s = (l.flatMap f).foldlM step s := by
  induction l generalizing s with
  | nil => rfl
  | cons a l ih =>
    rw [List.foldlM_cons, List.flatMap_cons, List.foldlM_append, h a List.mem_cons_self]
    exact congrArg ((f a).foldlM step s >>= ·)
      (funext (ih fun b hb => h b (List.mem_cons_of_mem a hb)))

variable {step : σ → α → Option σ}

/-- What each turn of a loop that may crash preserves holds in the end, if it does not
crash. -/
theorem foldlM_preserves (P : σ → Prop) (hstep : ∀ a ∈ l, ∀ s t, P s → step s a = some t → P t)
    {t : σ} (h₀ : P s) (h : l.foldlM step s = some t) : P t := by
  induction l generalizing s with
  | nil =>
    cases h
    exact h₀
  | cons a l ih =>
    rw [List.foldlM_cons] at h
    obtain ⟨s₁, hfirst, hrest⟩ := Option.bind_eq_some_iff.1 h
    exact ih (fun b hb => hstep b (List.mem_cons_of_mem a hb))
      (hstep a List.mem_cons_self s s₁ h₀ hfirst) hrest

theorem exists_foldlM_eq_some (h : ∀ a ∈ l, ∀ s, ∃ t, step s a = some t) (s : σ) :
    ∃ t, l.foldlM step s = some t := by
  induction l generalizing s with
  | nil => exact ⟨s, rfl⟩
  | cons a l ih =>
    obtain ⟨s₁, hfirst⟩ := h a List.mem_cons_self s
    obtain ⟨t, hrest⟩ := ih (fun b hb => h b (List.mem_cons_of_mem a hb)) s₁
    exact ⟨t, by rw [List.foldlM_cons, hfirst]; exact hrest⟩

/-- A loop does not crash if and only if none of its turns does, provided that what a turn
crashes on does not change during the loop. -/
theorem isSome_foldlM_iff {P : α → Prop} (I : σ → Prop)
    (hok : ∀ a ∈ l, ∀ s, I s → ((step s a).isSome = true ↔ P a))
    (hstep : ∀ a ∈ l, ∀ s t, I s → step s a = some t → I t) (h₀ : I s) :
    (l.foldlM step s).isSome = true ↔ ∀ a ∈ l, P a := by
  induction l generalizing s with
  | nil => simp
  | cons a l ih =>
    rw [List.forall_mem_cons, ← hok a List.mem_cons_self s h₀, List.foldlM_cons]
    cases hfirst : step s a with
    | none => simp
    | some s₁ =>
      have hrest := ih (fun b hb => hok b (List.mem_cons_of_mem a hb))
        (fun b hb => hstep b (List.mem_cons_of_mem a hb))
        (hstep a List.mem_cons_self s s₁ h₀ hfirst)
      simpa using hrest

/-- What a loop that may crash does on the way, turn by turn up to the crash. -/
def trace {σ α β : Type} (emit : σ → α → List β) (step : σ → α → Option σ) :
    σ → List α → List β
  | _, [] => []
  | s, a :: l => emit s a ++
      match step s a with
      | none => []
      | some t => trace emit step t l

variable {emit : σ → α → List β}

/-- A property of all that is done on the way, from an invariant of the loop. -/
theorem forall_mem_trace {P : β → Prop} (I : σ → Prop)
    (hemit : ∀ a ∈ l, ∀ s, I s → ∀ b ∈ emit s a, P b)
    (hstep : ∀ a ∈ l, ∀ s t, I s → step s a = some t → I t) (h₀ : I s) :
    ∀ b ∈ trace emit step s l, P b := by
  induction l generalizing s with
  | nil => exact nofun
  | cons a l ih =>
    intro b hb
    rw [trace, List.mem_append] at hb
    rcases hb with hb | hb
    · exact hemit a List.mem_cons_self s h₀ b hb
    · cases hfirst : step s a with
      | none =>
        rw [hfirst] at hb
        cases hb
      | some t =>
        rw [hfirst] at hb
        exact ih (fun a' ha' => hemit a' (List.mem_cons_of_mem a ha'))
          (fun a' ha' => hstep a' (List.mem_cons_of_mem a ha'))
          (hstep a List.mem_cons_self s t h₀ hfirst) b hb

/-- If each turn crashes because of what it does, so does the loop. -/
theorem foldlM_eq_none_iff {Bad : β → Prop} (h : ∀ s a, step s a = none ↔ ∃ b ∈ emit s a, Bad b)
    (s : σ) (l : List α) : l.foldlM step s = none ↔ ∃ b ∈ trace emit step s l, Bad b := by
  induction l generalizing s with
  | nil => simp [trace]
  | cons a l ih =>
    have hfirst := h s a
    rw [List.foldlM_cons, trace]
    simp only [List.mem_append, or_and_right, exists_or, ← hfirst]
    cases hstep : step s a with
    | none => simp
    | some t => simpa using ih t

variable {x : Option α} {y : Option β}

theorem rel_of_isSome (h : x.isSome = true ↔ y.isSome = true)
    (hR : ∀ a b, x = some a → y = some b → R a b) : Option.Rel R x y := by
  cases x with
  | none =>
    cases y with
    | none => exact .none
    | some b => exact absurd (h.2 rfl) (by simp)
  | some a =>
    obtain ⟨b, rfl⟩ := Option.isSome_iff_exists.1 (h.1 rfl)
    exact .some (hR a b rfl rfl)

/-- Two computations that may crash, each followed by another. -/
theorem rel_bind {γ δ : Type} {S : γ → δ → Prop} {f : α → Option γ} {g : β → Option δ}
    (h : Option.Rel R x y) (hfg : ∀ a b, R a b → Option.Rel S (f a) (g b)) :
    Option.Rel S (x.bind f) (y.bind g) := by
  cases h with
  | none => exact .none
  | some hab => exact hfg _ _ hab

theorem rel_mono (h : Option.Rel R x y) (hRS : ∀ a b, R a b → S a b) : Option.Rel S x y := by
  cases h with
  | none => exact .none
  | some hab => exact .some (hRS _ _ hab)

/-- A loop with a state computes what a loop without one does, and crashes exactly if that
one does: `P` relates the state to what was computed so far. -/
theorem foldlM_rel_mapM {g : α → Option β} {P : σ → List β → Prop}
    (hstep : ∀ a ∈ l, ∀ s bs, P s bs → Option.Rel (fun t b => P t (bs ++ [b])) (step s a) (g a))
    {bs : List β} (h₀ : P s bs) :
    Option.Rel (fun t bs' => P t (bs ++ bs')) (l.foldlM step s) (l.mapM g) := by
  induction l generalizing s bs with
  | nil =>
    refine .some ?_
    show P s (bs ++ [])
    rwa [List.append_nil]
  | cons a l ih =>
    rw [List.foldlM_cons, List.mapM_cons]
    refine rel_bind (hstep a List.mem_cons_self s bs h₀) ?_
    intro t b hP
    rw [← Option.bind_fun_some (List.foldlM step t l)]
    refine rel_bind (ih (fun a' ha' => hstep a' (List.mem_cons_of_mem a ha')) hP) ?_
    intro t' bs' hP'
    refine .some ?_
    rwa [List.append_cons]

/-- A loop that may be left early, in which every round deals with its own element:
an element is fresh until its round comes, and done from then on.  In the end all
elements are done, or the round of one of them has failed and each of the others
is either fresh or done. -/
theorem foldlM_rounds {step : σ → α → Except ε σ} (fresh done : α → σ → Prop) (l₀ l : List α)
    (hframe : (l₀ ++ l).Pairwise fun a b => ∀ s t, (step s a = .ok t → fresh b s → fresh b t) ∧
      (step s b = .ok t → done a s → done a t))
    (hown : ∀ a ∈ l, ∀ s t, fresh a s → step s a = .ok t → done a t) (hdone : ∀ a ∈ l₀, done a s)
    (hfresh : ∀ a ∈ l, fresh a s) :
    Ends (fun t => ∀ a ∈ l₀ ++ l, done a t)
      (fun e => ∃ b ∈ l₀ ++ l, ∃ u, step u b = .error e ∧ fresh b u ∧
        ∀ a ∈ l₀ ++ l, fresh a u ∨ done a u)
      (l.foldlM step s) := by
  induction l generalizing l₀ s with
  | nil =>
    rw [List.append_nil]
    exact hdone
  | cons b l ih =>
    obtain ⟨-, hb, hl₀⟩ := List.pairwise_append.1 hframe
    obtain ⟨hb, -⟩ := List.pairwise_cons.1 hb
    have hbs := hfresh b List.mem_cons_self
    rw [List.foldlM_cons]
    cases hstep : step s b with
    | error e =>
      refine ⟨b, List.mem_append_right _ List.mem_cons_self, s, hstep, hbs, fun a ha => ?_⟩
      rcases List.mem_append.1 ha with ha | ha
      · exact Or.inr (hdone a ha)
      · exact Or.inl (hfresh a ha)
    | ok t =>
      rw [List.append_cons] at hframe ⊢
      refine ih (l₀ ++ [b]) hframe (fun a ha => hown a (List.mem_cons_of_mem b ha))
        (fun a ha => ?_) fun a ha => ?_
      · rcases List.mem_append.1 ha with ha | ha
        · exact (hl₀ a ha b List.mem_cons_self s t).2 hstep (hdone a ha)
        · rw [List.mem_singleton.1 ha]
          exact hown b List.mem_cons_self s t hbs hstep
      · exact (hb a ha s t).1 hstep (hfresh a (List.mem_cons_of_mem b ha))

/-! ## Rounds that do not interfere -/

section Rounds

variable {σ α ν : Type} {step : σ → α → σ} {l : List α}

/-- What no round touches stays as it is. -/
theorem foldl_untouched (view : σ → ν) (h : ∀ a ∈ l, ∀ s, view (step s a) = view s) (s : σ) :
    view (l.foldl step s) = view s := by
  induction l generalizing s with
  | nil => rfl
  | cons a l ih =>
    rw [List.foldl_cons, ih (fun b hb => h b (List.mem_cons_of_mem a hb)), h a List.mem_cons_self]

variable (view : α → σ → ν)

/-- A loop in which no round touches what another one looks at: each round leaves
behind what it leaves behind when it comes first. -/
theorem foldl_view (hframe : l.Pairwise fun a b =>
      ∀ s, view a (step s b) = view a s ∧ view b (step s a) = view b s)
    (s : σ) {a : α} (ha : a ∈ l) :
    ∃ t, view a t = view a s ∧ view a (l.foldl step s) = view a (step t a) := by
  induction l generalizing s with
  | nil => cases ha
  | cons b l ih =>
    obtain ⟨hb, hl⟩ := List.pairwise_cons.1 hframe
    rcases List.mem_cons.1 ha with rfl | ha
    · refine ⟨s, rfl, ?_⟩
      rw [List.foldl_cons, foldl_untouched (view a) fun c hc t => (hb c hc t).1]
    · obtain ⟨t, ht, hstep⟩ := ih hl (step s b) ha
      exact ⟨t, ht.trans (hb a ha s).2, hstep⟩

/-- A loop in which each round assigns to a key of its own. -/
theorem foldl_assign {K : Type} [DecidableEq K] (turn : σ → K → σ) (read : σ → K → ν)
    (value : K → ν → ν) (hturn : ∀ s k k', read (turn s k) k'
      = if k' = k then value k (read s k) else read s k') {keys : List K} (h : keys.Nodup)
    (s : σ) (k : K) :
    read (keys.foldl turn s) k = if k ∈ keys then value k (read s k) else read s k := by
  induction keys generalizing s with
  | nil => rfl
  | cons k' keys ih =>
    obtain ⟨hnot, hrest⟩ := List.nodup_cons.1 h
    rw [List.foldl_cons, ih hrest, hturn]
    by_cases hk : k = k'
    · subst hk
      simp [hnot]
    · simp [hk]

/-- Such a loop counts the rounds that succeed on what they look at. -/
theorem foldl_count (counter : σ → ℕ) (succeeds : α → ν → Bool) (hframe : l.Pairwise fun a b =>
      ∀ s, view a (step s b) = view a s ∧ view b (step s a) = view b s) (hcount : ∀ a ∈ l, ∀ s,
      counter (step s a) = counter s + if succeeds a (view a s) then 1 else 0) (s : σ) :
    counter (l.foldl step s) = counter s + l.countP fun a => succeeds a (view a s) := by
  induction l generalizing s with
  | nil => rfl
  | cons b l ih =>
    obtain ⟨hb, hl⟩ := List.pairwise_cons.1 hframe
    have hviews : l.countP (fun a => succeeds a (view a (step s b)))
        = l.countP fun a => succeeds a (view a s) :=
      List.countP_congr fun a ha => by rw [(hb a ha s).2]
    rw [List.foldl_cons, ih hl (fun c hc => hcount c (List.mem_cons_of_mem b hc)),
      hcount b List.mem_cons_self, hviews, List.countP_cons]
    omega

end Rounds

/-! ## Forwarding -/

section Forwarding

variable {S I : Type} (supports : S → I → Bool)

/-- What each station keeps of the items sent down the line. -/
def shares : List S → List I → List (List I)
  | [], _ => []
  | s :: line, items =>
    items.filter (supports s) :: shares line (items.filter fun i => !supports s i)

/-- What leaves the line. -/
def leftover : List S → List I → List I
  | [], items => items
  | s :: line, items => leftover line (items.filter fun i => !supports s i)

/-- The position of the first station that supports an item. -/
def keeper (line : List S) (i : I) : Option ℕ := line.findIdx? fun s => supports s i

theorem keeper_cons (s : S) (line : List S) (i : I) :
    keeper supports (s :: line) i
      = if supports s i then some 0 else (keeper supports line i).map (· + 1) := by
  rw [keeper, List.findIdx?_cons]
  rfl

variable (line : List S) (items : List I)

theorem leftover_eq :
    leftover supports line items = items.filter fun i => keeper supports line i = none := by
  induction line generalizing items with
  | nil => simp [leftover, keeper]
  | cons s line ih =>
    rw [leftover, ih, List.filter_filter]
    refine List.filter_congr fun i _ => ?_
    rw [keeper_cons]
    by_cases hs : supports s i = true <;> simp [hs]

theorem length_shares : (shares supports line items).length = line.length := by
  induction line generalizing items with
  | nil => rfl
  | cons s line ih => rw [shares, List.length_cons, ih, List.length_cons]

/-- A station keeps exactly the items it is the first to support. -/
theorem getElem?_shares {j : ℕ} (hj : j < line.length) :
    (shares supports line items)[j]?
      = some (items.filter fun i => keeper supports line i = some j) := by
  induction line generalizing items j with
  | nil => exact absurd hj (Nat.not_lt_zero j)
  | cons s line ih =>
    cases j with
    | zero =>
      rw [shares, List.getElem?_cons_zero]
      refine congrArg some (List.filter_congr fun i _ => ?_)
      rw [keeper_cons]
      by_cases hs : supports s i = true <;> simp [hs]
    | succ j =>
      rw [shares, List.getElem?_cons_succ, ih _ (Nat.lt_of_succ_lt_succ hj), List.filter_filter]
      refine congrArg some (List.filter_congr fun i _ => ?_)
      rw [keeper_cons]
      by_cases hs : supports s i = true <;> simp [hs]

/-- The shares as a function of the position. -/
theorem shares_eq_map :
    shares supports line items = (List.range line.length).map fun j =>
      items.filter fun i => keeper supports line i = some j := by
  refine List.ext_getElem? fun j => ?_
  by_cases hj : j < line.length
  · rw [getElem?_shares supports line items hj, List.getElem?_map,
      List.getElem?_eq_getElem (by rw [List.length_range]; exact hj), List.getElem_range,
      Option.map_some]
  · rw [List.getElem?_eq_none (by rw [length_shares]; omega),
      List.getElem?_eq_none (by rw [List.length_map, List.length_range]; omega)]

/-- Nothing is lost and nothing is duplicated. -/
theorem shares_perm :
    ((shares supports line items).flatten ++ leftover supports line items).Perm items := by
  induction line generalizing items with
  | nil => exact List.Perm.refl items
  | cons s line ih =>
    rw [shares, leftover, List.flatten_cons, List.append_assoc]
    exact ((ih _).append_left _).trans (List.filter_append_perm (supports s) items)

end Forwarding

end Loops
