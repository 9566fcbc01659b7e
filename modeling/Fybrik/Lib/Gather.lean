import Mathlib.Data.List.Forall2

/-!
# Gathering results

Loops that append what they make of each element to a common result, and lists that are
walked side by side.

* `gather` — what such a loop gathers, or nothing if one of its turns crashes;
  `foldlM_append` says that the loop computes it, `gather_flatMap` is about a loop
  around it.
* `exists_gather_iff` — if the size of what a turn should gather is never in question, the
  whole result is right exactly if every turn is.
* `sideBySide` — a list walked along another one, with a default where that one has come to
  its end; `zipIdx_map` says that access by index comes down to it.
* `sideBySide_filterMap_iff` — when each element meets the entry that was made for it,
  although some elements have none.
-/

namespace Gather

variable {α β : Type}

/-! ## Appending -/

/-- What the elements contribute, one after the other; nothing if one of them crashes. -/
def gather (f : α → Option (List β)) : List α → Option (List β)
  | [] => some []
  | a :: l => (f a).bind fun part => (gather f l).map (part ++ ·)

variable {f : α → Option (List β)} {g : α → List β}

theorem gather_append (l l' : List α) :
    gather f (l ++ l') = (gather f l).bind fun part => (gather f l').map (part ++ ·) := by
  induction l with
  | nil => cases hl' : gather f l' <;> simp [gather, hl']
  | cons a l ih =>
    rw [List.cons_append, gather, gather, ih]
    cases f a with
    | none => rfl
    | some part =>
      cases gather f l with
      | none => rfl
      | some parts => cases gather f l' <;> simp

/-- The loop that appends what it makes of each element. -/
theorem foldlM_append (l : List α) (acc : List β) :
    l.foldlM (fun acc a => (f a).map (acc ++ ·)) acc = (gather f l).map (acc ++ ·) := by
  induction l generalizing acc with
  | nil =>
    rw [List.foldlM_nil, gather, Option.map_some, List.append_nil]
    rfl
  | cons a l ih =>
    rw [List.foldlM_cons, gather]
    cases f a with
    | none => rfl
    | some part =>
      change l.foldlM _ (acc ++ part) = _
      rw [ih]
      cases gather f l <;> simp

theorem gather_flatMap {γ : Type} (h : γ → List α) (l : List γ) :
    gather (fun c => gather f (h c)) l = gather f (l.flatMap h) := by
  induction l with
  | nil => rfl
  | cons c l ih => rw [gather, List.flatMap_cons, gather_append, ih]

/-- If every turn gathers what it should, so does the loop. -/
theorem gather_of_forall {l : List α} (h : ∀ a ∈ l, f a = some (g a)) :
    gather f l = some (l.flatMap g) := by
  induction l with
  | nil => rfl
  | cons a l ih =>
    rw [gather, h a List.mem_cons_self, ih fun b hb => h b (List.mem_cons_of_mem a hb)]
    rfl

theorem gather_map {γ : Type} (h : γ → α) (l : List γ) :
    gather f (l.map h) = gather (fun c => f (h c)) l := by
  induction l with
  | nil => rfl
  | cons c l ih => rw [List.map_cons, gather, gather, ih]

theorem gather_cons_eq_some {a : α} {l : List α} {parts : List β} :
    gather f (a :: l) = some parts ↔
      ∃ part rest, f a = some part ∧ gather f l = some rest ∧ parts = part ++ rest := by
  rw [gather]
  cases f a with
  | none => simp
  | some part =>
    cases gather f l with
    | none => simp
    | some rest => simp [eq_comm]

section Sizes

variable {γ : Type} {g : α → List γ} {l : List α}

/-- The size of what is gathered, if the size of what each turn gathers is known. -/
theorem length_gather {parts : List β}
    (hlength : ∀ a ∈ l, ∀ part, f a = some part → part.length = (g a).length)
    (h : gather f l = some parts) : parts.length = (l.flatMap g).length := by
  induction l generalizing parts with
  | nil =>
    cases h
    rfl
  | cons a l ih =>
    obtain ⟨part, rest, hpart, hrest, rfl⟩ := gather_cons_eq_some.1 h
    rw [List.flatMap_cons, List.length_append, List.length_append,
      hlength a List.mem_cons_self part hpart,
      ih (fun b hb => hlength b (List.mem_cons_of_mem a hb)) hrest]

/-- If a turn can only gather as much as it should, all is gathered as it should exactly if
this is so for every turn. -/
theorem exists_gather_iff {R : β → γ → Prop}
    (hlength : ∀ a ∈ l, ∀ part, f a = some part → part.length = (g a).length) :
    (∃ parts, gather f l = some parts ∧ List.Forall₂ R parts (l.flatMap g)) ↔
      ∀ a ∈ l, ∃ part, f a = some part ∧ List.Forall₂ R part (g a) := by
  induction l with
  | nil => simp [gather]
  | cons a l ih =>
    have hrec := ih fun b hb => hlength b (List.mem_cons_of_mem a hb)
    rw [List.forall_mem_cons, ← hrec, List.flatMap_cons]
    constructor
    · rintro ⟨parts, hparts, hall⟩
      obtain ⟨part, rest, hpart, hrest, rfl⟩ := gather_cons_eq_some.1 hparts
      have hsize := hlength a List.mem_cons_self part hpart
      have hfirst := List.forall₂_take_append _ _ _ hall
      have hothers := List.forall₂_drop_append _ _ _ hall
      rw [← hsize, List.take_left] at hfirst
      rw [← hsize, List.drop_left] at hothers
      exact ⟨⟨part, hpart, hfirst⟩, rest, hrest, hothers⟩
    · rintro ⟨⟨part, hpart, hfirst⟩, rest, hrest, hothers⟩
      exact ⟨part ++ rest, gather_cons_eq_some.2 ⟨part, rest, hpart, hrest, rfl⟩,
        List.rel_append hfirst hothers⟩

end Sizes

/-- The same for what is to be gathered exactly. -/
theorem gather_eq_some_iff {l : List α}
    (hlength : ∀ a ∈ l, ∀ part, f a = some part → part.length = (g a).length) :
    gather f l = some (l.flatMap g) ↔ ∀ a ∈ l, f a = some (g a) := by
  have h := exists_gather_iff (R := Eq) hlength
  simpa only [List.forall₂_eq_eq_eq, exists_eq_right] using h

/-! ## Side by side -/

/-- A list walked along another one. -/
def sideBySide : List α → List β → List (α × Option β)
  | [], _ => []
  | a :: l, l' => (a, l'.head?) :: sideBySide l l'.tail

/-- Access by index is a walk along the other list. -/
theorem zipIdx_map (l : List α) (l' : List β) (n : ℕ) :
    ((l.zipIdx n).map fun ak => (ak.1, l'[ak.2]?)) = sideBySide l (l'.drop n) := by
  induction l generalizing n with
  | nil => rfl
  | cons a l ih =>
    rw [List.zipIdx_cons, List.map_cons, sideBySide, ih, List.head?_drop, List.tail_drop]

theorem map_fst_sideBySide (l : List α) (l' : List β) : (sideBySide l l').map Prod.fst = l := by
  induction l generalizing l' with
  | nil => rfl
  | cons a l ih => rw [sideBySide, List.map_cons, ih]

theorem sideBySide_map {γ : Type} (h : γ → α) (l : List γ) (l' : List β) :
    sideBySide (l.map h) l' = (sideBySide l l').map fun cb => (h cb.1, cb.2) := by
  induction l generalizing l' with
  | nil => rfl
  | cons c l ih => rw [List.map_cons, sideBySide, sideBySide, List.map_cons, ih]

variable {d : β}

/-- Some entries are missing at the front: the others are only met by the elements they were
made for if they are all the default. -/
theorem sideBySide_drop_iff (l : List (α × Option β)) (n : ℕ) :
    (∀ ab ∈ sideBySide l ((l.filterMap Prod.snd).drop (n + 1)), ∀ b, ab.1.2 = some b →
        ab.2.getD d = b) ↔ ∀ b ∈ l.filterMap Prod.snd, b = d := by
  induction l generalizing n with
  | nil => simp [sideBySide]
  | cons a l ih =>
    obtain ⟨a, entry⟩ := a
    rw [sideBySide, List.forall_mem_cons, List.tail_drop, List.head?_drop]
    cases entry with
    | none =>
      rw [List.filterMap_cons_none rfl, ih]
      simp
    | some b =>
      have hentries : ((a, some b) :: l).filterMap Prod.snd = b :: l.filterMap Prod.snd := rfl
      rw [hentries, List.drop_succ_cons, ih, List.forall_mem_cons]
      simp only [Option.some.injEq, forall_eq', List.getElem?_cons_succ]
      refine and_congr_left fun hrest => ?_
      -- what is met is the default, or there is nothing left to be met
      have hmet : (l.filterMap Prod.snd)[n]?.getD d = d := by
        cases hget : (l.filterMap Prod.snd)[n]? with
        | none => rfl
        | some b' => exact hrest b' (List.mem_of_getElem? hget)
      rw [hmet, eq_comm]

/-- Each element that has an entry meets it exactly if the entries after an element without
one are the default. -/
theorem sideBySide_filterMap_iff (l : List (α × Option β)) :
    (∀ ab ∈ sideBySide l (l.filterMap Prod.snd), ∀ b, ab.1.2 = some b → ab.2.getD d = b) ↔
      l.Pairwise fun a a' => a.2 = none → ∀ b, a'.2 = some b → b = d := by
  induction l with
  | nil => simp [sideBySide]
  | cons a l ih =>
    obtain ⟨a, entry⟩ := a
    rw [sideBySide, List.forall_mem_cons, List.pairwise_cons]
    cases entry with
    | none =>
      have hdrop := sideBySide_drop_iff (d := d) l 0
      rw [List.filterMap_cons_none rfl, ← List.drop_one, hdrop]
      simp only [reduceCtorEq, false_implies, implies_true, true_and, forall_const]
      simp only [List.mem_filterMap]
      constructor
      · intro hall
        have hentries : ∀ a' ∈ l, ∀ b, a'.2 = some b → b = d :=
          fun a' ha' b hb => hall b ⟨a', ha', hb⟩
        exact ⟨hentries, List.pairwise_of_forall_mem_list fun _ _ a' ha' _ => hentries a' ha'⟩
      · rintro ⟨hall, -⟩ b ⟨a', ha', hb⟩
        exact hall a' ha' b hb
    | some b =>
      have hentries : ((a, some b) :: l).filterMap Prod.snd = b :: l.filterMap Prod.snd := rfl
      rw [hentries, List.tail_cons, ih]
      simp

end Gather
