import Fybrik.Lib.Json
import Mathlib.Data.List.Infix
import Mathlib.Data.List.Perm.Basic

/-!
# Assignments to nested maps

Maps whose values may be maps again, seen through what is found at each path of keys.

* `View` — what is found at a path: a map, or a value that is none.
* `assign` — the assignment to a path, which makes the maps on the way to it.  Nothing
  happens if there is a value on the way that is no map (`Blocked`).
* `assign_comm` — assignments to different paths commute: of a path and one that leads
  further, only the first has an effect in the end.
* `assignAll_perm`, `assignAll_eq_leaf_iff` — a loop of assignments, in any order.
* `Json.view` — JSON objects as such maps; `Json.view_setField` says that `Json.setField` is
  the assignment.
-/

namespace Nested

variable {K α : Type}

/-- What is found at a path: a map, or a value. -/
inductive Node (α : Type) where
  | map
  | leaf (a : α)

/-- A nested map, by paths. -/
abbrev View (K α : Type) := List K → Option (Node α)

/-- One path leads to the other and further. -/
def Leads (p q : List K) : Prop := p <+: q ∧ p ≠ q

/-- There is a value that is no map on the way to the end of the path. -/
def Blocked (f : View K α) (p : List K) : Prop := ∃ q a, Leads q p ∧ f q = some (.leaf a)

open Classical in
/-- The assignment to a path. -/
noncomputable def assign (p : List K) (a : α) (f : View K α) : View K α := fun q =>
  if Blocked f p then f q
  else if q = p then some (.leaf a)
  else if p <+: q then none
  else if q <+: p then some .map
  else f q

/-- There is nothing below a value. -/
def Closed (f : View K α) : Prop := ∀ p q a, f p = some (.leaf a) → Leads p q → f q = none

variable {f g : View K α} {p p' q : List K} {a a' : α}

theorem Leads.extend (h : Leads p q) (hq : q <+: p') : Leads p p' := by
  refine ⟨h.1.trans hq, fun heq => h.2 ?_⟩
  subst heq
  exact h.1.eq_of_length (Nat.le_antisymm h.1.length_le hq.length_le)

/-- Two paths to one end: one leads to the other. -/
theorem prefixes_comparable (hp : p <+: q) (hp' : p' <+: q) : p <+: p' ∨ p' <+: p := by
  rcases Nat.le_total p.length p'.length with hle | hle
  · exact Or.inl (List.prefix_of_prefix_length_le hp hp' hle)
  · exact Or.inr (List.prefix_of_prefix_length_le hp' hp hle)

/-! ## One assignment -/

theorem assign_of_blocked (h : Blocked f p) : assign p a f = f := by
  funext q
  rw [assign, if_pos h]

theorem assign_self (h : ¬ Blocked f p) : assign p a f p = some (.leaf a) := by
  rw [assign, if_neg h, if_pos rfl]

theorem assign_of_leads (h : ¬ Blocked f p) (hq : Leads p q) : assign p a f q = none := by
  rw [assign, if_neg h, if_neg hq.2.symm, if_pos hq.1]

theorem assign_of_leads_to (h : ¬ Blocked f p) (hq : Leads q p) :
    assign p a f q = some .map := by
  have hnot : ¬ p <+: q := fun hp => hq.2 (hq.1.eq_of_length
    (Nat.le_antisymm hq.1.length_le hp.length_le))
  rw [assign, if_neg h, if_neg hq.2, if_neg hnot, if_pos hq.1]

theorem assign_of_apart (hp : ¬ p <+: q) (hq : ¬ q <+: p) : assign p a f q = f q := by
  have hne : q ≠ p := fun heq => hp (heq ▸ List.prefix_refl q)
  rw [assign, if_neg hne, if_neg hp, if_neg hq, ite_self]

/-- What an assignment does at a path depends on the way to it and on what is there. -/
theorem assign_congr (hblocked : Blocked f p ↔ Blocked g p) (hq : f q = g q) :
    assign p a f q = assign p a g q := by
  rw [assign, assign, hq]
  by_cases h : Blocked f p
  · rw [if_pos h, if_pos (hblocked.1 h)]
  · rw [if_neg h, if_neg (mt hblocked.2 h)]

theorem assign_cases (p q : List K) :
    q = p ∨ Leads p q ∨ Leads q p ∨ (¬ p <+: q ∧ ¬ q <+: p) := by
  by_cases heq : q = p
  · exact Or.inl heq
  by_cases hp : p <+: q
  · exact Or.inr (Or.inl ⟨hp, Ne.symm heq⟩)
  by_cases hq : q <+: p
  · exact Or.inr (Or.inr (Or.inl ⟨hq, heq⟩))
  · exact Or.inr (Or.inr (Or.inr ⟨hp, hq⟩))

/-- The way to a path is blocked after an assignment if it was before, or if it leads beyond
the path of the assignment. -/
theorem blocked_assign : Blocked (assign p a f) q ↔ Blocked f q ∨ Leads p q := by
  by_cases hblocked : Blocked f p
  · rw [assign_of_blocked hblocked]
    refine ⟨Or.inl, ?_⟩
    rintro (h | h)
    · exact h
    · obtain ⟨q', b, hq', hleaf⟩ := hblocked
      exact ⟨q', b, hq'.extend h.1, hleaf⟩
  · constructor
    · rintro ⟨q', b, hq', hleaf⟩
      rcases assign_cases p q' with rfl | hcase | hcase | ⟨hp, hq⟩
      · exact Or.inr hq'
      · rw [assign_of_leads hblocked hcase] at hleaf
        cases hleaf
      · rw [assign_of_leads_to hblocked hcase] at hleaf
        cases hleaf
      · rw [assign_of_apart hp hq] at hleaf
        exact Or.inl ⟨q', b, hq', hleaf⟩
    · rintro (⟨q', b, hq', hleaf⟩ | h)
      · rcases assign_cases p q' with rfl | hcase | hcase | ⟨hp, hq⟩
        · exact ⟨q', a, hq', assign_self hblocked⟩
        · exact ⟨p, a, hcase.extend hq'.1, assign_self hblocked⟩
        · exact absurd ⟨q', b, hcase, hleaf⟩ hblocked
        · exact ⟨q', b, hq', by rw [assign_of_apart hp hq, hleaf]⟩
      · exact ⟨p, a, h, assign_self hblocked⟩

/-- An assignment beyond a path has no effect if the path is assigned to as well. -/
theorem assign_comm_of_leads (h : Leads p p') :
    assign p a (assign p' a' f) = assign p' a' (assign p a f) := by
  have hnot : ¬ Leads p' p := fun h' => h.2 (h.1.eq_of_length
    (Nat.le_antisymm h.1.length_le h'.1.length_le))
  rw [assign_of_blocked (f := assign p a f) (blocked_assign.2 (Or.inr h))]
  by_cases hblocked : Blocked f p'
  · rw [assign_of_blocked hblocked]
  by_cases hp : Blocked f p
  · obtain ⟨q, b, hq, hleaf⟩ := hp
    exact absurd ⟨q, b, hq.extend h.1, hleaf⟩ hblocked
  have hp' : ¬ Blocked (assign p' a' f) p := fun hp' =>
    (blocked_assign.1 hp').elim hp hnot
  funext q
  rcases assign_cases p q with rfl | hcase | hcase | ⟨hpq, hqp⟩
  · rw [assign_self hp', assign_self hp]
  · rw [assign_of_leads hp' hcase, assign_of_leads hp hcase]
  · rw [assign_of_leads_to hp' hcase, assign_of_leads_to hp hcase]
  · rw [assign_of_apart hpq hqp, assign_of_apart hpq hqp,
      assign_of_apart (fun hq => hpq (h.1.trans hq))
        fun hq => (prefixes_comparable h.1 hq).elim hpq hqp]

theorem assign_comm (h : p ≠ p') :
    assign p a (assign p' a' f) = assign p' a' (assign p a f) := by
  by_cases hlead : Leads p p'
  · exact assign_comm_of_leads hlead
  by_cases hlead' : Leads p' p
  · exact (assign_comm_of_leads hlead').symm
  have hapart : ∀ {q}, p <+: q → ¬ p' <+: q := by
    intro q hp hp'
    rcases prefixes_comparable hp hp' with hpp | hpp
    · exact hlead ⟨hpp, h⟩
    · exact hlead' ⟨hpp, h.symm⟩
  have hp : Blocked (assign p' a' f) p ↔ Blocked f p :=
    blocked_assign.trans (or_iff_left hlead')
  have hp' : Blocked (assign p a f) p' ↔ Blocked f p' :=
    blocked_assign.trans (or_iff_left hlead)
  have hbeyond : ∀ {q}, p <+: q → ¬ q <+: p' := fun hpq hqp => hlead ⟨hpq.trans hqp, h⟩
  have hbeyond' : ∀ {q}, p' <+: q → ¬ q <+: p := fun hpq hqp => hlead' ⟨hpq.trans hqp, h.symm⟩
  by_cases hb : Blocked f p
  · rw [assign_of_blocked hb, assign_of_blocked (hp.2 hb)]
  by_cases hb' : Blocked f p'
  · rw [assign_of_blocked hb', assign_of_blocked (hp'.2 hb')]
  funext q
  by_cases hpq : p <+: q
  · -- the other path is somewhere else
    rw [assign_of_apart (p := p') (hapart hpq) (hbeyond hpq)]
    exact assign_congr hp (assign_of_apart (hapart hpq) (hbeyond hpq))
  by_cases hpq' : p' <+: q
  · rw [assign_of_apart (p := p) hpq (hbeyond' hpq')]
    exact (assign_congr hp' (assign_of_apart hpq (hbeyond' hpq'))).symm
  by_cases hqp : q <+: p
  · have hto : Leads q p := ⟨hqp, fun heq => hpq (heq ▸ List.prefix_refl q)⟩
    rw [assign_of_leads_to (mt hp.1 hb) hto]
    by_cases hqp' : q <+: p'
    · have hto' : Leads q p' := ⟨hqp', fun heq => hpq' (heq ▸ List.prefix_refl q)⟩
      rw [assign_of_leads_to (mt hp'.1 hb') hto']
    · rw [assign_of_apart hpq' hqp', assign_of_leads_to hb hto]
  · rw [assign_of_apart hpq hqp]
    exact (assign_congr hp' (assign_of_apart hpq hqp)).symm

theorem Closed.assign (h : Closed f) (p : List K) (a : α) : Closed (assign p a f) := by
  by_cases hblocked : Blocked f p
  · rwa [assign_of_blocked hblocked]
  intro q q' b hleaf hlead
  rcases assign_cases p q with rfl | hcase | hcase | ⟨hp, hq⟩
  · exact assign_of_leads hblocked hlead
  · rw [assign_of_leads hblocked hcase] at hleaf
    cases hleaf
  · rw [assign_of_leads_to hblocked hcase] at hleaf
    cases hleaf
  · rw [assign_of_apart hp hq] at hleaf
    rw [assign_of_apart, h q q' b hleaf hlead]
    · exact fun hp' => (prefixes_comparable hp' hlead.1).elim hp hq
    · exact fun hq' => hq (hlead.1.trans hq')

/-- The value of an assignment is found exactly if the way is not blocked. -/
theorem Closed.assign_eq_leaf_iff (h : Closed f) :
    Nested.assign p a f p = some (.leaf a) ↔ ¬ Blocked f p := by
  constructor
  · rintro heq ⟨q, b, hq, hleaf⟩
    rw [assign_of_blocked ⟨q, b, hq, hleaf⟩, h q p b hleaf hq] at heq
    cases heq
  · exact assign_self

/-! ## Loops of assignments -/

/-- A loop of assignments. -/
noncomputable def assignAll (l : List (List K × α)) (f : View K α) : View K α :=
  l.foldl (fun f e => assign e.1 e.2 f) f

variable {l l' : List (List K × α)}

theorem Closed.assignAll (h : Closed f) (l : List (List K × α)) : Closed (assignAll l f) := by
  induction l generalizing f with
  | nil => exact h
  | cons e l ih => exact ih (h.assign e.1 e.2)

theorem blocked_assignAll :
    Blocked (assignAll l f) p ↔ Blocked f p ∨ ∃ e ∈ l, Leads e.1 p := by
  induction l generalizing f with
  | nil => simp [assignAll]
  | cons e l ih =>
    rw [List.exists_mem_cons_iff, ← or_assoc, ← blocked_assign (a := e.2)]
    exact ih

/-- Assignments to different paths can be made in any order. -/
theorem assignAll_perm (h : l.Perm l') (hpaths : (l.map Prod.fst).Nodup) (f : View K α) :
    assignAll l f = assignAll l' f := by
  refine h.foldl_eq' (fun e he e' he' g => ?_) f
  by_cases heq : e = e'
  · rw [heq]
  · exact assign_comm fun hpath => heq (List.inj_on_of_nodup_map hpaths he he' hpath.symm)

/-- The value of one of several assignments is found at its path exactly if no other path
leads there, and nothing was in the way before. -/
theorem assignAll_eq_leaf_iff (hclosed : Closed f) (hpaths : (l.map Prod.fst).Nodup)
    (he : (p, a) ∈ l) :
    assignAll l f p = some (.leaf a) ↔ (∀ e ∈ l, ¬ Leads e.1 p) ∧ ¬ Blocked f p := by
  obtain ⟨front, back, rfl⟩ := List.append_of_mem he
  have hperm : (front ++ (p, a) :: back).Perm (front ++ back ++ [(p, a)]) := by
    rw [List.append_assoc]
    exact (List.perm_append_singleton (p, a) back).symm.append_left front
  have hlast : assignAll (front ++ back ++ [(p, a)]) f
      = assign p a (assignAll (front ++ back) f) := by
    rw [assignAll, List.foldl_append]
    rfl
  have hself : ¬ Leads p p := fun h => h.2 rfl
  have hothers : (∀ e ∈ front ++ (p, a) :: back, ¬ Leads e.1 p) ↔
      ∀ e ∈ front ++ back, ¬ Leads e.1 p := by
    constructor
    · exact fun hall e hmem => hall e (hperm.mem_iff.2 (List.mem_append_left _ hmem))
    · intro hall e hmem
      rcases List.mem_append.1 (hperm.mem_iff.1 hmem) with hmem | hmem
      · exact hall e hmem
      · rw [List.mem_singleton.1 hmem]
        exact hself
  rw [assignAll_perm hperm hpaths, hlast, (hclosed.assignAll _).assign_eq_leaf_iff,
    blocked_assignAll, hothers, not_or, and_comm]
  simp only [not_exists, not_and]

/-! ## The first step of a path -/

theorem leads_nil (q : List K) : ¬ Leads q [] := fun h => h.2 (List.prefix_nil.1 h.1)

theorem leads_cons {k k' : K} : Leads (k' :: q) (k :: p) ↔ k' = k ∧ Leads q p := by
  rw [Leads, Leads, List.cons_prefix_cons]
  constructor
  · rintro ⟨⟨rfl, hprefix⟩, hne⟩
    exact ⟨rfl, hprefix, fun heq => hne (by rw [heq])⟩
  · rintro ⟨rfl, hprefix, hne⟩
    exact ⟨⟨rfl, hprefix⟩, fun heq => hne (List.cons.inj heq).2⟩

theorem blocked_cons {k : K} (h : f [] = some .map) :
    Blocked f (k :: p) ↔ Blocked (fun q => f (k :: q)) p := by
  constructor
  · rintro ⟨q, b, hq, hleaf⟩
    cases q with
    | nil =>
      rw [h] at hleaf
      cases hleaf
    | cons k' q =>
      obtain ⟨rfl, hlead⟩ := leads_cons.1 hq
      exact ⟨q, b, hlead, hleaf⟩
  · rintro ⟨q, b, hq, hleaf⟩
    exact ⟨k :: q, b, leads_cons.2 ⟨rfl, hq⟩, hleaf⟩

/-- An assignment is one below the first key. -/
theorem assign_cons [DecidableEq K] {k k' : K} (h : f [] = some .map) :
    assign (k :: p) a f (k' :: q)
      = if k' = k then assign p a (fun q => f (k :: q)) q else f (k' :: q) := by
  by_cases hk : k' = k
  · subst hk
    rw [if_pos rfl]
    by_cases hblocked : Blocked f (k' :: p)
    · rw [assign_of_blocked hblocked, assign_of_blocked ((blocked_cons h).1 hblocked)]
    · have hblocked' : ¬ Blocked (fun q => f (k' :: q)) p := mt (blocked_cons h).2 hblocked
      rcases assign_cases p q with rfl | hcase | hcase | ⟨hp, hq⟩
      · rw [assign_self hblocked, assign_self hblocked']
      · rw [assign_of_leads hblocked (leads_cons.2 ⟨rfl, hcase⟩), assign_of_leads hblocked' hcase]
      · rw [assign_of_leads_to hblocked (leads_cons.2 ⟨rfl, hcase⟩),
          assign_of_leads_to hblocked' hcase]
      · rw [assign_of_apart hp hq, assign_of_apart]
        · exact fun hp' => hp (List.cons_prefix_cons.1 hp').2
        · exact fun hq' => hq (List.cons_prefix_cons.1 hq').2
  · rw [if_neg hk]
    refine assign_of_apart (fun hp => hk ?_) fun hp => hk ?_
    · exact (List.cons_prefix_cons.1 hp).1.symm
    · exact (List.cons_prefix_cons.1 hp).1

theorem assign_nil (h : f [] = some .map) (hp : p ≠ []) : assign p a f [] = some .map := by
  by_cases hblocked : Blocked f p
  · rw [assign_of_blocked hblocked, h]
  · exact assign_of_leads_to hblocked ⟨ List.nil_prefix, hp.symm⟩

/-- Nothing blocks the way where there are no values. -/
theorem not_blocked (h : ∀ q a, f q ≠ some (.leaf a)) : ¬ Blocked f p :=
  fun ⟨q, a, _, hleaf⟩ => h q a hleaf

/-- An assignment makes the first map as well if it is not there. -/
theorem assign_of_empty (hf : ∀ q, f q = none) (hg : ∀ q, g q = if q = [] then some .map else none)
    (hp : p ≠ []) : assign p a g = assign p a f := by
  have hblockedf : ¬ Blocked f p := not_blocked fun q b => by simp [hf]
  have hblockedg : ¬ Blocked g p := not_blocked fun q b => by
    rw [hg]
    split <;> simp
  funext q
  by_cases hq : q = []
  · subst hq
    rw [assign_of_leads_to hblockedf ⟨ List.nil_prefix, hp.symm⟩,
      assign_of_leads_to hblockedg ⟨ List.nil_prefix, hp.symm⟩]
  · rw [assign, assign, if_neg hblockedf, if_neg hblockedg, hf q, hg q, if_neg hq]

end Nested

/-! ## JSON objects -/

namespace Json

open Nested

/-- What a value is as part of a nested map. -/
def node : Json → Node Json
  | .obj _ => .map
  | v => .leaf v

/-- What is found at a path of keys. -/
def find : List (String × Json) → List String → Option Json
  | members, [] => some (.obj members)
  | members, k :: path =>
    match member members k with
    | none => none
    | some (.obj inner) => find inner path
    | some v => if path = [] then some v else none

/-- An object as a nested map. -/
def view (members : List (String × Json)) : View String Json :=
  fun path => (find members path).map node

/-- The same is found at every path. -/
def SameMap (members members' : List (String × Json)) : Prop := view members = view members'

variable {members : List (String × Json)} {k k' : String} {v : Json} {path : List String}

@[simp] theorem view_nil (members : List (String × Json)) : view members [] = some .map := rfl

theorem view_empty (path : List String) : view [] path = if path = [] then some .map else none := by
  cases path <;> rfl

/-- What is found under a key, by the value it has. -/
def under : Option Json → View String Json
  | none => fun _ => none
  | some (.obj inner) => view inner
  | some v => fun path => if path = [] then some (.leaf v) else none

theorem view_cons (members : List (String × Json)) (k : String) :
    (fun path => view members (k :: path)) = under (member members k) := by
  funext path
  rw [view, find]
  cases member members k with
  | none => rfl
  | some v =>
    cases v with
    | obj inner => rfl
    | _ => by_cases hpath : path = [] <;> simp [under, hpath, node]

/-- A value that is no object is found under its key, with nothing below it. -/
theorem under_leaf (h : ∀ inner, v ≠ .obj inner) :
    under (some v) = fun path => if path = [] then some (.leaf v) else none := by
  cases v with
  | obj inner => exact absurd rfl (h inner)
  | _ => rfl

theorem member_cons (kv : String × Json) (members : List (String × Json)) (k : String) :
    member (kv :: members) k = if kv.1 = k then some kv.2 else member members k := by
  rw [member, List.find?_cons]
  by_cases hk : kv.1 = k
  · simp [hk]
  · rw [if_neg hk, beq_false_of_ne hk, member]

theorem member_replace_of_ne (hk : k' ≠ k) (members : List (String × Json)) :
    member (members.map fun kv => if kv.1 == k then (k, v) else kv) k' = member members k' := by
  induction members with
  | nil => rfl
  | cons kv members ih =>
    rw [List.map_cons, member_cons, member_cons, ih]
    by_cases hkv : kv.1 = k
    · simp [hkv, Ne.symm hk]
    · simp [hkv]

theorem member_replace_self (h : (members.any fun kv => kv.1 == k) = true) :
    member (members.map fun kv => if kv.1 == k then (k, v) else kv) k = some v := by
  induction members with
  | nil => simp at h
  | cons kv members ih =>
    rw [List.map_cons, member_cons]
    by_cases hkv : kv.1 = k
    · simp [hkv]
    · have hrest : (members.any fun kv => kv.1 == k) = true := by
        simpa [hkv] using h
      simpa [hkv] using ih hrest

theorem member_setMember :
    member (setMember members k v) k' = if k' = k then some v else member members k' := by
  unfold setMember
  split
  · rename_i hany
    split
    · rename_i hk
      rw [hk]
      exact member_replace_self hany
    · rename_i hk
      exact member_replace_of_ne hk members
  · rename_i hany
    have hnone : members.find? (fun kv => kv.1 == k) = none := by
      rw [List.find?_eq_none]
      intro kv hkv hk
      exact hany (List.any_eq_true.2 ⟨kv, hkv, hk⟩)
    rw [member, List.find?_append, member]
    by_cases hk : k' = k
    · simp [hk, hnone]
    · simp [hk, Ne.symm hk]

/-- What is found after an assignment to a member. -/
theorem view_setMember (members : List (String × Json)) (k : String) (v : Json) (k' : String)
    (path : List String) :
    view (setMember members k v) (k' :: path)
      = if k' = k then under (some v) path else view members (k' :: path) := by
  have h : view (setMember members k v) (k' :: path) = _ :=
    congrFun (view_cons (setMember members k v) k') path
  have h' : view members (k' :: path) = _ := congrFun (view_cons members k') path
  rw [h, h', member_setMember]
  split <;> rfl

theorem setField_cons_cons (v : Json) (members : List (String × Json)) (k k' : String)
    (path : List String) :
    setField v members (k :: k' :: path) =
      match member members k with
      | none => (setMember members k (.obj (setField v [] (k' :: path)).1),
          (setField v [] (k' :: path)).2)
      | some (.obj inner) => (setMember members k (.obj (setField v inner (k' :: path)).1),
          (setField v inner (k' :: path)).2)
      | some _ => (members, false) := rfl

/-- An assignment to a member is one to a path if it is one below the member. -/
theorem view_setMember_eq_assign {w : Json}
    (h : under (some w) = assign path v (under (member members k))) :
    view (setMember members k w) = assign (k :: path) v (view members) := by
  funext q
  cases q with
  | nil => rw [view_nil, assign_nil (view_nil members) (by simp)]
  | cons k' q => rw [view_setMember, assign_cons (view_nil members), h, view_cons]

/-- The assignment to a nested field, and whether the way to it is free. -/
theorem view_setField (hv : ∀ inner, v ≠ .obj inner) (hpath : path ≠ [])
    (members : List (String × Json)) :
    view (setField v members path).1 = assign path v (view members) ∧
      ((setField v members path).2 = true ↔ ¬ Blocked (view members) path) := by
  induction path generalizing members with
  | nil => exact absurd rfl hpath
  | cons k path ih =>
    rw [blocked_cons (view_nil members), view_cons]
    cases path with
    | nil =>
      have hfree : ¬ Blocked (under (member members k)) [] := fun ⟨q, _, hq, _⟩ => leads_nil q hq
      refine ⟨view_setMember_eq_assign ?_, by simp [setField, hfree]⟩
      rw [under_leaf hv]
      funext q
      by_cases hq : q = []
      · rw [if_pos hq, hq, assign_self hfree]
      · rw [if_neg hq, assign_of_leads hfree ⟨ List.nil_prefix, Ne.symm hq⟩]
    | cons k₂ path =>
      have hstep := ih (by simp)
      rw [setField_cons_cons]
      cases hmember : member members k with
      | none =>
        obtain ⟨hfields, hfree⟩ := hstep []
        refine ⟨view_setMember_eq_assign ?_, hfree.trans (iff_of_true ?_ ?_)⟩
        · rw [hmember]
          exact hfields.trans (assign_of_empty (fun _ => rfl) view_empty (by simp))
        · refine not_blocked fun q b => ?_
          rw [view_empty]
          split <;> simp
        · exact not_blocked fun q b => by simp [under]
      | some w =>
        by_cases hw : ∃ inner, w = .obj inner
        · obtain ⟨inner, rfl⟩ := hw
          refine ⟨view_setMember_eq_assign ?_, (hstep inner).2⟩
          rw [hmember]
          exact (hstep inner).1
        · have hblocked : Blocked (under (some w)) (k₂ :: path) := by
            rw [under_leaf fun inner heq => hw ⟨inner, heq⟩]
            exact ⟨[], w, ⟨ List.nil_prefix, by simp⟩, rfl⟩
          have hkept : view members = assign (k :: k₂ :: path) v (view members) := by
            refine (assign_of_blocked ?_).symm
            rwa [blocked_cons (view_nil members), view_cons, hmember]
          cases w with
          | obj inner => exact absurd ⟨inner, rfl⟩ hw
          | _ => exact ⟨hkept, by simp [hblocked]⟩

theorem setField_empty (v : Json) (path : List String) : (setField v [] path).2 = true := by
  induction path with
  | nil => rfl
  | cons k path ih =>
    cases path with
    | nil => rfl
    | cons k₂ path => exact ih

/-- An assignment that meets something on its way changes nothing, whatever the value. -/
theorem sameMap_setField_of_false (h : (setField v members path).2 = false) :
    SameMap (setField v members path).1 members := by
  induction path generalizing members with
  | nil => cases h
  | cons k path ih =>
    cases path with
    | nil => cases h
    | cons k₂ path =>
      rw [setField_cons_cons] at h ⊢
      cases hmember : member members k with
      | none =>
        rw [hmember] at h
        exact absurd ((setField_empty v (k₂ :: path)).symm.trans h) (by simp)
      | some w =>
        rw [hmember] at h
        cases w with
        | obj inner =>
          have hinner : view (setField v inner (k₂ :: path)).1 = view inner := ih h
          funext q
          cases q with
          | nil => rfl
          | cons k' q =>
            rw [view_setMember]
            split
            · rename_i hk
              have hold := congrFun (view_cons members k) q
              rw [hmember] at hold
              rw [hk]
              exact (congrFun hinner q).trans hold.symm
            · rfl
        | _ => rfl

theorem node_eq_leaf_iff {w : Json} : node w = .leaf v ↔ w = v ∧ ∀ inner, v ≠ .obj inner := by
  constructor
  · intro h
    cases w with
    | obj inner => cases h
    | _ =>
      cases h
      exact ⟨rfl, by simp⟩
  · rintro ⟨rfl, hv⟩
    cases w with
    | obj inner => exact absurd rfl (hv inner)
    | _ => rfl

theorem view_eq_leaf_iff :
    view members path = some (.leaf v) ↔ find members path = some v ∧ ∀ inner, v ≠ .obj inner := by
  rw [view, Option.map_eq_some_iff]
  constructor
  · rintro ⟨w, hw, hnode⟩
    obtain ⟨rfl, hv⟩ := node_eq_leaf_iff.1 hnode
    exact ⟨hw, hv⟩
  · rintro ⟨hv, hobj⟩
    exact ⟨v, hv, node_eq_leaf_iff.2 ⟨rfl, hobj⟩⟩

/-- The way to a path is free exactly if there are only objects on it. -/
theorem not_blocked_view_iff :
    ¬ Blocked (view members) path ↔
      ∀ p w, Leads p path → find members p = some w → ∃ inner, w = .obj inner := by
  constructor
  · intro hfree p w hp hw
    by_contra hobj
    exact hfree ⟨p, w, hp, view_eq_leaf_iff.2 ⟨hw, fun inner heq => hobj ⟨inner, heq⟩⟩⟩
  · rintro hobjects ⟨p, w, hp, hleaf⟩
    obtain ⟨hw, hobj⟩ := view_eq_leaf_iff.1 hleaf
    obtain ⟨inner, rfl⟩ := hobjects p w hp hw
    exact hobj inner rfl

/-- There is nothing below a value that is no object. -/
theorem closed_view (members : List (String × Json)) : Closed (view members) := by
  intro p
  induction p generalizing members with
  | nil =>
    intro q a hleaf
    cases hleaf
  | cons k p ih =>
    intro q a hleaf hlead
    cases q with
    | nil => exact absurd hlead (leads_nil _)
    | cons k' q =>
      obtain ⟨rfl, hlead'⟩ := leads_cons.1 hlead
      have hp : view members (k :: p) = _ := congrFun (view_cons members k) p
      have hq : view members (k :: q) = _ := congrFun (view_cons members k) q
      rw [hp] at hleaf
      rw [hq]
      cases hmember : member members k with
      | none => rfl
      | some w =>
        rw [hmember] at hleaf
        by_cases hw : ∃ inner, w = .obj inner
        · obtain ⟨inner, rfl⟩ := hw
          exact ih inner q a hleaf hlead'
        · have hne : q ≠ [] := fun heq => leads_nil p (heq ▸ hlead')
          rw [under_leaf fun inner heq => hw ⟨inner, heq⟩]
          exact if_neg hne

end Json
