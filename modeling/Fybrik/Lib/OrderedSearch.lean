import Mathlib.Data.List.Perm.Basic
import Mathlib.Tactic.Common

/-!
# A search that takes its options in any order

A backward search for paths whose moves come in groups.  Within a group the moves have a
fixed order, but each call of the search takes the groups in an order of its own.  The
same paths are found whatever the orders are; which of them comes first is another
matter.

* `GroupedSearch`, `GroupedSearch.search` — the groups with their moves, and the search.
* `Schedule` — an order of the groups for each call.
* `GroupedSearch.mem_search_iff` — the paths found do not depend on the schedule.
* `GroupedSearch.leading` — the paths all of whose moves are the first of their group
  that lead to anything valid.
* `GroupedSearch.exists_find?_iff` — **these are the valid paths that can come first**.
-/

/-- A move of a search: it completes a path, or it asks for the paths to another target.
The label tells the calls apart that are made for the moves of a group. -/
inductive Move (T L E : Type) where
  | last (e : E)
  | further (label : L) (e : E) (t : T)

/-- For each call the order in which it takes the groups.  A call is named by the groups
and labels of the moves that led to it. -/
structure Schedule {M : Type} (L : Type) (groups : List M) where
  order : List (M × L) → List M
  perm : ∀ call, (order call).Perm groups

namespace Schedule

variable {M L : Type} {groups : List M}

/-- The schedule of the calls made from the one for a move. -/
def after (s : Schedule L groups) (m : M) (label : L) : Schedule L groups :=
  ⟨fun call => s.order ((m, label) :: call), fun call => s.perm ((m, label) :: call)⟩

/-- Every call takes the groups as they are listed. -/
def fixed (groups : List M) : Schedule L groups := ⟨fun _ => groups, fun _ => .refl groups⟩

/-- The first call starts with the group `m`; the calls it makes follow `s`. -/
def startWith [DecidableEq M] (s : Schedule L groups) (m : M) (hm : m ∈ groups) :
    Schedule L groups where
  order
    | [] => m :: groups.erase m
    | _ :: call => s.order call
  perm
    | [] => (List.perm_cons_erase hm).symm
    | _ :: call => s.perm call

theorem mem_order (s : Schedule L groups) {call : List (M × L)} {m : M} :
    m ∈ s.order call ↔ m ∈ groups :=
  (s.perm call).mem_iff

end Schedule

/-- The groups of a search, and the moves of each for a target. -/
structure GroupedSearch (T M L E : Type) where
  groups : List M
  moves : T → M → List (Move T L E)

namespace GroupedSearch

variable {T M L E : Type} (S : GroupedSearch T M L E)

/-! ## The search -/

/-- The paths that end with a move, given what leads to other targets. -/
def through (deeper : L → T → List (List E)) : Move T L E → List (List E)
  | .last e => [[e]]
  | .further label e t => (deeper label t).map (· ++ [e])

/-- One call of the search, given the calls it makes. -/
def level (call : Schedule L S.groups → T → List (List E)) (s : Schedule L S.groups) (t : T) :
    List (List E) :=
  (s.order []).flatMap fun m =>
    (S.moves t m).flatMap (through fun label => call (s.after m label))

/-- All paths to `t` of at most `d + 1` moves. -/
def search : ℕ → Schedule L S.groups → T → List (List E)
  | 0 => S.level fun _ _ => []
  | d + 1 => S.level (search d)

/-! ## What can come first -/

/-- One level of `leading`: the first move of each group that leads to a valid path. -/
def leadingLevel (reach : T → List (List E)) (lead : (List E → Bool) → T → List (List E))
    (valid : List E → Bool) (t : T) : List (List E) :=
  S.groups.flatMap fun m =>
    match (S.moves t m).find? fun mv => (through (fun _ => reach) mv).any valid with
    | none => []
    | some (.last e) => [[e]]
    | some (.further _ e t') => (lead (fun path => valid (path ++ [e])) t').map (· ++ [e])

/-- The valid paths to `t` of at most `d + 1` moves such that no move of the same group
comes before one of theirs and leads to a valid path. -/
def leading : ℕ → (List E → Bool) → T → List (List E)
  | 0 => S.leadingLevel (fun _ => []) fun _ _ => []
  | d + 1 => S.leadingLevel (S.search d (Schedule.fixed S.groups)) (leading d)

/-- The first hit in a concatenation is the first hit of the first part that has one. -/
theorem find?_flatMap_eq_some_iff {α β : Type} {l : List α} {f : α → List β} {p : β → Bool}
    {b : β} : (l.flatMap f).find? p = some b ↔
      ∃ a, l.find? (fun a => (f a).any p) = some a ∧ (f a).find? p = some b := by
  induction l with
  | nil => simp
  | cons a l ih =>
    have hany : (f a).any p = ((f a).find? p).isSome := by
      rw [Bool.eq_iff_iff, List.any_eq_true, List.find?_isSome]
    rw [List.flatMap_cons, List.find?_append, List.find?_cons, hany]
    cases hfind : (f a).find? p with
    | some b' => simp [hfind]
    | none => exact ih

variable {S}

section

variable {call : Schedule L S.groups → T → List (List E)} {reach : T → List (List E)}
  {lead : (List E → Bool) → T → List (List E)} {t : T} {valid : List E → Bool} {path : List E}

theorem mem_through_congr {deeper deeper' : L → T → List (List E)}
    (h : ∀ label t path, path ∈ deeper label t ↔ path ∈ deeper' label t) (mv : Move T L E) :
    path ∈ through deeper mv ↔ path ∈ through deeper' mv := by
  cases mv with
  | last e => exact Iff.rfl
  | further label e t => simp only [through, List.mem_map, h]

/-- A level finds the same paths in every order, if the calls it makes do. -/
theorem mem_level_congr (h : ∀ s s' t path, path ∈ call s t ↔ path ∈ call s' t)
    (s s' : Schedule L S.groups) : path ∈ S.level call s t ↔ path ∈ S.level call s' t := by
  simp only [level, List.mem_flatMap, s.mem_order, s'.mem_order]
  exact exists_congr fun m => and_congr_right fun _ => exists_congr fun mv =>
    and_congr_right fun _ => mem_through_congr (fun label => h _ _) mv

/-- What the moves of a group lead to does not depend on the schedule. -/
theorem find?_moves_congr (hreach : ∀ s t path, path ∈ call s t ↔ path ∈ reach t)
    (s : Schedule L S.groups) (m : M) :
    ((S.moves t m).find? fun mv => (through (fun _ => reach) mv).any valid)
      = (S.moves t m).find? fun mv =>
        (through (fun label => call (s.after m label)) mv).any valid := by
  refine congrArg (List.find? · (S.moves t m)) (funext fun mv => ?_)
  rw [Bool.eq_iff_iff, List.any_eq_true, List.any_eq_true]
  exact exists_congr fun path => and_congr_left fun _ =>
    mem_through_congr (fun label t path => (hreach _ t path).symm) mv

/-- The paths of `leadingLevel` are those that can come first on a level, if `lead` has
those that can come first in the calls it makes. -/
theorem exists_find?_level_iff [DecidableEq M]
    (hreach : ∀ s t path, path ∈ call s t ↔ path ∈ reach t)
    (hlead : ∀ valid t path, (∃ s, (call s t).find? valid = some path) ↔ path ∈ lead valid t) :
    (∃ s, (S.level call s t).find? valid = some path) ↔
      path ∈ S.leadingLevel reach lead valid t := by
  constructor
  · rintro ⟨s, h⟩
    obtain ⟨m, hm, h⟩ := find?_flatMap_eq_some_iff.1 h
    obtain ⟨mv, hmv, h⟩ := find?_flatMap_eq_some_iff.1 h
    refine List.mem_flatMap.2 ⟨m, s.mem_order.1 (List.mem_of_find?_eq_some hm), ?_⟩
    rw [find?_moves_congr hreach s, hmv]
    cases mv with
    | last e => exact List.mem_of_find?_eq_some h
    | further label e t' =>
      rw [through, List.find?_map, Option.map_eq_some_iff] at h
      obtain ⟨q, hq, rfl⟩ := h
      exact List.mem_map.2 ⟨q, (hlead _ _ _).1 ⟨_, hq⟩, rfl⟩
  · intro h
    obtain ⟨m, hm, h⟩ := List.mem_flatMap.1 h
    -- the group is taken first, and the calls it makes follow the schedule of the rest
    have hstart : ∀ (s : Schedule L S.groups) (mv : Move T L E),
        ((S.moves t m).find? fun mv => (through (fun _ => reach) mv).any valid) = some mv →
        (through (fun _ => call s) mv).find? valid = some path →
        (S.level call (s.startWith m hm) t).find? valid = some path := by
      intro s mv hmv hpath
      rw [find?_moves_congr hreach (s.startWith m hm)] at hmv
      have hgroup : ((S.moves t m).flatMap (through fun label =>
          call ((s.startWith m hm).after m label))).find? valid = some path :=
        find?_flatMap_eq_some_iff.2 ⟨mv, hmv, hpath⟩
      show (List.flatMap _ (m :: S.groups.erase m)).find? valid = some path
      rw [List.flatMap_cons, List.find?_append, hgroup, Option.some_or]
    split at h
    · cases h
    · rename_i e hmv
      obtain rfl := List.mem_singleton.1 h
      refine ⟨_, hstart (Schedule.fixed S.groups) _ hmv ?_⟩
      have hvalid : valid [e] = true := by simpa [through] using List.find?_some hmv
      rw [through, List.find?_cons_of_pos hvalid]
    · rename_i label e t' hmv
      obtain ⟨q, hq, rfl⟩ := List.mem_map.1 h
      obtain ⟨s, hs⟩ := (hlead _ _ _).2 hq
      refine ⟨_, hstart s _ hmv ?_⟩
      rw [through, List.find?_map, Option.map_eq_some_iff]
      exact ⟨q, hs, rfl⟩

end

/-- The paths found do not depend on the schedule. -/
theorem mem_search_iff {d : ℕ} (s s' : Schedule L S.groups) {t : T} {path : List E} :
    path ∈ S.search d s t ↔ path ∈ S.search d s' t := by
  induction d generalizing s s' t path with
  | zero => exact mem_level_congr (fun _ _ _ _ => Iff.rfl) s s'
  | succ d ih =>
    have hcalls : ∀ s s' t path, path ∈ S.search d s t ↔ path ∈ S.search d s' t :=
      fun s s' _ _ => ih s s'
    exact mem_level_congr hcalls s s'

/-- The valid paths that can come first are the leading ones. -/
theorem exists_find?_iff [DecidableEq M] {d : ℕ} {t : T} {valid : List E → Bool}
    {path : List E} :
    (∃ s, (S.search d s t).find? valid = some path) ↔ path ∈ S.leading d valid t := by
  induction d generalizing t valid path with
  | zero => exact exists_find?_level_iff (fun _ _ _ => Iff.rfl) (by simp)
  | succ d ih =>
    exact exists_find?_level_iff (fun s _ _ => mem_search_iff s _) fun _ _ _ => ih

end GroupedSearch
