import Mathlib.Data.List.Basic
import Mathlib.Tactic.Common

/-!
# Bounded backward path search

A search that starts from a target, looks at every candidate that can reach the
target in one move, and either finishes with it (the candidate starts where the
search should start) or asks for everything that reaches one of the places the
candidate can be entered from, up to a given depth.

* `Network` — the data of such a search: for each target the candidates, for
  each candidate the move that finishes a path, and the ways to go further back.
* `Network.search` — the search itself, in the order a pair of nested loops
  produces the paths.
* `Network.Route` — the paths it looks for, with no bound and no order.
* `Network.mem_search` — **the search is exact**: at depth `d` it returns
  precisely the routes of at most `d + 1` moves.
-/

/-- A backward search problem over targets `T`, candidates `C` and moves `E`. -/
structure Network (T C E : Type) where
  /-- The candidates whose move can end at a target. -/
  candidates : T → List C
  /-- The move that completes a path at its beginning, if the candidate can. -/
  finish : T → C → List E
  /-- The ways to go further back: a new target and the move from it. -/
  hops : T → C → List (T × E)

namespace Network

variable {T C E : Type} (net : Network T C E)

/-- One level of the search, given what reaches the places further back. -/
def level (deeper : T → List (List E)) (t : T) : List (List E) :=
  (net.candidates t).flatMap fun c =>
    (net.finish t c).map (fun e => [e]) ++
      (net.hops t c).flatMap fun h => (deeper h.1).map (· ++ [h.2])

/-- All paths to `t` of at most `d + 1` moves. -/
def search : ℕ → T → List (List E)
  | 0, t => net.level (fun _ => []) t
  | d + 1, t => net.level (search d) t

/-- The paths to a target, of any length. -/
inductive Route : T → List E → Prop
  | finish {t : T} {c : C} {e : E} :
      c ∈ net.candidates t → e ∈ net.finish t c → Route t [e]
  | hop {t : T} {c : C} {h : T × E} {path : List E} :
      c ∈ net.candidates t → h ∈ net.hops t c → Route h.1 path → Route t (path ++ [h.2])

variable {net} {path : List E}

theorem Route.length_pos {t : T} (h : net.Route t path) : 0 < path.length := by
  cases h with
  | finish _ _ => simp
  | hop _ _ _ => simp

theorem mem_level {deeper : T → List (List E)} {t : T} :
    path ∈ net.level deeper t ↔ ∃ c ∈ net.candidates t,
      (∃ e ∈ net.finish t c, path = [e]) ∨
        ∃ h ∈ net.hops t c, ∃ q ∈ deeper h.1, path = q ++ [h.2] := by
  simp only [level, List.mem_flatMap, List.mem_append, List.mem_map, eq_comm (a := path)]

/-- What the search returns is a route, and a short one. -/
theorem route_of_mem_search {d : ℕ} {t : T} (h : path ∈ net.search d t) :
    net.Route t path ∧ path.length ≤ d + 1 := by
  induction d generalizing t path with
  | zero =>
    obtain ⟨c, hc, ⟨e, he, rfl⟩ | ⟨hp, _, q, hq, _⟩⟩ := mem_level.1 h
    · exact ⟨.finish hc he, by simp⟩
    · cases hq
  | succ d ih =>
    obtain ⟨c, hc, ⟨e, he, rfl⟩ | ⟨hp, hhp, q, hq, rfl⟩⟩ := mem_level.1 h
    · exact ⟨.finish hc he, by simp⟩
    · obtain ⟨hroute, hlen⟩ := ih hq
      refine ⟨.hop hc hhp hroute, ?_⟩
      rw [List.length_append, List.length_singleton]
      omega

theorem mem_search_of_route {t : T} (h : net.Route t path) :
    ∀ {d : ℕ}, path.length ≤ d + 1 → path ∈ net.search d t := by
  induction h with
  | finish hc he =>
    intro d _
    cases d with
    | zero => exact mem_level.2 ⟨_, hc, Or.inl ⟨_, he, rfl⟩⟩
    | succ d => exact mem_level.2 ⟨_, hc, Or.inl ⟨_, he, rfl⟩⟩
  | @hop t c hp path hc hhp hroute ih =>
    intro d hlen
    rw [List.length_append, List.length_singleton] at hlen
    cases d with
    | zero =>
      have := hroute.length_pos
      omega
    | succ d =>
      exact mem_level.2 ⟨c, hc, Or.inr ⟨hp, hhp, path, ih (by omega), rfl⟩⟩

/-- The search is exact: it returns the routes that fit in the bound. -/
theorem mem_search {d : ℕ} {t : T} :
    path ∈ net.search d t ↔ net.Route t path ∧ path.length ≤ d + 1 :=
  ⟨route_of_mem_search, fun h => mem_search_of_route h.1 h.2⟩

end Network
