import Mathlib.Data.List.Nodup
import Mathlib.Data.List.Perm.Subperm
import Mathlib.Logic.Relation

/-!
# Recursion along edges

A procedure that calls itself for the successors of a node, without remembering where it has
been.

* `ends` — the calls return if no more than a number of them may be open at a time.
* `Cyclic` — edges lead from some node back to itself.
* `ends_of_not_cyclic` — without a cycle the calls return, and as many open calls suffice as
  there are nodes with successors.
* `not_ends_of_cycle` — a call for a node on a cycle never returns.
-/

namespace Fybrik.Descent

variable {K : Type} (next : K → List K)

/-- The calls return, with at most this many of them open at a time. -/
def ends : ℕ → K → Bool
  | 0, _ => false
  | n + 1, k => (next k).all (ends n)

/-- An edge leads to each successor. -/
def Edge (k k' : K) : Prop := k' ∈ next k

/-- Edges lead from a node back to itself. -/
def Cyclic : Prop := ∃ k, Relation.TransGen (Edge next) k k

variable {next} {k : K} {n : ℕ}

theorem ends_succ_iff : ends next (n + 1) k = true ↔ ∀ k' ∈ next k, ends next n k' = true := by
  rw [ends, List.all_eq_true]

/-- A node on a cycle has a successor on a cycle, so that the calls go on for ever. -/
theorem not_ends_of_cycle (h : Relation.TransGen (Edge next) k k) (n : ℕ) :
    ends next n k = false := by
  induction n generalizing k with
  | zero => rfl
  | succ n ih =>
    obtain ⟨k', hedge, hback⟩ := Relation.TransGen.head'_iff.1 h
    have hcycle : Relation.TransGen (Edge next) k' k' := Relation.TransGen.tail' hback hedge
    by_contra hends
    rw [Bool.not_eq_false, ends_succ_iff] at hends
    have hnext := hends k' hedge
    rw [ih hcycle] at hnext
    exact Bool.false_ne_true hnext

/-- The nodes from which calls are open are different ones, so that their number is limited. -/
theorem ends_of_path (hcycle : ¬ Cyclic next) {keys : List K}
    (hkeys : ∀ k, next k ≠ [] → k ∈ keys) {path : List K} (hnodup : path.Nodup)
    (hsubset : path ⊆ keys) (hpath : ∀ k' ∈ path, Relation.TransGen (Edge next) k' k)
    (hlength : path.length + n = keys.length) : ends next (n + 1) k = true := by
  have hnew : k ∉ path := fun hmem => hcycle ⟨k, hpath k hmem⟩
  induction n generalizing k path with
  | zero =>
    -- all nodes with successors have calls open, so that this one has none
    rw [ends_succ_iff]
    intro k' hk'
    have hmem : k ∈ keys := hkeys k (List.ne_nil_of_mem hk')
    have hlonger := ((List.nodup_cons.2 ⟨hnew, hnodup⟩).subperm
      (List.cons_subset.2 ⟨hmem, hsubset⟩)).length_le
    rw [List.length_cons] at hlonger
    omega
  | succ n ih =>
    rw [ends_succ_iff]
    intro k' hk'
    have hmem : k ∈ keys := hkeys k (List.ne_nil_of_mem hk')
    have hreach : ∀ x ∈ k :: path, Relation.TransGen (Edge next) x k' := by
      intro x hx
      rcases List.mem_cons.1 hx with rfl | hx
      · exact .single hk'
      · exact (hpath x hx).tail hk'
    refine ih (List.nodup_cons.2 ⟨hnew, hnodup⟩) (List.cons_subset.2 ⟨hmem, hsubset⟩) hreach ?_
      fun hx => hcycle ⟨k', hreach k' hx⟩
    rw [List.length_cons]
    omega

theorem ends_of_not_cyclic (hcycle : ¬ Cyclic next) {keys : List K}
    (hkeys : ∀ k, next k ≠ [] → k ∈ keys) (k : K) : ends next (keys.length + 1) k = true :=
  ends_of_path hcycle hkeys List.nodup_nil (List.nil_subset _)
    (fun _ hk' => absurd hk' List.not_mem_nil) (Nat.zero_add _)

/-- Nodes without successors are on no cycle. -/
theorem mem_of_cycle {keys : List K} (hkeys : ∀ k, next k ≠ [] → k ∈ keys)
    (h : Relation.TransGen (Edge next) k k) : k ∈ keys := by
  obtain ⟨k', hedge, -⟩ := Relation.TransGen.head'_iff.1 h
  exact hkeys k (List.ne_nil_of_mem hedge)

/-- The calls for all nodes return within some number of open calls if and only if there is no
cycle, and then they do within the number of nodes. -/
theorem exists_ends_iff {keys : List K} (hkeys : ∀ k, next k ≠ [] → k ∈ keys) :
    (∃ n, ∀ k ∈ keys, ends next n k = true) ↔ ¬ Cyclic next := by
  constructor
  · rintro ⟨n, hends⟩ ⟨k, hk⟩
    have hnot := not_ends_of_cycle hk n
    rw [hends k (mem_of_cycle hkeys hk)] at hnot
    exact absurd hnot (by decide)
  · intro hcycle
    exact ⟨keys.length + 1, fun k _ => ends_of_not_cyclic hcycle hkeys k⟩

end Fybrik.Descent
