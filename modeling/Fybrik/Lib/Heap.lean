import Mathlib.Tactic.Common

/-!
# Variables in memory

The variables of one type that a program has allocated.  Variables of different types
never share memory, so a program has one such heap for each type.

* `Heap.alloc`, `Heap.read`, `Heap.write` — the operations; the address of the next
  variable is the size of the heap.
* `Heap.Extends` — whatever was allocated before has kept its value: allocation and
  writing to younger variables preserve this (`extends_alloc`, `Extends.write`).
-/

/-- The values of the variables, by address. -/
structure Heap (α : Type) where
  cells : List α
  deriving DecidableEq

namespace Heap

variable {α : Type} [Inhabited α] {h h' h'' : Heap α} {a : α} {p q : ℕ}

/-- The number of variables, and the address of the next one. -/
def size (h : Heap α) : ℕ := h.cells.length

/-- The value of a variable. -/
def read (h : Heap α) (p : ℕ) : α := (h.cells[p]?).getD default

/-- A new variable, with its first value. -/
def alloc (h : Heap α) (a : α) : Heap α := ⟨h.cells ++ [a]⟩

/-- An assignment to a variable. -/
def write (h : Heap α) (p : ℕ) (a : α) : Heap α := ⟨h.cells.set p a⟩

omit [Inhabited α] in
@[simp] theorem size_alloc (h : Heap α) (a : α) : (h.alloc a).size = h.size + 1 := by
  simp [size, alloc]

omit [Inhabited α] in
@[simp] theorem size_write (h : Heap α) (p : ℕ) (a : α) : (h.write p a).size = h.size := by
  simp [size, write]

@[simp] theorem read_alloc_self (h : Heap α) (a : α) : (h.alloc a).read h.size = a := by
  simp [read, alloc, size]

theorem read_alloc_of_lt (hp : p < h.size) : (h.alloc a).read p = h.read p := by
  rw [read, alloc, List.getElem?_append_left hp]
  rfl

theorem read_write_self (hp : p < h.size) : (h.write p a).read p = a := by
  rw [read, write, List.getElem?_set_self hp]
  rfl

theorem read_write_ne (hne : p ≠ q) : (h.write p a).read q = h.read q := by
  rw [read, write, List.getElem?_set_ne hne]
  rfl

/-! ## Heaps that grow -/

/-- The variables of `h` have in `h'` the values that they have in `h`. -/
structure Extends (h h' : Heap α) : Prop where
  size_le : h.size ≤ h'.size
  read_eq : ∀ p < h.size, h'.read p = h.read p

namespace Extends

theorem refl (h : Heap α) : h.Extends h := ⟨Nat.le_refl _, fun _ _ => rfl⟩

theorem trans (h₁ : h.Extends h') (h₂ : h'.Extends h'') : h.Extends h'' := by
  refine ⟨Nat.le_trans h₁.size_le h₂.size_le, ?_⟩
  intro p hp
  rw [h₂.read_eq p (Nat.lt_of_lt_of_le hp h₁.size_le), h₁.read_eq p hp]

/-- A younger variable may be assigned to. -/
theorem write (hext : h.Extends h') (hp : h.size ≤ p) : h.Extends (h'.write p a) := by
  refine ⟨by rw [size_write]; exact hext.size_le, ?_⟩
  intro q hq
  rw [read_write_ne (by omega), hext.read_eq q hq]

end Extends

theorem extends_alloc (h : Heap α) (a : α) : h.Extends (h.alloc a) :=
  ⟨by rw [size_alloc]; omega, fun _ hp => read_alloc_of_lt hp⟩

end Heap
