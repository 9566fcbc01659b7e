import Mathlib.Data.Nat.Digits.Defs
import Mathlib.Tactic.Common

/-!
# Numbers in decimal notation

`Atoi` and `Itoa` of the package `strconv`.

* `unsigned`, `atoi` — digits with an optional sign are read, up to the range of the machine's
  integers.
* `itoa` — a number is written.
* `wrap` — what is left of a number in the machine's integers.
* `atoi_itoa` — what is written is read as the same number, or is out of range.
-/

namespace Decimal

/-- The number that is written in digits; there must be at least one. -/
def unsigned (digits : List Char) : Option ℕ :=
  if digits ≠ [] ∧ digits.all Char.isDigit = true then some (Nat.ofDigitChars 10 digits 0)
  else none

/-- A number within the range of the type `int`. -/
def inRange (n : ℤ) : Option ℤ :=
  if -9223372036854775808 ≤ n ∧ n ≤ 9223372036854775807 then some n else none

/-- A number in the type `int`, whose arithmetic wraps around. -/
def wrap (n : ℤ) : ℤ := (n + 9223372036854775808) % 18446744073709551616 - 9223372036854775808

theorem wrap_of_lt {n : ℤ} (hnonneg : 0 ≤ n) (h : n < 9223372036854775808) : wrap n = n := by
  unfold wrap
  omega

/-- `strconv.Atoi`. -/
def atoi (s : String) : Option ℤ :=
  match s.toList with
  | '-' :: digits => (unsigned digits).bind fun n => inRange (-n)
  | '+' :: digits => (unsigned digits).bind fun n => inRange n
  | digits => (unsigned digits).bind fun n => inRange n

/-- `strconv.Itoa`. -/
def itoa : ℤ → String
  | .ofNat n => String.ofList (Nat.toDigits 10 n)
  | .negSucc n => String.ofList ('-' :: Nat.toDigits 10 (n + 1))

theorem isDigit_toDigits (n : ℕ) : ∀ c ∈ Nat.toDigits 10 n, c.isDigit = true := fun _ hc =>
  Nat.isDigit_of_mem_toDigits (by decide) (by decide) hc

theorem unsigned_toDigits (n : ℕ) : unsigned (Nat.toDigits 10 n) = some n := by
  have hall := List.all_eq_true.2 (isDigit_toDigits n)
  rw [unsigned, if_pos ⟨Nat.toDigits_ne_nil, hall⟩, Nat.ofDigitChars_ten_toDigits]

/-- Digits are read without a sign. -/
theorem atoi_of_digits {digits : List Char} (h : ∀ c ∈ digits, c.isDigit = true) :
    atoi (String.ofList digits) = (unsigned digits).bind fun n => inRange n := by
  rw [atoi, String.toList_ofList]
  split
  · exact absurd (h '-' (List.mem_cons_self ..)) (by decide)
  · exact absurd (h '+' (List.mem_cons_self ..)) (by decide)
  · rfl

theorem atoi_itoa (n : ℤ) : atoi (itoa n) = inRange n := by
  cases n with
  | ofNat n =>
    rw [itoa, atoi_of_digits (isDigit_toDigits n), unsigned_toDigits, Option.bind_some,
      Int.ofNat_eq_natCast]
  | negSucc n =>
    rw [itoa, atoi, String.toList_ofList]
    show ((unsigned (Nat.toDigits 10 (n + 1))).bind fun n => inRange (-n)) = _
    rw [unsigned_toDigits, Option.bind_some, Int.negSucc_eq, Nat.cast_succ]

/-- A numeral that can be read is read as the number it was written for. -/
theorem eq_of_atoi_itoa {n v : ℤ} (h : atoi (itoa n) = some v) : v = n := by
  rw [atoi_itoa, inRange] at h
  split at h
  · exact (Option.some.inj h).symm
  · cases h

example : (atoi "-12", atoi "+7", atoi "", atoi "0x1", itoa (-120)) =
    (some (-12), some 7, none, none, "-120") := by decide +kernel

example : wrap (9223372036854775807 + 1) = -9223372036854775808 := by decide

end Decimal
