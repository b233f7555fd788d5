/-
# Signed machine words

A signed word holds the numbers from a lower limit to the one below its negative.
Arithmetic that leaves this range wraps around it, so a computation may wrap as
often as it likes on its way: its result is right as soon as the exact one fits.
-/

import Mathlib.Algebra.Order.Ring.Int
import Mathlib.Tactic.Linarith

namespace SignedWord

variable (half : Nat)

/-- The numbers that a word of twice so many values holds. -/
def Fits (number : Int) : Prop := -(half : Int) ≤ number ∧ number < half

instance (number : Int) : Decidable (Fits half number) :=
  inferInstanceAs (Decidable (_ ∧ _))

/-- The value of a word that a number is written to. -/
def wrap (number : Int) : Int := number.bmod (2 * half)

variable {half} {number other : Int}

/-- A number that fits is written as it is. -/
theorem wrap_of_fits (fits : Fits half number) : wrap half number = number := by
  obtain ⟨low, high⟩ := fits
  apply Int.bmod_eq_of_le_mul_two
  · push_cast
    linarith
  · push_cast
    linarith

/-- Whatever is written to a word, its value fits. -/
theorem fits_wrap (positive : 0 < half) (number : Int) : Fits half (wrap half number) := by
  have values : 0 < 2 * half := by omega
  have low := @Int.le_bmod number _ values
  have high := @Int.bmod_lt number _ values
  rw [wrap]
  push_cast at low high
  constructor <;> omega

/-- The numbers that a word shows as they are. -/
theorem wrap_eq_self_iff (positive : 0 < half) : wrap half number = number ↔ Fits half number :=
  ⟨fun same => same ▸ fits_wrap positive number, wrap_of_fits⟩

/-- Two numbers with the same word differ by whole rounds. -/
theorem wrap_eq_wrap_iff :
    wrap half number = wrap half other ↔ ((2 * half : Nat) : Int) ∣ number - other := by
  rw [wrap, wrap, Int.bmod_eq_bmod_iff_bmod_sub_eq_zero, Int.dvd_iff_bmod_eq_zero]

/-- A summand may be wrapped before the sum is. -/
theorem wrap_add_wrap : wrap half (number + wrap half other) = wrap half (number + other) :=
  Int.add_bmod_bmod

/-- A factor may be wrapped before the product is. -/
theorem wrap_wrap_mul : wrap half (wrap half number * other) = wrap half (number * other) :=
  Int.bmod_mul_bmod

end SignedWord
