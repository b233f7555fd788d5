/-
# Nearest values of a grid

A value of a grid is nearest to a number when no other value of the grid is
closer. Nearest values keep the order of the numbers, and a number of the grid
is its own nearest value. The binary grid of a precision has the numbers whose
significand fits so many bits.
-/

import Mathlib.Algebra.Order.Field.Power
import Mathlib.Data.Rat.Cast.Order
import Mathlib.Tactic.Linarith
import Mathlib.Tactic.Positivity
import Mathlib.Tactic.Ring

/-- A value of the grid that no other one is closer than. -/
structure IsNearest {α : Type} [Field α] [LinearOrder α] (grid : Set α) (number value : α) :
    Prop where
  mem : value ∈ grid
  closest : ∀ other ∈ grid, |value - number| ≤ |other - number|

namespace IsNearest

variable {α : Type} [Field α] [LinearOrder α] {grid : Set α} {number value larger other : α}

/-- On a symmetric grid the opposite of a number has the opposite nearest value. -/
theorem neg (symmetric : ∀ element ∈ grid, -element ∈ grid)
    (nearest : IsNearest grid number value) : IsNearest grid (-number) (-value) where
  mem := symmetric value nearest.mem
  closest := by
    intro element member
    have close := nearest.closest (-element) (symmetric element member)
    have mirror (first second : α) : |first - second| = |-first - -second| := by
      rw [← neg_sub', abs_neg]
    rw [← mirror]
    exact close.trans_eq ((mirror (-element) number).trans (by rw [neg_neg]))

variable [IsStrictOrderedRing α]

/-- A number on the grid is its own nearest value. -/
theorem self (member : number ∈ grid) : IsNearest grid number number where
  mem := member
  closest := by
    intro other _
    rw [sub_self, abs_zero]
    exact abs_nonneg _

/-- A number of the grid has no other nearest value. -/
theorem eq_of_mem (nearest : IsNearest grid number value) (member : number ∈ grid) :
    value = number := by
  have close := nearest.closest number member
  rw [sub_self, abs_zero] at close
  exact sub_eq_zero.mp (abs_nonpos_iff.mp close)

/-- A number that is closer to the higher of two values is above their middle. -/
theorem middle_le {low high : α} (less : low < high) (close : |high - number| ≤ |low - number|) :
    high + low ≤ 2 * number := by
  have squares := sq_le_sq.mpr close
  have product : (high - low) * (high + low - 2 * number) ≤ 0 := by
    calc (high - low) * (high + low - 2 * number) =
          (high - number) ^ 2 - (low - number) ^ 2 := by ring
      _ ≤ 0 := sub_nonpos.mpr squares
  exact sub_nonpos.mp (nonpos_of_mul_nonpos_right product (sub_pos.mpr less))

/-- A number that is nearer to the lower end is not behind the middle. -/
theorem le_middle {low high : α} (less : low < high) (close : |low - number| ≤ |high - number|) :
    2 * number ≤ high + low := by
  have squares := sq_le_sq.mpr close
  have product : (high - low) * (2 * number - (high + low)) ≤ 0 := by
    calc (high - low) * (2 * number - (high + low)) =
          (low - number) ^ 2 - (high - number) ^ 2 := by ring
      _ ≤ 0 := sub_nonpos.mpr squares
  exact sub_nonpos.mp (nonpos_of_mul_nonpos_right product (sub_pos.mpr less))

/-- Nearest values are in the order of the numbers. -/
theorem le_of_lt (less : number < larger) (first : IsNearest grid number value)
    (second : IsNearest grid larger other) : value ≤ other := by
  by_contra crossed
  have apart := lt_of_not_ge crossed
  have below := middle_le apart (first.closest other second.mem)
  have above := le_middle apart (second.closest value first.mem)
  linarith

/-- Between two neighbours of the grid, the closer one is nearest. -/
theorem of_gap {low high : α} (member : value ∈ grid)
    (gap : ∀ element ∈ grid, element ≤ low ∨ high ≤ element)
    (closeLow : |value - number| ≤ number - low)
    (closeHigh : |value - number| ≤ high - number) : IsNearest grid number value where
  mem := member
  closest := by
    intro element inside
    obtain below | above := gap element inside
    · calc |value - number| ≤ number - low := closeLow
        _ ≤ number - element := sub_le_sub_left below number
        _ ≤ |element - number| := by rw [abs_sub_comm]; exact le_abs_self _
    · calc |value - number| ≤ high - number := closeHigh
        _ ≤ element - number := sub_le_sub_right above number
        _ ≤ |element - number| := le_abs_self _

end IsNearest

/-- The numbers with a significand of so many bits. -/
def binaryGrid (precision : Nat) : Set ℚ :=
  {number | ∃ significand exponent : ℤ, |significand| ≤ 2 ^ precision ∧
    number = significand * 2 ^ exponent}

namespace BinaryGrid

variable {precision : Nat} {number : ℚ}

/-- A grid of binary numbers is symmetric. -/
theorem neg_mem (number : ℚ) (member : number ∈ binaryGrid precision) :
    -number ∈ binaryGrid precision := by
  obtain ⟨significand, exponent, fits, rfl⟩ := member
  exact ⟨-significand, exponent, by rwa [abs_neg], by push_cast; ring⟩

/-- More digits leave no number out. -/
theorem mono {wider : Nat} (le : precision ≤ wider) (member : number ∈ binaryGrid precision) :
    number ∈ binaryGrid wider := by
  obtain ⟨significand, exponent, fits, rfl⟩ := member
  exact ⟨significand, exponent, fits.trans (pow_le_pow_right₀ one_le_two le), rfl⟩

/-- An integer of so many digits is on the grid at every scale. -/
theorem natCast_mul_mem {significand : Nat} (fits : significand ≤ 2 ^ precision) (exponent : ℤ) :
    (significand : ℚ) * 2 ^ exponent ∈ binaryGrid precision := by
  refine ⟨significand, exponent, ?_, by push_cast; rfl⟩
  rw [abs_of_nonneg (Int.natCast_nonneg _)]
  exact_mod_cast fits

/-- Large significands that follow each other are neighbours of the grid. -/
theorem gap {significand : Nat} {exponent : ℤ} (large : 2 ^ precision ≤ 2 * significand) :
    ∀ element ∈ binaryGrid precision, element ≤ significand * 2 ^ exponent ∨
      (significand + 1) * 2 ^ exponent ≤ element := by
  rintro _ ⟨other, power, fits, rfl⟩
  have positive : (0 : ℚ) < 2 ^ exponent := by positivity
  by_cases multiple : exponent ≤ power
  · -- the element is a multiple of the same power
    obtain ⟨extra, rfl⟩ := Int.le.dest multiple
    have element : (other : ℚ) * 2 ^ (exponent + extra) =
        ((other * 2 ^ extra : ℤ) : ℚ) * 2 ^ exponent := by
      rw [zpow_add₀ two_ne_zero, zpow_natCast]
      push_cast
      ring
    rw [element]
    obtain below | above : other * 2 ^ extra ≤ (significand : ℤ) ∨
        (significand : ℤ) + 1 ≤ other * 2 ^ extra := by omega
    · exact .inl (mul_le_mul_of_nonneg_right (by exact_mod_cast below) positive.le)
    · exact .inr (mul_le_mul_of_nonneg_right (by exact_mod_cast above) positive.le)
  · -- the element is at most the smallest significand of this power
    left
    have power_le : power ≤ exponent - 1 := by omega
    have small : (other : ℚ) ≤ 2 * significand := by
      have whole : other ≤ 2 * (significand : ℤ) :=
        (le_abs_self other).trans (fits.trans (by exact_mod_cast large))
      exact_mod_cast whole
    have half : (2 : ℚ) ^ power ≤ 2 ^ exponent / 2 := by
      calc (2 : ℚ) ^ power ≤ 2 ^ (exponent - 1) := zpow_le_zpow_right₀ one_le_two power_le
        _ = 2 ^ exponent / 2 := by rw [zpow_sub_one₀ two_ne_zero, div_eq_mul_inv]
    have nonneg : (0 : ℚ) ≤ 2 ^ power := by positivity
    calc (other : ℚ) * 2 ^ power ≤ 2 * significand * 2 ^ power :=
          mul_le_mul_of_nonneg_right small nonneg
      _ ≤ 2 * significand * (2 ^ exponent / 2) :=
          mul_le_mul_of_nonneg_left half (by positivity)
      _ = significand * 2 ^ exponent := by ring

end BinaryGrid
