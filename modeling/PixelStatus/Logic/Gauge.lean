/-
# Gauges

A gauge of so many lines shows where a value stands in a range: the share of the
range below the value, held between nothing and all, in lines and rounded half up.
-/

import Mathlib.Algebra.Order.Field.Basic
import Mathlib.Algebra.Order.Floor.Semiring

universe u

namespace Gauge

variable {K : Type u} [Field K] [LinearOrder K]

/-- The share of a range that lies below a value. -/
def share (low high value : K) : K := max 0 (min 1 ((value - low) / (high - low)))

/-- The lines of so many that a gauge lights. -/
def lines [FloorSemiring K] (low high value : K) (extent : ℕ) : ℕ :=
  min extent ⌊share low high value * extent + 1 / 2⌋₊

variable [IsStrictOrderedRing K] {low high value other : K}

/-- A greater value never gets a smaller share. -/
theorem share_mono (ordered : low < high) (more : value ≤ other) :
    share low high value ≤ share low high other := by
  have quotients : (value - low) / (high - low) ≤ (other - low) / (high - low) :=
    div_le_div_of_nonneg_right (sub_le_sub_right more low) (sub_pos.mpr ordered).le
  exact max_le_max le_rfl (min_le_min le_rfl quotients)

/-- A value at the low end or below it gets no share. -/
theorem share_of_le (ordered : low < high) (below : value ≤ low) : share low high value = 0 := by
  have quotient : (value - low) / (high - low) ≤ 0 :=
    div_nonpos_of_nonpos_of_nonneg (sub_nonpos.mpr below) (sub_pos.mpr ordered).le
  exact max_eq_left ((min_le_right _ _).trans quotient)

/-- A value at the high end or above it gets the whole. -/
theorem share_of_ge (ordered : low < high) (above : high ≤ value) : share low high value = 1 := by
  have quotient : 1 ≤ (value - low) / (high - low) :=
    (one_le_div (sub_pos.mpr ordered)).mpr (sub_le_sub_right above low)
  rw [share, min_eq_left quotient, max_eq_right zero_le_one]

variable [FloorSemiring K] {extent : ℕ}

/-- A greater value never lights fewer lines. -/
theorem lines_mono (ordered : low < high) (more : value ≤ other) :
    lines low high value extent ≤ lines low high other extent := by
  have scaled : share low high value * extent ≤ share low high other * extent :=
    mul_le_mul_of_nonneg_right (share_mono ordered more) (Nat.cast_nonneg extent)
  exact min_le_min le_rfl (Nat.floor_le_floor (add_le_add_left scaled _))

/-- A value at the low end or below it lights nothing. -/
theorem lines_of_le (ordered : low < high) (below : value ≤ low) :
    lines low high value extent = 0 := by
  have half : ⌊(1 / 2 : K)⌋₊ = 0 := Nat.floor_eq_zero.mpr one_half_lt_one
  rw [lines, share_of_le ordered below, zero_mul, zero_add, half, Nat.min_zero]

/-- A value at the high end or above it lights every line. -/
theorem lines_of_ge (ordered : low < high) (above : high ≤ value) :
    lines low high value extent = extent := by
  rw [lines, share_of_ge ordered above, one_mul]
  apply min_eq_left
  exact Nat.le_floor (le_add_of_nonneg_right one_half_pos.le)

end Gauge
