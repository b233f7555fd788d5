/-
# Rounding to nearest, ties to even

A number is rounded to a precision by counting it in units of its last place, and
taking the nearest whole count, of two the even one. What this gives is nearest
among the numbers of the precision's grid, so it keeps the order of the numbers
as far as it tells them apart.
-/

import Mathlib.Algebra.Order.Round
import Mathlib.Data.Int.Log
import Mathlib.Data.Rat.Floor
import PixelStatus.Logic.Nearest

namespace NearestEven

/-- The nearest integer, of two the even one. -/
def roundEven (number : ℚ) : ℤ :=
  if 2 * Int.fract number < 1 ∨ (2 * Int.fract number = 1 ∧ ⌊number⌋ % 2 = 0) then ⌊number⌋
  else ⌊number⌋ + 1

/-- The exponent of a magnitude's last place, when it has so many. -/
def lastPlace (precision : ℕ) (magnitude : ℚ) : ℤ := Int.log 2 magnitude + 1 - precision

/-- A magnitude to the nearest multiple of its last place. -/
def roundMagnitude (precision : ℕ) (magnitude : ℚ) : ℚ :=
  roundEven (magnitude / 2 ^ lastPlace precision magnitude) * 2 ^ lastPlace precision magnitude

/-- A number to so many significant bits, to nearest, ties to even. -/
def round (precision : ℕ) (number : ℚ) : ℚ :=
  if number < 0 then -roundMagnitude precision (-number) else roundMagnitude precision number

/-- Two numbers are one, or are rounded to different ones. -/
def Distinguished (precision : ℕ) (number other : ℚ) : Prop :=
  number = other ∨ round precision number ≠ round precision other

variable {precision : ℕ} {number other magnitude : ℚ}

/-- A quotient of naturals is rounded by its remainder. -/
theorem roundEven_div {scale : ℕ} (positive : 0 < scale) (count : ℕ) :
    roundEven ((count : ℚ) / scale) =
      ((if 2 * (count % scale) > scale ∨ (2 * (count % scale) = scale ∧ count / scale % 2 = 1)
        then count / scale + 1 else count / scale : ℕ) : ℤ) := by
  have nonzero : (scale : ℚ) ≠ 0 := Nat.cast_ne_zero.mpr positive.ne'
  have above : (0 : ℚ) < scale := Nat.cast_pos.mpr positive
  have parts : (count : ℚ) / scale = (count / scale : ℕ) + (count % scale : ℕ) / scale := by
    rw [eq_comm, ← sub_eq_zero]
    field_simp
    have whole : ((scale * (count / scale) + count % scale : ℕ) : ℚ) = count :=
      congrArg Nat.cast (Nat.div_add_mod count scale)
    push_cast at whole
    linarith
  have rest := Nat.mod_lt count positive
  have small : ((count % scale : ℕ) : ℚ) / scale < 1 :=
    (div_lt_one above).mpr (Nat.cast_lt.mpr rest)
  have nonneg : (0 : ℚ) ≤ ((count % scale : ℕ) : ℚ) / scale := by positivity
  have floor : ⌊(count : ℚ) / scale⌋ = ((count / scale : ℕ) : ℤ) := by
    rw [Int.floor_eq_iff, parts, Int.cast_natCast]
    constructor
    · linarith
    · linarith
  have fract : Int.fract ((count : ℚ) / scale) = ((count % scale : ℕ) : ℚ) / scale := by
    rw [Int.fract, floor, parts, Int.cast_natCast, add_sub_cancel_left]
  have below : 2 * (((count % scale : ℕ) : ℚ) / scale) < 1 ↔ 2 * (count % scale) < scale := by
    rw [← mul_div_assoc, div_lt_one above]
    exact_mod_cast Iff.rfl
  have tie : 2 * (((count % scale : ℕ) : ℚ) / scale) = 1 ↔ 2 * (count % scale) = scale := by
    rw [← mul_div_assoc, div_eq_one_iff_eq nonzero]
    exact_mod_cast Iff.rfl
  simp only [roundEven, floor, fract, below, tie]
  by_cases down : 2 * (count % scale) < scale ∨
      (2 * (count % scale) = scale ∧ ((count / scale : ℕ) : ℤ) % 2 = 0)
  · rw [if_pos down, if_neg (by omega)]
  · rw [if_neg down, if_pos (by omega)]
    push_cast
    rfl

/-- In units of its last place a magnitude has a leading bit of the precision. -/
theorem scaled_bounds (positive : 0 < magnitude) :
    (2 : ℚ) ^ ((precision : ℤ) - 1) ≤ magnitude / 2 ^ lastPlace precision magnitude ∧
      magnitude / 2 ^ lastPlace precision magnitude < 2 ^ precision := by
  have low := Int.zpow_log_le_self one_lt_two positive
  have high := Int.lt_zpow_succ_log_self one_lt_two magnitude
  rw [Nat.cast_ofNat] at low high
  have unit : (0 : ℚ) < 2 ^ lastPlace precision magnitude := by positivity
  rw [le_div_iff₀ unit, div_lt_iff₀ unit, ← zpow_natCast, ← zpow_add₀ two_ne_zero,
    ← zpow_add₀ two_ne_zero, lastPlace]
  have first : (precision : ℤ) - 1 + (Int.log 2 magnitude + 1 - precision) =
      Int.log 2 magnitude := by ring
  have last : (precision : ℤ) + (Int.log 2 magnitude + 1 - precision) =
      Int.log 2 magnitude + 1 := by ring
  rw [first, last]
  exact ⟨low, high⟩

/-- The whole part of a scaled magnitude has a leading bit, and one more still fits. -/
theorem floor_bounds {count : ℚ} (bits : 0 < precision)
    (low : (2 : ℚ) ^ ((precision : ℤ) - 1) ≤ count) (high : count < 2 ^ precision) :
    ∃ quotient : ℕ, ⌊count⌋ = quotient ∧ 2 ^ precision ≤ 2 * quotient ∧
      quotient + 1 ≤ 2 ^ precision := by
  obtain ⟨half, rfl⟩ := Nat.exists_eq_succ_of_ne_zero bits.ne'
  have leading : ((2 ^ half : ℕ) : ℤ) ≤ ⌊count⌋ := by
    apply Int.le_floor.mpr
    have exponent : ((half.succ : ℕ) : ℤ) - 1 = half := by push_cast; ring
    rw [exponent, zpow_natCast] at low
    exact_mod_cast low
  have filled : ⌊count⌋ + 1 ≤ ((2 ^ half.succ : ℕ) : ℤ) := by
    apply Int.add_one_le_of_lt
    apply Int.floor_lt.mpr
    exact_mod_cast high
  obtain ⟨quotient, whole⟩ := Int.eq_ofNat_of_zero_le ((Int.natCast_nonneg _).trans leading)
  rw [whole] at leading filled
  refine ⟨quotient, whole, ?_, by exact_mod_cast filled⟩
  rw [Nat.pow_succ, Nat.mul_comm]
  exact Nat.mul_le_mul_left 2 (by exact_mod_cast leading)

/-- Of the two neighbours of a number between them the closer one is nearest. -/
theorem nearest_of_closer {quotient : ℕ} {place : ℤ} {rest : ℚ} {falls : Prop} [Decidable falls]
    (large : 2 ^ precision ≤ 2 * quotient) (next : quotient + 1 ≤ 2 ^ precision)
    (nonneg : 0 ≤ rest) (below : rest < 1) (down : falls → 2 * rest ≤ 1)
    (up : ¬ falls → 1 ≤ 2 * rest) :
    IsNearest (binaryGrid precision) ((quotient + rest) * 2 ^ place)
      (((if falls then quotient else quotient + 1 : ℤ) : ℚ) * 2 ^ place) := by
  have unit : (0 : ℚ) < 2 ^ place := by positivity
  have gap := @BinaryGrid.gap precision quotient place large
  have lower := BinaryGrid.natCast_mul_mem (Nat.le_of_succ_le next) place
  have upper := BinaryGrid.natCast_mul_mem next place
  push_cast at upper
  have above : (quotient + 1 : ℚ) * 2 ^ place - (quotient + rest) * 2 ^ place =
      (1 - rest) * 2 ^ place := by ring
  have under : (quotient + rest : ℚ) * 2 ^ place - quotient * 2 ^ place = rest * 2 ^ place := by
    ring
  split
  next holds =>
    have closer : rest * 2 ^ place ≤ (1 - rest) * 2 ^ place :=
      mul_le_mul_of_nonneg_right (by linarith [down holds]) unit.le
    rw [Int.cast_natCast]
    have distance : |(quotient : ℚ) * 2 ^ place - (quotient + rest) * 2 ^ place| =
        rest * 2 ^ place := by
      rw [abs_sub_comm, under, abs_of_nonneg (mul_nonneg nonneg unit.le)]
    refine IsNearest.of_gap lower gap ?_ ?_
    · rw [distance, under]
    · rwa [distance, above]
  next fails =>
    have closer : (1 - rest) * 2 ^ place ≤ rest * 2 ^ place :=
      mul_le_mul_of_nonneg_right (by linarith [up fails]) unit.le
    push_cast
    have distance : |((quotient : ℚ) + 1) * 2 ^ place - (quotient + rest) * 2 ^ place| =
        (1 - rest) * 2 ^ place := by
      rw [above, abs_of_nonneg (mul_nonneg (by linarith) unit.le)]
    refine IsNearest.of_gap upper gap ?_ ?_
    · rwa [distance, under]
    · rw [distance, above]

/-- The rounded magnitude is a nearest number of so many digits. -/
theorem roundMagnitude_nearest (bits : 0 < precision) (positive : 0 < magnitude) :
    IsNearest (binaryGrid precision) magnitude (roundMagnitude precision magnitude) := by
  obtain ⟨low, high⟩ := @scaled_bounds precision magnitude positive
  rw [roundMagnitude]
  generalize lastPlace precision magnitude = place at low high ⊢
  have unit : (0 : ℚ) < 2 ^ place := by positivity
  generalize scaled : magnitude / 2 ^ place = count at low high ⊢
  obtain rfl : magnitude = count * 2 ^ place := ((div_eq_iff unit.ne').mp scaled)
  obtain ⟨quotient, whole, large, next⟩ := floor_bounds bits low high
  have parts := Int.floor_add_fract count
  have nonneg := Int.fract_nonneg count
  have below := Int.fract_lt_one count
  rw [roundEven, whole]
  rw [whole, Int.cast_natCast] at parts
  generalize Int.fract count = rest at parts nonneg below ⊢
  obtain rfl := parts
  apply nearest_of_closer large next nonneg below
  · rintro (less | ⟨tie, -⟩)
    · exact less.le
    · exact tie.le
  · exact fun above => not_lt.mp fun less => above (.inl less)

/-- Rounding is symmetric. -/
theorem round_neg (positive : 0 < number) : round precision (-number) = -round precision number := by
  rw [round, if_pos (neg_neg_of_pos positive), neg_neg, round, if_neg positive.not_gt]

/-- What a number is rounded to is nearest to it in the grid of the precision. -/
theorem round_nearest (bits : 0 < precision) (number : ℚ) :
    IsNearest (binaryGrid precision) number (round precision number) := by
  rw [round]
  split
  next negative =>
    have mirrored := (roundMagnitude_nearest bits (neg_pos.mpr negative)).neg BinaryGrid.neg_mem
    rwa [neg_neg] at mirrored
  next nonneg =>
    obtain zero | positive := (not_lt.mp nonneg).eq_or_lt
    · have member : (0 : ℚ) ∈ binaryGrid precision :=
        ⟨0, 0, by rw [abs_zero]; positivity, by simp⟩
      have nothing : roundMagnitude precision 0 = 0 := by simp [roundMagnitude, roundEven]
      rw [← zero, nothing]
      exact IsNearest.self member
    · exact roundMagnitude_nearest bits positive

/-- A number of the grid is not rounded. -/
theorem round_of_mem (bits : 0 < precision) (member : number ∈ binaryGrid precision) :
    round precision number = number :=
  (round_nearest bits number).eq_of_mem member

/-- Whether two numbers are told apart does not depend on their order. -/
theorem Distinguished.symm (apart : Distinguished precision number other) :
    Distinguished precision other number :=
  apart.imp Eq.symm Ne.symm

/-- Distinguished numbers are rounded in their order. -/
theorem Distinguished.order (bits : 0 < precision) (apart : Distinguished precision number other) :
    (round precision number < round precision other ↔ number < other) ∧
      (round precision number = round precision other ↔ number = other) := by
  have nearest := round_nearest bits number
  have nearest' := round_nearest bits other
  have differ (numbers : number ≠ other) : round precision number ≠ round precision other :=
    apart.resolve_left numbers
  obtain less | rfl | greater := lt_trichotomy number other
  · have kept := lt_of_le_of_ne (nearest.le_of_lt less nearest') (differ less.ne)
    exact ⟨iff_of_true kept less, iff_of_false kept.ne less.ne⟩
  · exact ⟨iff_of_false (lt_irrefl _) (lt_irrefl _), iff_of_true rfl rfl⟩
  · have kept := lt_of_le_of_ne (nearest'.le_of_lt greater nearest) (differ greater.ne').symm
    exact ⟨iff_of_false kept.not_gt greater.not_gt, iff_of_false kept.ne' greater.ne'⟩

/-- Numbers of the grid are distinguished. -/
theorem distinguished_of_mem (bits : 0 < precision) (first : number ∈ binaryGrid precision)
    (second : other ∈ binaryGrid precision) : Distinguished precision number other := by
  obtain same | differ := eq_or_ne number other
  · exact .inl same
  · refine .inr ?_
    rwa [round_of_mem bits first, round_of_mem bits second]

end NearestEven
