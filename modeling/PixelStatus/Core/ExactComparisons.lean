/-
# Exact comparisons

The evaluator compares numbers as the nearest values of the host's `long
double`. Those keep the order of the numbers, so a comparison goes wrong only
where two different numbers have one nearest value. A significand of 64 bits
holds every operand; one of 53 bits does not hold every integer.
-/

import PixelStatus.Core.Evaluator
import PixelStatus.Logic.NearestEven

namespace PixelStatus

/-- The finite doubles. -/
def IsBinary64 (number : ℚ) : Prop :=
  ∃ significand exponent : ℤ, |significand| < 2 ^ 53 ∧ (-1074 ≤ exponent ∧ exponent ≤ 971) ∧
    number = significand * 2 ^ exponent

/-- The number that an integer or a finite double denotes. -/
inductive StateValue.Denotes : StateValue → ℚ → Prop
  | integer (value : Int64) : Denotes (.integer value) value.toInt
  | real {number : ℚ} (finite : IsBinary64 number) : Denotes (.real (.finite number)) number

/-! ## The nearest significand -/

/-- Rounding is symmetric. -/
theorem roundSignificand_neg (precision : Nat) (number : Int) :
    roundSignificand precision (-number) = -roundSignificand precision number := by
  simp only [roundSignificand, Int.natAbs_neg, Int.sign_neg, Int.neg_mul]

theorem roundSignificand_natCast (precision : Nat) {magnitude : Nat} (positive : 0 < magnitude) :
    roundSignificand precision magnitude =
      ((let scale := 2 ^ (Nat.log2 magnitude + 1 - precision)
        if 2 * (magnitude % scale) > scale ∨
            (2 * (magnitude % scale) = scale ∧ magnitude / scale % 2 = 1)
        then (magnitude / scale + 1) * scale else magnitude / scale * scale : Nat) : Int) := by
  have sign : (magnitude : Int).sign = 1 := Int.sign_eq_one_of_pos (by omega)
  simp only [roundSignificand, Int.natAbs_natCast, sign, Int.one_mul, ite_mul]

/-- A magnitude is rounded to nearest, ties to even. -/
theorem roundSignificand_magnitude {precision magnitude : Nat} (bits : 0 < precision)
    (positive : 0 < magnitude) :
    (roundSignificand precision magnitude : ℚ) = NearestEven.round precision (magnitude : ℚ) := by
  rw [roundSignificand_natCast precision positive, Int.cast_natCast]
  obtain fits | exceeds := Nat.le_total (Nat.log2 magnitude + 1) precision
  · -- nothing is beyond the last place, so nothing is rounded
    have small : magnitude ≤ 2 ^ precision :=
      Nat.lt_log2_self.le.trans (Nat.pow_le_pow_right (by decide) fits)
    have member := BinaryGrid.natCast_mul_mem small 0
    rw [zpow_zero, mul_one] at member
    rw [Nat.sub_eq_zero_of_le fits, NearestEven.round_of_mem bits member]
    simp [Nat.mod_one]
  · obtain ⟨excess, bound⟩ := Nat.exists_eq_add_of_le exceeds
    rw [bound, Nat.add_sub_cancel_left]
    have place : NearestEven.lastPlace precision (magnitude : ℚ) = excess := by
      have leading : Nat.log 2 magnitude + 1 = precision + excess := by
        rw [← Nat.log2_eq_log_two, bound]
      rw [NearestEven.lastPlace, Int.log_natCast]
      omega
    have scale : ((2 ^ excess : Nat) : ℚ) = 2 ^ (excess : ℤ) := by
      rw [zpow_natCast, Nat.cast_pow, Nat.cast_ofNat]
    rw [NearestEven.round, if_neg (not_lt.mpr (Nat.cast_nonneg magnitude)),
      NearestEven.roundMagnitude, place, ← scale,
      NearestEven.roundEven_div (Nat.two_pow_pos excess), Int.cast_natCast, ← Nat.cast_mul, ite_mul]

/-- An integer is rounded to nearest, ties to even. -/
theorem roundSignificand_eq {precision : Nat} (bits : 0 < precision) (number : Int) :
    (roundSignificand precision number : ℚ) = NearestEven.round precision (number : ℚ) := by
  obtain ⟨magnitude, same⟩ := Int.eq_nat_or_neg number
  obtain rfl | positive := Nat.eq_zero_or_pos magnitude
  · have zero : number = 0 := by omega
    have member := @BinaryGrid.natCast_mul_mem precision 0 (Nat.zero_le _) 0
    rw [Nat.cast_zero, zero_mul] at member
    rw [zero, Int.cast_zero, NearestEven.round_of_mem bits member]
    simp [roundSignificand]
  · obtain rfl | rfl := same
    · exact roundSignificand_magnitude bits positive
    · have above : (0 : ℚ) < magnitude := Nat.cast_pos.mpr positive
      rw [roundSignificand_neg, Int.cast_neg, roundSignificand_magnitude bits positive, Int.cast_neg,
        Int.cast_natCast, NearestEven.round_neg above]

/-! ## Numeric values and their nearest values -/

/-- No platform has fewer digits than a double. -/
theorem longDoublePrecision_ge (platform : Platform) : 53 ≤ platform.longDoublePrecision := by
  cases platform <;> decide

theorem longDoublePrecision_pos (platform : Platform) : 0 < platform.longDoublePrecision :=
  Nat.lt_of_lt_of_le (by decide) (longDoublePrecision_ge platform)

/-- Every host's significand holds the doubles. -/
theorem IsBinary64.mem_grid {number : ℚ} (finite : IsBinary64 number) {precision : Nat}
    (wide : 53 ≤ precision) : number ∈ binaryGrid precision := by
  obtain ⟨significand, exponent, fits, _, rfl⟩ := finite
  exact BinaryGrid.mono wide ⟨significand, exponent, fits.le, rfl⟩

/-- One of 64 bits holds every numeric value. -/
theorem StateValue.Denotes.mem_grid {value : StateValue} {number : ℚ}
    (denotes : value.Denotes number) : number ∈ binaryGrid 64 := by
  cases denotes with
  | integer value =>
      refine ⟨value.toInt, 0, ?_, by simp⟩
      have low := value.le_toInt
      have high := value.toInt_lt
      show |value.toInt| ≤ 2 ^ 64
      rw [abs_le]
      omega
  | real finite => exact finite.mem_grid (by decide)

namespace Evaluator

open NearestEven (Distinguished)

variable {platform : Platform} {value actual expected lower upper : StateValue} {number x y l u : ℚ}

/-- The evaluator's number of a numeric value is what it denotes, rounded to the
host's significand. -/
theorem numberValue_eq (platform : Platform) (denotes : value.Denotes number) :
    numberValue platform value =
      some (NearestEven.round platform.longDoublePrecision number) := by
  have bits := longDoublePrecision_pos platform
  cases denotes with
  | integer value => exact congrArg some (roundSignificand_eq bits value.toInt)
  | real finite =>
      have member := finite.mem_grid (longDoublePrecision_ge platform)
      exact congrArg some (NearestEven.round_of_mem bits member).symm

/-! ## The conditions -/

section

variable (platform : Platform) (actual expected lower upper : StateValue)

/-- A numeric condition with one operand. -/
def Matches (operation : ComparisonOperation) : Prop :=
  conditionMatches platform actual { operation, expected } = true

/-- The condition with two bounds. -/
def MatchesBetween : Prop :=
  conditionMatches platform actual
    { operation := .between, expected := lower, upperBound := some upper } = true

/-- The conditions with one operand agree with the order of the numbers. -/
structure ComparesAs (x y : ℚ) : Prop where
  equals : Matches platform actual expected .equals ↔ x = y
  notEquals : Matches platform actual expected .notEquals ↔ x ≠ y
  greaterThan : Matches platform actual expected .greaterThan ↔ x > y
  greaterOrEqual : Matches platform actual expected .greaterOrEqual ↔ x ≥ y
  lessThan : Matches platform actual expected .lessThan ↔ x < y
  lessOrEqual : Matches platform actual expected .lessOrEqual ↔ x ≤ y

/-- All the numeric conditions agree with the order of the numbers. -/
structure Exact (x l u : ℚ) : Prop where
  below : ComparesAs platform actual lower x l
  above : ComparesAs platform actual upper x u
  between : MatchesBetween platform actual lower upper ↔ l ≤ x ∧ x ≤ u

/-- The conditions agree with each other. -/
structure Consistent : Prop where
  one : (Matches platform actual expected .lessThan ∧ ¬ Matches platform actual expected .equals ∧
        ¬ Matches platform actual expected .greaterThan) ∨
      (¬ Matches platform actual expected .lessThan ∧ Matches platform actual expected .equals ∧
        ¬ Matches platform actual expected .greaterThan) ∨
      ¬ Matches platform actual expected .lessThan ∧ ¬ Matches platform actual expected .equals ∧
        Matches platform actual expected .greaterThan
  complements : Matches platform actual expected .notEquals ↔
    ¬ Matches platform actual expected .equals
  between : MatchesBetween platform actual expected upper ↔
    Matches platform actual expected .greaterOrEqual ∧ Matches platform actual upper .lessOrEqual

end

/-- Numbers that are read are compared as they are read. -/
theorem comparesAs_of_read (left : numberValue platform actual = some x)
    (right : numberValue platform expected = some y) : ComparesAs platform actual expected x y := by
  refine ⟨?_, ?_, ?_, ?_, ?_, ?_⟩ <;>
    simp [Matches, conditionMatches, valuesEqual, ordered, left, right]

/-- Three numbers that are read are compared as numbers. -/
theorem between_of_read (middle : numberValue platform actual = some x)
    (below : numberValue platform lower = some l) (above : numberValue platform upper = some u) :
    MatchesBetween platform actual lower upper ↔ l ≤ x ∧ x ≤ u := by
  simp [MatchesBetween, conditionMatches, ordered, middle, below, above]

/-- The conditions on one operand are exact when it is distinguished, and only then. -/
theorem comparesAs_iff (left : actual.Denotes x) (right : expected.Denotes y) :
    ComparesAs platform actual expected x y ↔ Distinguished platform.longDoublePrecision x y := by
  have compares := comparesAs_of_read (numberValue_eq platform left) (numberValue_eq platform right)
  refine ⟨fun agrees => ?_, fun apart => ?_⟩
  · obtain same | differ := eq_or_ne x y
    · exact .inl same
    · exact .inr fun rounded => differ (agrees.equals.mp (compares.equals.mpr rounded))
  · have bits := longDoublePrecision_pos platform
    obtain ⟨less, equal⟩ := apart.order bits
    obtain ⟨greater, _⟩ := apart.symm.order bits
    refine ⟨compares.equals.trans equal, compares.notEquals.trans equal.not,
      compares.greaterThan.trans greater, compares.greaterOrEqual.trans ?_,
      compares.lessThan.trans less, compares.lessOrEqual.trans ?_⟩
    · exact not_lt.symm.trans (less.not.trans not_lt)
    · exact not_lt.symm.trans (greater.not.trans not_lt)

/-- The comparisons of numbers that are read are consistent. -/
theorem consistent_of_read (left : numberValue platform actual = some x)
    (right : numberValue platform expected = some y) (above : numberValue platform upper = some u) :
    Consistent platform actual expected upper where
  one := by
    have compares := comparesAs_of_read left right
    rw [compares.equals, compares.lessThan, compares.greaterThan]
    obtain less | equal | greater := lt_trichotomy x y
    · exact .inl ⟨less, less.ne, less.not_gt⟩
    · exact .inr (.inl ⟨equal.not_lt, equal, equal.not_gt⟩)
    · exact .inr (.inr ⟨greater.not_gt, greater.ne', greater⟩)
  complements := by
    have compares := comparesAs_of_read left right
    rw [compares.notEquals, compares.equals]
  between := by
    rw [between_of_read left right above, (comparesAs_of_read left right).greaterOrEqual,
      (comparesAs_of_read left above).lessOrEqual]

/-- The numeric conditions always agree with each other, and agree with the
order of the numbers exactly on a host of 64 bits or when 53 bits tell both
operands from the compared value. -/
theorem conditionMatches_exact_iff (platform : Platform) {actual lower upper : StateValue}
    {x l u : ℚ} (middle : actual.Denotes x) (below : lower.Denotes l) (above : upper.Denotes u) :
    Consistent platform actual lower upper ∧
      (Exact platform actual lower upper x l u ↔
        platform = .linux ∨ Distinguished 53 x l ∧ Distinguished 53 x u) := by
  have readMiddle := numberValue_eq platform middle
  have consistent := consistent_of_read readMiddle (numberValue_eq platform below)
    (numberValue_eq platform above)
  have exactly : Exact platform actual lower upper x l u ↔
      Distinguished platform.longDoublePrecision x l ∧
        Distinguished platform.longDoublePrecision x u := by
    rw [← comparesAs_iff middle below, ← comparesAs_iff middle above]
    refine ⟨fun agrees => ⟨agrees.below, agrees.above⟩, fun ⟨exactBelow, exactAbove⟩ => ?_⟩
    refine ⟨exactBelow, exactAbove, ?_⟩
    rw [consistent.between, exactBelow.greaterOrEqual, exactAbove.lessOrEqual]
  refine ⟨consistent, exactly.trans ?_⟩
  cases platform with
  | linux =>
      have apart {y : ℚ} {expected : StateValue} (denotes : expected.Denotes y) :
          Distinguished 64 x y :=
        NearestEven.distinguished_of_mem (by decide) middle.mem_grid denotes.mem_grid
      exact iff_of_true ⟨apart below, apart above⟩ (.inl rfl)
  | windows =>
      refine ⟨.inr, ?_⟩
      rintro (host | distinguished)
      · cases host
      · exact distinguished

/-- With 64 bits a counter beyond the doubles is told from its neighbour. -/
theorem conditionMatches_exact_linux :
    Exact .linux (.integer 9007199254740993) (.real (.finite 9007199254740992))
      (.integer 9007199254740994) ((9007199254740993 : Int64).toInt : ℚ) 9007199254740992
      ((9007199254740994 : Int64).toInt : ℚ) := by
  have double : IsBinary64 9007199254740992 := ⟨2 ^ 52, 1, by norm_num, by decide, by norm_num⟩
  exact (conditionMatches_exact_iff .linux (.integer 9007199254740993) (.real double)
    (.integer 9007199254740994)).2.mpr (.inl rfl)

/-- With 53 bits it equals its neighbour. -/
theorem conditionMatches_inexact_windows :
    ¬ Exact .windows (.integer 9007199254740993) (.integer 9007199254740992)
      (.integer 9007199254740992) ((9007199254740993 : Int64).toInt : ℚ)
      ((9007199254740992 : Int64).toInt : ℚ) ((9007199254740992 : Int64).toInt : ℚ) := by
  intro agrees
  have same : Matches .windows (.integer 9007199254740993) (.integer 9007199254740992) .equals := by
    show conditionMatches _ _ _ = true
    decide +kernel
  have numbers := Int.cast_inj.mp (agrees.below.equals.mp same)
  revert numbers
  decide

end Evaluator

end PixelStatus
