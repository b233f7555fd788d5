/-
# The grammar of durations

A duration is written as decimal digits and a unit, and denotes a number of
milliseconds. The parser reads its digits with a library function that also
takes a minus sign, and rejects the numbers below zero. What is left of the
signs are the texts of a negative zero.
-/

import PixelStatus.Core.Config.Fields
import PixelStatus.Core.DigitValues

namespace PixelStatus

inductive DurationUnit
  | milliseconds
  | seconds
  | minutes
  | hours
  deriving DecidableEq

namespace DurationUnit

def text : DurationUnit → Bytes
  | milliseconds => bytes "ms"
  | seconds => bytes "s"
  | minutes => bytes "m"
  | hours => bytes "h"

/-- The milliseconds in a unit. -/
def scale : DurationUnit → Nat
  | milliseconds => 1
  | seconds => 1000
  | minutes => 60000
  | hours => 3600000

/-- Every unit is at least a millisecond long. -/
theorem scale_pos (unit : DurationUnit) : 0 < unit.scale := by
  cases unit <;> decide

end DurationUnit

/-- A duration text and the number of milliseconds it denotes. -/
def DurationText (text : Bytes) (number : Nat) : Prop :=
  ∃ digits unit, IsDigits digits ∧ text = digits ++ DurationUnit.text unit ∧
    number = decimalValue digits * unit.scale

/-- A minus sign, one or more zeros and a unit. -/
def SignedZero (text : Bytes) : Prop :=
  ∃ zeros unit, zeros ≠ [] ∧ (∀ byte ∈ zeros, byte = 0x30) ∧
    text = 0x2D :: zeros ++ DurationUnit.text unit

/-! ## Digits -/

/-- What the library reads: digits, or digits behind a minus sign. -/
theorem fromChars_eq_some {text : Bytes} {number : Int} :
    fromChars text = some number ↔ (-2 ^ 63 ≤ number ∧ number < 2 ^ 63) ∧
      ((IsDigits text ∧ number = decimalValue text) ∨
        ∃ digits, text = 0x2D :: digits ∧ IsDigits digits ∧ number = -decimalValue digits) := by
  unfold fromChars
  rw [Option.filter_eq_some_iff, Bool.and_eq_true, decide_eq_true_eq, decide_eq_true_eq, and_comm]
  apply and_congr_right
  intro _
  split
  next digits =>
    rw [Option.map_eq_some_iff]
    refine ⟨?_, ?_⟩
    · rintro ⟨magnitude, lifted, rfl⟩
      obtain ⟨value, read, same⟩ := Option.bind_eq_some_iff.mp lifted
      obtain ⟨digit, rfl⟩ := digitsValue_eq_some.mp read
      cases same
      exact .inr ⟨digits, rfl, digit, rfl⟩
    · rintro (⟨digit, _⟩ | ⟨digits', same, digit, rfl⟩)
      · exact absurd rfl digit.head_ne
      · cases same
        exact ⟨_, Option.bind_eq_some_iff.mpr ⟨_, digitsValue_eq_some.mpr ⟨digit, rfl⟩, rfl⟩, rfl⟩
  next unsigned =>
    rw [Option.map_eq_some_iff]
    refine ⟨?_, ?_⟩
    · rintro ⟨value, read, rfl⟩
      obtain ⟨digit, rfl⟩ := digitsValue_eq_some.mp read
      exact .inl ⟨digit, rfl⟩
    · rintro (⟨digit, rfl⟩ | ⟨digits, same, _⟩)
      · exact ⟨_, digitsValue_eq_some.mpr ⟨digit, rfl⟩, rfl⟩
      · exact absurd same (unsigned digits)

/-- A number is read from a text that ends with a digit. -/
theorem getLast?_of_fromChars {text : Bytes} {number : Int} (read : fromChars text = some number) :
    ∃ rest digit, text = rest ++ [digit] ∧ isDigitByte digit = true := by
  have ends {digits : Bytes} (digit : IsDigits digits) :
      ∃ rest last, digits = rest ++ [last] ∧ isDigitByte last = true := by
    refine ⟨digits.dropLast, digits.getLast digit.nonempty, ?_, ?_⟩
    · exact (List.dropLast_concat_getLast digit.nonempty).symm
    · exact digit.all _ (List.getLast_mem digit.nonempty)
  obtain ⟨_, ⟨digit, _⟩ | ⟨digits, rfl, digit, _⟩⟩ := fromChars_eq_some.mp read
  · exact ends digit
  · obtain ⟨rest, last, rfl, hlast⟩ := ends digit
    exact ⟨0x2D :: rest, last, rfl, hlast⟩

/-! ## Units -/

/-- The text before an ending is what is left of it. -/
theorem beforeEnding_eq_some {ending text rest : Bytes} :
    beforeEnding ending text = some rest ↔ text = rest ++ ending := by
  rw [beforeEnding]
  by_cases ends : ending <:+ text
  · obtain ⟨front, rfl⟩ := ends
    rw [if_pos (List.suffix_append front ending), List.length_append, Nat.add_sub_cancel,
      List.take_left, Option.some.injEq, List.append_left_inj]
  · rw [if_neg ends]
    refine iff_of_false (fun found => nomatch found) fun same => ends ?_
    exact ⟨rest, same.symm⟩

theorem beforeEnding_append (ending rest : Bytes) :
    beforeEnding ending (rest ++ ending) = some rest :=
  beforeEnding_eq_some.mpr rfl

/-- A text that ends with another byte does not end so. -/
theorem beforeEnding_other {last other : UInt8} (differ : last ≠ other) (ending rest : Bytes) :
    beforeEnding (ending ++ [last]) (rest ++ [other]) = none := by
  rw [Option.eq_none_iff_forall_ne_some]
  intro found same
  have parts := beforeEnding_eq_some.mp same
  rw [← List.append_assoc] at parts
  exact differ (List.cons.inj (List.append_inj_right' parts rfl)).1.symm

/-- A text splits in front of the unit at its end. -/
theorem splitUnit_eq_some {text digits : Bytes} {multiplier : Int}
    (split : splitUnit text = some (multiplier, digits)) :
    ∃ unit, text = digits ++ DurationUnit.text unit ∧ multiplier = unit.scale := by
  unfold splitUnit at split
  split at split
  next found =>
    cases split
    exact ⟨.milliseconds, beforeEnding_eq_some.mp found, rfl⟩
  next found =>
    cases split
    exact ⟨.seconds, beforeEnding_eq_some.mp found, rfl⟩
  next found =>
    cases split
    exact ⟨.minutes, beforeEnding_eq_some.mp found, rfl⟩
  next found =>
    cases split
    exact ⟨.hours, beforeEnding_eq_some.mp found, rfl⟩
  · cases split

/-- The unit behind a digit is found. -/
theorem splitUnit_append {digit : UInt8} (hdigit : isDigitByte digit = true) (rest : Bytes)
    (unit : DurationUnit) :
    splitUnit (rest ++ [digit] ++ unit.text) = some ((unit.scale : Int), rest ++ [digit]) := by
  have notM : (0x6D : UInt8) ≠ digit := by
    rintro rfl
    simp [isDigitByte] at hdigit
  unfold splitUnit
  cases unit with
  | milliseconds =>
      have ms := beforeEnding_append (bytes "ms") (rest ++ [digit])
      rw [DurationUnit.text, ms]
      rfl
  | seconds =>
      have ms : beforeEnding (bytes "ms") (rest ++ [digit] ++ bytes "s") = none := by
        rw [Option.eq_none_iff_forall_ne_some]
        intro found same
        have parts : rest ++ [digit] ++ [0x73] = found ++ ([0x6D] ++ [0x73]) :=
          beforeEnding_eq_some.mp same
        rw [← List.append_assoc] at parts
        have front := List.append_inj_left' parts rfl
        exact notM (List.cons.inj (List.append_inj_right' front rfl)).1.symm
      rw [DurationUnit.text, ms, beforeEnding_append]
      rfl
  | minutes =>
      have ms : beforeEnding (bytes "ms") (rest ++ [digit] ++ bytes "m") = none :=
        @beforeEnding_other 0x73 0x6D (by decide) [0x6D] (rest ++ [digit])
      have s : beforeEnding (bytes "s") (rest ++ [digit] ++ bytes "m") = none :=
        @beforeEnding_other 0x73 0x6D (by decide) [] (rest ++ [digit])
      rw [DurationUnit.text, ms, s, beforeEnding_append]
      rfl
  | hours =>
      have ms : beforeEnding (bytes "ms") (rest ++ [digit] ++ bytes "h") = none :=
        @beforeEnding_other 0x73 0x68 (by decide) [0x6D] (rest ++ [digit])
      have s : beforeEnding (bytes "s") (rest ++ [digit] ++ bytes "h") = none :=
        @beforeEnding_other 0x73 0x68 (by decide) [] (rest ++ [digit])
      have m : beforeEnding (bytes "m") (rest ++ [digit] ++ bytes "h") = none :=
        @beforeEnding_other 0x6D 0x68 (by decide) [] (rest ++ [digit])
      rw [DurationUnit.text, ms, s, m, beforeEnding_append]
      rfl

/-! ## What is parsed -/

/-- The parser reads a number before a unit, and rejects it when it is negative
or when the scaled number is too large. -/
theorem parseDuration_eq_some {text : Bytes} {duration : Duration} :
    parseDuration text = some duration ↔ ∃ digits unit amount,
      text = digits ++ DurationUnit.text unit ∧ fromChars digits = some amount ∧ 0 ≤ amount ∧
        amount * unit.scale < 2 ^ 63 ∧ duration = amount * unit.scale := by
  have guard (amount : Int) (unit : DurationUnit) :
      ¬ amount > (2 ^ 63 - 1) / (unit.scale : Int) ↔ amount * unit.scale < 2 ^ 63 := by
    have positive : (0 : Int) < unit.scale := Int.natCast_pos.mpr unit.scale_pos
    rw [gt_iff_lt, Int.not_lt, Int.le_ediv_iff_mul_le positive]
    omega
  refine ⟨?_, ?_⟩
  · intro parsed
    unfold parseDuration at parsed
    split at parsed
    · cases parsed
    next multiplier digits found =>
      obtain ⟨unit, same, rfl⟩ := splitUnit_eq_some found
      split at parsed
      · cases parsed
      split at parsed
      · cases parsed
      next amount read =>
        split at parsed
        · cases parsed
        next positive =>
          split at parsed
          · cases parsed
          next small =>
            cases parsed
            exact ⟨digits, unit, amount, same, read, Int.not_lt.mp positive,
              (guard amount unit).mp small, rfl⟩
  · rintro ⟨digits, unit, amount, rfl, read, positive, small, rfl⟩
    obtain ⟨rest, digit, rfl, hdigit⟩ := getLast?_of_fromChars read
    rw [parseDuration, splitUnit_append hdigit rest unit]
    dsimp only
    rw [if_neg (by simp), read]
    dsimp only
    rw [if_neg (Int.not_lt.mpr positive), if_neg ((guard amount unit).mpr small)]

/-- The parsed texts are the duration texts that fit, and the signed zeros. -/
theorem parseDuration_spec {text : Bytes} {duration : Duration} :
    parseDuration text = some duration ↔
      (∃ number, DurationText text number ∧ number < 2 ^ 63 ∧ duration = number) ∨
        (SignedZero text ∧ duration = 0) := by
  rw [parseDuration_eq_some]
  refine ⟨?_, ?_⟩
  · rintro ⟨digits, unit, amount, rfl, read, positive, small, rfl⟩
    obtain ⟨_, ⟨digit, rfl⟩ | ⟨magnitude, rfl, digit, rfl⟩⟩ := fromChars_eq_some.mp read
    · refine .inl ⟨decimalValue digits * unit.scale, ⟨digits, unit, digit, rfl, rfl⟩, ?_, ?_⟩
      · exact_mod_cast small
      · exact_mod_cast rfl
    · have zero : decimalValue magnitude = 0 := by omega
      refine .inr ⟨⟨magnitude, unit, digit.nonempty, ?_, rfl⟩, by rw [zero]; simp⟩
      exact (decimalValue_eq_zero digit.all).mp zero
  · rintro (⟨number, ⟨digits, unit, digit, rfl, rfl⟩, small, rfl⟩ |
      ⟨⟨zeros, unit, nonempty, zero, rfl⟩, rfl⟩)
    · have bound : decimalValue digits < 2 ^ 63 :=
        (Nat.le_mul_of_pos_right _ unit.scale_pos).trans_lt small
      refine ⟨digits, unit, decimalValue digits, rfl, ?_, Int.natCast_nonneg _, ?_, ?_⟩
      · exact fromChars_eq_some.mpr ⟨by omega, .inl ⟨digit, rfl⟩⟩
      · exact_mod_cast small
      · exact_mod_cast rfl
    · have digit : ∀ byte ∈ zeros, isDigitByte byte = true := by
        intro byte member
        rw [zero byte member]
        rfl
      have value : decimalValue zeros = 0 := (decimalValue_eq_zero digit).mpr zero
      refine ⟨0x2D :: zeros, unit, 0, rfl, ?_, Int.le_refl _, ?_, ?_⟩
      · refine fromChars_eq_some.mpr ⟨by omega, .inr ⟨zeros, rfl, ⟨nonempty, digit⟩, ?_⟩⟩
        rw [value]
        rfl
      · rw [Int.zero_mul]
        decide
      · rw [Int.zero_mul]

/-- No duration text begins with a sign. -/
theorem not_durationText_of_signedZero {text : Bytes} {number : Nat} (signed : SignedZero text) :
    ¬ DurationText text number := by
  obtain ⟨zeros, unit, _, _, rfl⟩ := signed
  rintro ⟨digits, unit', digit, same, _⟩
  cases digits with
  | nil => exact digit.nonempty rfl
  | cons first digits => exact digit.head_ne (List.cons.inj same).1.symm

/-- Parsing accepts exactly the duration texts whose number fits, and returns
that number, when the text is no signed zero. -/
theorem parseDuration_iff_grammar (text : Bytes) :
    (∀ duration, parseDuration text = some duration ↔
      ∃ number, DurationText text number ∧ number < 2 ^ 63 ∧ duration = number) ↔
    ¬ SignedZero text := by
  refine ⟨?_, ?_⟩
  · intro meets signed
    have parsed : parseDuration text = some 0 := parseDuration_spec.mpr (.inr ⟨signed, rfl⟩)
    obtain ⟨number, denoted, _⟩ := (meets 0).mp parsed
    exact not_durationText_of_signedZero signed denoted
  · intro unsigned duration
    rw [parseDuration_spec]
    exact or_iff_left fun zero => unsigned zero.1

/-- A negative zero is parsed, although it is no duration text. -/
theorem parseDuration_negative_zero :
    ¬ ∀ duration, parseDuration (bytes "-0ms") = some duration ↔
      ∃ number, DurationText (bytes "-0ms") number ∧ number < 2 ^ 63 ∧ duration = number := by
  intro meets
  obtain ⟨number, ⟨digits, unit, digit, same, _⟩, _⟩ := (meets 0).mp (by decide)
  cases digits with
  | nil => exact digit.nonempty rfl
  | cons first digits => exact digit.head_ne (List.cons.inj same).1.symm

end PixelStatus
