/-
# The value of digits

A run of decimal digits denotes the number of its positions. The library reads
that number, and reads nothing else.
-/

import Mathlib.Data.List.Induction
import Mathlib.Data.Nat.Digits.Defs
import PixelStatus.Core.Decimal
import PixelStatus.Core.HttpUrl

namespace PixelStatus

/-- The positional value of decimal digits. -/
def decimalValue (digits : Bytes) : Nat :=
  Nat.ofDigits 10 (digits.reverse.map fun byte => byte.toNat - 0x30)

/-- One or more decimal digits. -/
structure IsDigits (digits : Bytes) : Prop where
  nonempty : digits ≠ []
  all : ∀ byte ∈ digits, isDigitByte byte = true

/-- Another digit is worth itself, and ten times what stands before it. -/
theorem decimalValue_concat (digits : Bytes) (byte : UInt8) :
    decimalValue (digits ++ [byte]) = (byte.toNat - 0x30) + 10 * decimalValue digits := by
  rw [decimalValue, decimalValue, List.reverse_append, List.reverse_singleton,
    List.singleton_append, List.map_cons, Nat.ofDigits_cons]

/-- Reading digit by digit gives the value of the text. -/
theorem foldl_digits (digits : Bytes) :
    digits.foldl (fun value byte => 10 * value + (byte.toNat - 0x30)) 0 = decimalValue digits := by
  induction digits using List.reverseRecOn with
  | nil => rfl
  | append_singleton digits byte ih =>
      rw [List.foldl_append, ih, decimalValue_concat]
      exact Nat.add_comm _ _

/-- A text has a value when it is made of digits. -/
theorem digitsValue_eq_some {digits : Bytes} {value : Nat} :
    digitsValue digits = some value ↔ IsDigits digits ∧ value = decimalValue digits := by
  rw [digitsValue, foldl_digits]
  by_cases number : digits ≠ [] ∧ digits.all (fun byte => 0x30 ≤ byte && byte ≤ 0x39) = true
  · have digit : IsDigits digits := ⟨number.1, List.all_eq_true.mp number.2⟩
    rw [if_pos number, Option.some.injEq]
    exact ⟨fun same => ⟨digit, same.symm⟩, fun spec => spec.2.symm⟩
  · rw [if_neg number]
    refine iff_of_false (fun found => nomatch found) fun spec => number ?_
    exact ⟨spec.1.nonempty, List.all_eq_true.mpr spec.1.all⟩

theorem IsDigits.head_ne {digit : UInt8} {digits : Bytes} (number : IsDigits (digit :: digits)) :
    digit ≠ 0x2D := by
  rintro rfl
  have sign := number.all 0x2D List.mem_cons_self
  simp [isDigitByte] at sign

/-- The code of a digit. -/
theorem digit_bounds {byte : UInt8} (digit : isDigitByte byte = true) :
    0x30 ≤ byte.toNat ∧ byte.toNat ≤ 0x39 := by
  simp only [isDigitByte, Bool.and_eq_true, decide_eq_true_eq, UInt8.le_iff_toNat_le] at digit
  exact digit

/-- Digits denote zero when they are all zeros. -/
theorem decimalValue_eq_zero {digits : Bytes} (digit : ∀ byte ∈ digits, isDigitByte byte = true) :
    decimalValue digits = 0 ↔ ∀ byte ∈ digits, byte = 0x30 := by
  induction digits using List.reverseRecOn with
  | nil => exact iff_of_true rfl (List.forall_mem_nil _)
  | append_singleton digits byte ih =>
      have parts := List.forall_mem_append.mp digit
      have last := parts.2 byte List.mem_cons_self
      have zero : byte.toNat - 0x30 = 0 ↔ byte = 0x30 := by
        have low := (digit_bounds last).1
        have number : (0x30 : UInt8).toNat = 0x30 := rfl
        rw [← UInt8.toNat_inj, number]
        omega
      rw [decimalValue_concat, Nat.add_eq_zero_iff, zero, Nat.mul_eq_zero, ih parts.1,
        List.forall_mem_append, List.forall_mem_singleton, and_comm]
      simp only [OfNat.ofNat_ne_zero, false_or]

end PixelStatus
