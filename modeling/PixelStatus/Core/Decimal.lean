/-
# Printed integers

The text of an integer is ASCII, bounded by its number of digits, and read back
by taking digits up to the first byte that is none.
-/

import PixelStatus.Core.Json

namespace PixelStatus

/-- The byte of an ASCII character. -/
def asciiByte (character : Char) : UInt8 := UInt8.ofNat character.toNat

/-- The bytes of two texts in a row. -/
theorem bytes_append (left right : String) : bytes (left ++ right) = bytes left ++ bytes right := by
  simp [bytes]

/-- An ASCII text is encoded character by character. -/
theorem bytes_of_ascii {text : String} (ascii : ∀ character ∈ text.toList, character.toNat < 128) :
    bytes text = text.toList.map asciiByte := by
  have encoded : bytes text = text.toList.flatMap String.utf8EncodeChar := by
    have data : text.toList.utf8Encode = text.toByteArray := String.utf8Encode_toList
    show text.toByteArray.data.toList = _
    rw [← data]
    simp [List.utf8Encode]
  rw [encoded, List.map_eq_flatMap]
  apply List.flatMap_congr
  intro character member
  have single := utf8EncodeChar_ascii character.toNat (ascii character member)
  rwa [Char.ofNat_toNat] at single

/-- The characters of a number are the ten digits. -/
theorem toNat_of_mem_toDigits {number : Nat} {character : Char}
    (member : character ∈ Nat.toDigits 10 number) :
    48 ≤ character.toNat ∧ character.toNat ≤ 57 := by
  have digit := Nat.isDigit_of_mem_toDigits (by decide) (by decide) member
  simp only [Char.isDigit, Bool.and_eq_true, decide_eq_true_eq] at digit
  exact digit

/-- A number's text is that of its digits. -/
theorem decimal_eq_map (number : Nat) :
    decimal number = (Nat.toDigits 10 number).map asciiByte := by
  have digits : (toString number).toList = Nat.toDigits 10 number := Nat.toList_repr
  rw [decimal, bytes_of_ascii, digits]
  intro character member
  rw [digits] at member
  have bounds := toNat_of_mem_toDigits member
  omega

/-- A number below a power of ten has no more digits than the exponent. -/
theorem length_decimal_le {number count : Nat} (positive : 0 < count)
    (small : number < 10 ^ count) : (decimal number).length ≤ count := by
  rw [decimal_eq_map, List.length_map]
  exact (Nat.length_toDigits_le_iff (by decide) positive).mpr small

def isDigitByte (byte : UInt8) : Bool := 0x30 ≤ byte && byte ≤ 0x39

/-- A number is written with digits alone. -/
theorem isDigitByte_of_mem_decimal {number : Nat} {byte : UInt8} (member : byte ∈ decimal number) :
    isDigitByte byte = true := by
  rw [decimal_eq_map] at member
  obtain ⟨character, digit, rfl⟩ := List.mem_map.mp member
  have bounds := toNat_of_mem_toDigits digit
  have value : (asciiByte character).toNat = character.toNat := by
    rw [asciiByte, UInt8.toNat_ofNat', Nat.mod_eq_of_lt (by omega)]
  simp only [isDigitByte, Bool.and_eq_true, decide_eq_true_eq, UInt8.le_iff_toNat_le, value]
  exact bounds

/-- Read the digits at the start of a text. -/
def readNatural (text : Bytes) : Option (Nat × Bytes) :=
  match text.takeWhile isDigitByte with
  | [] => none
  | digits =>
      some (Nat.ofDigitChars 10 (digits.map fun byte => Char.ofNat byte.toNat) 0,
        text.dropWhile isDigitByte)

/-- The text starts with no digit. -/
def NoDigitFirst (text : Bytes) : Prop := ∀ byte ∈ text.head?, isDigitByte byte = false

/-- The digits at the start of a text are the number that was printed. -/
theorem takeWhile_decimal (number : Nat) {rest : Bytes} (ends : NoDigitFirst rest) :
    (decimal number ++ rest).takeWhile isDigitByte = decimal number := by
  rw [List.takeWhile_append_of_pos fun byte member => isDigitByte_of_mem_decimal member]
  cases rest with
  | nil => rw [List.takeWhile_nil, List.append_nil]
  | cons byte rest =>
      have first : isDigitByte byte = false := ends byte rfl
      rw [List.takeWhile_cons, first]
      simp

/-- What is behind them is the rest. -/
theorem dropWhile_decimal (number : Nat) {rest : Bytes} (ends : NoDigitFirst rest) :
    (decimal number ++ rest).dropWhile isDigitByte = rest := by
  rw [List.dropWhile_append_of_pos fun byte member => isDigitByte_of_mem_decimal member]
  cases rest with
  | nil => rfl
  | cons byte rest =>
      have first : isDigitByte byte = false := ends byte rfl
      rw [List.dropWhile_cons, first]
      simp

/-- The digits give back the number. -/
theorem ofDigitChars_decimal (number : Nat) :
    Nat.ofDigitChars 10 ((decimal number).map fun byte => Char.ofNat byte.toNat) 0 = number := by
  have same : (decimal number).map (fun byte => Char.ofNat byte.toNat) =
      Nat.toDigits 10 number := by
    rw [decimal_eq_map, List.map_map]
    calc (Nat.toDigits 10 number).map _ = (Nat.toDigits 10 number).map id := by
          apply List.map_congr_left
          intro character member
          have bounds := toNat_of_mem_toDigits member
          rw [Function.comp_apply, asciiByte, UInt8.toNat_ofNat', Nat.mod_eq_of_lt (by omega),
            Char.ofNat_toNat, id_eq]
      _ = Nat.toDigits 10 number := List.map_id _
  rw [same, Nat.ofDigitChars_ten_toDigits]

/-- A number has a digit. -/
theorem decimal_ne_nil (number : Nat) : decimal number ≠ [] := by
  rw [decimal_eq_map]
  simp

/-- A number that was printed is read back. -/
theorem readNatural_decimal (number : Nat) {rest : Bytes} (ends : NoDigitFirst rest) :
    readNatural (decimal number ++ rest) = some (number, rest) := by
  rw [readNatural, takeWhile_decimal number ends, dropWhile_decimal number ends]
  split
  next empty => exact absurd empty (decimal_ne_nil number)
  next => rw [ofDigitChars_decimal]

/-- Read an integer with an optional minus sign. -/
def readInteger : Bytes → Option (Int × Bytes)
  | 0x2D :: rest => (readNatural rest).map fun read => (-(read.1 : Int), read.2)
  | text => (readNatural text).map fun read => ((read.1 : Int), read.2)

/-- A negative number is its magnitude behind a minus sign. -/
theorem bytes_toString_negSucc (number : Nat) :
    bytes (toString (Int.negSucc number)) = 0x2D :: decimal (number + 1) := by
  show bytes ("-" ++ toString (number + 1)) = _
  rw [bytes_append]
  rfl

/-- So it is among integers. -/
theorem readInteger_decimal (number : Nat) {rest : Bytes} (ends : NoDigitFirst rest) :
    readInteger (decimal number ++ rest) = some ((number : Int), rest) := by
  have read := readNatural_decimal number ends
  unfold readInteger
  split
  next tail same =>
    have minus : (0x2D : UInt8) ∈ decimal number := by
      cases digits : decimal number with
      | nil => exact absurd digits (decimal_ne_nil number)
      | cons byte bytes =>
          rw [digits, List.cons_append] at same
          cases same
          exact List.mem_cons_self
    have digit := isDigitByte_of_mem_decimal minus
    simp [isDigitByte] at digit
  next => rw [read, Option.map_some]

/-- A printed integer is read back, with the text behind it. -/
theorem readInteger_toString (number : Int) {rest : Bytes} (ends : NoDigitFirst rest) :
    readInteger (bytes (toString number) ++ rest) = some (number, rest) := by
  cases number with
  | ofNat number => exact readInteger_decimal number ends
  | negSucc number =>
      rw [bytes_toString_negSucc, List.cons_append, readInteger,
        readNatural_decimal (number + 1) ends]
      rfl

/-- A number of so many digits has one character more at most. -/
theorem length_toString_le {number : Int} {count : Nat} (positive : 0 < count)
    (small : number.natAbs < 10 ^ count) : (bytes (toString number)).length ≤ count + 1 := by
  cases number with
  | ofNat number =>
      have digits := length_decimal_le positive small
      exact Nat.le_succ_of_le digits
  | negSucc number =>
      rw [bytes_toString_negSucc, List.length_cons]
      exact Nat.succ_le_succ (length_decimal_le positive small)

end PixelStatus
