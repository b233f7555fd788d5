/-
# JSON text

The text that the library's dump prints, and the condition under which it prints
one. The shortest decimal form of a double is the library's own business and
stays a parameter.
-/

import PixelStatus.Core.Json

namespace PixelStatus.Json

def hexDigit (value : UInt8) : UInt8 := if value < 10 then 0x30 + value else 0x57 + value

/-- One byte of a string literal. -/
def escapeByte (byte : UInt8) : Bytes :=
  if byte = 0x22 then [0x5C, 0x22]
  else if byte = 0x5C then [0x5C, 0x5C]
  else if byte = 0x08 then [0x5C, 0x62]
  else if byte = 0x0C then [0x5C, 0x66]
  else if byte = 0x0A then [0x5C, 0x6E]
  else if byte = 0x0D then [0x5C, 0x72]
  else if byte = 0x09 then [0x5C, 0x74]
  else if byte < 0x20 then [0x5C, 0x75, 0x30, 0x30, hexDigit (byte / 16), hexDigit (byte % 16)]
  else [byte]

/-- A string literal; nothing where the strict handler throws. -/
def quote (text : Bytes) : Option Bytes :=
  if ValidUtf8 text then some ([0x22] ++ text.flatMap escapeByte ++ [0x22]) else none

def commaSeparated (parts : List Bytes) : Bytes := [0x2C].intercalate parts

variable (floatText : Double → Bytes)

mutual

/-- `dump` without indentation. -/
def print : Json → Option Bytes
  | .null => some (bytes "null")
  | .boolean value => some (if value then bytes "true" else bytes "false")
  | .integer value => some (bytes (toString value.toInt))
  | .unsigned value => some (decimal value.toNat)
  | .float value => some (if value.isFinite then floatText value else bytes "null")
  | .string value => quote value
  | .array items => (printItems items).map fun parts => [0x5B] ++ commaSeparated parts ++ [0x5D]
  | .object members =>
      (printMembers members).map fun parts => [0x7B] ++ commaSeparated parts ++ [0x7D]

def printItems : List Json → Option (List Bytes)
  | [] => some []
  | item :: items => do
      let text ← print item
      let texts ← printItems items
      return text :: texts

def printMembers : List (Bytes × Json) → Option (List Bytes)
  | [] => some []
  | (key, value) :: members => do
      let name ← quote key
      let text ← print value
      let texts ← printMembers members
      return (name ++ [0x3A] ++ text) :: texts

end

/-- A text can be quoted exactly when it is valid. -/
theorem quote_isSome {text : Bytes} : (quote text).isSome = true ↔ ValidUtf8 text := by
  unfold quote
  split
  next valid => exact iff_of_true rfl valid
  next invalid => exact iff_of_false Bool.false_ne_true invalid

mutual

/-- The dump throws exactly on a text that is not valid UTF-8. -/
theorem print_isSome : ∀ json : Json, (print floatText json).isSome = true ↔ json.Utf8
  | .null => by simp [print, Utf8]
  | .boolean _ => by simp [print, Utf8]
  | .integer _ => by simp [print, Utf8]
  | .unsigned _ => by simp [print, Utf8]
  | .float _ => by simp [print, Utf8]
  | .string _ => quote_isSome
  | .array items => by
      rw [print, Option.isSome_map]
      exact printItems_isSome items
  | .object members => by
      rw [print, Option.isSome_map]
      exact printMembers_isSome members

/-- An array can be printed when each of its items can. -/
theorem printItems_isSome :
    ∀ items : List Json, (printItems floatText items).isSome = true ↔ Utf8Items items
  | [] => by simp [printItems, Utf8Items]
  | item :: items => by
      have hitem := print_isSome item
      have hitems := printItems_isSome items
      rw [printItems, Utf8Items, ← hitem, ← hitems]
      cases print floatText item <;> cases printItems floatText items <;> simp

/-- An object can be printed when each of its members can. -/
theorem printMembers_isSome :
    ∀ members : List (Bytes × Json),
      (printMembers floatText members).isSome = true ↔ Utf8Members members
  | [] => by simp [printMembers, Utf8Members]
  | (key, value) :: members => by
      have hvalue := print_isSome value
      have hmembers := printMembers_isSome members
      rw [printMembers, Utf8Members, ← quote_isSome, ← hvalue, ← hmembers]
      cases quote key <;> cases print floatText value <;>
        cases printMembers floatText members <;> simp

end

/-- A library that knows one document, for statements about a concrete request. -/
def tableLibrary (text : Bytes) (document : Json) : JsonLibrary where
  parse other := if other = text then some document else none
  dump := print fun _ => bytes "0.0"

/-- The library of one document obeys the laws. -/
theorem lawful_tableLibrary {text : Bytes} {document : Json} (valid : document.Utf8) :
    (tableLibrary text document).Lawful where
  parse_utf8 other json parsed := by
    simp only [tableLibrary] at parsed
    split at parsed
    next => exact Option.some.inj parsed ▸ valid
    next => cases parsed
  dump_isSome json := print_isSome _ json

end PixelStatus.Json
