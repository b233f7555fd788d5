/-
# JSON values

The values of the JSON library that the program uses. Parsing text and dumping
it are the library's; what the program relies on is that a parsed document holds
only valid UTF-8, and that the strict dump throws exactly when a text it would
print is not. The members of an object are listed in the order of their keys, in
which the library iterates.
-/

import PixelStatus.Core.Basic

namespace PixelStatus

/-- A text that is the UTF-8 encoding of some characters. -/
def ValidUtf8 (text : Bytes) : Prop := text.toByteArray.IsValidUTF8

instance (text : Bytes) : Decidable (ValidUtf8 text) :=
  inferInstanceAs (Decidable text.toByteArray.IsValidUTF8)

/-- Two texts in a row are text. -/
theorem ValidUtf8.append {left right : Bytes} (hleft : ValidUtf8 left)
    (hright : ValidUtf8 right) : ValidUtf8 (left ++ right) := by
  rw [ValidUtf8, List.toByteArray_append]
  exact ByteArray.IsValidUTF8.append hleft hright

/-- The bytes of a string are text. -/
theorem validUtf8_bytes (text : String) : ValidUtf8 (bytes text) := by
  have same : (bytes text).toByteArray = text.toByteArray := by
    apply ByteArray.ext
    simp [bytes]
  rw [ValidUtf8, same]
  exact text.isValidUTF8

/-- A character below 128 is its own encoding. -/
theorem utf8EncodeChar_ascii :
    ∀ code < 128, String.utf8EncodeChar (Char.ofNat code) = [UInt8.ofNat code] := by
  decide

/-- ASCII bytes are text. -/
theorem validUtf8_of_ascii {text : Bytes} (ascii : ∀ byte ∈ text, byte < 0x80) :
    ValidUtf8 text := by
  have encoded : text.toByteArray = (text.map fun byte => Char.ofNat byte.toNat).utf8Encode := by
    apply congrArg List.toByteArray
    rw [List.flatMap_map]
    induction text with
    | nil => rfl
    | cons byte text ih =>
        have hbyte : byte.toNat < 0x80 := ascii byte List.mem_cons_self
        rw [List.flatMap_cons, utf8EncodeChar_ascii byte.toNat hbyte, UInt8.ofNat_toNat,
          ← ih fun other member => ascii other (List.mem_cons_of_mem _ member)]
        rfl
  exact .intro _ encoded

/-- Identifiers are ASCII. -/
theorem validUtf8_of_isValidIdentifier {value : Bytes} {maximumLength : Nat}
    (valid : isValidIdentifier value maximumLength = true) : ValidUtf8 value := by
  apply validUtf8_of_ascii
  intro byte member
  simp only [isValidIdentifier, Bool.and_eq_true, List.all_eq_true] at valid
  have identifier := valid.2 byte member
  simp only [isIdentifierByte, Bool.or_eq_true, Bool.and_eq_true, decide_eq_true_eq] at identifier
  grind

inductive Json
  | null
  | boolean (value : Bool)
  | integer (value : Int64)
  | unsigned (value : UInt64)
  | float (value : Double)
  | string (value : Bytes)
  | array (items : List Json)
  | object (members : List (Bytes × Json))

namespace Json

mutual

/-- Every text in the value, keys included, is valid UTF-8. -/
def Utf8 : Json → Prop
  | .string value => ValidUtf8 value
  | .array items => Utf8Items items
  | .object members => Utf8Members members
  | _ => True

def Utf8Items : List Json → Prop
  | [] => True
  | item :: items => item.Utf8 ∧ Utf8Items items

def Utf8Members : List (Bytes × Json) → Prop
  | [] => True
  | (key, value) :: members => ValidUtf8 key ∧ value.Utf8 ∧ Utf8Members members

end

/-- The items of an array, one by one. -/
theorem utf8Items_iff {items : List Json} : Utf8Items items ↔ ∀ item ∈ items, item.Utf8 := by
  induction items with
  | nil => simp [Utf8Items]
  | cons item items ih => simp [Utf8Items, ih]

/-- The members of an object, one by one. -/
theorem utf8Members_iff {members : List (Bytes × Json)} :
    Utf8Members members ↔ ∀ member ∈ members, ValidUtf8 member.1 ∧ member.2.Utf8 := by
  induction members with
  | nil => simp [Utf8Members]
  | cons member members ih => simp [Utf8Members, ih, and_assoc]

/-- `find`: the value of a key. -/
def find (members : List (Bytes × Json)) (key : Bytes) : Option Json := members.lookup key

/-- A value that is found is made of texts like its object. -/
theorem utf8_of_find {members : List (Bytes × Json)} {key : Bytes} {value : Json}
    (valid : Utf8Members members) (found : find members key = some value) : value.Utf8 := by
  obtain ⟨before, after, rfl, -⟩ := List.lookup_eq_some_iff.mp found
  exact (utf8Members_iff.mp valid (key, value) (by simp)).2

end Json

/-- The JSON library: `parse` yields nothing for a discarded document, `dump`
nothing when it throws. -/
structure JsonLibrary where
  parse : Bytes → Option Json
  dump : Json → Option Bytes

/-- What the library documents about texts that are not valid UTF-8. -/
structure JsonLibrary.Lawful (library : JsonLibrary) : Prop where
  parse_utf8 : ∀ text json, library.parse text = some json → json.Utf8
  dump_isSome : ∀ json, (library.dump json).isSome = true ↔ json.Utf8

end PixelStatus
