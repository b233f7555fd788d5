/-
# Reading the fields of a configuration

The loader collects its errors and goes on where it can, so a reader of a field
is a program that may write errors and may return nothing. What a reader
promises is stated beside it, for the runs that wrote no error.
-/

import PixelStatus.Core.Config.Types
import PixelStatus.Core.HttpUrl
import PixelStatus.Core.Json
import PixelStatus.Logic.Logged

namespace PixelStatus

open Logged

def maximumConfigBytes : Nat := 1024 * 1024
def maximumDimension : Nat := 256
def maximumPixels : Nat := 65536
def maximumIndicators : Nat := 1024
def maximumLayoutWidgets : Nat := 1024
def maximumLayoutNodes : Nat := 2048
def maximumLayoutDepth : Nat := 16
def maximumLayoutWeight : Nat := 1000000
def maximumCards : Nat := 32
def maximumBitmapPaletteEntries : Nat := 32
def maximumStatuses : Nat := 256
def maximumMonitors : Nat := 256
def maximumAppearanceDuration : Duration := 24 * 3600000
def minimumMonitorInterval : Duration := 1000
def maximumMonitorInterval : Duration := 24 * 3600000
def maximumMonitorTtl : Duration := 24 * 7 * 3600000
def maximumMonitorTimeout : Duration := 30000
def minimumCardHold : Duration := 1000
def maximumCardHold : Duration := 24 * 3600000
def maximumCardTransition : Duration := 10000
def maximumMonitorRules : Nat := 32
def maximumMonitorResponseBytes : Nat := 64 * 1024
def maximumUrlBytes : Nat := 2 * 1024
def maximumJsonPointerBytes : Nat := 512
def maximumHostBytes : Nat := 253
def maximumHttpRequestBodyBytes : Nat := 16 * 1024
def maximumHttpHeaderCount : Nat := 32
def maximumHttpHeaderNameBytes : Nat := 128
def maximumHttpHeaderValueBytes : Nat := 2 * 1024
def maximumHttpHeadersBytes : Nat := 8 * 1024
def maximumSecretNameBytes : Nat := 128
def maximumTcpSendBytes : Nat := 4 * 1024
def maximumTcpDelimiterBytes : Nat := 256

/-! ## Numbers and durations -/

/-- `std::from_chars` to a signed 64-bit integer, when it takes the whole text. -/
def fromChars (text : Bytes) : Option Int :=
  let number : Option Int :=
    match text with
    | 0x2D :: digits => (digitsValue digits).map fun magnitude => -(magnitude : Int)
    | digits => (digitsValue digits).map Int.ofNat
  number.filter fun number => -2 ^ 63 ≤ number && number < 2 ^ 63

/-- The text before an ending, when it ends so. -/
def beforeEnding (ending text : Bytes) : Option Bytes :=
  if ending <:+ text then some (text.take (text.length - ending.length)) else none

/-- The milliseconds in the unit that ends the text, and the text before it. -/
def splitUnit (value : Bytes) : Option (Int × Bytes) :=
  match beforeEnding (bytes "ms") value, beforeEnding (bytes "s") value,
      beforeEnding (bytes "m") value, beforeEnding (bytes "h") value with
  | some digits, _, _, _ => some (1, digits)
  | none, some digits, _, _ => some (1000, digits)
  | none, none, some digits, _ => some (60000, digits)
  | none, none, none, some digits => some (3600000, digits)
  | none, none, none, none => none

def parseDuration (value : Bytes) : Option Duration :=
  match splitUnit value with
  | none => none
  | some (multiplier, digits) =>
      if digits = [] then none
      else match fromChars digits with
        | none => none
        | some amount =>
            if amount < 0 then none
            else if amount > (2 ^ 63 - 1) / multiplier then none
            else some (amount * multiplier)

/-! ## Errors -/

/-- A run of the loader, with the errors it adds. -/
abbrev Loading := Logged Bytes

def addError (message : Bytes) : Loading Unit := Logged.write message

/-- Add an error and return nothing. -/
def reject {α : Type} (message : Bytes) : Loading (Option α) := do
  addError message
  return none

/-- The path of a field. -/
def fieldPath (path : Bytes) (key : String) : Bytes := path ++ bytes "." ++ bytes key

/-- The path of an item. -/
def itemPath (path : Bytes) (index : Nat) : Bytes :=
  path ++ bytes "[" ++ decimal index ++ bytes "]"

/-- A rejection is not silent. -/
theorem ensures_reject {α : Type} {property : Option α → Prop} {message : Bytes} :
    Ensures property (reject message : Loading (Option α)) := Ensures.write_bind

/-- Nor is an error. -/
theorem ensures_addError {property : Unit → Prop} {message : Bytes} :
    Ensures property (addError message : Loading Unit) := ⟨fun silent => nomatch silent⟩

/-- After an error there is nothing left to promise. -/
theorem ensures_addError_bind {α : Type} {property : α → Prop} {message : Bytes}
    {rest : Unit → Loading α} : Ensures property (addError message >>= rest) :=
  Ensures.write_bind

/-! ## Fields -/

/-- The members of a JSON object, in the order of their keys. -/
abbrev Members := List (Bytes × Json)

/-- `find` by a key that the loader names. -/
def Members.field (object : Members) (key : String) : Option Json := Json.find object (bytes key)

def Members.contains (object : Members) (key : String) : Bool := (object.field key).isSome

def rejectUnknownFields (object : Members) (allowed : List String) (path : Bytes) :
    Loading Unit :=
  object.forM fun field =>
    if field.1 ∈ allowed.map bytes then return ()
    else addError (path ++ bytes " contains unknown field: " ++ field.1)

def requiredString (object : Members) (key : String) (path : Bytes) : Loading (Option Bytes) :=
  match object.field key with
  | some (.string value) =>
      if value = [] then reject (fieldPath path key ++ bytes " must not be empty")
      else return some value
  | _ => reject (fieldPath path key ++ bytes " must be a string")

/-- The text about an identifier that is none. -/
def identifierRule : Bytes :=
  bytes " must contain 1-64 letters, digits, dots, underscores, or hyphens"

def requiredIdentifier (object : Members) (key : String) (path : Bytes) :
    Loading (Option Bytes) := do
  match ← requiredString object key path with
  | none => return none
  | some value =>
      if isValidIdentifier value then return some value
      else reject (fieldPath path key ++ identifierRule)

def optionalIdentifier (object : Members) (key : String) (path : Bytes) :
    Loading (Option Bytes) :=
  match object.field key with
  | none => return none
  | some (.string value) =>
      if isValidIdentifier value then return some value
      else reject (fieldPath path key ++ identifierRule)
  | some _ => reject (fieldPath path key ++ identifierRule)

/-- The range check of `bounded_size`. -/
def checkSize (value : Nat) (key : String) (path : Bytes) (minimum maximum : Nat) :
    Loading (Option Nat) :=
  if value < minimum ∨ value > maximum then
    reject (fieldPath path key ++ bytes " must be between " ++ decimal minimum
      ++ bytes " and " ++ decimal maximum)
  else return some value

def boundedSize (object : Members) (key : String) (path : Bytes) (minimum maximum : Nat) :
    Loading (Option Nat) :=
  match object.field key with
  | some (.unsigned value) => checkSize value.toNat key path minimum maximum
  | some (.integer value) =>
      if value < 0 then reject (fieldPath path key ++ bytes " must not be negative")
      else checkSize value.toInt.toNat key path minimum maximum
  | _ => reject (fieldPath path key ++ bytes " must be an integer")

def colorValue (value : Json) (path : Bytes) : Loading (Option Rgb) :=
  match value with
  | .string text =>
      match parseRgbHex text with
      | none => reject (path ++ bytes " must use #RRGGBB format")
      | some color => return some color
  | _ => reject (path ++ bytes " must be an RGB string such as #00FF00")

def durationValue (value : Json) (path : Bytes) : Loading (Option Duration) :=
  match value with
  | .string text =>
      match parseDuration text with
      | some duration =>
          if duration ≤ 0 ∨ duration > maximumAppearanceDuration then
            reject (path ++ bytes " must be greater than zero and no more than 24h")
          else return some duration
      | none => reject (path ++ bytes " must be greater than zero and no more than 24h")
  | _ => reject (path ++ bytes " must be a duration string")

def boundedDurationValue (value : Json) (path : Bytes) (minimum maximum : Duration) :
    Loading (Option Duration) :=
  let outOfRange := path ++ bytes " must be between " ++ bytes (toString minimum)
    ++ bytes "ms and " ++ bytes (toString maximum) ++ bytes "ms"
  match value with
  | .string text =>
      match parseDuration text with
      | some duration =>
          if duration < minimum ∨ duration > maximum then reject outOfRange
          else return some duration
      | none => reject outOfRange
  | _ => reject (path ++ bytes " must be a duration string")

/-- The percentage a field denotes, before its range is checked. -/
def percentOf : Json → Option Int
  | .unsigned value => if value ≤ 100 then some value.toNat else none
  | .integer value => some value.toInt
  | .string text =>
      if text.length > 1 then (beforeEnding (bytes "%") text).bind fromChars else none
  | _ => none

def percentageValue (round : Rounding) (object : Members) (key : String) (default : Double)
    (path : Bytes) : Loading (Option Double) :=
  match object.field key with
  | none => return some default
  | some value =>
      match percentOf value with
      | some percent =>
          if percent < 0 ∨ percent > 100 then
            reject (fieldPath path key ++ bytes " must be a percentage from 0 to 100")
          else return some (Double.div round (.finite percent) (.finite 100))
      | none => reject (fieldPath path key ++ bytes " must be a percentage from 0 to 100")

/-! ## What the fields hold -/

variable {object : Members} {key : String} {path : Bytes}

/-- A text that has to be there is not empty. -/
theorem requiredString_ensures :
    Ensures (OfSome fun value => value ≠ []) (requiredString object key path) := by
  unfold requiredString
  split
  · split
    · exact ensures_reject
    next nonempty => exact Ensures.pure (OfSome.some nonempty)
  · exact ensures_reject

/-- It is the text of its field. -/
theorem requiredString_read :
    Ensures (OfSome fun value => object.field key = some (.string value))
      (requiredString object key path) := by
  unfold requiredString
  split
  next value found =>
    split
    · exact ensures_reject
    · exact Ensures.pure (OfSome.some found)
  · exact ensures_reject

/-- An identifier that has to be there is valid. -/
theorem requiredIdentifier_ensures :
    Ensures (OfSome fun value => isValidIdentifier value = true)
      (requiredIdentifier object key path) := by
  apply requiredString_ensures.bindSome
  · exact Ensures.pure OfSome.none
  intro value _
  dsimp only
  split
  next valid => exact Ensures.pure (OfSome.some valid)
  · exact ensures_reject

/-- A checked number is within its bounds. -/
theorem checkSize_ensures {value minimum maximum : Nat} :
    Ensures (OfSome fun size => minimum ≤ size ∧ size ≤ maximum)
      (checkSize value key path minimum maximum) := by
  unfold checkSize
  split
  · exact ensures_reject
  next inside => exact Ensures.pure (OfSome.some (by omega))

/-- A number that is read is within its bounds. -/
theorem boundedSize_ensures {minimum maximum : Nat} :
    Ensures (OfSome fun size => minimum ≤ size ∧ size ≤ maximum)
      (boundedSize object key path minimum maximum) := by
  unfold boundedSize
  split
  · exact checkSize_ensures
  · split
    · exact ensures_reject
    · exact checkSize_ensures
  · exact ensures_reject

/-- A duration that is read is within its bounds. -/
theorem boundedDurationValue_ensures {value : Json} {minimum maximum : Duration} :
    Ensures (OfSome fun duration => minimum ≤ duration ∧ duration ≤ maximum)
      (boundedDurationValue value path minimum maximum) := by
  unfold boundedDurationValue
  dsimp only
  split
  · split
    · split
      · exact ensures_reject
      next inside =>
        rw [not_or, Int.not_lt, Int.not_lt] at inside
        exact Ensures.pure (OfSome.some inside)
    · exact ensures_reject
  · exact ensures_reject

end PixelStatus
