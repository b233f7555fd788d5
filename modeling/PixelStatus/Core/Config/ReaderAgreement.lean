/-
# Readers agree on equal fields

The path that a reader is given is only a part of its error texts. So two
readers at different paths agree on objects that have the same value in the
field that is read.
-/

import PixelStatus.Core.Config.Widgets

namespace PixelStatus

open Logged

variable {α : Type} {object other : Members} {key : String} {path otherPath : Bytes}

/-- A rejection agrees with anything. -/
theorem agrees_reject {message : Bytes} {program : Loading (Option α)} :
    Agrees (reject message) program := Agrees.of_write

/-- So does an error. -/
theorem agrees_addError {message : Bytes} {program : Loading Unit} :
    Agrees (addError message) program := ⟨fun silent => by cases silent⟩

/-- So does whatever begins with an error. -/
theorem agrees_addError_bind {message : Bytes} {rest : Unit → Loading α}
    {program : Loading α} : Agrees (addError message >>= rest) program := Agrees.of_write

/-- So does a refused item. -/
theorem agrees_refuse {kept : Kept α} {message : Bytes} {program : Loading (Kept α)} :
    Agrees (kept.refuse message) program := Agrees.of_write

/-! ## Fields -/

/-- A silent check found only allowed fields. -/
theorem rejectUnknownFields_ensures {allowed : List String} :
    Ensures (fun _ => ∀ field ∈ object, field.1 ∈ allowed.map bytes)
      (rejectUnknownFields object allowed path) := by
  apply Ensures.forM
  intro field _
  split
  next known => exact Ensures.pure known
  · exact ensures_addError

/-- Known fields are passed in silence. -/
theorem rejectUnknownFields_silent {allowed : List String}
    (known : ∀ field ∈ object, field.1 ∈ allowed.map bytes) :
    rejectUnknownFields object allowed path = return () := by
  unfold rejectUnknownFields
  induction object with
  | nil => rfl
  | cons field rest ih =>
      have parts := List.forall_mem_cons.mp known
      change (if field.1 ∈ allowed.map bytes then _ else _) >>= _ = _
      rw [if_pos parts.1]
      exact ih parts.2

/-- The field checks agree when the second knows all that the first does. -/
theorem rejectUnknownFields_agrees {allowed otherAllowed : List String}
    (known : (∀ field ∈ object, field.1 ∈ allowed.map bytes) →
      ∀ field ∈ other, field.1 ∈ otherAllowed.map bytes) :
    Agrees (rejectUnknownFields object allowed path)
      (rejectUnknownFields other otherAllowed otherPath) := by
  constructor
  intro silent
  rw [rejectUnknownFields_silent (known (rejectUnknownFields_ensures.value silent))]
  exact ⟨rfl, rfl⟩

/-- A checked number does not depend on the path. -/
theorem checkSize_agrees {value minimum maximum : Nat} :
    Agrees (checkSize value key path minimum maximum)
      (checkSize value key otherPath minimum maximum) := by
  unfold checkSize
  split
  · exact agrees_reject
  · exact Agrees.refl _

section

variable (same : other.field key = object.field key)
include same

theorem contains_same : other.contains key = object.contains key := congrArg Option.isSome same

/-- The same field reads as the same text. -/
theorem requiredString_agrees :
    Agrees (requiredString object key path) (requiredString other key otherPath) := by
  unfold requiredString
  rw [same]
  split
  · split
    · exact agrees_reject
    · exact Agrees.refl _
  · exact agrees_reject

/-- The same field reads as the same identifier. -/
theorem requiredIdentifier_agrees :
    Agrees (requiredIdentifier object key path) (requiredIdentifier other key otherPath) := by
  apply (requiredString_agrees same).bind
  intro value
  cases value with
  | none => exact Agrees.refl _
  | some value =>
      dsimp only
      split
      · exact Agrees.refl _
      · exact agrees_reject

/-- So it does if it may be left out. -/
theorem optionalIdentifier_agrees :
    Agrees (optionalIdentifier object key path) (optionalIdentifier other key otherPath) := by
  unfold optionalIdentifier
  rw [same]
  split
  · exact Agrees.refl _
  · split
    · exact Agrees.refl _
    · exact agrees_reject
  · exact agrees_reject

/-- The same field reads as the same number. -/
theorem boundedSize_agrees {minimum maximum : Nat} :
    Agrees (boundedSize object key path minimum maximum)
      (boundedSize other key otherPath minimum maximum) := by
  unfold boundedSize
  rw [same]
  split
  · exact checkSize_agrees
  · split
    · exact agrees_reject
    · exact checkSize_agrees
  · exact agrees_reject

/-- So it does if it may be left out. -/
theorem optionalSize_agrees {maximum : Nat} :
    Agrees (optionalSize object key path maximum) (optionalSize other key otherPath maximum) := by
  unfold optionalSize
  rw [contains_same same]
  split
  · exact boundedSize_agrees same
  · exact Agrees.refl _

end

theorem colorValue_agrees {value : Json} :
    Agrees (colorValue value path) (colorValue value otherPath) := by
  unfold colorValue
  split
  · split
    · exact agrees_reject
    · exact Agrees.refl _
  · exact agrees_reject

/-- The same field reads as the same colour. -/
theorem optionalColor_agrees {default : Rgb} (same : other.field key = object.field key) :
    Agrees (optionalColor object key path default)
      (optionalColor other key otherPath default) := by
  unfold optionalColor
  rw [same]
  split
  · exact Agrees.refl _
  · exact colorValue_agrees

theorem boundedArray_agrees {value : Option Json} {maximum : Nat} {message text : Bytes} :
    Agrees (boundedArray value maximum message) (boundedArray value maximum text) := by
  unfold boundedArray
  split
  · split
    · exact agrees_reject
    · exact Agrees.refl _
  · exact agrees_reject

theorem boundedObject_agrees {value : Option Json} {maximum : Nat} {message text : Bytes} :
    Agrees (boundedObject value maximum message) (boundedObject value maximum text) := by
  unfold boundedObject
  split
  · split
    · exact agrees_reject
    · exact Agrees.refl _
  · exact agrees_reject

/-! ## Values of widgets -/

theorem layoutBoundsAreValid_agrees {bounds : LayoutBounds} :
    Agrees (layoutBoundsAreValid bounds path) (layoutBoundsAreValid bounds otherPath) := by
  unfold layoutBoundsAreValid
  split
  · exact agrees_addError_bind
  · exact Agrees.refl _

theorem clockZone_agrees {timezone : Bytes} :
    Agrees (clockZone timezone path) (clockZone timezone otherPath) := by
  unfold clockZone
  split
  · exact Agrees.refl _
  · split
    · exact Agrees.refl _
    · exact agrees_reject

/-- The same field reads as the same measure. -/
theorem optionalFiniteNumber_agrees {round : Rounding} {default : Double}
    (same : other.field key = object.field key) :
    Agrees (optionalFiniteNumber round object key default path)
      (optionalFiniteNumber round other key default otherPath) := by
  unfold optionalFiniteNumber
  rw [same]
  split
  · exact Agrees.refl _
  · split
    · exact agrees_reject
    · split
      · exact Agrees.refl _
      · exact agrees_reject

/-- The same field reads as the same direction. -/
theorem barDirection_agrees (same : other.field "direction" = object.field "direction") :
    Agrees (barDirection object path) (barDirection other otherPath) := by
  unfold barDirection
  rw [same]
  split
  · exact Agrees.refl _
  · repeat' split
    · exact Agrees.refl _
    · exact Agrees.refl _
    · exact Agrees.refl _
    · exact Agrees.refl _
    · exact agrees_reject
  · exact agrees_reject

/-- The identifiers do not depend on the path. -/
theorem distinctIdentifiers_agrees {items : List Json} {invalid duplicate : Bytes} :
    Agrees (distinctIdentifiers items path invalid duplicate)
      (distinctIdentifiers items otherPath invalid duplicate) := by
  apply Agrees.foldlM
  intro kept item
  unfold keepIdentifier
  split
  · split
    · exact agrees_refuse
    · split
      · exact agrees_refuse
      · exact Agrees.refl _
  · exact agrees_refuse

/-- Nor does a palette. -/
theorem parsePalette_agrees {palette : Members} :
    Agrees (parsePalette palette path) (parsePalette palette otherPath) := by
  apply Agrees.foldlM
  intro kept entry
  split
  · exact agrees_refuse
  · exact colorValue_agrees.bind fun _ => Agrees.refl _

/-- Nor do rows of pixels. -/
theorem parsePixelRows_agrees {rows : List Json} {width : Nat} {wrongWidth : Bytes}
    {palette : UnorderedMap UInt8 Rgb} :
    Agrees (parsePixelRows rows path width wrongWidth palette)
      (parsePixelRows rows otherPath width wrongWidth palette) := by
  apply Agrees.foldlM
  intro kept row
  unfold keepPixelRow
  dsimp only
  split
  · split
    · exact agrees_refuse
    · split
      · exact agrees_refuse
      · exact Agrees.refl _
  · exact agrees_refuse

/-- Nor do the colours of statuses. -/
theorem parseStatusColors_agrees {colors : Members} {priority : List Bytes} :
    Agrees (parseStatusColors colors path priority)
      (parseStatusColors colors otherPath priority) := by
  apply Agrees.foldlM
  intro kept entry
  dsimp only
  split
  · exact agrees_refuse
  · split
    · exact agrees_refuse
    · exact colorValue_agrees.bind fun _ => Agrees.refl _

theorem requireStatusColors_agrees {priority : List Bytes}
    {colors : UnorderedMap Bytes Rgb} :
    Agrees (requireStatusColors priority colors path)
      (requireStatusColors priority colors otherPath) := by
  apply Agrees.forM
  intro status
  split
  · exact Agrees.refl _
  · exact agrees_addError

end PixelStatus
