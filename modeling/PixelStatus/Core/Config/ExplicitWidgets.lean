/-
# Explicit widgets

A leaf of a layout tree, written out: without the fields that are the tree's, and
with the rectangle that the tree assigned to it. Each reader of a widget reads
the same from both, since it takes the rectangle from one or the other place and
everything else from fields that both have.
-/

import PixelStatus.Core.Config.PlacedTree
import PixelStatus.Core.Config.ReaderAgreement

namespace PixelStatus

open Logged

/-! ## Writing objects -/

namespace Members

/-- Give a key a value, at its place in the order of the keys. -/
def set (key : String) (value : Json) : Members → Members
  | [] => [(bytes key, value)]
  | field :: rest =>
      if bytes key = field.1 then (bytes key, value) :: rest
      else if bytes key < field.1 then (bytes key, value) :: field :: rest
      else field :: set key value rest

def without (keys : List String) (object : Members) : Members :=
  object.filter fun field => field.1 ∉ keys.map bytes

variable {object : Members} {key other : String} {value : Json}

/-- Setting a field brings in that field alone. -/
theorem mem_set {field : Bytes × Json} (member : field ∈ object.set key value) :
    field.1 = bytes key ∨ field ∈ object := by
  induction object with
  | nil =>
      obtain rfl := List.mem_singleton.mp member
      exact Or.inl rfl
  | cons first rest ih =>
      unfold set at member
      split at member
      · rcases List.mem_cons.mp member with rfl | later
        · exact Or.inl rfl
        · exact Or.inr (List.mem_cons_of_mem _ later)
      · split at member
        · rcases List.mem_cons.mp member with rfl | later
          · exact Or.inl rfl
          · exact Or.inr later
        · rcases List.mem_cons.mp member with rfl | later
          · exact Or.inr List.mem_cons_self
          · exact (ih later).imp_right (List.mem_cons_of_mem _)

theorem find_cons_self {first : Bytes × Json} {rest : Members} {wanted : Bytes}
    (same : wanted = first.1) : Json.find (first :: rest) wanted = some first.2 := by
  have equal : (wanted == first.1) = true := beq_iff_eq.mpr same
  rw [Json.find, List.lookup_cons, equal]

theorem find_cons_ne {first : Bytes × Json} {rest : Members} {wanted : Bytes}
    (different : wanted ≠ first.1) : Json.find (first :: rest) wanted = Json.find rest wanted := by
  have apart : (wanted == first.1) = false := beq_eq_false_iff_ne.mpr different
  rw [Json.find, List.lookup_cons, apart]
  rfl

/-- The field that was set is found. -/
theorem field_set_self : (object.set key value).field key = some value := by
  induction object with
  | nil => exact find_cons_self rfl
  | cons first rest ih =>
      unfold set
      split
      · exact find_cons_self rfl
      next different =>
        split
        · exact find_cons_self rfl
        · exact (find_cons_ne different).trans ih

/-- Setting a field leaves the others as they are. -/
theorem field_set_ne (different : bytes other ≠ bytes key) :
    (object.set key value).field other = object.field other := by
  induction object with
  | nil => exact find_cons_ne different
  | cons first rest ih =>
      unfold set
      split
      next same =>
        exact (find_cons_ne different).trans (find_cons_ne (same ▸ different)).symm
      · split
        · exact find_cons_ne different
        · by_cases here : bytes other = first.1
          · exact (find_cons_self here).trans (find_cons_self here).symm
          · exact (find_cons_ne here).trans (ih.trans (find_cons_ne here).symm)

/-- Dropping fields leaves the others as they are. -/
theorem field_without {keys : List String} (kept : bytes key ∉ keys.map bytes) :
    (object.without keys).field key = object.field key := by
  induction object with
  | nil => rfl
  | cons first rest ih =>
      by_cases here : bytes key = first.1
      · have first_kept : first.1 ∉ keys.map bytes := here ▸ kept
        rw [without, List.filter_cons, if_pos (decide_eq_true first_kept)]
        exact (find_cons_self here).trans (find_cons_self here).symm
      · have there : field (first :: rest) key = field rest key := find_cons_ne here
        rw [there, ← ih, without, List.filter_cons]
        split
        · exact find_cons_ne here
        · rfl

/-- What is left was there and is none of the dropped fields. -/
theorem mem_without {keys : List String} {field : Bytes × Json}
    (member : field ∈ object.without keys) : field ∈ object ∧ field.1 ∉ keys.map bytes := by
  obtain ⟨found, kept⟩ := List.mem_filter.mp member
  exact ⟨found, of_decide_eq_true kept⟩

/-- A dropped field is not found. -/
theorem field_without_self {keys : List String} (dropped : bytes key ∈ keys.map bytes) :
    (object.without keys).field key = none := by
  apply List.lookup_eq_none_iff.mpr
  intro field member
  obtain ⟨_, kept⟩ := mem_without member
  exact bne_iff_ne.mpr fun same => kept (same ▸ dropped)

end Members

/-! ## Explicit widgets -/

/-- The fields of a rectangle, and those of a child in a split. -/
def rectangleFields : List String := ["x", "y", "width", "height"]
def shareFields : List String := ["size", "weight"]

def writtenSize (value : Nat) : Json := .unsigned (UInt64.ofNat value)

/-- A leaf with its rectangle written out. -/
def explicitWidget (item : Members) (bounds : LayoutBounds) : Members :=
  ((((item.without shareFields).set "x" (writtenSize bounds.x)).set "y"
    (writtenSize bounds.y)).set "width" (writtenSize bounds.width)).set "height"
      (writtenSize bounds.height)

section

variable {item : Members} {bounds : LayoutBounds} {display : DisplayConfig} {key : String}
  {path otherPath : Bytes} {round : Rounding}

/-- Every other field is that of the leaf. -/
theorem explicitWidget_field
    (plain : bytes key ∉ (rectangleFields ++ shareFields).map bytes) :
    (explicitWidget item bounds).field key = item.field key := by
  simp only [rectangleFields, shareFields, List.cons_append, List.nil_append, List.map_cons,
    List.map_nil, List.mem_cons, List.not_mem_nil, or_false, not_or] at plain
  obtain ⟨x, y, width, height, size, weight⟩ := plain
  rw [explicitWidget, Members.field_set_ne height, Members.field_set_ne width,
    Members.field_set_ne y, Members.field_set_ne x, Members.field_without]
  simp [shareFields, size, weight]

/-- The fields of an explicit widget are a rectangle and the widget's own. -/
theorem mem_explicitWidget {field : Bytes × Json}
    (member : field ∈ explicitWidget item bounds) :
    field.1 ∈ rectangleFields.map bytes ∨
      field ∈ item ∧ field.1 ∉ shareFields.map bytes := by
  rcases Members.mem_set member with height | member
  · exact Or.inl (by simp [rectangleFields, height])
  rcases Members.mem_set member with width | member
  · exact Or.inl (by simp [rectangleFields, width])
  rcases Members.mem_set member with y | member
  · exact Or.inl (by simp [rectangleFields, y])
  rcases Members.mem_set member with x | member
  · exact Or.inl (by simp [rectangleFields, x])
  exact Or.inr (Members.mem_without member)

/-- The fields of the leaf are allowed in a tree, those written are in a list. -/
theorem explicitWidget_known {own : List String}
    (known : ∀ field ∈ item, field.1 ∈ (widgetFields own (some bounds)).map bytes) :
    ∀ field ∈ explicitWidget item bounds, field.1 ∈ (widgetFields own none).map bytes := by
  intro field member
  have parts : ∀ last : List String, (["id", "type"] ++ own ++ last).map bytes =
      (["id", "type"] ++ own).map bytes ++ last.map bytes := fun last => List.map_append
  have explicit : widgetFields own none = ["id", "type"] ++ own ++ rectangleFields := rfl
  have assigned : widgetFields own (some bounds) = ["id", "type"] ++ own ++ shareFields := rfl
  rw [explicit, parts]
  rw [assigned, parts] at known
  rcases mem_explicitWidget member with rectangle | ⟨found, kept⟩
  · exact List.mem_append_right _ rectangle
  · exact List.mem_append_left _ ((List.mem_append.mp (known field found)).resolve_right kept)

/-- A number within the bounds is read as it is written. -/
theorem boundedSize_written {object : Members} {value minimum maximum : Nat}
    (written : object.field key = some (writtenSize value)) (small : value ≤ maximumDimension)
    (low : minimum ≤ value) (high : value ≤ maximum) :
    boundedSize object key path minimum maximum = return some value := by
  have holds : (UInt64.ofNat value).toNat = value :=
    UInt64.toNat_ofNat_of_lt' (small.trans_lt (by decide))
  rw [boundedSize, written]
  dsimp only [writtenSize]
  rw [holds, checkSize, if_neg]
  omega

/-- A rectangle inside a display of accepted size is read back. -/
theorem parseLayoutBounds_written (limited : display.Limited) (inside : bounds.Inside display) :
    parseLayoutBounds (explicitWidget item bounds) path display none =
      return some bounds := by
  have width := limited.width
  have height := limited.height
  have right := inside.right
  have bottom := inside.bottom
  have wide := inside.width
  have high := inside.height
  have xField : (explicitWidget item bounds).field "x" = some (writtenSize bounds.x) := by
    rw [explicitWidget, Members.field_set_ne (by decide), Members.field_set_ne (by decide),
      Members.field_set_ne (by decide), Members.field_set_self]
  have yField : (explicitWidget item bounds).field "y" = some (writtenSize bounds.y) := by
    rw [explicitWidget, Members.field_set_ne (by decide), Members.field_set_ne (by decide),
      Members.field_set_self]
  have widthField : (explicitWidget item bounds).field "width" =
      some (writtenSize bounds.width) := by
    rw [explicitWidget, Members.field_set_ne (by decide), Members.field_set_self]
  have heightField : (explicitWidget item bounds).field "height" =
      some (writtenSize bounds.height) := by
    rw [explicitWidget, Members.field_set_self]
  have fits : bounds.exceeds display = false := by
    simp only [LayoutBounds.exceeds, Bool.or_eq_false_iff, decide_eq_false_iff_not]
    omega
  have rectangle : parseRectangle (explicitWidget item bounds) path = return some bounds := by
    unfold parseRectangle
    rw [boundedSize_written xField (by omega) (by omega) (by omega),
      boundedSize_written yField (by omega) (by omega) (by omega),
      boundedSize_written widthField (by omega) (by omega) (by omega),
      boundedSize_written heightField (by omega) (by omega) (by omega)]
    rfl
  unfold parseLayoutBounds
  dsimp only
  rw [rectangle, pure_bind]
  dsimp only
  rw [requireInside, fits]
  rfl

/-! ## Each reader reads the same -/

/-- The rectangle that a split assigns is the one that is written. -/
theorem parseLayoutBounds_agrees (limited : display.Limited) (inside : bounds.Inside display) :
    Agrees (parseLayoutBounds item path display (some bounds))
      (parseLayoutBounds (explicitWidget item bounds) otherPath display none) := by
  rw [parseLayoutBounds_written limited inside]
  exact Agrees.refl _

variable (limited : display.Limited) (inside : bounds.Inside display)
include limited inside

theorem parseLayoutIndicatorConfig_agrees :
    Agrees (parseLayoutIndicatorConfig item path display (some bounds))
      (parseLayoutIndicatorConfig (explicitWidget item bounds) otherPath display none) := by
  apply (rejectUnknownFields_agrees explicitWidget_known).bind
  intro _
  apply (requiredIdentifier_agrees (explicitWidget_field (by decide))).bind
  intro id
  apply (requiredIdentifier_agrees (explicitWidget_field (by decide))).bind
  intro source
  apply (parseLayoutBounds_agrees limited inside).bind
  intro bounds
  split
  · apply layoutBoundsAreValid_agrees.bind
    intro valid
    exact Agrees.refl _
  · exact Agrees.refl _

theorem parseLayoutClockConfig_agrees :
    Agrees (parseLayoutClockConfig item path display (some bounds))
      (parseLayoutClockConfig (explicitWidget item bounds) otherPath display none) := by
  have sourceField : (explicitWidget item bounds).field "source" = item.field "source" :=
    explicitWidget_field (by decide)
  apply (rejectUnknownFields_agrees explicitWidget_known).bind
  intro _
  apply (requiredIdentifier_agrees (explicitWidget_field (by decide))).bind
  intro id
  apply (parseLayoutBounds_agrees limited inside).bind
  intro bounds
  apply (requiredString_agrees (explicitWidget_field (by decide))).bind
  intro timezone
  apply (optionalIdentifier_agrees sourceField).bind
  intro source
  rw [contains_same sourceField]
  split
  · apply layoutBoundsAreValid_agrees.bind
    intro valid
    split
    · exact Agrees.refl _
    · split
      · exact agrees_reject
      · apply clockZone_agrees.bind
        intro zone
        cases zone with
        | none => exact Agrees.refl _
        | some zone => exact (optionalColor_agrees (explicitWidget_field (by decide))).bindMap
  · exact Agrees.refl _

theorem parseLayoutBarConfig_agrees :
    Agrees (parseLayoutBarConfig round item path display (some bounds))
      (parseLayoutBarConfig round (explicitWidget item bounds) otherPath display none) := by
  apply (rejectUnknownFields_agrees explicitWidget_known).bind
  intro _
  apply (requiredIdentifier_agrees (explicitWidget_field (by decide))).bind
  intro id
  apply (requiredIdentifier_agrees (explicitWidget_field (by decide))).bind
  intro source
  apply (parseLayoutBounds_agrees limited inside).bind
  intro bounds
  apply (optionalFiniteNumber_agrees (explicitWidget_field (by decide))).bind
  intro minimum
  apply (optionalFiniteNumber_agrees (explicitWidget_field (by decide))).bind
  intro maximum
  split
  · apply layoutBoundsAreValid_agrees.bind
    intro valid
    split
    · exact Agrees.refl _
    · split
      · exact agrees_reject
      · apply (barDirection_agrees (explicitWidget_field (by decide))).bind
        intro direction
        cases direction with
        | none => exact Agrees.refl _
        | some direction =>
            exact (optionalColor_agrees (explicitWidget_field (by decide))).bindMap
  · exact Agrees.refl _

theorem parseLayoutStatusGridConfig_agrees :
    Agrees (parseLayoutStatusGridConfig item path display (some bounds))
      (parseLayoutStatusGridConfig (explicitWidget item bounds) otherPath display none) := by
  have sourcesField : (explicitWidget item bounds).field "sources" = item.field "sources" :=
    explicitWidget_field (by decide)
  apply (rejectUnknownFields_agrees explicitWidget_known).bind
  intro _
  apply (requiredIdentifier_agrees (explicitWidget_field (by decide))).bind
  intro id
  apply (parseLayoutBounds_agrees limited inside).bind
  intro bounds
  rw [sourcesField]
  apply boundedArray_agrees.bind
  intro sources
  cases sources with
  | none => exact Agrees.refl _
  | some sources =>
  apply (boundedSize_agrees (explicitWidget_field (by decide))).bind
  intro columns
  apply (optionalSize_agrees (explicitWidget_field (by decide))).bind
  intro gap
  cases gap with
  | none => exact Agrees.refl _
  | some gap =>
  dsimp only
  split
  · apply layoutBoundsAreValid_agrees.bind
    intro valid
    split
    · exact Agrees.refl _
    · apply distinctIdentifiers_agrees.bind
      intro kept
      split
      · exact agrees_reject
      · exact Agrees.refl _
  · exact Agrees.refl _

theorem parseLayoutBitmapConfig_agrees :
    Agrees (parseLayoutBitmapConfig item path display (some bounds))
      (parseLayoutBitmapConfig (explicitWidget item bounds) otherPath display none) := by
  have paletteField : (explicitWidget item bounds).field "palette" = item.field "palette" :=
    explicitWidget_field (by decide)
  have pixelsField : (explicitWidget item bounds).field "pixels" = item.field "pixels" :=
    explicitWidget_field (by decide)
  apply (rejectUnknownFields_agrees explicitWidget_known).bind
  intro _
  apply (requiredIdentifier_agrees (explicitWidget_field (by decide))).bind
  intro id
  apply (parseLayoutBounds_agrees limited inside).bind
  intro bounds
  split
  · apply layoutBoundsAreValid_agrees.bind
    intro valid
    split
    · exact Agrees.refl _
    · rw [paletteField]
      apply boundedObject_agrees.bind
      intro palette
      cases palette with
      | none => exact Agrees.refl _
      | some palette =>
      apply parsePalette_agrees.bind
      intro kept
      rw [pixelsField]
      dsimp only
      split
      · split
        · exact agrees_reject
        · apply parsePixelRows_agrees.bind
          intro pixels
          exact Agrees.refl _
      · exact agrees_reject
  · exact Agrees.refl _

theorem parseLayoutAggregateStatusConfig_agrees :
    Agrees (parseLayoutAggregateStatusConfig item path display (some bounds))
      (parseLayoutAggregateStatusConfig (explicitWidget item bounds) otherPath display none) := by
  have sourcesField : (explicitWidget item bounds).field "sources" = item.field "sources" :=
    explicitWidget_field (by decide)
  have priorityField : (explicitWidget item bounds).field "priority" = item.field "priority" :=
    explicitWidget_field (by decide)
  have colorsField : (explicitWidget item bounds).field "colors" = item.field "colors" :=
    explicitWidget_field (by decide)
  apply (rejectUnknownFields_agrees explicitWidget_known).bind
  intro _
  apply (requiredIdentifier_agrees (explicitWidget_field (by decide))).bind
  intro id
  apply (parseLayoutBounds_agrees limited inside).bind
  intro bounds
  rw [sourcesField, priorityField, colorsField]
  apply boundedArray_agrees.bind
  intro sources
  cases sources with
  | none => exact Agrees.refl _
  | some sources =>
  apply boundedArray_agrees.bind
  intro priority
  cases priority with
  | none => exact Agrees.refl _
  | some priority =>
  apply boundedObject_agrees.bind
  intro colors
  cases colors with
  | none => exact Agrees.refl _
  | some colors =>
  dsimp only
  split
  · apply layoutBoundsAreValid_agrees.bind
    intro valid
    split
    · exact Agrees.refl _
    · apply distinctIdentifiers_agrees.bind
      intro keptSources
      apply distinctIdentifiers_agrees.bind
      intro keptPriority
      apply parseStatusColors_agrees.bind
      intro keptColors
      apply requireStatusColors_agrees.bind
      intro _
      apply (optionalColor_agrees (explicitWidget_field (by decide))).bind
      intro defaultColor
      exact Agrees.refl _
  · exact Agrees.refl _

/-- Every reader of the table reads the same from a leaf and from its explicit form. -/
theorem widgetTypes_agrees : ∀ entry ∈ widgetTypes round,
    Agrees (entry.2 item path display (some bounds))
      (entry.2 (explicitWidget item bounds) otherPath display none) := by
  simp only [widgetTypes, List.forall_mem_cons]
  refine ⟨?_, ?_, ?_, ?_, ?_, ?_, List.forall_mem_nil _⟩
  · exact (parseLayoutIndicatorConfig_agrees limited inside).bindMap
  · exact (parseLayoutClockConfig_agrees limited inside).bindMap
  · exact (parseLayoutBarConfig_agrees limited inside).bindMap
  · exact (parseLayoutStatusGridConfig_agrees limited inside).bindMap
  · exact (parseLayoutAggregateStatusConfig_agrees limited inside).bindMap
  · exact (parseLayoutBitmapConfig_agrees limited inside).bindMap

/-- A child of a split and the explicit widget read the same. -/
theorem parseLayoutWidget_agrees :
    Agrees (parseLayoutWidget round (.object item) path display (some bounds))
      (parseLayoutWidget round (.object (explicitWidget item bounds)) otherPath display none) := by
  apply (requiredString_agrees (explicitWidget_field (by decide))).bind
  intro type
  cases type with
  | none => exact Agrees.refl _
  | some type =>
  dsimp only
  split
  next parse known =>
    exact widgetTypes_agrees limited inside _ (List.mem_of_find?_eq_some known)
  · apply Agrees.of_ensures
    exact Ensures.step fun _ => ensures_reject

end

end PixelStatus
