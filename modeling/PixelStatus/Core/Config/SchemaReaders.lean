/-
# What the schema asks of the fields that were read

For each reader of a field: what it ensures of the value that it read is what
the schema of a widget asks of that field.
-/

import PixelStatus.Core.Config.LayoutWidgetSchema
import PixelStatus.Core.Config.ReaderAgreement
import PixelStatus.Core.Config.WidgetsFit

namespace PixelStatus

open Logged

namespace LayoutWidgetSchema

open Schema

variable {item : Members} {key : String} {path : Bytes} {display : DisplayConfig}
  {round : Rounding}

/-! ## Texts and numbers -/

/-- The bytes of an identifier are ASCII. -/
theorem identifierByte_ascii {byte : UInt8} (identifier : isIdentifierByte byte = true) :
    byte < 0x80 := by
  simp only [isIdentifierByte, Bool.or_eq_true, Bool.and_eq_true, decide_eq_true_eq] at identifier
  grind

/-- A valid identifier passes the schema of one. -/
theorem identifier_passes {value : Bytes} (valid : isValidIdentifier value = true) :
    identifier (.string value) = true := by
  simp only [isValidIdentifier, maximumIdentifierBytes, Bool.and_eq_true, Bool.not_eq_true',
    List.isEmpty_eq_false_iff, List.all_eq_true] at valid
  obtain ⟨⟨nonempty, short⟩, each⟩ := valid
  have count := characterCount_ascii fun byte member => identifierByte_ascii (each byte member)
  have positive : 1 ≤ value.length := List.length_pos_iff.mpr nonempty
  have matched : matchesPieces identifierPattern value = true := by
    apply matchesPieces_single positive
    · exact fun _ absent => by cases absent
    · intro character member
      have identifier := each character member
      simp only [isIdentifierByte, Bool.or_eq_true, Bool.and_eq_true,
        decide_eq_true_eq] at identifier
      simp only [Piece.covers, List.any_cons, List.any_nil, Bool.or_false, Bool.or_eq_true,
        Bool.and_eq_true, decide_eq_true_eq]
      grind
  simp [identifier, isString, minLength, maxLength, pattern, count, positive,
    of_decide_eq_true short, matched]

/-- A hexadecimal digit is in the pattern's class. -/
theorem hexDigit_covered {character : UInt8} (digit : (hexDigitValue character).isSome = true) :
    hexDigits.covers character = true := by
  simp only [hexDigits, Piece.covers, List.any_cons, List.any_nil, Bool.or_false, Bool.or_eq_true,
    Bool.and_eq_true, decide_eq_true_eq]
  unfold hexDigitValue at digit
  split at digit
  next inside => exact Or.inl inside
  split at digit
  next inside => exact Or.inr (Or.inl inside)
  split at digit
  next inside => exact Or.inr (Or.inr inside)
  · cases digit

/-- A byte that is read has two digits. -/
theorem hexDigits_of_parseByte {high low byte : UInt8} (parsed : parseByte high low = some byte) :
    (hexDigitValue high).isSome = true ∧ (hexDigitValue low).isSome = true := by
  obtain ⟨first, hfirst, rest⟩ := Option.bind_eq_some_iff.mp parsed
  obtain ⟨second, hsecond, -⟩ := Option.bind_eq_some_iff.mp rest
  exact ⟨Option.isSome_of_eq_some hfirst, Option.isSome_of_eq_some hsecond⟩

/-- A colour that is read passes the pattern of one. -/
theorem color_passes {text : Bytes} {rgb : Rgb} (parsed : parseRgbHex text = some rgb) :
    color (.string text) = true := by
  unfold parseRgbHex at parsed
  split at parsed
  next mark red red' green green' blue blue' =>
    split at parsed
    · cases parsed
    next hash =>
      obtain ⟨r, hred, parsed⟩ := Option.bind_eq_some_iff.mp parsed
      obtain ⟨g, hgreen, parsed⟩ := Option.bind_eq_some_iff.mp parsed
      obtain ⟨b, hblue, -⟩ := Option.bind_eq_some_iff.mp parsed
      have reds := hexDigits_of_parseByte hred
      have greens := hexDigits_of_parseByte hgreen
      have blues := hexDigits_of_parseByte hblue
      have digits :
          matchesPieces [hexDigits] [red, red', green, green', blue, blue'] = true := by
        apply matchesPieces_single (Nat.le_refl 6)
        · intro most same
          cases same
          exact Nat.le_refl 6
        · simp only [List.forall_mem_cons]
          exact ⟨hexDigit_covered reds.1, hexDigit_covered reds.2, hexDigit_covered greens.1,
            hexDigit_covered greens.2, hexDigit_covered blues.1, hexDigit_covered blues.2,
            List.forall_mem_nil _⟩
      have matched : matchesPieces colorPattern
          ([mark] ++ [red, red', green, green', blue, blue']) = true := by
        apply matchesPieces_append (Nat.le_refl 1) _ _ digits
        · intro most same
          cases same
          exact Nat.le_refl 1
        · intro character member
          rw [List.mem_singleton.mp member, Decidable.not_not.mp hash]
          rfl
      rw [color, allOf_cons, allOf_cons, allOf_nil, show pattern colorPattern (.string
        [mark, red, red', green, green', blue, blue']) = true from matched]
      rfl
  · cases parsed

/-- A palette key passes the pattern of one printable character. -/
theorem printable_passes {text : Bytes} {character : UInt8}
    (known : paletteKey text = some character) :
    allOf [minLength 1, maxLength 1, pattern printablePattern] (.string text) = true ∧
      0x20 ≤ character ∧ character ≤ 0x7E := by
  unfold paletteKey at known
  split at known
  next only =>
    split at known
    · cases known
    next inside =>
      obtain rfl := Option.some.inj known
      rw [not_or, UInt8.not_lt, UInt8.not_lt] at inside
      have ascii : characterCount [only] = 1 := by
        apply characterCount_ascii
        intro byte member
        obtain rfl := List.mem_singleton.mp member
        exact UInt8.lt_of_le_of_lt inside.2 (by decide)
      have matched : matchesPieces printablePattern [only] = true := by
        apply matchesPieces_single (Nat.le_refl 1)
        · intro most same
          cases same
          exact Nat.le_refl 1
        · intro byte member
          obtain rfl := List.mem_singleton.mp member
          simp [Piece.covers, inside]
      exact ⟨by simp [minLength, maxLength, pattern, ascii, matched], inside⟩
  · cases known

/-- A size within the bounds passes as an integer between them. -/
theorem integerBetween_passes {value : Json} {size : Nat} {low high : ℚ}
    (read : number value = some (size : ℚ)) (least : low ≤ size) (most : (size : ℚ) ≤ high) :
    integerBetween low high value = true := by
  simp [integerBetween, isInteger, minimum, maximum, read, least, most, Rat.isInt]

/-- A listed text passes. -/
theorem textEnum_passes {texts : List String} {text : Bytes} (member : text ∈ texts.map bytes) :
    textEnum texts (.string text) = true := by
  obtain ⟨one, listed, rfl⟩ := List.mem_map.mp member
  apply List.any_eq_true.mpr
  refine ⟨.string (bytes one), ?_, const_string.mpr rfl⟩
  exact List.mem_map.mpr ⟨one, listed, rfl⟩

/-! ## Fields -/

/-- If an object has a field, its value passes. -/
def Passes (item : Members) (key : String) (schema : Schema) : Prop :=
  ∀ value ∈ item.field key, schema value = true

/-- An object has a field, and its value passes. -/
structure Written (item : Members) (key : String) (schema : Schema) : Prop where
  has : (item.field key).isSome = true
  passes : Passes item key schema

/-- A field that is there and passes is written. -/
theorem Written.of_field {schema : Schema} {value : Json} (found : item.field key = some value)
    (passes : schema value = true) : Written item key schema where
  has := Option.isSome_of_eq_some found
  passes _ same := Option.some.inj (found.symm.trans same) ▸ passes

/-- An object has a field that holds a size. -/
def HoldsSize (item : Members) (key : String) (size : Nat) : Prop :=
  ∃ value, item.field key = some value ∧ number value = some (size : ℚ)

/-- A field that holds a size within the bounds is written so. -/
theorem HoldsSize.written {size : Nat} {low high : ℚ} (holds : HoldsSize item key size)
    (least : low ≤ size) (most : (size : ℚ) ≤ high) :
    Written item key (integerBetween low high) := by
  obtain ⟨value, found, read⟩ := holds
  exact Written.of_field found (integerBetween_passes read least most)

/-- An identifier that has to be there is written. -/
theorem requiredIdentifier_written :
    Ensures (OfSome fun _ => Written item key identifier)
      (requiredIdentifier item key path) := by
  apply requiredString_read.bindSome
  · exact Ensures.pure OfSome.none
  intro value found
  dsimp only
  split
  next valid =>
    exact Ensures.pure (OfSome.some (Written.of_field found (identifier_passes valid)))
  · exact ensures_reject

/-- A number that is read is held by its field. -/
theorem boundedSize_read {minimum maximum : Nat} :
    Ensures (OfSome fun size => HoldsSize item key size)
      (boundedSize item key path minimum maximum) := by
  unfold boundedSize
  split
  next value found =>
    unfold checkSize
    split
    · exact ensures_reject
    · exact Ensures.pure (OfSome.some ⟨_, found, rfl⟩)
  next value found =>
    split
    · exact ensures_reject
    next positive =>
      unfold checkSize
      split
      · exact ensures_reject
      · apply Ensures.pure
        apply OfSome.some
        refine ⟨_, found, ?_⟩
        have nonnegative : 0 ≤ value.toInt := Int64.le_iff_toInt_le.mp (Int64.not_lt.mp positive)
        rw [number, ← Int.cast_natCast, Int.toNat_of_nonneg nonnegative]
  · exact ensures_reject

/-- A number that may be left out passes if it is there. -/
theorem optionalSize_passes {maximum : Nat} :
    Ensures (OfSome fun _ => Passes item key (integerBetween 0 maximum))
      (optionalSize item key path maximum) := by
  unfold optionalSize
  split
  · apply (boundedSize_read.and boundedSize_ensures).mono
    intro result read size same
    exact ((read.1 size same).written (Nat.cast_nonneg _)
      (Nat.cast_le.mpr (read.2 size same).2)).passes
  next absent =>
    have missing : item.field key = none := by simpa [Members.contains] using absent
    exact Ensures.pure (OfSome.some fun _ found => by cases missing.symm.trans found)

/-- A colour that is read passes. -/
theorem colorValue_passes {value : Json} :
    Ensures (fun _ => color value = true) (colorValue value path) := by
  unfold colorValue
  split
  · split
    · exact ensures_reject
    next parsed => exact Ensures.pure (color_passes parsed)
  · exact ensures_reject

/-- So it does if it may be left out. -/
theorem optionalColor_passes {default : Rgb} :
    Ensures (OfSome fun _ => Passes item key color) (optionalColor item key path default) := by
  unfold optionalColor
  split
  next absent =>
    exact Ensures.pure (OfSome.some fun _ found => by cases absent.symm.trans found)
  next value found =>
    apply colorValue_passes.mono
    intro result passes rgb _ other found'
    exact Option.some.inj (found.symm.trans found') ▸ passes

/-- A measure that may be left out is a number if it is there. -/
theorem optionalFiniteNumber_passes {default : Double} :
    Ensures (OfSome fun _ => Passes item key isNumber)
      (optionalFiniteNumber round item key default path) := by
  unfold optionalFiniteNumber
  split
  next absent =>
    exact Ensures.pure (OfSome.some fun _ found => by cases absent.symm.trans found)
  next value found =>
    have numeric : (numberOf round value).isSome = true → isNumber value = true := by
      cases value <;> simp [numberOf, isNumber]
    split
    · exact ensures_reject
    next known =>
      split
      · apply Ensures.pure
        apply OfSome.some
        intro other found'
        obtain rfl := Option.some.inj (found.symm.trans found')
        exact numeric (Option.isSome_of_eq_some known)
      · exact ensures_reject

/-- A direction that is read is one of the four. -/
theorem barDirection_passes :
    Ensures (OfSome fun _ => Passes item "direction" (textEnum ["right", "left", "up", "down"]))
      (barDirection item path) := by
  unfold barDirection
  split
  next absent =>
    exact Ensures.pure (OfSome.some fun _ found => by cases absent.symm.trans found)
  next direction found =>
    have passes : direction ∈ ["right", "left", "up", "down"].map bytes →
        Passes item "direction" (textEnum ["right", "left", "up", "down"]) := by
      intro member other found'
      obtain rfl := Option.some.inj (found.symm.trans found')
      exact textEnum_passes member
    repeat' split
    next right => exact Ensures.pure (OfSome.some (passes (by simp [right])))
    next left => exact Ensures.pure (OfSome.some (passes (by simp [left])))
    next up => exact Ensures.pure (OfSome.some (passes (by simp [up])))
    next down => exact Ensures.pure (OfSome.some (passes (by simp [down])))
    · exact ensures_reject
  · exact ensures_reject

/-- A time zone that is read is one of the two. -/
theorem clockZone_known {timezone : Bytes} :
    Ensures (OfSome fun _ => timezone ∈ ["local", "utc"].map bytes) (clockZone timezone path) := by
  unfold clockZone
  split
  next zone => exact Ensures.pure (OfSome.some (by simp [zone]))
  · split
    next zone => exact Ensures.pure (OfSome.some (by simp [zone]))
    · exact ensures_reject

/-! ## Rectangles -/

/-- The four numbers of a rectangle, within the limits of the loader. -/
structure RectangleRead (item : Members) (bounds : LayoutBounds) : Prop where
  x : HoldsSize item "x" bounds.x
  y : HoldsSize item "y" bounds.y
  width : HoldsSize item "width" bounds.width
  height : HoldsSize item "height" bounds.height
  left : bounds.x ≤ 256
  top : bounds.y ≤ 256
  wide : 1 ≤ bounds.width ∧ bounds.width ≤ 256
  high : 1 ≤ bounds.height ∧ bounds.height ≤ 256

/-- The sides of a rectangle are held by their fields. -/
theorem parseRectangle_read :
    Ensures (OfSome (RectangleRead item)) (parseRectangle item path) := by
  apply (boundedSize_read.and boundedSize_ensures).bind
  intro x hx
  apply (boundedSize_read.and boundedSize_ensures).bind
  intro y hy
  apply (boundedSize_read.and boundedSize_ensures).bind
  intro width hwidth
  apply (boundedSize_read.and boundedSize_ensures).bind
  intro height hheight
  split
  next x y width height =>
    apply Ensures.pure
    apply OfSome.some
    exact
      { x := hx.1 x rfl
        y := hy.1 y rfl
        width := hwidth.1 width rfl
        height := hheight.1 height rfl
        left := (hx.2 x rfl).2
        top := (hy.2 y rfl).2
        wide := hwidth.2 width rfl
        high := hheight.2 height rfl }
  · exact Ensures.pure OfSome.none

/-- So are those of a widget that no split places. -/
theorem parseLayoutBounds_read :
    Ensures (OfSome (RectangleRead item)) (parseLayoutBounds item path display none) := by
  apply parseRectangle_read.bindSome
  · exact Ensures.pure OfSome.none
  intro bounds read
  dsimp only
  unfold requireInside
  split
  · exact ensures_reject
  · exact Ensures.pure (OfSome.some read)

/-- The four properties of a rectangle with these least sides. -/
structure RectangleWritten (item : Members) (width height : ℚ) : Prop where
  x : Written item "x" (integerBetween 0 256)
  y : Written item "y" (integerBetween 0 256)
  width : Written item "width" (integerBetween width 256)
  height : Written item "height" (integerBetween height 256)

/-- A rectangle that is wide and high enough is written so. -/
theorem RectangleRead.written {bounds : LayoutBounds} {width height : ℚ}
    (read : RectangleRead item bounds) (wide : width ≤ bounds.width)
    (high : height ≤ bounds.height) : RectangleWritten item width height where
  x := read.x.written (Nat.cast_nonneg _) (by exact_mod_cast read.left)
  y := read.y.written (Nat.cast_nonneg _) (by exact_mod_cast read.top)
  width := read.width.written wide (by exact_mod_cast read.wide.2)
  height := read.height.written high (by exact_mod_cast read.high.2)

/-- Every rectangle that is read is at least a pixel. -/
theorem RectangleRead.written_one {bounds : LayoutBounds} (read : RectangleRead item bounds) :
    RectangleWritten item 1 1 :=
  read.written (by exact_mod_cast read.wide.1) (by exact_mod_cast read.high.1)

/-! ## Lists and objects -/

/-- A silent loop that keeps texts or refuses keeps every item. -/
theorem kept_all {keep : Kept (List Bytes) → Json × Nat → Loading (Kept (List Bytes))}
    (hkeep : ∀ kept item, Ensures (fun after => ∃ text, item.1 = .string text ∧
      after.items = kept.items ++ [text]) (keep kept item)) {values : List Json} :
    Ensures (fun kept => values = kept.items.map Json.string)
      (values.zipIdx.foldlM keep { items := [] }) := by
  apply Ensures.foldlM_zipIdx fun passed (kept : Kept (List Bytes)) =>
    passed = kept.items.map Json.string
  · rfl
  · intro passed kept item _ sofar
    apply (hkeep kept item).mono
    rintro after ⟨text, isText, appended⟩
    rw [sofar, appended, List.map_append, List.map_singleton, isText]

/-- The identifiers are the texts of the array, valid and distinct. -/
theorem distinctIdentifiers_read {values : List Json} {invalid duplicate : Bytes} :
    Ensures (fun kept => values = kept.items.map Json.string ∧ kept.items.Nodup ∧
        ∀ text ∈ kept.items, isValidIdentifier text = true)
      (distinctIdentifiers values path invalid duplicate) := by
  apply Ensures.and
  · apply kept_all
    intro kept item
    unfold keepIdentifier
    split
    next text isText =>
      split
      · exact ensures_addError_bind
      · split
        · exact ensures_addError_bind
        · exact Ensures.pure ⟨text, isText, rfl⟩
    · exact ensures_addError_bind
  · apply Ensures.foldlM fun kept : Kept (List Bytes) =>
      kept.items.Nodup ∧ ∀ text ∈ kept.items, isValidIdentifier text = true
    · exact ⟨List.nodup_nil, List.forall_mem_nil _⟩
    intro kept item _ sofar
    unfold keepIdentifier
    split
    next text isText =>
      split
      · exact ensures_addError_bind
      next valid =>
        split
        · exact ensures_addError_bind
        next fresh =>
          apply Ensures.pure
          refine ⟨?_, ?_⟩
          · exact List.nodup_append_comm.mp (List.nodup_cons.mpr ⟨fresh, sofar.1⟩)
          · change ∀ other ∈ kept.items ++ [text], isValidIdentifier other = true
            exact List.forall_mem_append.mpr
              ⟨sofar.2, List.forall_mem_singleton.mpr (by simpa using valid)⟩
    · exact ensures_addError_bind

/-- Valid identifiers pass one by one. -/
theorem items_passes {texts : List Bytes}
    (valid : ∀ text ∈ texts, isValidIdentifier text = true) :
    items identifier (.array (texts.map Json.string)) = true := by
  apply List.all_eq_true.mpr
  intro value member
  obtain ⟨text, listed, rfl⟩ := List.mem_map.mp member
  exact identifier_passes (valid text listed)

/-- Distinct texts pass as unique items. -/
theorem uniqueItems_passes {texts : List Bytes} (distinct : texts.Nodup) :
    uniqueItems (.array (texts.map Json.string)) = true := by
  apply decide_eq_true
  rw [List.pairwise_map]
  apply distinct.imp
  intro left right different
  simpa [equal] using different

/-- The schema of an array of identifiers, with or without duplicates. -/
theorem identifiers_written {values : List Json} {texts : List Bytes} {maximum : Nat}
    (found : item.field key = some (.array values)) (nonempty : values ≠ [])
    (few : values.length ≤ maximum) (same : values = texts.map Json.string)
    (valid : ∀ text ∈ texts, isValidIdentifier text = true) :
    Written item key (allOf [isArray, minItems 1, maxItems maximum, items identifier]) := by
  have some : 1 ≤ values.length := List.length_pos_iff.mpr nonempty
  have each : items identifier (.array values) = true := same ▸ items_passes valid
  exact Written.of_field found (by simp [isArray, minItems, maxItems, some, few, each])

/-- An array of few distinct identifiers is written so. -/
theorem distinct_written {values : List Json} {texts : List Bytes} {maximum : Nat}
    (found : item.field key = some (.array values)) (nonempty : values ≠ [])
    (few : values.length ≤ maximum) (same : values = texts.map Json.string)
    (distinct : texts.Nodup) (valid : ∀ text ∈ texts, isValidIdentifier text = true) :
    Written item key
      (allOf [isArray, minItems 1, maxItems maximum, uniqueItems, items identifier]) := by
  have some : 1 ≤ values.length := List.length_pos_iff.mpr nonempty
  have each : items identifier (.array values) = true := same ▸ items_passes valid
  have unique : uniqueItems (.array values) = true := same ▸ uniqueItems_passes distinct
  exact Written.of_field found (by simp [isArray, minItems, maxItems, some, few, each, unique])

/-- A silent loop over the entries of an object passes each of them. -/
theorem entries_pass {α : Type} {keep : Kept α → Bytes × Json → Loading (Kept α)}
    {entry : Bytes × Json → Prop} {start : Kept α}
    (hkeep : ∀ kept member, Ensures (fun _ => entry member) (keep kept member))
    {entries : Members} :
    Ensures (fun _ => ∀ member ∈ entries, entry member) (entries.foldlM keep start) := by
  apply Ensures.foldlM_passed fun passed _ => ∀ member ∈ passed, entry member
  · exact List.forall_mem_nil _
  · intro passed kept member _ sofar
    apply (hkeep kept member).mono
    intro _ holds
    exact List.forall_mem_append.mpr ⟨sofar, List.forall_mem_singleton.mpr holds⟩

/-- An object of colours under keys that pass. -/
theorem colors_pass {names : Schema} {entries : Members}
    (each : ∀ member ∈ entries, names (.string member.1) = true ∧ color member.2 = true) :
    propertyNames names (.object entries) = true ∧
      properties [] color (.object entries) = true := by
  refine ⟨?_, ?_⟩
  · exact List.all_eq_true.mpr fun member found => (each member found).1
  · apply List.all_eq_true.mpr
    intro member _
    cases holds : Json.find entries member.1 with
    | none => rfl
    | some value =>
        obtain ⟨before, after, split, -⟩ := List.lookup_eq_some_iff.mp holds
        have listed : (member.1, value) ∈ entries := by
          rw [split]
          simp
        exact (each _ listed).2

/-- An object of few named colours is written so. -/
theorem colors_written {names : Schema} {entries : Members} {maximum : Nat}
    (found : item.field key = some (.object entries)) (least : 1 ≤ entries.length)
    (most : entries.length ≤ maximum)
    (each : ∀ member ∈ entries, names (.string member.1) = true ∧ color member.2 = true) :
    Written item key (allOf [isObject, minProperties 1, maxProperties maximum,
      propertyNames names, properties [] color]) := by
  have passes := colors_pass each
  apply Written.of_field found
  rw [allOf_cons, allOf_cons, allOf_cons, allOf_cons, allOf_cons, passes.1, passes.2]
  simp [isObject, minProperties, maxProperties, least, most]

/-- The palette's keys are printable and its values colours. -/
theorem parsePalette_read {entries : Members} :
    Ensures (fun _ => ∀ member ∈ entries,
        allOf [minLength 1, maxLength 1, pattern printablePattern] (.string member.1) = true ∧
          color member.2 = true)
      (parsePalette entries path) := by
  apply entries_pass
  intro kept member
  split
  · exact ensures_addError_bind
  next character known =>
    apply colorValue_passes.bind
    intro rgb passes
    cases rgb <;> exact Ensures.pure ⟨(printable_passes known).1, passes⟩

/-- The keys are identifiers and the values colours. -/
theorem parseStatusColors_read {entries : Members} {priority : List Bytes} :
    Ensures (fun _ => ∀ member ∈ entries,
        identifier (.string member.1) = true ∧ color member.2 = true)
      (parseStatusColors entries path priority) := by
  apply entries_pass
  intro kept member
  dsimp only
  split
  · exact ensures_addError_bind
  next valid =>
    split
    · exact ensures_addError_bind
    · apply colorValue_passes.bind
      intro rgb passes
      have named : identifier (.string member.1) = true :=
        identifier_passes (by simpa using valid)
      cases rgb <;> exact Ensures.pure ⟨named, passes⟩

/-- The characters of a palette that was read are printable. -/
theorem parsePalette_printable {entries : Members} :
    Ensures (fun kept => ∀ character ∈ kept.items, 0x20 ≤ character ∧ character ≤ 0x7E)
      (parsePalette entries path) := by
  apply Ensures.foldlM fun kept : Kept (UnorderedMap UInt8 Rgb) =>
    ∀ character ∈ kept.items, 0x20 ≤ character ∧ character ≤ 0x7E
  · exact fun character absent => absurd absent (AList.notMem_empty character)
  intro kept member _ sofar
  split
  · exact ensures_addError_bind
  next character known =>
    apply Ensures.step
    intro rgb
    cases rgb with
    | none => exact Ensures.pure sofar
    | some rgb =>
        apply Ensures.pure
        intro other found
        rcases UnorderedMap.mem_emplace.mp found with rfl | earlier
        · exact (printable_passes known).2
        · exact sofar other earlier

/-- Rows that fit a palette of printable characters are texts of their width. -/
theorem rows_pass {palette : UnorderedMap UInt8 Rgb} {pixels : List Bytes} {width height : Nat}
    (fits : PixelsFit palette pixels width height)
    (printable : ∀ character ∈ palette, 0x20 ≤ character ∧ character ≤ 0x7E)
    (wide : 1 ≤ width ∧ width ≤ 256) :
    items (allOf [isString, minLength 1, maxLength 256])
      (.array (pixels.map Json.string)) = true := by
  apply List.all_eq_true.mpr
  intro value member
  obtain ⟨row, listed, rfl⟩ := List.mem_map.mp member
  have count : characterCount row = width := by
    rw [characterCount_ascii, fits.widths row listed]
    intro byte inside
    have known := (printable byte (fits.colored row listed byte inside)).2
    exact UInt8.lt_of_le_of_lt known (by decide)
  simp [isString, minLength, maxLength, count, wide]

/-- The rows are the texts of the array. -/
theorem parsePixelRows_read {rows : List Json} {width : Nat} {wrongWidth : Bytes}
    {palette : UnorderedMap UInt8 Rgb} :
    Ensures (fun kept => rows = kept.items.map Json.string)
      (parsePixelRows rows path width wrongWidth palette) := by
  apply kept_all
  intro kept item
  unfold keepPixelRow
  dsimp only
  split
  next text isText =>
    split
    · exact ensures_addError_bind
    · split
      · exact ensures_addError_bind
      · exact Ensures.pure ⟨text, isText, rfl⟩
  · exact ensures_addError_bind

/-- An object that is read is the field's, neither empty nor too large. -/
theorem boundedObject_read {value : Option Json} {maximum : Nat} {message : Bytes} :
    Ensures (OfSome fun entries => value = some (.object entries) ∧ 1 ≤ entries.length ∧
      entries.length ≤ maximum) (boundedObject value maximum message) := by
  unfold boundedObject
  split
  next entries =>
    split
    · exact ensures_reject
    next sized =>
      have parts := not_or.mp sized
      exact Ensures.pure (OfSome.some
        ⟨rfl, List.length_pos_iff.mpr parts.1, Nat.not_lt.mp parts.2⟩)
  · exact ensures_reject

end LayoutWidgetSchema

end PixelStatus
