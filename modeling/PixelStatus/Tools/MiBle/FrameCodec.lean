/-
# The display frame codec

`serialize_frame` prints a frame in C++ and `parse_display_document` reads it in
Python. The reader takes the bytes through its JSON library, which is given here
by what it does with a text of integers and ASCII names: it returns what was
printed, unless an integer has too many digits for it.
-/

import PixelStatus.Core.Decimal
import PixelStatus.Tools.MiBle.PollSource

namespace PixelStatus.MiBle

/-- `json.loads`. -/
abbrev JsonLoads := Bytes → Except LoadsError PyValue

/-- Every integer of a document is of one of the server's types. -/
structure Printable (document : DisplayDocument) : Prop where
  width : document.width < 2 ^ 64
  height : document.height < 2 ^ 64
  refresh : -2 ^ 63 ≤ document.defaultRefresh ∧ document.defaultRefresh < 2 ^ 63
  pixels : ∀ pixel ∈ document.pixels, pixel < 2 ^ 32

/-- The library returns a document that the server can print, and it never
returns anything but what was printed. -/
structure JsonLoads.RoundTrips (loads : JsonLoads) : Prop where
  returns : ∀ document : DisplayDocument, Printable document →
    loads document.text = .ok document.loaded
  faithful : ∀ (document : DisplayDocument) (value : PyValue),
    loads document.text = .ok value → value = document.loaded

/-! ## Sizes -/

/-- Joined texts are as long as their parts and their commas. -/
theorem length_intercalate_le {texts : List Bytes} {limit : Nat}
    (short : ∀ text ∈ texts, text.length ≤ limit) :
    ([0x2C].intercalate texts : Bytes).length ≤ (limit + 1) * texts.length := by
  induction texts with
  | nil => simp [List.intercalate]
  | cons text texts ih =>
      have first := short text List.mem_cons_self
      have others := ih fun other member => short other (List.mem_cons_of_mem _ member)
      cases texts with
      | nil =>
          simp only [List.intercalate, List.intersperse_singleton, List.flatten_singleton,
            List.length_singleton]
          omega
      | cons next texts =>
          simp only [List.intercalate, List.intersperse_cons_cons, List.flatten_cons,
            List.length_append, List.length_cons, List.length_nil] at others ⊢
          rw [Nat.mul_add]
          omega

/-- A packed colour takes 24 bits. -/
theorem packedRgb_lt (color : Rgb) : packedRgb color < 2 ^ 24 := by
  have hr := color.r.toNat_lt
  have hg := color.g.toNat_lt
  have hb := color.b.toNat_lt
  simp only [packedRgb]
  omega

/-- The document of a frame of the panel's size is far below the limit. -/
theorem length_text_serializeFrame {frame : Frame} (sized : frame.pixels.length = pixelCount)
    (wide : frame.width = panelWidth) (high : frame.height = panelHeight) (sequence : UInt64)
    (interval : Int64) :
    (serializeFrame frame sequence interval.toInt).text.length ≤ maximumDocumentBytes := by
  have count : frame.pixels.length = 256 := sized
  have pixels : ([0x2C].intercalate ((frame.pixels.map packedRgb).map decimal)).length ≤
      (8 + 1) * ((frame.pixels.map packedRgb).map decimal).length := by
    apply length_intercalate_le
    intro text member
    obtain ⟨number, packed, rfl⟩ := List.mem_map.mp member
    obtain ⟨color, _, rfl⟩ := List.mem_map.mp packed
    exact length_decimal_le (by decide) ((packedRgb_lt color).trans (by decide))
  rw [List.length_map, List.length_map, count] at pixels
  have refresh : (bytes (toString interval.toInt)).length ≤ 20 + 1 := by
    apply length_toString_le (by decide)
    have low := interval.le_toInt
    have high := interval.toInt_lt
    omega
  have number : (bytes (toString (sequence.toNat : Int))).length ≤ 20 + 1 := by
    apply length_toString_le (by decide)
    have small := sequence.toNat_lt
    omega
  have side : ∀ value : Nat, value = 16 → (bytes (toString (value : Int))).length ≤ 2 := by
    rintro value rfl
    decide
  have width := side frame.width wide
  have height := side frame.height high
  have fixed : (bytes "default_refresh_ms").length = 18 ∧
      (bytes ",\"format\":\"rgb888\",").length = 19 ∧ (bytes "height").length = 6 ∧
      (bytes ",\"pixels\":[").length = 11 ∧ (bytes "],").length = 2 ∧
      (bytes "schema_version").length = 14 ∧ (bytes (toString (1 : Int))).length = 1 ∧
      (bytes "sequence").length = 8 ∧ (bytes "width").length = 5 := by decide
  simp only [DisplayDocument.text, serializeFrame, List.length_append, List.length_cons,
    List.length_nil, maximumDocumentBytes]
  omega

/-- A frame whose sizes are of the server's type is printed with integers of its types. -/
theorem printable_serializeFrame {frame : Frame} (wide : frame.width < 2 ^ 64)
    (high : frame.height < 2 ^ 64) (sequence : UInt64) (interval : Int64) :
    Printable (serializeFrame frame sequence interval.toInt) where
  width := wide
  height := high
  refresh := ⟨interval.le_toInt, interval.toInt_lt⟩
  pixels := by
    intro pixel member
    obtain ⟨color, _, rfl⟩ := List.mem_map.mp member
    exact (packedRgb_lt color).trans (by decide)

/-! ## The way through both programs -/

variable {loads : JsonLoads}

/-- A printed document comes through `json.loads` as it was, if at all. -/
theorem parsePayload_text (faithful : loads.RoundTrips) {document : DisplayDocument}
    {read : DisplayFrame} (parsed : parsePayload loads document.text = .ok read) :
    parseDisplayDocument document.loaded = .ok read := by
  unfold parsePayload at parsed
  split at parsed
  · cases parsed
  · split at parsed
    · cases parsed
    · cases parsed
    · cases parsed
    next value loaded =>
      obtain rfl := faithful.faithful document value loaded
      cases checked : parseDisplayDocument document.loaded with
      | ok frame =>
          rw [checked] at parsed
          cases parsed
          rfl
      | error message =>
          rw [checked] at parsed
          cases parsed

/-- A document that the server can print ends with a frame or the reader's own error. -/
theorem parsePayload_failsWith (faithful : loads.RoundTrips) {document : DisplayDocument}
    (printable : Printable document) :
    Outcome.FailsWith FetchException.Own (parsePayload loads document.text) := by
  unfold parsePayload
  split_ifs
  · exact Outcome.FailsWith.error ⟨_, rfl⟩
  · rw [faithful.returns document printable]
    exact parseDisplayDocument_failsWith document.loaded

/-- A frame of the panel's size survives. -/
theorem parsePayload_serializeFrame (faithful : loads.RoundTrips) {frame : Frame}
    (wide : frame.width = panelWidth) (high : frame.height = panelHeight) (sequence : UInt64)
    (interval : Int64) :
    parsePayload loads (serializeFrame frame sequence interval.toInt).text =
      .ok { sequence := sequence.toNat, pixels := frame.pixels } := by
  have sized : frame.pixels.length = pixelCount := by
    rw [frame.sized, wide, high, pixelCount]
  have printable : Printable (serializeFrame frame sequence interval.toInt) :=
    printable_serializeFrame (wide ▸ by decide) (high ▸ by decide) sequence interval
  rw [parsePayload, if_neg (not_lt.mpr (length_text_serializeFrame sized wide high sequence interval)),
    faithful.returns _ printable]
  show (parseDisplayDocument _).mapError FetchException.frameSource = _
  rw [parseDisplayDocument_serializeFrame frame sequence interval.toInt wide high]
  rfl

/-- A document that is read has the panel's size, and its own pixels. -/
theorem served_of_parsePayload (faithful : loads.RoundTrips) {frame : Frame}
    {sequence : UInt64} {interval : Int64} {read : DisplayFrame}
    (parsed : parsePayload loads (serializeFrame frame sequence interval.toInt).text = .ok read) :
    frame.width = panelWidth ∧ frame.height = panelHeight ∧ read.pixels = frame.pixels :=
  served_of_parseDisplayDocument (parsePayload_text faithful parsed)

/-- The pixel at a place of the panel, in the order of the list. -/
theorem getElem?_pixels {frame : Frame} (wide : frame.width = panelWidth)
    (high : frame.height = panelHeight) {x y : Nat} (hx : x < panelWidth) (hy : y < panelHeight) :
    frame.pixels[y * 16 + x]? = frame.pixel x y := by
  rw [Frame.pixel, if_neg (by omega), wide, panelWidth]

/-- Every frame of the panel's size is read back with its sequence number and its
pixels, so different pixels never read as the same; any other frame is refused,
with the reader's own error if the server can hold a frame of its size. -/
theorem display_codec (loads : JsonLoads) (faithful : loads.RoundTrips) :
    (∀ (frame : Frame) (sequence : UInt64) (interval : Int64), frame.width = 16 →
      frame.height = 16 →
        ∃ read, parsePayload loads (serializeFrame frame sequence interval.toInt).text =
            .ok read ∧
          read.sequence = sequence.toNat ∧ read.pixels.length = 256 ∧
          ∀ x < 16, ∀ y < 16, ∃ color, frame.pixel x y = some color ∧
            read.pixels[y * 16 + x]? = some color) ∧
    (∀ (first second : Frame) (firstSequence secondSequence : UInt64)
      (firstInterval secondInterval : Int64) (firstRead secondRead : DisplayFrame),
        parsePayload loads
          (serializeFrame first firstSequence firstInterval.toInt).text = .ok firstRead →
        parsePayload loads
          (serializeFrame second secondSequence secondInterval.toInt).text = .ok secondRead →
        first.pixels ≠ second.pixels → firstRead.pixels ≠ secondRead.pixels) ∧
    ∀ (frame : Frame) (sequence : UInt64) (interval : Int64),
      ¬ (frame.width = 16 ∧ frame.height = 16) →
        ∃ exception, parsePayload loads
            (serializeFrame frame sequence interval.toInt).text = .error exception ∧
          (frame.width < 2 ^ 64 → frame.height < 2 ^ 64 → exception.Own) := by
  refine ⟨?_, ?_, ?_⟩
  · intro frame sequence interval wide high
    refine ⟨_, parsePayload_serializeFrame faithful wide high sequence interval, rfl, ?_, ?_⟩
    · rw [frame.sized, wide, high]
    · intro x hx y hy
      have place : y * 16 + x < frame.pixels.length := by
        rw [frame.sized, wide, high]
        omega
      have found := List.getElem?_eq_getElem place
      exact ⟨frame.pixels[y * 16 + x], (getElem?_pixels wide high hx hy).symm.trans found, found⟩
  · intro first second _ _ _ _ firstRead secondRead parsedFirst parsedSecond differ same
    have served := (served_of_parsePayload faithful parsedFirst).2.2
    have served' := (served_of_parsePayload faithful parsedSecond).2.2
    exact differ (by rw [← served, ← served', same])
  · intro frame sequence interval other
    cases parsed : parsePayload loads
        (serializeFrame frame sequence interval.toInt).text with
    | error exception =>
        refine ⟨exception, rfl, fun wide high => ?_⟩
        have own := parsePayload_failsWith faithful
          (printable_serializeFrame wide high sequence interval)
        rw [parsed] at own
        exact Outcome.FailsWith.error_iff.mp own
    | ok read =>
        have served := served_of_parsePayload faithful parsed
        exact absurd ⟨served.1, served.2.1⟩ other

/-! ## A library that keeps the promise -/

/-- Take a literal off the start of a text. -/
def takeLiteral (literal text : Bytes) : Option Bytes := text.dropPrefix? literal

/-- A literal is taken off the text that begins with it. -/
theorem takeLiteral_append (literal rest : Bytes) :
    takeLiteral literal (literal ++ rest) = some rest :=
  List.dropPrefix?_append_of_beq rest (beq_self_eq_true literal)

/-- A member with an integer value. -/
def readMember (name text : Bytes) : Option (Int × Bytes) := do
  let text ← takeLiteral ([0x22] ++ name ++ [0x22, 0x3A]) text
  readInteger text

/-- The numbers of an array up to its closing bracket. -/
def readNumbers : Nat → Bytes → Option (List Int × Bytes)
  | 0, _ => none
  | limit + 1, text => do
      let (number, rest) ← readInteger text
      match rest with
      | 0x2C :: rest =>
          let (numbers, rest) ← readNumbers limit rest
          some (number :: numbers, rest)
      | rest => some ([number], rest)

/-- The array of a document, which may be empty. -/
def readArray (text : Bytes) : Option (List Int × Bytes) :=
  if text.head? = some 0x5D then some ([], text) else readNumbers text.length text

/-- Read what `dump` prints. -/
def readDocument (payload : Bytes) : Option PyValue := do
  let text ← takeLiteral [0x7B] payload
  let (refresh, text) ← readMember (bytes "default_refresh_ms") text
  let text ← takeLiteral (bytes ",\"format\":\"rgb888\",") text
  let (height, text) ← readMember (bytes "height") text
  let text ← takeLiteral (bytes ",\"pixels\":[") text
  let (pixels, text) ← readArray text
  let text ← takeLiteral (bytes "],") text
  let (schemaVersion, text) ← readMember (bytes "schema_version") text
  let text ← takeLiteral [0x2C] text
  let (sequence, text) ← readMember (bytes "sequence") text
  let text ← takeLiteral [0x2C] text
  let (width, text) ← readMember (bytes "width") text
  let text ← takeLiteral [0x7D] text
  if text = [] then
    some (.dict [
      (pyText "default_refresh_ms", .integer refresh),
      (pyText "format", .text (pyText "rgb888")),
      (pyText "height", .integer height),
      (pyText "pixels", .list (pixels.map fun pixel => .integer pixel)),
      (pyText "schema_version", .integer schemaVersion),
      (pyText "sequence", .integer sequence),
      (pyText "width", .integer width)])
  else none

/-- A number ends before a text that begins with no digit. -/
theorem noDigitFirst_append {literal : Bytes} {byte : UInt8} (first : literal.head? = some byte)
    (other : isDigitByte byte = false) (rest : Bytes) : NoDigitFirst (literal ++ rest) := by
  intro found same
  rw [List.head?_append, first] at same
  cases same
  exact other

/-- A printed member is read back. -/
theorem readMember_append (name : Bytes) (value : Int) {rest : Bytes} (ends : NoDigitFirst rest) :
    readMember name ([0x22] ++ (name ++ ([0x22, 0x3A] ++ (bytes (toString value) ++ rest)))) =
      some (value, rest) := by
  have text : [0x22] ++ (name ++ ([0x22, 0x3A] ++ (bytes (toString value) ++ rest))) =
      ([0x22] ++ name ++ [0x22, 0x3A]) ++ (bytes (toString value) ++ rest) := by
    simp only [List.append_assoc]
  rw [readMember, text, takeLiteral_append]
  exact readInteger_toString value ends

/-- So are printed numbers up to their bracket. -/
theorem readNumbers_intercalate (numbers : List Nat) (nonempty : numbers ≠ []) {limit : Nat}
    (enough : numbers.length ≤ limit) (rest : Bytes) :
    readNumbers limit ([0x2C].intercalate (numbers.map decimal) ++ 0x5D :: rest) =
      some (numbers.map fun number : Nat => (number : Int), 0x5D :: rest) := by
  induction numbers generalizing limit with
  | nil => exact absurd rfl nonempty
  | cons number numbers ih =>
      cases limit with
      | zero => cases enough
      | succ limit =>
          cases numbers with
          | nil =>
              have read := readInteger_decimal number
                (@noDigitFirst_append [0x5D] 0x5D rfl (by decide) rest)
              have text : ([0x2C].intercalate ([number].map decimal) : Bytes) = decimal number := by
                simp [List.intercalate]
              rw [text, readNumbers]
              show (readInteger (decimal number ++ ([0x5D] ++ rest))).bind _ = _
              rw [read]
              rfl
          | cons next numbers =>
              have text : [0x2C].intercalate ((number :: next :: numbers).map decimal) ++
                  0x5D :: rest = decimal number ++ 0x2C ::
                    ([0x2C].intercalate ((next :: numbers).map decimal) ++ 0x5D :: rest) := by
                simp [List.intercalate]
              have read := readInteger_decimal number (@noDigitFirst_append [0x2C] 0x2C rfl (by decide)
                ([0x2C].intercalate ((next :: numbers).map decimal) ++ 0x5D :: rest))
              have others := ih (List.cons_ne_nil _ _) (Nat.le_of_succ_le_succ enough)
              rw [text, readNumbers]
              show (readInteger (decimal number ++ ([0x2C] ++
                ([0x2C].intercalate ((next :: numbers).map decimal) ++ 0x5D :: rest)))).bind _ = _
              rw [read]
              show (readNumbers limit
                ([0x2C].intercalate ((next :: numbers).map decimal) ++ 0x5D :: rest)).bind _ = _
              rw [others]
              rfl

/-- There are no more numbers than bytes of their texts. -/
theorem length_le_intercalate (numbers : List Nat) :
    numbers.length ≤ ([0x2C].intercalate (numbers.map decimal) : Bytes).length := by
  induction numbers with
  | nil => exact Nat.zero_le _
  | cons number numbers ih =>
      have digits : 0 < (decimal number).length := List.length_pos_iff.mpr (decimal_ne_nil number)
      cases numbers with
      | nil =>
          have text : ([0x2C].intercalate ([number].map decimal) : Bytes) = decimal number := by
            simp [List.intercalate]
          rw [text]
          exact digits
      | cons next numbers =>
          have text : ([0x2C].intercalate ((number :: next :: numbers).map decimal) : Bytes) =
              decimal number ++ 0x2C :: [0x2C].intercalate ((next :: numbers).map decimal) := by
            simp [List.intercalate]
          rw [text, List.length_append, List.length_cons]
          simp only [List.length_cons] at ih ⊢
          omega

/-- Printed numbers do not begin with a closing bracket. -/
theorem head?_intercalate (number : Nat) (numbers : List Nat) (rest : Bytes) :
    ([0x2C].intercalate ((number :: numbers).map decimal) ++ rest).head? ≠ some 0x5D := by
  have first : ∃ tail, [0x2C].intercalate ((number :: numbers).map decimal) =
      decimal number ++ tail := by
    cases numbers with
    | nil => exact ⟨[], by simp [List.intercalate]⟩
    | cons next numbers => exact ⟨_, by simp [List.intercalate]; rfl⟩
  obtain ⟨tail, same⟩ := first
  rw [same]
  cases digits : decimal number with
  | nil => exact absurd digits (decimal_ne_nil number)
  | cons byte bytes =>
      intro bracket
      have digit : isDigitByte byte = true :=
        isDigitByte_of_mem_decimal (digits ▸ List.mem_cons_self)
      cases bracket
      simp [isDigitByte] at digit

/-- A printed array is read back. -/
theorem readArray_intercalate (numbers : List Nat) (rest : Bytes) :
    readArray ([0x2C].intercalate (numbers.map decimal) ++ 0x5D :: rest) =
      some (numbers.map fun number : Nat => (number : Int), 0x5D :: rest) := by
  cases numbers with
  | nil => rfl
  | cons number numbers =>
      rw [readArray, if_neg (head?_intercalate number numbers _)]
      apply readNumbers_intercalate _ (List.cons_ne_nil _ _)
      have enough := length_le_intercalate (number :: numbers)
      rw [List.length_append]
      omega

/-- The reader returns every document as it was printed. -/
theorem readDocument_text (document : DisplayDocument) :
    readDocument document.text = some document.loaded := by
  have comma {literal : Bytes} (first : literal.head? = some 0x2C) (rest : Bytes) :
      NoDigitFirst (literal ++ rest) := noDigitFirst_append first (by decide) rest
  have close : bytes "]," = 0x5D :: [0x2C] := by decide
  simp only [DisplayDocument.text, List.append_assoc, readDocument]
  rw [takeLiteral_append]
  simp only [Option.bind_eq_bind, Option.bind_some]
  rw [readMember_append _ _ (comma (by decide) _)]
  simp only [Option.bind_some]
  rw [takeLiteral_append]
  simp only [Option.bind_some]
  rw [readMember_append _ _ (comma (by decide) _)]
  simp only [Option.bind_some]
  rw [takeLiteral_append]
  simp only [Option.bind_some, close]
  rw [List.cons_append, readArray_intercalate]
  simp only [Option.bind_some]
  rw [← List.cons_append, takeLiteral_append]
  simp only [Option.bind_some]
  rw [readMember_append _ _ (comma rfl _)]
  simp only [Option.bind_some]
  rw [takeLiteral_append]
  simp only [Option.bind_some]
  rw [readMember_append _ _ (comma rfl _)]
  simp only [Option.bind_some]
  rw [takeLiteral_append]
  simp only [Option.bind_some]
  have width := readMember_append (bytes "width") document.width
    (@noDigitFirst_append [0x7D] 0x7D rfl (by decide) [])
  rw [List.append_nil] at width
  have brace : takeLiteral [0x7D] [0x7D] = some [] := takeLiteral_append [0x7D] []
  rw [width]
  simp only [Option.bind_some]
  rw [brace, List.map_map]
  rfl

/-- The reader with the exception that `json.loads` raises on other texts. -/
def loadDocument : JsonLoads :=
  fun payload => (readDocument payload).elim (.error .jsonDecodeError) .ok

/-- The example reader returns for printable documents only, and reads what is printed. -/
theorem roundTrips_loadDocument : JsonLoads.RoundTrips loadDocument where
  returns document _ := by rw [loadDocument, readDocument_text, Option.elim_some]
  faithful document value loaded := by
    rw [loadDocument, readDocument_text, Option.elim_some] at loaded
    exact (Except.ok.inj loaded).symm

/-- Another colour for every place: its column is the red value, its row the green one. -/
def gradient : Frame where
  width := 16
  height := 16
  pixels := List.ofFn fun place : Fin 256 =>
    { r := UInt8.ofNat (place.val % 16), g := UInt8.ofNat (place.val / 16) }
  sized := List.length_ofFn

/-- With this library: the last sequence number, and 256 pixels in the wrong shape. -/
theorem display_codec_loadDocument :
    (∃ read, parsePayload loadDocument
        (serializeFrame gradient 18446744073709551615 (100 : Int64).toInt).text = .ok read ∧
      read.sequence = (18446744073709551615 : UInt64).toNat ∧ read.pixels.length = 256 ∧
      ∀ x < 16, ∀ y < 16, ∃ color, gradient.pixel x y = some color ∧
        read.pixels[y * 16 + x]? = some color) ∧
    ∃ exception, parsePayload loadDocument
        (serializeFrame (Frame.create 8 32) 7 (100 : Int64).toInt).text = .error exception ∧
      ((8 : Nat) < 2 ^ 64 → (32 : Nat) < 2 ^ 64 → exception.Own) :=
  have codec := display_codec loadDocument roundTrips_loadDocument
  ⟨codec.1 gradient 18446744073709551615 100 rfl rfl,
    codec.2.2 (Frame.create 8 32) 7 100 (by decide)⟩

end PixelStatus.MiBle
