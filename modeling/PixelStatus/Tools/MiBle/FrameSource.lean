/-
# The frame source of the MI bridge

`HttpFrameSource` polls the display server and remembers the entity tag of the
last frame it parsed. The JSON text between the two programs carries integers
and ASCII names only, so a reader gets back what the server dumped.
-/

import PixelStatus.Host.HttpDisplayDriver
import PixelStatus.Tools.MiBle.Protocol

namespace PixelStatus.MiBle

def maximumDocumentBytes : Nat := 128 * 1024

/-- A frame that passed all checks. -/
structure DisplayFrame where
  sequence : Nat
  pixels : List Rgb
  deriving DecidableEq

/-- The text of a `FrameSourceError`. -/
abbrev FrameSourceError := String

/-- An integer field that is no Boolean. -/
def requiredInteger (document : List (PyText × PyValue)) (name : String) :
    Except FrameSourceError Int :=
  match PyValue.get document (pyText name) with
  | .integer value => .ok value
  | _ => .error s!"display frame field '{name}' must be an integer"

/-- Exactly 256 packed colours. -/
def unpackPixels : PyValue → Except FrameSourceError (List Rgb)
  | .list packedPixels =>
      if packedPixels.length ≠ pixelCount then
        .error "display frame must contain exactly 256 pixels"
      else packedPixels.mapM unpackRgb888
  | _ => .error "display frame must contain exactly 256 pixels"

/-- `document.get("format") == "rgb888"`. -/
def isRgb888 : PyValue → Bool
  | .text format => format = pyText "rgb888"
  | _ => false

def sizeMessage (width height : Int) : FrameSourceError :=
  s!"MI output requires a {panelWidth}x{panelHeight} frame, received {width}x{height}"

/-- The checks after `json.loads`. -/
def parseDisplayDocument : PyValue → Except FrameSourceError DisplayFrame
  | .dict document => do
      let schemaVersion ← requiredInteger document "schema_version"
      if schemaVersion ≠ 1 then .error "unsupported display frame schema_version"
      else
        let width ← requiredInteger document "width"
        let height ← requiredInteger document "height"
        if width ≠ panelWidth ∨ height ≠ panelHeight then
          .error (sizeMessage width height)
        else
          let sequence ← requiredInteger document "sequence"
          if sequence < 0 then .error "display frame sequence must not be negative"
          else if !isRgb888 (PyValue.get document (pyText "format")) then
            .error "display frame format must be rgb888"
          else
            let pixels ← unpackPixels (PyValue.get document (pyText "pixels"))
            .ok { sequence := sequence.toNat, pixels }
  | _ => .error "display frame response must be a JSON object"

end PixelStatus.MiBle

namespace PixelStatus.DisplayDocument

/-- The document as `json.loads` returns it. -/
def loaded (document : DisplayDocument) : PyValue :=
  .dict [
    (pyText "default_refresh_ms", .integer document.defaultRefresh),
    (pyText "format", .text (pyText "rgb888")),
    (pyText "height", .integer document.height),
    (pyText "pixels", .list (document.pixels.map fun pixel : Nat => .integer pixel)),
    (pyText "schema_version", .integer 1),
    (pyText "sequence", .integer document.sequence.toNat),
    (pyText "width", .integer document.width)]

end PixelStatus.DisplayDocument

namespace PixelStatus.MiBle

/-- Unpacking undoes the server's packing. -/
theorem unpackRgb888_packedRgb (color : Rgb) :
    unpackRgb888 (.integer (packedRgb color)) = .ok color := by
  have hr := color.r.toNat_lt
  have hg := color.g.toNat_lt
  have hb := color.b.toNat_lt
  have inside : (0 : Int) ≤ packedRgb color ∧ (packedRgb color : Int) ≤ 0xFFFFFF := by
    simp only [packedRgb]
    omega
  have red : packedRgb color / 65536 % 256 = color.r.toNat := by
    simp only [packedRgb]
    omega
  have green : packedRgb color / 256 % 256 = color.g.toNat := by
    simp only [packedRgb]
    omega
  have blue : packedRgb color % 256 = color.b.toNat := by
    simp only [packedRgb]
    omega
  simp only [unpackRgb888, if_pos inside, Int.toNat_natCast, red, green, blue,
    UInt8.ofNat_toNat]

/-- Unpacking the packed colours gives the colours. -/
theorem mapM_unpackRgb888 (pixels : List Rgb) :
    ((pixels.map packedRgb).map fun pixel : Nat => PyValue.integer pixel).mapM unpackRgb888
      = .ok pixels := by
  induction pixels with
  | nil => rfl
  | cons color pixels ih =>
      rw [List.map_cons, List.map_cons, List.mapM_cons, unpackRgb888_packedRgb, ih]
      rfl

/-- The pixel list of a served frame of the panel's size is read back. -/
theorem unpackPixels_served (frame : Frame) (sized : frame.pixels.length = pixelCount) :
    unpackPixels (.list ((frame.pixels.map packedRgb).map fun pixel : Nat => .integer pixel))
      = .ok frame.pixels := by
  have hlength : ((frame.pixels.map packedRgb).map fun pixel : Nat =>
      PyValue.integer pixel).length = pixelCount := by
    rw [List.length_map, List.length_map, sized]
  rw [unpackPixels, if_neg (not_not.mpr hlength), mapM_unpackRgb888]

/-- The fields of a served document are there and of the right types. -/
theorem parseDisplayDocument_loaded (document : DisplayDocument) :
    parseDisplayDocument document.loaded
      = if (document.width : Int) ≠ panelWidth ∨ (document.height : Int) ≠ panelHeight then
          .error (sizeMessage document.width document.height)
        else if (document.sequence.toNat : Int) < 0 then
          .error "display frame sequence must not be negative"
        else (unpackPixels (.list (document.pixels.map fun pixel : Nat => .integer pixel))).bind
            fun pixels => .ok { sequence := (document.sequence.toNat : Int).toNat, pixels } :=
  rfl

/-- A frame of the panel's size survives the way through the server. -/
theorem parseDisplayDocument_serializeFrame (frame : Frame) (sequence : UInt64)
    (interval : Duration) (wide : frame.width = panelWidth) (high : frame.height = panelHeight) :
    parseDisplayDocument (serializeFrame frame sequence interval).loaded
      = .ok { sequence := sequence.toNat, pixels := frame.pixels } := by
  have sized : frame.pixels.length = pixelCount := by
    rw [frame.sized, wide, high, pixelCount]
  rw [parseDisplayDocument_loaded, if_neg (by simp [serializeFrame, wide, high]),
    if_neg (by omega)]
  show (unpackPixels (.list ((frame.pixels.map packedRgb).map _))).bind _ = _
  rw [unpackPixels_served frame sized]
  rfl

/-- A served frame that parses has the panel's size, and its own pixels. -/
theorem served_of_parseDisplayDocument {frame : Frame} {sequence : UInt64}
    {interval : Duration} {read : DisplayFrame}
    (parsed : parseDisplayDocument (serializeFrame frame sequence interval).loaded = .ok read) :
    frame.width = panelWidth ∧ frame.height = panelHeight ∧ read.pixels = frame.pixels := by
  by_cases dimensions : frame.width = panelWidth ∧ frame.height = panelHeight
  · rw [parseDisplayDocument_serializeFrame frame sequence interval dimensions.1
      dimensions.2] at parsed
    cases parsed
    exact ⟨dimensions.1, dimensions.2, rfl⟩
  · rw [parseDisplayDocument_loaded, if_pos (by
      simp only [serializeFrame, ne_eq, Nat.cast_inj]
      exact not_and_or.mp dimensions)] at parsed
    cases parsed

/-- What the source keeps between fetches. -/
structure HttpFrameSource where
  etag : Option Bytes := none

namespace HttpFrameSource

/-- The `If-None-Match` value of the next request; empty when it sends none. -/
def ifNoneMatch (source : HttpFrameSource) : Bytes := source.etag.getD []

/-- Take in a response: a frame, nothing new, or an error that leaves the
source as it was. -/
def receive (source : HttpFrameSource) (response : DisplayResponse) :
    Except FrameSourceError (Option DisplayFrame) × HttpFrameSource :=
  match response.status, response.body with
  | 200, some document =>
      if document.text.length > maximumDocumentBytes then
        (.error "display frame response exceeds the 128 KiB limit", source)
      else
        match parseDisplayDocument document.loaded with
        | .ok frame => (.ok (some frame), { etag := some response.etag })
        | .error message => (.error message, source)
  | 304, _ => (.ok none, source)
  | status, _ => (.error s!"display frame endpoint returned HTTP {status}", source)

/-- Only a frame that parsed changes the source. -/
theorem receive_cases (source : HttpFrameSource) (response : DisplayResponse) :
    (∃ frame document, response.body = some document ∧
        parseDisplayDocument document.loaded = .ok frame ∧
        source.receive response = (.ok (some frame), { etag := some response.etag })) ∨
      ((source.receive response).2 = source ∧
        ∀ frame, (source.receive response).1 ≠ .ok (some frame)) := by
  unfold receive
  split
  next document _ body =>
    split
    · exact Or.inr ⟨rfl, fun frame same => by cases same⟩
    · cases parsed : parseDisplayDocument document.loaded with
      | ok frame => exact Or.inl ⟨frame, document, body, parsed, rfl⟩
      | error message => exact Or.inr ⟨rfl, fun frame same => by cases same⟩
  · exact Or.inr ⟨rfl, fun frame same => by cases same⟩
  · exact Or.inr ⟨rfl, fun frame same => by cases same⟩

/-- A fetch yields nothing new only on a 304. -/
theorem status_of_receive_none {source : HttpFrameSource} {response : DisplayResponse}
    (yields : (source.receive response).1 = .ok none) : response.status = 304 := by
  unfold receive at yields
  split at yields
  next document _ _ =>
    split at yields
    · cases yields
    · cases parsed : parseDisplayDocument document.loaded with
      | ok frame =>
          rw [parsed] at yields
          cases yields
      | error message =>
          rw [parsed] at yields
          cases yields
  next _ _ status => exact status
  next => cases yields

end HttpFrameSource

end PixelStatus.MiBle
