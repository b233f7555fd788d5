/-
# The MI display protocol

Packets for the 16 by 16 matrix and the transform from logical to physical
pixel order. What callers hand over are Python numbers, so the checks that
reject them are part of the model; colours that passed are bytes.
-/

import Mathlib.Data.List.FinRange
import PixelStatus.Tools.Python

namespace PixelStatus.MiBle

def panelWidth : Nat := 16

def panelHeight : Nat := 16

def pixelCount : Nat := panelWidth * panelHeight

def pixelsPerBlock : Nat := 32

def blockCount : Nat := 8

def graffitiInitPackets : List Bytes :=
  [[0xBC, 0x00, 0x01, 0x01, 0x55], [0xBC, 0x00, 0x0D, 0x0D, 0x55]]

def blockInitPacket : Bytes := [0xBC, 0x0F, 0xF1, 0x08, 0x08, 0x55]

/-- A channel between 0 and 255. -/
def validateChannel : PyValue → Except String UInt8
  | .integer value =>
      if 0 ≤ value ∧ value ≤ 255 then .ok (UInt8.ofNat value.toNat)
      else .error "RGB channels must be integers from 0 through 255"
  | _ => .error "RGB channels must be integers from 0 through 255"

/-- Three channels. -/
def validateRgb : List PyValue → Except String Rgb
  | [red, green, blue] => do
      let r ← validateChannel red
      let g ← validateChannel green
      let b ← validateChannel blue
      return { r, g, b }
  | _ => .error "RGB colors must contain exactly three channels"

/-- The three bytes of a packed colour. -/
def unpackRgb888 : PyValue → Except String Rgb
  | .integer value =>
      if 0 ≤ value ∧ value ≤ 0xFFFFFF then
        .ok {
          r := UInt8.ofNat (value.toNat / 65536 % 256)
          g := UInt8.ofNat (value.toNat / 256 % 256)
          b := UInt8.ofNat (value.toNat % 256) }
      else .error "Packed RGB values must be integers from 0 through 0xFFFFFF"
  | _ => .error "Packed RGB values must be integers from 0 through 0xFFFFFF"

def xyToIndex (x y : Nat) : Nat := y * panelWidth + x

/-- The pixels of the whole panel, by pixel index. -/
abbrev Pixels := Vector Rgb pixelCount

/-- The packet that sets one pixel. -/
def buildPixelPacket (pixelIndex : Fin pixelCount) (color : Rgb) : Bytes :=
  let index := UInt8.ofNat pixelIndex.val
  let trailingIndex := if pixelIndex.val = 0 then 0xFF else index + 1
  [0xBC, 0x01, 0x01, 0x00, index, color.r, color.g, color.b, trailingIndex, 0x55]

/-- The bytes that a packet carries for one pixel. -/
def colorBytes (color : Rgb) : Bytes := [color.r, color.g, color.b]

/-- The packet that sets one block of 32 pixels. -/
def buildBlockPacket (blockIndex : Fin blockCount) (pixels : List Rgb) : Bytes :=
  0xBC :: 0x0F :: UInt8.ofNat (blockIndex.val + 1)
    :: (pixels.flatMap colorBytes ++ [0x55])

/-- The pixels of one block of a frame. -/
def blockOf (pixels : Pixels) (block : Fin blockCount) : List Rgb :=
  (pixels.toList.drop (block.val * pixelsPerBlock)).take pixelsPerBlock

def buildBlockPackets (pixels : Pixels) : List Bytes :=
  (List.finRange blockCount).map fun block => buildBlockPacket block (blockOf pixels block)

/-- How the logical frame is laid on the panel. -/
structure TransformOptions where
  rotation : Int := 0
  mirrorX : Bool := false
  mirrorY : Bool := false
  colorOrder : PyText := pyText "RGB"

/-- Upper case, for the letters that a colour order may consist of. -/
def upper (text : PyText) : PyText :=
  text.map fun point => if 0x61 ≤ point ∧ point ≤ 0x7A then point - 0x20 else point

/-- A permutation of the three letters. -/
def validateColorOrder (colorOrder : PyText) : Except String PyText :=
  let normalized := upper colorOrder
  if normalized.length ≠ 3 ∨ ¬ (pyText "RGB" ⊆ normalized ∧ normalized ⊆ pyText "RGB") then
    .error "color_order must be a permutation of RGB"
  else .ok normalized

/-- The channel that a letter of the colour order names. -/
def channelNamed (color : Rgb) (letter : Option Nat) : UInt8 :=
  if letter = some 0x52 then color.r else if letter = some 0x47 then color.g else color.b

def reorderColor (color : Rgb) (order : PyText) : Rgb where
  r := channelNamed color order[0]?
  g := channelNamed color order[1]?
  b := channelNamed color order[2]?

/-- Where a pixel of the logical frame lies on the panel. -/
def targetOf (options : TransformOptions) (x y : Nat) : Nat × Nat :=
  let rotated :=
    if options.rotation = 0 then (x, y)
    else if options.rotation = 90 then (panelWidth - 1 - y, x)
    else if options.rotation = 180 then (panelWidth - 1 - x, panelHeight - 1 - y)
    else (y, panelHeight - 1 - x)
  (if options.mirrorX then panelWidth - 1 - rotated.1 else rotated.1,
    if options.mirrorY then panelHeight - 1 - rotated.2 else rotated.2)

/-- `transform_frame` behind its check of the colours: map a row-major logical frame
into physical pixel-index order. -/
def transformFrame (options : TransformOptions) (source : List Rgb) : Except String Pixels := do
  if source.length ≠ pixelCount then .error "an MI frame must contain exactly 256 pixels"
  else if options.rotation ∉ [0, 90, 180, 270] then
    .error "rotation must be 0, 90, 180, or 270 degrees"
  else
    let order ← validateColorOrder options.colorOrder
    .ok ((List.range panelHeight).foldl (fun output sourceY =>
      (List.range panelWidth).foldl (fun output sourceX =>
        let target := targetOf options sourceX sourceY
        let color := source[xyToIndex sourceX sourceY]?.getD {}
        output.setIfInBounds (xyToIndex target.1 target.2) (reorderColor color order)) output)
      (Vector.replicate pixelCount {}))

/-- `transform_frame` of the values that a caller hands over. -/
def transformFrameValues (options : TransformOptions) (pixels : List (List PyValue)) :
    Except String Pixels := do
  let source ← pixels.mapM validateRgb
  transformFrame options source

/-- With valid options every frame of the panel's size has a physical order. -/
theorem transformFrame_of_valid {options : TransformOptions} {source : List Rgb}
    {order : PyText} (sized : source.length = pixelCount)
    (rotates : options.rotation ∈ [0, 90, 180, 270])
    (ordered : validateColorOrder options.colorOrder = .ok order) :
    ∃ physical, transformFrame options source = .ok physical := by
  rw [transformFrame, if_neg (not_not.mpr sized), if_neg (not_not.mpr rotates), ordered]
  exact ⟨_, rfl⟩

/-- A colour as the three integers that a caller hands over. -/
def channels (color : Rgb) : List PyValue :=
  [.integer color.r.toNat, .integer color.g.toNat, .integer color.b.toNat]

/-- A channel passes exactly as the integer of a byte. -/
theorem validateChannel_eq_ok {value : PyValue} {channel : UInt8} :
    validateChannel value = .ok channel ↔ value = .integer channel.toNat := by
  have hlt := channel.toNat_lt
  refine ⟨?_, ?_⟩
  · intro valid
    cases value with
    | integer number =>
        simp only [validateChannel] at valid
        split at valid
        next inside =>
          have hnat : number.toNat < 256 := by omega
          have back : (UInt8.ofNat number.toNat).toNat = number.toNat :=
            Nat.mod_eq_of_lt hnat
          cases valid
          rw [back, Int.toNat_of_nonneg inside.1]
        next => cases valid
    | _ => cases valid
  · rintro rfl
    have inside : (0 : Int) ≤ channel.toNat ∧ (channel.toNat : Int) ≤ 255 := by omega
    rw [validateChannel, if_pos inside, Int.toNat_natCast, UInt8.ofNat_toNat]

/-- The channels of a colour are a valid value. -/
theorem validateRgb_channels (color : Rgb) : validateRgb (channels color) = .ok color := by
  simp only [validateRgb, channels, validateChannel_eq_ok.mpr rfl]
  rfl

/-- A colour passes exactly as its three channels. -/
theorem validateRgb_eq_ok {values : List PyValue} {color : Rgb} :
    validateRgb values = .ok color ↔ values = channels color := by
  refine ⟨?_, ?_⟩
  · intro valid
    match values, valid with
    | [red, green, blue], valid =>
        rw [validateRgb] at valid
        cases hred : validateChannel red with
        | error message =>
            rw [hred] at valid
            cases valid
        | ok r =>
            cases hgreen : validateChannel green with
            | error message =>
                rw [hred, hgreen] at valid
                cases valid
            | ok g =>
                cases hblue : validateChannel blue with
                | error message =>
                    rw [hred, hgreen, hblue] at valid
                    cases valid
                | ok b =>
                    rw [hred, hgreen, hblue] at valid
                    cases valid
                    rw [validateChannel_eq_ok.mp hred, validateChannel_eq_ok.mp hgreen,
                      validateChannel_eq_ok.mp hblue, channels]
  · rintro rfl
    exact validateRgb_channels color

/-- So are those of a list of colours. -/
theorem mapM_validateRgb_channels (colors : List Rgb) :
    (colors.map channels).mapM validateRgb = .ok colors := by
  induction colors with
  | nil => rfl
  | cons color colors ih =>
      rw [List.map_cons, List.mapM_cons, validateRgb_channels, ih]
      rfl

/-- A sequence of colours passes only as the sequence of their channels. -/
theorem eq_of_mapM_validateRgb {values : List (List PyValue)} {colors : List Rgb}
    (valid : values.mapM validateRgb = .ok colors) : values = colors.map channels := by
  induction values generalizing colors with
  | nil =>
      cases valid
      rfl
  | cons value values ih =>
      rw [List.mapM_cons] at valid
      cases hhead : validateRgb value with
      | error message =>
          rw [hhead] at valid
          cases valid
      | ok color =>
          cases htail : values.mapM validateRgb with
          | error message =>
              rw [hhead, htail] at valid
              cases valid
          | ok rest =>
              rw [hhead, htail] at valid
              cases valid
              rw [validateRgb_eq_ok.mp hhead, ih htail, List.map_cons]

end PixelStatus.MiBle
