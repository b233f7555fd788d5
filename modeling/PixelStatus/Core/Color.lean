/-
# Colours

Reading a colour from its hexadecimal form, and mixing two colours. The source
computes the mixture in doubles; each operation takes the rounding as an
argument.
-/

import PixelStatus.Core.Basic

namespace PixelStatus

/-- The value of a hexadecimal digit, in either case. -/
def hexDigitValue (character : UInt8) : Option Nat :=
  if 0x30 ≤ character ∧ character ≤ 0x39 then some (character.toNat - 0x30)
  else if 0x41 ≤ character ∧ character ≤ 0x46 then some (character.toNat - 0x41 + 10)
  else if 0x61 ≤ character ∧ character ≤ 0x66 then some (character.toNat - 0x61 + 10)
  else none

/-- `parse_byte` on two characters. -/
def parseByte (high low : UInt8) : Option UInt8 := do
  let high ← hexDigitValue high
  let low ← hexDigitValue low
  return UInt8.ofNat (16 * high + low)

/-- A colour such as `#00FF00`. -/
def parseRgbHex : Bytes → Option Rgb
  | [mark, red, red', green, green', blue, blue'] =>
      if mark ≠ 0x23 then none
      else do
        let r ← parseByte red red'
        let g ← parseByte green green'
        let b ← parseByte blue blue'
        return { r, g, b }
  | _ => none

/-- `std::lround` of a finite double: to the nearest, half away from zero. -/
def lround : Double → Int
  | .finite value => if value < 0 then -⌊-value + 1 / 2⌋ else ⌊value + 1 / 2⌋
  | _ => 0

variable (round : Rounding)

/-- One channel of a mixture; `amount` is already clamped. -/
def mixChannel (amount : Double) (start finish : UInt8) : UInt8 :=
  let span := Double.mul round (.finite ((finish.toNat : ℚ) - start.toNat)) amount
  UInt8.ofNat (lround (Double.add round (.finite start.toNat) span)).toNat

def interpolate (source target : Rgb) (amount : Double) : Rgb :=
  let clamped := Double.clamp amount (.finite 0) (.finite 1)
  { r := mixChannel round clamped source.r target.r
    g := mixChannel round clamped source.g target.g
    b := mixChannel round clamped source.b target.b }

def scaleBrightness (color : Rgb) (amount : Double) : Rgb :=
  interpolate round {} color amount

end PixelStatus
