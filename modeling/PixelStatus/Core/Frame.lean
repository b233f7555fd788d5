/-
# Frames

A rectangle of colours in row-major order. The bounds checks of the drawing
operations are the source's; a failed operation leaves the frame as it was. No
operation changes the dimensions.
-/

import PixelStatus.Core.Basic

namespace PixelStatus

/-- A picture with one colour for every pair of coordinates. -/
structure Frame where
  width : Nat
  height : Nat
  pixels : List Rgb
  sized : pixels.length = width * height

namespace Frame

/-- A frame of one colour. -/
def create (width height : Nat) (initial : Rgb := {}) : Frame where
  width := width
  height := height
  pixels := List.replicate (width * height) initial
  sized := List.length_replicate

def fill (frame : Frame) (color : Rgb) : Frame := create frame.width frame.height color

/-- Write one pixel; `none` when it lies outside. -/
def setPixel (frame : Frame) (x y : Nat) (color : Rgb) : Option Frame :=
  if x ≥ frame.width ∨ y ≥ frame.height then none
  else some { frame with
    pixels := frame.pixels.set (y * frame.width + x) color
    sized := by rw [List.length_set, frame.sized] }

def pixel (frame : Frame) (x y : Nat) : Option Rgb :=
  if x ≥ frame.width ∨ y ≥ frame.height then none
  else frame.pixels[y * frame.width + x]?

/-- Overwrite `count` consecutive pixels. -/
def fillRun (frame : Frame) (start count : Nat) (color : Rgb) : Frame where
  width := frame.width
  height := frame.height
  pixels := frame.pixels.mapIdx fun index old =>
    if start ≤ index ∧ index < start + count then color else old
  sized := by rw [List.length_mapIdx, frame.sized]

/-- Fill a rectangle row by row; `none` when it is empty or not inside. -/
def fillRect (frame : Frame) (x y width height : Nat) (color : Rgb) : Option Frame :=
  if width = 0 ∨ height = 0 ∨ x ≥ frame.width ∨ y ≥ frame.height then none
  else if width > frame.width - x ∨ height > frame.height - y then none
  else some ((List.range' y height).foldl
    (fun drawn row => drawn.fillRun (row * frame.width + x) width color) frame)

/-- Two frames of the same dimensions. -/
def SameSize (left right : Frame) : Prop :=
  left.width = right.width ∧ left.height = right.height

namespace SameSize

variable {first second third : Frame}

theorem refl (frame : Frame) : SameSize frame frame := ⟨rfl, rfl⟩

theorem symm (same : SameSize first second) : SameSize second first :=
  ⟨same.1.symm, same.2.symm⟩

theorem trans (left : SameSize first second) (right : SameSize second third) :
    SameSize first third :=
  ⟨left.1.trans right.1, left.2.trans right.2⟩

end SameSize

/-- Filling a frame does not change its size. -/
theorem fill_sameSize (frame : Frame) (color : Rgb) : SameSize (frame.fill color) frame :=
  ⟨rfl, rfl⟩

/-- Nor do any runs of pixels. -/
theorem fillRuns_sameSize (rows : List Nat) (start : Nat → Nat) (count : Nat) (color : Rgb)
    (frame : Frame) :
    SameSize (rows.foldl (fun drawn row => drawn.fillRun (start row) count color) frame)
      frame := by
  induction rows generalizing frame with
  | nil => exact SameSize.refl frame
  | cons row rows ih => exact (ih (frame.fillRun (start row) count color)).trans ⟨rfl, rfl⟩

/-- Inside the frame a pixel can be written. -/
theorem setPixel_of_inside {frame : Frame} {x y : Nat} (color : Rgb) (hx : x < frame.width)
    (hy : y < frame.height) :
    ∃ drawn, frame.setPixel x y color = some drawn ∧ SameSize drawn frame := by
  rw [setPixel, if_neg (by omega)]
  exact ⟨_, rfl, rfl, rfl⟩

/-- A rectangle can be filled when it is not empty and lies inside the frame. -/
theorem fillRect_isSome_iff {frame : Frame} {x y width height : Nat} {color : Rgb} :
    (frame.fillRect x y width height color).isSome = true ↔
      (0 < width ∧ 0 < height) ∧ x + width ≤ frame.width ∧ y + height ≤ frame.height := by
  rw [fillRect]
  split
  next empty => exact iff_of_false Bool.false_ne_true (by omega)
  next inside =>
    split
    next beyond => exact iff_of_false Bool.false_ne_true (by omega)
    next room => exact iff_of_true rfl (by omega)

/-- A rectangle inside the frame can be filled. -/
theorem fillRect_of_inside {frame : Frame} {x y width height : Nat} (color : Rgb)
    (hwidth : 0 < width) (hheight : 0 < height) (hx : x + width ≤ frame.width)
    (hy : y + height ≤ frame.height) :
    ∃ drawn, frame.fillRect x y width height color = some drawn ∧ SameSize drawn frame := by
  rw [fillRect, if_neg (by omega), if_neg (by omega)]
  exact ⟨_, rfl, fillRuns_sameSize _ _ _ _ _⟩

end Frame

end PixelStatus
