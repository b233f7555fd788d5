/-
# Frames as pictures

A frame shows a colour in each of its places. Every drawing operation paints a
layer over what a frame shows, and two frames of one size that show the same are
equal.
-/

import PixelStatus.Core.Frame
import PixelStatus.Core.Rectangles
import PixelStatus.Logic.Layers

namespace PixelStatus

open Layer

/-- A column and a row. -/
abbrev Place := Nat × Nat

/-- One colour in every place of a rectangle. -/
def rectangle (bounds : LayoutBounds) (color : Rgb) : Layer Place Rgb :=
  area (fun place => bounds.Covers place.1 place.2) color

/-- One colour in one place. -/
def dot (x y : Nat) (color : Rgb) : Layer Place Rgb := area (fun place => place = (x, y)) color

namespace Frame

/-- What a frame shows. -/
def picture (frame : Frame) : Layer Place Rgb := fun place => frame.pixel place.1 place.2

/-- The rectangle of a frame. -/
def bounds (frame : Frame) : LayoutBounds := { width := frame.width, height := frame.height }

variable {frame drawn : Frame} {place : Place} {color : Rgb}

/-- A frame's rectangle covers the places inside its sides. -/
theorem covers_bounds {x y : Nat} : frame.bounds.Covers x y ↔ x < frame.width ∧ y < frame.height := by
  simp only [LayoutBounds.Covers, bounds, Nat.zero_le, Nat.zero_add, true_and]

/-- The index of a place in the row-major order. -/
theorem index_lt (inside : frame.bounds.Covers place.1 place.2) :
    place.2 * frame.width + place.1 < frame.pixels.length := by
  obtain ⟨across, down⟩ := covers_bounds.mp inside
  rw [frame.sized]
  calc place.2 * frame.width + place.1 < place.2 * frame.width + frame.width :=
        Nat.add_lt_add_left across _
    _ = (place.2 + 1) * frame.width := (Nat.succ_mul _ _).symm
    _ ≤ frame.height * frame.width := Nat.mul_le_mul_right _ down
    _ = frame.width * frame.height := Nat.mul_comm _ _

/-- Different places have different indices. -/
theorem index_inj {x y x' y' width : Nat} (hx : x < width) (hx' : x' < width)
    (same : y * width + x = y' * width + x') : x = x' ∧ y = y' := by
  have positive : 0 < width := Nat.zero_lt_of_lt hx
  have column : x = x' := by
    have rests := congrArg (· % width) same
    simpa [Nat.mod_eq_of_lt hx, Nat.mod_eq_of_lt hx'] using rests
  subst column
  exact ⟨rfl, Nat.eq_of_mul_eq_mul_right positive (Nat.add_right_cancel same)⟩

/-- An index in the stretch of a row belongs to that row. -/
theorem row_of_index {x y row width : Nat} (hx : x < width) (low : row * width ≤ y * width + x)
    (high : y * width + x < row * width + width) : y = row := by
  have mine : (y * width + x) / width = y := by
    apply Nat.div_eq_of_lt_le
    · exact Nat.le_add_right _ _
    · rw [Nat.succ_mul]
      omega
  rw [← mine]
  apply Nat.div_eq_of_lt_le low
  rwa [Nat.succ_mul]

/-- Inside, the picture shows the pixels. -/
theorem picture_of_inside (inside : frame.bounds.Covers place.1 place.2) :
    frame.picture place = frame.pixels[place.2 * frame.width + place.1]? := by
  obtain ⟨across, down⟩ := covers_bounds.mp inside
  rw [picture, pixel, if_neg (by omega)]

/-- Outside, it shows nothing. -/
theorem picture_of_outside (outside : ¬ frame.bounds.Covers place.1 place.2) :
    frame.picture place = none := by
  rw [covers_bounds] at outside
  rw [picture, pixel, if_pos (by omega)]

/-- A frame shows a colour in exactly the places of its rectangle. -/
theorem picture_isSome : (frame.picture place).isSome = true ↔
    frame.bounds.Covers place.1 place.2 := by
  by_cases inside : frame.bounds.Covers place.1 place.2
  · rw [picture_of_inside inside, List.getElem?_eq_getElem (index_lt inside)]
    exact iff_of_true rfl inside
  · rw [picture_of_outside inside]
    exact iff_of_false Bool.false_ne_true inside

/-- Frames of one size that show the same are equal. -/
theorem eq_of_picture {left right : Frame} (same : SameSize left right)
    (shows : left.picture = right.picture) : left = right := by
  obtain ⟨width, height, pixels, sized⟩ := left
  obtain ⟨width', height', pixels', sized'⟩ := right
  obtain ⟨rfl, rfl⟩ : width = width' ∧ height = height' := same
  have equal : pixels = pixels' := by
    apply List.ext_getElem?
    intro index
    by_cases inside : index < width * height
    · have positive : 0 < width := Nat.pos_of_mul_pos_right (Nat.zero_lt_of_lt inside)
      have place := congrFun shows (index % width, index / width)
      have covered : ∀ pixels sized, (Frame.mk width height pixels sized).bounds.Covers
          (index % width) (index / width) := fun _ _ =>
        covers_bounds.mpr ⟨Nat.mod_lt _ positive, Nat.div_lt_of_lt_mul inside⟩
      rw [@picture_of_inside _ (_, _) (covered _ sized),
        @picture_of_inside _ (_, _) (covered _ sized')] at place
      simpa [Nat.div_add_mod'] using place
    · rw [List.getElem?_eq_none (by omega), List.getElem?_eq_none (by omega)]
  subst equal
  rfl

/-! ## Operations paint layers -/

/-- One frame shows another with a layer over it. -/
structure Paints (layer : Layer Place Rgb) (frame drawn : Frame) : Prop where
  size : SameSize drawn frame
  picture : drawn.picture = frame.picture.beneath layer

namespace Paints

variable {lower upper : Layer Place Rgb} {first second third : Frame}

theorem refl (frame : Frame) : Paints blank frame frame := ⟨SameSize.refl frame, rfl⟩

/-- Two paintings in a row are painted one over the other. -/
theorem trans (below : Paints lower first second) (above : Paints upper second third) :
    Paints (lower.beneath upper) first third where
  size := above.size.trans below.size
  picture := by rw [above.picture, below.picture, beneath_assoc]

/-- A fold of steps paints the layers of its items, in their order. -/
theorem foldl {α : Type} {step : Frame → α → Frame} {layer : α → Layer Place Rgb}
    {items : List α} {start : Frame}
    (paints : ∀ item ∈ items, ∀ frame, SameSize frame start →
      Paints (layer item) frame (step frame item)) :
    Paints (stack (items.map layer)) start (items.foldl step start) := by
  induction items generalizing start with
  | nil => exact refl start
  | cons item items ih =>
      have parts := List.forall_mem_cons.mp paints
      have head := parts.1 start (SameSize.refl start)
      rw [List.map_cons, stack_cons, List.foldl_cons]
      apply head.trans
      apply ih
      exact fun other member frame same => parts.2 other member frame (same.trans head.size)

end Paints

/-- What an operation paints, by the indices of the pixels. -/
theorem paints_of_pixels {layer : Layer Place Rgb} (same : SameSize drawn frame)
    (within : layer.Within fun place => frame.bounds.Covers place.1 place.2)
    (pixels : ∀ place, frame.bounds.Covers place.1 place.2 →
      drawn.pixels[place.2 * frame.width + place.1]? =
        (layer place).or frame.pixels[place.2 * frame.width + place.1]?) :
    Paints layer frame drawn := by
  refine ⟨same, funext fun place => ?_⟩
  have bounds : drawn.bounds = frame.bounds := by rw [Frame.bounds, same.1, same.2, Frame.bounds]
  by_cases inside : frame.bounds.Covers place.1 place.2
  · rw [beneath, picture_of_inside inside, picture_of_inside (bounds ▸ inside), same.1]
    exact pixels place inside
  · rw [beneath, picture_of_outside inside, picture_of_outside (bounds ▸ inside),
      within.eq_none inside, Option.none_or]

/-- Writing a pixel paints it. -/
theorem setPixel_paints {x y : Nat} (set : frame.setPixel x y color = some drawn) :
    Paints (dot x y color) frame drawn := by
  unfold setPixel at set
  split at set
  · cases set
  next inside =>
    cases set
    refine paints_of_pixels ⟨rfl, rfl⟩ ?_ ?_
    · intro place shown painted
      obtain rfl := (area_eq_some.mp painted).1
      exact covers_bounds.mpr (by omega)
    · intro place covered
      by_cases here : place = (x, y)
      · subst here
        rw [List.getElem?_set_self (index_lt covered), dot, area, if_pos rfl, Option.some_or]
      · rw [dot, area, if_neg here, Option.none_or]
        apply List.getElem?_set_ne
        intro same
        have parts := index_inj (by omega) (covers_bounds.mp covered).1 same
        exact here (Prod.ext parts.1.symm parts.2.symm)

/-- A run inside one row paints it. -/
theorem fillRun_paints {x row count : Nat} (across : x + count ≤ frame.width)
    (down : row < frame.height) :
    Paints (rectangle { x, y := row, width := count, height := 1 } color) frame
      (frame.fillRun (row * frame.width + x) count color) := by
  refine paints_of_pixels ⟨rfl, rfl⟩ ?_ ?_
  · intro place shown painted
    have covered := (area_eq_some.mp painted).1
    simp only [LayoutBounds.Covers] at covered
    exact covers_bounds.mpr (by omega)
  · intro place covered
    have column := (covers_bounds.mp covered).1
    have here : (row * frame.width + x ≤ place.2 * frame.width + place.1 ∧
        place.2 * frame.width + place.1 < row * frame.width + x + count) ↔
        LayoutBounds.Covers { x, y := row, width := count, height := 1 } place.1 place.2 := by
      simp only [LayoutBounds.Covers]
      refine ⟨?_, ?_⟩
      · rintro ⟨low, high⟩
        have same : place.2 = row := row_of_index column (by omega) (by omega)
        rw [same] at low high
        omega
      · rintro ⟨inRun, low, high⟩
        obtain same : place.2 = row := by omega
        rw [same]
        omega
    rw [fillRun, List.getElem?_mapIdx, rectangle, area]
    simp only [here]
    split
    · rw [List.getElem?_eq_getElem (index_lt covered)]
      rfl
    · rw [Option.none_or]
      exact Option.map_id'

/-- Filling a rectangle paints it. -/
theorem fillRect_paints {x y width height : Nat}
    (filled : frame.fillRect x y width height color = some drawn) :
    Paints (rectangle { x, y, width, height } color) frame drawn := by
  unfold fillRect at filled
  split at filled
  · cases filled
  split at filled
  · cases filled
  cases filled
  have runs : Paints (stack ((List.range' y height).map fun row =>
      rectangle { x, y := row, width, height := 1 } color)) frame
      ((List.range' y height).foldl
        (fun drawn row => drawn.fillRun (row * frame.width + x) width color) frame) := by
    apply Paints.foldl
    intro row member drawn same
    have down := List.mem_range'_1.mp member
    rw [← same.1]
    apply fillRun_paints
    · rw [same.1]
      omega
    · rw [same.2]
      omega
  refine ⟨runs.size, ?_⟩
  rw [runs.picture]
  congr 1
  funext place
  by_cases covered : LayoutBounds.Covers { x, y, width, height } place.1 place.2
  · rw [rectangle, area, if_pos covered]
    have member : place.2 ∈ List.range' y height := List.mem_range'_1.mpr covered.2
    apply stack_of_agree (List.mem_map_of_mem member)
    · exact if_pos ⟨covered.1, by simp⟩
    · intro other hother shown painted
      obtain ⟨row, _, rfl⟩ := List.mem_map.mp hother
      exact (area_eq_some.mp painted).2.symm
  · rw [rectangle, area, if_neg covered]
    apply stack_eq_none.mpr
    intro other hother
    obtain ⟨row, hrow, rfl⟩ := List.mem_map.mp hother
    have down := List.mem_range'_1.mp hrow
    apply if_neg
    simp only [LayoutBounds.Covers] at covered ⊢
    omega

/-- A new frame is a rectangle of one colour. -/
theorem create_picture (width height : Nat) (color : Rgb) :
    (create width height color).picture = rectangle { width, height } color := by
  funext place
  by_cases inside : LayoutBounds.Covers { width, height } place.1 place.2
  · have index : place.2 * width + place.1 < width * height := by
      have bound := @index_lt (create width height color) place inside
      rwa [create, List.length_replicate] at bound
    rw [rectangle, area, if_pos inside]
    exact (@picture_of_inside (create width height color) place inside).trans
      (List.getElem?_replicate_of_lt index)
  · rw [rectangle, area, if_neg inside]
    exact @picture_of_outside (create width height color) place inside

end Frame

end PixelStatus
