/-
# Slides are moving windows

A slide lays the two frames end to end along its axis and shows a window of the
display's size. The window starts on the frame that leaves and moves to the one
that arrives; for the directions right and down the two frames are laid in the
opposite order, and the window moves backward.
-/

import PixelStatus.Core.TransitionPictures
import Mathlib.Algebra.Order.Floor.Ring

namespace PixelStatus

open Layer

/-! ## Two pictures end to end -/

/-- Two pictures side by side, the left one so wide. -/
def beside (width : Nat) (left right : Layer Place Rgb) : Layer Place Rgb := fun place =>
  if place.1 < width then left place else right (place.1 - width, place.2)

/-- Two pictures on top of each other, the upper one so high. -/
def atop (height : Nat) (upper lower : Layer Place Rgb) : Layer Place Rgb := fun place =>
  if place.2 < height then upper place else lower (place.1, place.2 - height)

/-- What a rectangle shows of a picture that begins at its corner. -/
def window (bounds : LayoutBounds) (across down : Nat) (picture : Layer Place Rgb) :
    Layer Place Rgb := fun place =>
  if bounds.Covers place.1 place.2 then picture (place.1 + across, place.2 + down) else none

/-- The transitions that slide. -/
def CardTransition.Slides (transition : CardTransition) : Prop :=
  transition ≠ .instant ∧ transition ≠ .fade

instance (transition : CardTransition) : Decidable transition.Slides :=
  inferInstanceAs (Decidable (_ ∧ _))

def slidesAcross (transition : CardTransition) : Bool :=
  transition = .slideLeft || transition = .slideRight

/-- The frames as a slide lays them. -/
def slideStrip (transition : CardTransition) (source target : Frame) : Layer Place Rgb :=
  match transition with
  | .slideLeft => beside source.width source.picture target.picture
  | .slideRight => beside target.width target.picture source.picture
  | .slideUp => atop source.height source.picture target.picture
  | _ => atop target.height target.picture source.picture

/-- Where the window of a slide begins, by how far it has moved. -/
def slideCorner (transition : CardTransition) (extent offset : Nat) : Nat × Nat :=
  match transition with
  | .slideLeft => (offset, 0)
  | .slideRight => (extent - offset, 0)
  | .slideUp => (0, offset)
  | _ => (0, extent - offset)

/-- The side of a frame along which a slide moves. -/
def slideExtent (transition : CardTransition) (frame : Frame) : Nat :=
  if slidesAcross transition then frame.width else frame.height

/-- What a slide shows when it has moved so far. -/
def slideWindow (transition : CardTransition) (offset : Nat) (source target output : Frame) :
    Layer Place Rgb :=
  let corner := slideCorner transition (slideExtent transition output) offset
  window output.bounds corner.1 corner.2 (slideStrip transition source target)

/-- How far a slide has moved. -/
def slideOffset (round : Rounding) (transition : CardTransition) (progress : Double)
    (frame : Frame) : Nat :=
  min (slideExtent transition frame)
    (truncate (Double.mul round progress (.finite (slideExtent transition frame))))

/-- Whether a slide reads the frame that arrives, and where, in exact integers. -/
def slideRead (transition : CardTransition) (width height offset x y : Nat) :
    Bool × Int × Int :=
  match transition with
  | .slideLeft =>
      if x + offset < width then (false, (x + offset : Int), y)
      else (true, (x + offset - width : Int), y)
  | .slideRight =>
      if x ≥ offset then (false, (x - offset : Int), y)
      else (true, (width - offset + x : Int), y)
  | .slideUp =>
      if y + offset < height then (false, x, (y + offset : Int))
      else (true, x, (y + offset - height : Int))
  | _ =>
      if y ≥ offset then (false, x, (y - offset : Int))
      else (true, x, (height - offset + y : Int))

/-! ## Offsets -/

section

variable {round : Rounding} {transition : CardTransition} {progress : Double} {output : Frame}

theorem slideOffset_le : slideOffset round transition progress output ≤
    slideExtent transition output := Nat.min_le_left _ _

/-- A slide paints each pixel that it reads. -/
theorem composeTransition_of_slides (slides : transition.Slides) (source target : Frame) :
    composeTransition round source target transition progress output =
      paintAll output (slidePixel source target transition output.width output.height
        (slideOffset round transition progress output)) := by
  unfold composeTransition slideOffset slideExtent slidesAcross
  dsimp only
  rw [if_neg slides.2]
  simp only [Bool.or_eq_true, decide_eq_true_eq]

end

/-- Later is farther, in exact arithmetic. -/
theorem slideOffset_mono {transition : CardTransition} {output : Frame} {earlier later : ℚ}
    (le : earlier ≤ later) :
    slideOffset Double.exact transition (.finite earlier) output ≤
      slideOffset Double.exact transition (.finite later) output := by
  apply min_le_min_left
  apply Int.toNat_le_toNat
  apply Int.floor_mono
  exact mul_le_mul_of_nonneg_right le (Nat.cast_nonneg _)

/-! ## Reading inside the frames -/

section

variable {transition : CardTransition} {source target output : Frame} {offset x y : Nat}

/-- Inside the frame the picture shows its pixels. -/
theorem picture_eq_pixelAt (inside : output.bounds.Covers x y) :
    output.picture (x, y) = some (pixelAt output x y) := by
  obtain ⟨color, shown⟩ := Option.isSome_iff_exists.mp
    ((@Frame.picture_isSome output (x, y)).mpr inside)
  have pixel : output.pixel x y = some color := shown
  rw [shown, pixelAt, pixel, Option.getD_some]

/-- In exact integers a slide reads inside the frames. -/
theorem slideRead_inside (across : x < output.width) (down : y < output.height)
    (moved : offset ≤ slideExtent transition output) :
    let read := slideRead transition output.width output.height offset x y
    (0 ≤ read.2.1 ∧ read.2.1 < output.width) ∧ 0 ≤ read.2.2 ∧ read.2.2 < output.height := by
  unfold slideRead
  cases transition with
  | slideLeft | slideRight =>
      change offset ≤ output.width at moved
      dsimp only
      split <;> dsimp only <;> omega
  | _ =>
      change offset ≤ output.height at moved
      dsimp only
      split <;> dsimp only <;> omega

/-- The pixel that a slide shows is the one that it reads there. -/
theorem slidePixel_eq_read (moved : offset ≤ slideExtent transition output) :
    let read := slideRead transition output.width output.height offset x y
    slidePixel source target transition output.width output.height offset x y =
      pixelAt (if read.1 then target else source) read.2.1.toNat read.2.2.toNat := by
  unfold slidePixel slideRead
  cases transition with
  | slideLeft | slideRight =>
      change offset ≤ output.width at moved
      dsimp only
      split <;> simp only [Bool.false_eq_true, if_true, if_false] <;> congr 1 <;> omega
  | _ =>
      change offset ≤ output.height at moved
      dsimp only
      split <;> simp only [Bool.false_eq_true, if_true, if_false] <;> congr 1 <;> omega

/-- A slide shows its window of the frames laid end to end. -/
theorem slideStrip_eq (hsource : Frame.SameSize source output)
    (htarget : Frame.SameSize target output) (across : x < output.width) (down : y < output.height)
    (moved : offset ≤ slideExtent transition output) :
    let corner := slideCorner transition (slideExtent transition output) offset
    slideStrip transition source target (x + corner.1, y + corner.2) =
      some (slidePixel source target transition output.width output.height offset x y) := by
  have leaving (place row : Nat) (hplace : place < output.width) (hrow : row < output.height) :
      source.picture (place, row) = some (pixelAt source place row) :=
    picture_eq_pixelAt (Frame.covers_bounds.mpr ⟨hsource.1.symm ▸ hplace, hsource.2.symm ▸ hrow⟩)
  have arriving (place row : Nat) (hplace : place < output.width) (hrow : row < output.height) :
      target.picture (place, row) = some (pixelAt target place row) :=
    picture_eq_pixelAt (Frame.covers_bounds.mpr ⟨htarget.1.symm ▸ hplace, htarget.2.symm ▸ hrow⟩)
  -- Right and down lay the arriving frame first, so their window begins behind what is left.
  cases transition with
  | slideLeft =>
      change offset ≤ output.width at moved
      change beside source.width _ _ (x + offset, y) = some (if x + offset < output.width then _
        else _)
      rw [beside, hsource.1]
      split
      next before => exact leaving _ _ before down
      next behind => exact arriving _ _ (by omega) down
  | slideRight =>
      change offset ≤ output.width at moved
      change beside target.width _ _ (x + (output.width - offset), y) = some (if x ≥ offset then _
        else _)
      rw [beside, htarget.1]
      by_cases reached : x ≥ offset
      · have column : x + (output.width - offset) - output.width = x - offset := by omega
        rw [if_pos reached, if_neg (by omega), column]
        exact leaving _ _ (by omega) down
      · rw [if_neg reached, if_pos (by omega), Nat.add_comm x]
        exact arriving _ _ (by omega) down
  | slideUp =>
      change offset ≤ output.height at moved
      change atop source.height _ _ (x, y + offset) = some (if y + offset < output.height then _
        else _)
      rw [atop, hsource.2]
      split
      next before => exact leaving _ _ across before
      next behind => exact arriving _ _ across (by omega)
  | _ =>
      change offset ≤ output.height at moved
      change atop target.height _ _ (x, y + (output.height - offset)) = some (if y ≥ offset then _
        else _)
      rw [atop, htarget.2]
      by_cases reached : y ≥ offset
      · have row : y + (output.height - offset) - output.height = y - offset := by omega
        rw [if_pos reached, if_neg (by omega), row]
        exact leaving _ _ across (by omega)
      · rw [if_neg reached, if_pos (by omega), Nat.add_comm y]
        exact arriving _ _ across (by omega)

/-! ## Frames that are painted over -/

/-- A painted frame shows the colour of the place. -/
theorem pixelAt_paintAll {color : Nat → Nat → Rgb} (across : x < output.width)
    (down : y < output.height) : pixelAt (paintAll output color) x y = color x y := by
  have inside : output.bounds.Covers x y := Frame.covers_bounds.mpr ⟨across, down⟩
  have shown : (paintAll output color).pixel x y = some (color x y) :=
    (congrFun (paintAll_picture output color) (x, y)).trans (if_pos inside)
  rw [pixelAt, shown, Option.getD_some]

/-- Painting depends on the colours of the frame's places alone. -/
theorem paintAll_congr {color other : Nat → Nat → Rgb}
    (same : ∀ x y, x < output.width → y < output.height → color x y = other x y) :
    paintAll output color = paintAll output other := by
  apply Frame.eq_of_picture
  · exact (paintAll_paints output color).size.trans (paintAll_paints output other).size.symm
  · rw [paintAll_picture, paintAll_picture]
    funext place
    unfold wallpaper
    split
    next covered =>
      have inside := Frame.covers_bounds.mp covered
      rw [same _ _ inside.1 inside.2]
    · rfl

/-- Painting the pixels of a frame makes that frame. -/
theorem paintAll_of_pixels {color : Nat → Nat → Rgb} (size : Frame.SameSize source output)
    (same : ∀ x y, x < output.width → y < output.height → color x y = pixelAt source x y) :
    paintAll output color = source := by
  rw [paintAll_congr same]
  apply Frame.eq_of_picture ((paintAll_paints output _).size.trans size.symm)
  rw [paintAll_picture]
  funext place
  by_cases inside : output.bounds.Covers place.1 place.2
  · have covered : source.bounds.Covers place.1 place.2 := by
      rw [Frame.covers_bounds, size.1, size.2]
      exact Frame.covers_bounds.mp inside
    exact (if_pos inside).trans (picture_eq_pixelAt covered).symm
  · have outside : ¬ source.bounds.Covers place.1 place.2 := by
      rw [Frame.covers_bounds, size.1, size.2]
      exact fun covered => inside (Frame.covers_bounds.mpr covered)
    exact (if_neg inside).trans (Frame.picture_of_outside outside).symm

end

/-! ## Mirror images -/

/-- A frame with its columns, or else its rows, in the opposite order. -/
def Frame.mirror (columns : Bool) (frame : Frame) : Frame :=
  paintAll frame fun x y =>
    if columns then pixelAt frame (frame.width - 1 - x) y
    else pixelAt frame x (frame.height - 1 - y)

/-- The slide in the other direction along the same axis. -/
def CardTransition.opposite : CardTransition → CardTransition
  | .slideLeft => .slideRight
  | .slideRight => .slideLeft
  | .slideUp => .slideDown
  | .slideDown => .slideUp
  | transition => transition

section

variable {round : Rounding} {transition : CardTransition} {source target output : Frame}
  {progress : Double}

/-- A mirrored frame shows the pixel from the other side. -/
theorem pixelAt_mirror {columns : Bool} {x y : Nat} (across : x < output.width)
    (down : y < output.height) : pixelAt (output.mirror columns) x y =
      if columns then pixelAt output (output.width - 1 - x) y
      else pixelAt output x (output.height - 1 - y) := pixelAt_paintAll across down

/-- Opposite slides are as far along. -/
theorem slideOffset_opposite : slideOffset round transition.opposite progress output =
    slideOffset round transition progress output := by
  cases transition <;> rfl

/-- A slide shows at a place what the opposite one shows at the mirrored place of
mirrored frames. -/
theorem slidePixel_opposite {offset x y : Nat} (slides : transition.Slides)
    (hsource : Frame.SameSize source output) (htarget : Frame.SameSize target output)
    (across : x < output.width) (down : y < output.height)
    (moved : offset ≤ slideExtent transition output) :
    slidePixel source target transition.opposite output.width output.height offset x y =
      if slidesAcross transition then
        slidePixel (source.mirror true) (target.mirror true) transition output.width output.height
          offset (output.width - 1 - x) y
      else
        slidePixel (source.mirror false) (target.mirror false) transition output.width
          output.height offset x (output.height - 1 - y) := by
  have inRow (frame : Frame) (same : Frame.SameSize frame output) (place mirrored : Nat)
      (inside : place < output.width) (sum : place + mirrored + 1 = output.width) :
      pixelAt (frame.mirror true) place y = pixelAt frame mirrored y := by
    rw [pixelAt_mirror (same.1.symm ▸ inside) (same.2.symm ▸ down), if_pos rfl, same.1]
    congr 1
    omega
  have inColumn (frame : Frame) (same : Frame.SameSize frame output) (place mirrored : Nat)
      (inside : place < output.height) (sum : place + mirrored + 1 = output.height) :
      pixelAt (frame.mirror false) x place = pixelAt frame x mirrored := by
    rw [pixelAt_mirror (same.1.symm ▸ across) (same.2.symm ▸ inside), if_neg Bool.false_ne_true,
      same.2]
    congr 1
    omega
  cases transition with
  | slideLeft =>
      change offset ≤ output.width at moved
      change (if x ≥ offset then _ else _) = if output.width - 1 - x + offset < output.width then _
        else _
      by_cases reached : x ≥ offset
      · rw [if_pos reached, if_pos (by omega)]
        exact (inRow source hsource _ _ (by omega) (by omega)).symm
      · rw [if_neg reached, if_neg (by omega)]
        exact (inRow target htarget _ _ (by omega) (by omega)).symm
  | slideRight =>
      change offset ≤ output.width at moved
      change (if x + offset < output.width then _ else _) = if output.width - 1 - x ≥ offset then _
        else _
      by_cases before : x + offset < output.width
      · rw [if_pos before, if_pos (by omega)]
        exact (inRow source hsource _ _ (by omega) (by omega)).symm
      · rw [if_neg before, if_neg (by omega)]
        exact (inRow target htarget _ _ (by omega) (by omega)).symm
  | slideUp =>
      change offset ≤ output.height at moved
      change (if y ≥ offset then _ else _) = if output.height - 1 - y + offset < output.height then _
        else _
      by_cases reached : y ≥ offset
      · rw [if_pos reached, if_pos (by omega)]
        exact (inColumn source hsource _ _ (by omega) (by omega)).symm
      · rw [if_neg reached, if_neg (by omega)]
        exact (inColumn target htarget _ _ (by omega) (by omega)).symm
  | slideDown =>
      change offset ≤ output.height at moved
      change (if y + offset < output.height then _ else _) = if output.height - 1 - y ≥ offset then _
        else _
      by_cases before : y + offset < output.height
      · rw [if_pos before, if_pos (by omega)]
        exact (inColumn source hsource _ _ (by omega) (by omega)).symm
      · rw [if_neg before, if_neg (by omega)]
        exact (inColumn target htarget _ _ (by omega) (by omega)).symm
  | instant => exact absurd rfl slides.1
  | fade => exact absurd rfl slides.2

/-- The opposite of a slide is a slide. -/
theorem CardTransition.opposite_slides (slides : transition.Slides) :
    transition.opposite.Slides := by
  cases transition with
  | instant => exact absurd rfl slides.1
  | fade => exact absurd rfl slides.2
  | _ => exact ⟨nofun, nofun⟩

/-- Opposite slides are mirror images of each other. -/
theorem composeTransition_opposite (slides : transition.Slides)
    (hsource : Frame.SameSize source output) (htarget : Frame.SameSize target output) :
    let columns := slidesAcross transition
    composeTransition round source target transition.opposite progress output =
      (composeTransition round (source.mirror columns) (target.mirror columns) transition progress
        output).mirror columns := by
  intro columns
  have size := @composeTransition_sameSize output round (source.mirror columns)
    (target.mirror columns) transition progress
  rw [composeTransition_of_slides (CardTransition.opposite_slides slides), slideOffset_opposite]
  rw [Frame.mirror, paintAll_eq size]
  apply paintAll_congr
  intro x y across down
  rw [size.1, size.2, composeTransition_of_slides slides, pixelAt_paintAll (by omega) down,
    pixelAt_paintAll across (by omega),
    slidePixel_opposite slides hsource htarget across down slideOffset_le]
  dsimp only [columns]
  split
  next columnwise => rw [columnwise]
  next rowwise => rw [Bool.eq_false_iff.mpr rowwise]

/-! ## The law of slides -/

/-- What a slide shows in its window. -/
theorem composeTransition_picture (slides : transition.Slides)
    (hsource : Frame.SameSize source output) (htarget : Frame.SameSize target output) :
    (composeTransition round source target transition progress output).picture =
      slideWindow transition (slideOffset round transition progress output) source target
        output := by
  rw [composeTransition_of_slides slides, paintAll_picture]
  funext place
  unfold wallpaper slideWindow window
  split
  next covered =>
    have inside := Frame.covers_bounds.mp covered
    exact (slideStrip_eq hsource htarget inside.1 inside.2 slideOffset_le).symm
  · rfl

/-- A slide that has not moved shows the frame that leaves. -/
theorem composeTransition_start (slides : transition.Slides)
    (hsource : Frame.SameSize source output)
    (start : slideOffset round transition progress output = 0) :
    composeTransition round source target transition progress output = source := by
  rw [composeTransition_of_slides slides, start]
  apply paintAll_of_pixels hsource
  intro x y across down
  cases transition with
  | slideLeft => exact if_pos across
  | slideUp => exact if_pos down
  | slideRight =>
      change (if x ≥ 0 then pixelAt source (x - 0) y
        else pixelAt target (output.width - 0 + x) y) = _
      rw [if_pos (Nat.zero_le x), Nat.sub_zero]
  | _ =>
      change (if y ≥ 0 then pixelAt source x (y - 0)
        else pixelAt target x (output.height - 0 + y)) = _
      rw [if_pos (Nat.zero_le y), Nat.sub_zero]

/-- A slide that has moved all the way shows the frame that arrives. -/
theorem composeTransition_finish (slides : transition.Slides)
    (htarget : Frame.SameSize target output)
    (finish : slideOffset round transition progress output = slideExtent transition output) :
    composeTransition round source target transition progress output = target := by
  rw [composeTransition_of_slides slides, finish]
  apply paintAll_of_pixels htarget
  intro x y across down
  cases transition with
  | slideLeft =>
      change (if x + output.width < output.width then _
        else pixelAt target (x + output.width - output.width) y) = _
      rw [if_neg (by omega), Nat.add_sub_cancel]
  | slideRight =>
      change (if x ≥ output.width then _
        else pixelAt target (output.width - output.width + x) y) = _
      rw [if_neg (by omega), Nat.sub_self, Nat.zero_add]
  | slideUp =>
      change (if y + output.height < output.height then _
        else pixelAt target x (y + output.height - output.height)) = _
      rw [if_neg (by omega), Nat.add_sub_cancel]
  | _ =>
      change (if y ≥ output.height then _
        else pixelAt target x (output.height - output.height + y)) = _
      rw [if_neg (by omega), Nat.sub_self, Nat.zero_add]

end

/-- A slide shows exactly a window of the two frames laid end to end, which moves
from the frame that leaves to the one that arrives. -/
structure SlideLaw (source target output : Frame) (transition : CardTransition) (progress : ℚ) :
    Prop where
  bounded : slideOffset Double.exact transition (.finite progress) output ≤
    slideExtent transition output
  forward : ∀ later : ℚ, progress ≤ later →
    slideOffset Double.exact transition (.finite progress) output ≤
      slideOffset Double.exact transition (.finite later) output
  shows : (composeTransition Double.exact source target transition (.finite progress)
      output).picture =
    slideWindow transition (slideOffset Double.exact transition (.finite progress) output) source
      target output
  reads : ∀ x y, x < output.width → y < output.height →
    let read := slideRead transition output.width output.height
      (slideOffset Double.exact transition (.finite progress) output) x y
    ((0 ≤ read.2.1 ∧ read.2.1 < output.width) ∧ 0 ≤ read.2.2 ∧ read.2.2 < output.height) ∧
      (composeTransition Double.exact source target transition (.finite progress)
        output).pixel x y =
          (if read.1 then target else source).pixel read.2.1.toNat read.2.2.toNat
  start : slideOffset Double.exact transition (.finite progress) output = 0 →
    composeTransition Double.exact source target transition (.finite progress) output = source
  finish : slideOffset Double.exact transition (.finite progress) output =
      slideExtent transition output →
    composeTransition Double.exact source target transition (.finite progress) output = target
  mirrored : let columns := slidesAcross transition
    composeTransition Double.exact source target transition.opposite (.finite progress) output =
      (composeTransition Double.exact (source.mirror columns) (target.mirror columns) transition
        (.finite progress) output).mirror columns

/-- Every slide between two frames of one size, at every progress, obeys the law. -/
theorem slide_law {source target output : Frame} (hsource : Frame.SameSize source output)
    (htarget : Frame.SameSize target output) {transition : CardTransition}
    (slides : transition.Slides) (progress : ℚ) :
    SlideLaw source target output transition progress where
  bounded := slideOffset_le
  forward _ le := slideOffset_mono le
  shows := composeTransition_picture slides hsource htarget
  reads x y across down := by
    intro read
    have inside : (0 ≤ read.2.1 ∧ read.2.1 < output.width) ∧ 0 ≤ read.2.2 ∧
        read.2.2 < output.height := slideRead_inside across down slideOffset_le
    refine ⟨inside, ?_⟩
    have size := @composeTransition_sameSize output Double.exact source target transition
      (.finite progress)
    have chosen : Frame.SameSize (if read.1 then target else source) output := by
      cases read.1
      · exact hsource
      · exact htarget
    have shown := picture_eq_pixelAt (Frame.covers_bounds.mpr
      ⟨size.1.symm ▸ across, size.2.symm ▸ down⟩)
    have seen := @picture_eq_pixelAt (if read.1 then target else source) read.2.1.toNat
      read.2.2.toNat (Frame.covers_bounds.mpr ⟨by rw [chosen.1]; omega, by rw [chosen.2]; omega⟩)
    refine shown.trans (Eq.trans ?_ seen.symm)
    rw [composeTransition_of_slides slides, pixelAt_paintAll across down,
      slidePixel_eq_read slideOffset_le]
  start := composeTransition_start slides hsource
  finish := composeTransition_finish slides htarget
  mirrored := composeTransition_opposite slides hsource htarget

/-- A red frame that makes way for a black one. -/
theorem slide_law_sample :
    SlideLaw (Frame.create 3 2 { r := 255 }) (Frame.create 3 2) (Frame.create 3 2) .slideRight
      (1 / 2) := by
  have size (color : Rgb) : Frame.SameSize (Frame.create 3 2 color) (Frame.create 3 2) :=
    ⟨rfl, rfl⟩
  have slides : CardTransition.slideRight.Slides := by decide
  exact slide_law (size _) (size _) slides (1 / 2)

end PixelStatus
