/-
# What a transition paints

A transition overwrites every pixel of its output, so nothing of the frame that
was there before remains.
-/

import PixelStatus.Core.WidgetLayers

namespace PixelStatus

open Layer

/-- A colour for each place of a rectangle. -/
def wallpaper (bounds : LayoutBounds) (color : Nat → Nat → Rgb) : Layer Place Rgb :=
  fun place =>
    if bounds.Covers place.1 place.2 then some (color place.1 place.2) else none

/-- A wallpaper shows its colours inside its rectangle. -/
theorem wallpaper_eq_some {bounds : LayoutBounds} {color : Nat → Nat → Rgb} {place : Place}
    {shown : Rgb} : wallpaper bounds color place = some shown ↔
      bounds.Covers place.1 place.2 ∧ color place.1 place.2 = shown := by
  unfold wallpaper
  split
  next covered => simp [covered]
  next uncovered => simp [uncovered]

variable {output : Frame} {color : Nat → Nat → Rgb}

/-- Pixel by pixel, the whole frame is painted. -/
theorem stack_dots : stack ((List.range output.height).map fun y =>
    stack ((List.range output.width).map fun x => dot x y (color x y))) =
      wallpaper output.bounds color := by
  apply stack_of_pieces
  · intro piece hpiece place shown painted
    obtain ⟨y, hy, rfl⟩ := List.mem_map.mp hpiece
    obtain ⟨pixel, hpixel, painted⟩ := exists_of_stack painted
    obtain ⟨x, hx, rfl⟩ := List.mem_map.mp hpixel
    obtain ⟨rfl, same⟩ := area_eq_some.mp painted
    exact wallpaper_eq_some.mpr
      ⟨Frame.covers_bounds.mpr ⟨List.mem_range.mp hx, List.mem_range.mp hy⟩, same⟩
  · intro place shown painted
    obtain ⟨covered, same⟩ := wallpaper_eq_some.mp painted
    have inside := Frame.covers_bounds.mp covered
    refine ⟨_, List.mem_map_of_mem (List.mem_range.mpr inside.2), ?_⟩
    apply stack_of_agree (List.mem_map_of_mem (List.mem_range.mpr inside.1))
    · exact area_eq_some.mpr ⟨rfl, same⟩
    · intro other hother seen paints
      obtain ⟨x, _, rfl⟩ := List.mem_map.mp hother
      obtain ⟨here, seen⟩ := area_eq_some.mp paints
      have column : place.1 = x := congrArg Prod.fst here
      rw [← seen, ← same, column]

/-- Painting every place is hanging a wallpaper. -/
theorem paintAll_paints (output : Frame) (color : Nat → Nat → Rgb) :
    Frame.Paints (wallpaper output.bounds color) output (paintAll output color) := by
  rw [← stack_dots]
  apply Frame.Paints.foldl
  intro y hy frame same
  apply Frame.Paints.foldl
  intro x hx drawn same'
  have size := same'.trans same
  apply putPixel_paints
  exact Frame.covers_bounds.mpr
    ⟨size.1 ▸ List.mem_range.mp hx, size.2 ▸ List.mem_range.mp hy⟩

/-- A frame that is painted all over shows the colours and nothing else. -/
theorem paintAll_picture (output : Frame) (color : Nat → Nat → Rgb) :
    (paintAll output color).picture = wallpaper output.bounds color := by
  rw [(paintAll_paints output color).picture]
  funext place
  by_cases inside : output.bounds.Covers place.1 place.2
  · have painted : wallpaper output.bounds color place = some (color place.1 place.2) :=
      if_pos inside
    rw [beneath_of_some painted, painted]
  · rw [beneath, Frame.picture_of_outside inside, Option.or_none]

/-- What was in the frame does not matter. -/
theorem paintAll_eq {other : Frame} (same : Frame.SameSize output other) :
    paintAll output color = paintAll other color := by
  have bounds : output.bounds = other.bounds := by
    rw [Frame.bounds, same.1, same.2, Frame.bounds]
  apply Frame.eq_of_picture
  · exact (paintAll_paints output color).size.trans
      (same.trans (paintAll_paints other color).size.symm)
  · rw [paintAll_picture, paintAll_picture, bounds]

variable {round : Rounding} {source target : Frame} {transition : CardTransition}
  {progress : Double}

/-- A composed frame is as large as the output. -/
theorem composeTransition_sameSize :
    Frame.SameSize (composeTransition round source target transition progress output) output := by
  unfold composeTransition
  dsimp only
  split <;> exact (paintAll_paints output _).size

/-- What is composed does not depend on the old pixels. -/
theorem composeTransition_eq {other : Frame} (same : Frame.SameSize output other) :
    composeTransition round source target transition progress output =
      composeTransition round source target transition progress other := by
  unfold composeTransition
  rw [same.1, same.2]
  dsimp only
  split <;> exact paintAll_eq same

end PixelStatus
