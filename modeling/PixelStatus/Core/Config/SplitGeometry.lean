/-
# The geometry of a split

What a row or a column makes of its rectangle: children across the whole of the
other axis, one behind the other from end to end, each of its fixed size or
within a pixel of its exact share. The same rectangles come out when every step
is taken in 64-bit words, none of which wraps.
-/

import Mathlib.Algebra.Group.Action.Defs
import Mathlib.Algebra.Order.BigOperators.Group.List
import PixelStatus.Core.Config.LayoutTreeFits
import PixelStatus.Logic.Checked
import PixelStatus.Logic.Segments

namespace PixelStatus

open Logged

/-! ## In machine words -/

/-- The first number that neither `size_t` nor `uint64_t` holds. -/
def wordLimit : Nat := 2 ^ 64

/-- The loop that resolves the weighted children, step by step. -/
def resolveWords (extent total previous cumulative : Nat) :
    List Allocation → Option (List Nat)
  | [] => some []
  | allocation :: rest =>
      if allocation.fixed then do
        let extents ← resolveWords extent total previous cumulative rest
        return allocation.value :: extents
      else do
        let cumulative ← Checked.add wordLimit cumulative allocation.value
        let product ← Checked.mul wordLimit extent cumulative
        let next := product / total
        let resolved ← Checked.sub next previous
        let extents ← resolveWords extent total next cumulative rest
        return resolved :: extents

/-- The loop that moves the cursor over the children. -/
def placeWords (bounds : LayoutBounds) (horizontal : Bool) (gap cursor : Nat) :
    List Nat → Option (List LayoutBounds)
  | [] => some []
  | extent :: extents => do
      let step ← Checked.add wordLimit extent gap
      let following ← Checked.add wordLimit cursor step
      let children ← placeWords bounds horizontal gap following extents
      return childBounds bounds horizontal cursor extent :: children

/-- Every sum, product and difference of a split, in the order of the source. -/
def splitWords (horizontal : Bool) (gap : Nat) (allocations : List Allocation)
    (bounds : LayoutBounds) : Option (List LayoutBounds) := do
  let extent := axisExtent bounds horizontal
  let gaps ← Checked.sub allocations.length 1
  let totalGaps ← Checked.mul wordLimit gap gaps
  let fixed ← Checked.sum wordLimit 0
    ((allocations.filter Allocation.fixed).map Allocation.value)
  let _count ← Checked.sum wordLimit 0
    ((allocations.filter fun allocation => !allocation.fixed).map fun _ => 1)
  let total ← Checked.sum wordLimit 0
    ((allocations.filter fun allocation => !allocation.fixed).map Allocation.value)
  let _taken ← Checked.add wordLimit fixed totalGaps
  let left ← Checked.sub extent fixed
  let weighted ← Checked.sub left totalGaps
  let extents ← resolveWords weighted total 0 0 allocations
  placeWords bounds horizontal gap (axisStart bounds horizontal) extents

/-! ## What a split is -/

/-- What a child may get of an extent that the weighted children share. -/
def Share (extent total : Nat) (allocation : Allocation) (size : Nat) : Prop :=
  if allocation.fixed then size = allocation.value
  else |(size : ℚ) - extent * allocation.value / total| < 1

structure SplitGeometry (horizontal : Bool) (gap : Nat) (allocations : List Allocation)
    (bounds : LayoutBounds) (children : List LayoutBounds) : Prop where
  crossAxis : ∀ child ∈ children,
    axisStart child (!horizontal) = axisStart bounds (!horizontal) ∧
      axisExtent child (!horizontal) = axisExtent bounds (!horizontal)
  laid : Segments.Laid (axisStart · horizontal) (axisExtent · horizontal) gap
    (axisStart bounds horizontal) (axisStart bounds horizontal + axisExtent bounds horizontal)
    children
  positive : ∀ child ∈ children, 1 ≤ axisExtent child horizontal
  room : fixedTotal allocations + gap * (allocations.length - 1) ≤ axisExtent bounds horizontal
  shares : List.Forall₂
    (fun allocation child => Share
      (axisExtent bounds horizontal - fixedTotal allocations - gap * (allocations.length - 1))
      (totalWeight allocations) allocation (axisExtent child horizontal))
    allocations children
  words : splitWords horizontal gap allocations bounds = some children

/-! ## The sizes -/

variable {path : Bytes} {bounds : LayoutBounds} {horizontal : Bool} {gap : Nat}

/-- The resolved sizes, without the errors. -/
def resolvedSizes (extent total cumulative : Nat) : List Allocation → List Nat
  | [] => []
  | allocation :: rest =>
      if allocation.fixed then
        allocation.value :: resolvedSizes extent total cumulative rest
      else
        let next := cumulative + allocation.value
        (cut extent total next - cut extent total cumulative) ::
          resolvedSizes extent total next rest

/-- The extents that the loop yields are the resolved sizes. -/
theorem resolveExtents_sizes {allocations : List Allocation} {extent total cumulative : Nat} :
    Ensures (OfSome fun extents => extents = resolvedSizes extent total cumulative allocations)
      (resolveExtents path extent total cumulative allocations) := by
  induction allocations generalizing cumulative with
  | nil => exact Ensures.pure (OfSome.some rfl)
  | cons allocation rest ih =>
      unfold resolveExtents resolvedSizes
      dsimp only
      split
      · apply ih.bindMap
        rintro extents rfl
        rfl
      · split
        · exact ensures_reject
        · apply ih.bindMap
          rintro extents rfl
          rfl

/-- Every size is the fixed one or near the exact share. -/
theorem resolvedSizes_shares (extent total : Nat) (allocations : List Allocation)
    (cumulative : Nat) : List.Forall₂ (Share extent total) allocations
      (resolvedSizes extent total cumulative allocations) := by
  induction allocations generalizing cumulative with
  | nil => exact .nil
  | cons allocation rest ih =>
      unfold resolvedSizes
      split
      next fixed =>
        apply List.Forall₂.cons
        · rw [Share, if_pos fixed]
        · exact ih cumulative
      next weighted =>
        apply List.Forall₂.cons
        · rw [Share, if_neg weighted]
          exact Cuts.piece_near extent total cumulative allocation.value
        · exact ih _

/-- Within the limits the loop wraps no word. -/
theorem resolveWords_eq {allocations : List Allocation} {extent total cumulative : Nat}
    (weights : cumulative + totalWeight allocations < wordLimit)
    (products : extent * (cumulative + totalWeight allocations) < wordLimit) :
    resolveWords extent total (cut extent total cumulative) cumulative allocations =
      some (resolvedSizes extent total cumulative allocations) := by
  induction allocations generalizing cumulative with
  | nil => rfl
  | cons allocation rest ih =>
      rw [totalWeight_cons] at weights products
      unfold resolveWords resolvedSizes
      split
      next fixed =>
        rw [if_pos fixed, Nat.zero_add] at weights products
        rw [ih weights products]
        rfl
      next weighted =>
        rw [if_neg weighted, ← Nat.add_assoc] at weights products
        have next : Checked.add wordLimit cumulative allocation.value =
            some (cumulative + allocation.value) := Checked.add_eq (by omega)
        have product : Checked.mul wordLimit extent (cumulative + allocation.value) =
            some (extent * (cumulative + allocation.value)) := by
          apply Checked.mul_eq
          apply Nat.lt_of_le_of_lt _ products
          exact Nat.mul_le_mul_left _ (Nat.le_add_right _ _)
        have resolved : Checked.sub (cut extent total (cumulative + allocation.value))
            (cut extent total cumulative) = some (cut extent total
              (cumulative + allocation.value) - cut extent total cumulative) :=
          Checked.sub_eq (Cuts.mono (Nat.le_add_right _ _))
        have rest := ih weights products
        rw [cut] at resolved rest
        simp only [next, product, resolved, rest, Option.bind_eq_bind, Option.bind_some]
        rfl

/-! ## The rectangles -/

/-- A child begins at the cursor. -/
@[simp]
theorem axisStart_childBounds {cursor extent : Nat} :
    axisStart (childBounds bounds horizontal cursor extent) horizontal = cursor := by
  cases horizontal <;> rfl

/-- A child is as long as its extent. -/
@[simp]
theorem axisExtent_childBounds {cursor extent : Nat} :
    axisExtent (childBounds bounds horizontal cursor extent) horizontal = extent := by
  cases horizontal <;> rfl

/-- Across the split a child is as its parent. -/
theorem childBounds_crossAxis {cursor extent : Nat} :
    axisStart (childBounds bounds horizontal cursor extent) (!horizontal) =
        axisStart bounds (!horizontal) ∧
      axisExtent (childBounds bounds horizontal cursor extent) (!horizontal) =
        axisExtent bounds (!horizontal) := by
  cases horizontal <;> exact ⟨rfl, rfl⟩

/-- Every rectangle is one of those that begin somewhere with one of the sizes. -/
theorem mem_placeChildren {cursor : Nat} {extents : List Nat} {child : LayoutBounds}
    (member : child ∈ placeChildren bounds horizontal gap cursor extents) :
    ∃ start, ∃ extent ∈ extents, child = childBounds bounds horizontal start extent := by
  induction extents generalizing cursor with
  | nil => cases member
  | cons extent extents ih =>
      rcases List.mem_cons.mp member with rfl | later
      · exact ⟨cursor, extent, List.mem_cons_self, rfl⟩
      · obtain ⟨start, size, found, rfl⟩ := ih later
        exact ⟨start, size, List.mem_cons_of_mem _ found, rfl⟩

/-- A child is related to its request as its extent is. -/
theorem placeChildren_forall₂ {relation : Allocation → Nat → Prop} {cursor : Nat}
    {allocations : List Allocation} {extents : List Nat}
    (h : List.Forall₂ relation allocations extents) :
    List.Forall₂ (fun allocation child => relation allocation (axisExtent child horizontal))
      allocations (placeChildren bounds horizontal gap cursor extents) := by
  induction h generalizing cursor with
  | nil => exact .nil
  | cons first _ ih =>
      apply List.Forall₂.cons
      · rw [axisExtent_childBounds]
        exact first
      · exact ih

/-- The children are laid one behind the other with the gap between. -/
theorem placeChildren_laid {cursor finish : Nat} {extents : List Nat} (nonempty : extents ≠ [])
    (ends : cursor + stretch gap extents = finish + gap) :
    Segments.Laid (axisStart · horizontal) (axisExtent · horizontal) gap cursor finish
      (placeChildren bounds horizontal gap cursor extents) := by
  induction extents generalizing cursor with
  | nil => exact absurd rfl nonempty
  | cons extent extents ih =>
      rw [stretch, List.map_cons, List.sum_cons, ← stretch] at ends
      cases extents with
      | nil =>
          apply Segments.Laid.singleton
          · exact axisStart_childBounds
          · simp [stretch] at ends
            simp only [axisStart_childBounds, axisExtent_childBounds]
            omega
      | cons second rest =>
          apply Segments.Laid.cons
          · exact axisStart_childBounds
          · rw [axisExtent_childBounds, Nat.add_assoc]
            apply ih (List.cons_ne_nil _ _)
            omega

/-- Within the limits the cursor wraps no word. -/
theorem placeWords_eq {cursor : Nat} {extents : List Nat}
    (words : cursor + stretch gap extents < wordLimit) :
    placeWords bounds horizontal gap cursor extents =
      some (placeChildren bounds horizontal gap cursor extents) := by
  induction extents generalizing cursor with
  | nil => rfl
  | cons extent extents ih =>
      rw [stretch, List.map_cons, List.sum_cons, ← stretch] at words
      have step : Checked.add wordLimit extent gap = some (extent + gap) :=
        Checked.add_eq (by omega)
      have following : Checked.add wordLimit cursor (extent + gap) =
          some (cursor + (extent + gap)) := Checked.add_eq (by omega)
      have rest := @ih (cursor + (extent + gap)) (by omega)
      simp only [placeWords, step, following, rest, Option.bind_eq_bind, Option.bind_some]
      rfl

/-! ## No word wraps -/

/-- The limits that the loader puts on the numbers of a split. -/
structure Limited (horizontal : Bool) (gap : Nat) (allocations : List Allocation)
    (bounds : LayoutBounds) : Prop where
  count : allocations.length ≤ maximumLayoutWidgets
  values : ∀ allocation ∈ allocations, allocation.value ≤ maximumLayoutWeight
  gap : gap ≤ maximumDimension
  finish : axisStart bounds horizontal + axisExtent bounds horizontal ≤ maximumDimension

/-- No total of sizes or weights exceeds what all children may ask for. -/
theorem Limited.total_le {allocations : List Allocation}
    (limited : Limited horizontal gap allocations bounds) (which : Allocation → Bool) :
    ((allocations.filter which).map Allocation.value).sum ≤
      maximumLayoutWidgets * maximumLayoutWeight := by
  have each : ∀ value ∈ (allocations.filter which).map Allocation.value,
      value ≤ maximumLayoutWeight := by
    intro value member
    obtain ⟨allocation, found, rfl⟩ := List.mem_map.mp member
    exact limited.values allocation (List.mem_filter.mp found).1
  calc ((allocations.filter which).map Allocation.value).sum
      ≤ ((allocations.filter which).map Allocation.value).length • maximumLayoutWeight :=
        List.sum_le_card_nsmul _ _ each
    _ = (allocations.filter which).length * maximumLayoutWeight := by
        rw [List.length_map, smul_eq_mul]
    _ ≤ maximumLayoutWidgets * maximumLayoutWeight :=
        Nat.mul_le_mul_right _ ((List.length_filter_le _ _).trans limited.count)

/-- The running totals of sizes and of weights are exact. -/
theorem Limited.sum_eq {allocations : List Allocation}
    (limited : Limited horizontal gap allocations bounds) (which : Allocation → Bool) :
    Checked.sum wordLimit 0 ((allocations.filter which).map Allocation.value) =
      some ((allocations.filter which).map Allocation.value).sum := by
  have total := limited.total_le which
  rw [Checked.sum_eq, Nat.zero_add]
  exact (Nat.zero_add _).trans_lt (total.trans_lt (by decide))

/-- So is the number of weighted children. -/
theorem Limited.count_eq {allocations : List Allocation}
    (limited : Limited horizontal gap allocations bounds) (which : Allocation → Bool) :
    Checked.sum wordLimit 0 ((allocations.filter which).map fun _ => 1) =
      some (0 + ((allocations.filter which).map fun _ => 1).sum) := by
  apply Checked.sum_eq
  have few := (List.length_filter_le which allocations).trans limited.count
  rw [List.map_const', List.sum_replicate, smul_eq_mul, Nat.mul_one, Nat.zero_add]
  exact few.trans_lt (by decide)

/-- The loop over the weighted children is exact from its start. -/
theorem Limited.resolveWords_eq {allocations : List Allocation} {extent : Nat}
    (limited : Limited horizontal gap allocations bounds) (small : extent ≤ maximumDimension) :
    resolveWords extent (totalWeight allocations) 0 0 allocations =
      some (resolvedSizes extent (totalWeight allocations) 0 allocations) := by
  have weights : totalWeight allocations ≤ _ :=
    limited.total_le fun allocation => !allocation.fixed
  have start : cut extent (totalWeight allocations) 0 = 0 := by simp [cut]
  nth_rewrite 1 [← start]
  apply PixelStatus.resolveWords_eq
  · rw [Nat.zero_add]
    exact weights.trans_lt (by decide)
  · rw [Nat.zero_add]
    exact (Nat.mul_le_mul small weights).trans_lt (by decide)

/-- The cursor is exact up to the place behind the last gap. -/
theorem Limited.placeWords_eq {allocations : List Allocation} {extents : List Nat}
    (limited : Limited horizontal gap allocations bounds)
    (resolved : Resolved allocations.length
      (axisExtent bounds horizontal - gap * (allocations.length - 1)) extents) :
    placeWords bounds horizontal gap (axisStart bounds horizontal) extents =
      some (placeChildren bounds horizontal gap (axisStart bounds horizontal) extents) := by
  have finish := limited.finish
  have gaps : allocations.length * gap ≤ maximumLayoutWidgets * maximumDimension :=
    Nat.mul_le_mul limited.count limited.gap
  apply PixelStatus.placeWords_eq
  rw [stretch_eq, resolved.sum, resolved.count]
  simp only [maximumLayoutWidgets, maximumDimension, wordLimit] at *
  omega

/-- Within the limits a whole split wraps no word. -/
theorem splitWords_eq {allocations : List Allocation} {extents : List Nat}
    (limited : Limited horizontal gap allocations bounds) (some : allocations ≠ [])
    (room : fixedTotal allocations + gap * (allocations.length - 1) ≤
      axisExtent bounds horizontal)
    (sizes : extents = resolvedSizes (axisExtent bounds horizontal - fixedTotal allocations -
      gap * (allocations.length - 1)) (totalWeight allocations) 0 allocations)
    (resolved : Resolved allocations.length
      (axisExtent bounds horizontal - gap * (allocations.length - 1)) extents) :
    splitWords horizontal gap allocations bounds = Option.some
      (placeChildren bounds horizontal gap (axisStart bounds horizontal) extents) := by
  have small : axisExtent bounds horizontal ≤ maximumDimension :=
    (Nat.le_add_left _ _).trans limited.finish
  have taken := room.trans small
  have gaps : Checked.sub allocations.length 1 = Option.some (allocations.length - 1) :=
    Checked.sub_eq (List.length_pos_iff.mpr some)
  have totalGaps : Checked.mul wordLimit gap (allocations.length - 1) =
      Option.some (gap * (allocations.length - 1)) :=
    Checked.mul_eq (((Nat.le_add_left _ _).trans taken).trans_lt (by decide))
  have guarded : Checked.add wordLimit (fixedTotal allocations)
      (gap * (allocations.length - 1)) =
        Option.some (fixedTotal allocations + gap * (allocations.length - 1)) :=
    Checked.add_eq (taken.trans_lt (by decide))
  have left : Checked.sub (axisExtent bounds horizontal) (fixedTotal allocations) =
      Option.some (axisExtent bounds horizontal - fixedTotal allocations) :=
    Checked.sub_eq ((Nat.le_add_right _ _).trans room)
  have weighted : Checked.sub (axisExtent bounds horizontal - fixedTotal allocations)
      (gap * (allocations.length - 1)) = Option.some (axisExtent bounds horizontal -
        fixedTotal allocations - gap * (allocations.length - 1)) :=
    Checked.sub_eq (Nat.le_sub_of_add_le' room)
  have loop := @Limited.resolveWords_eq _ _ _ _ (axisExtent bounds horizontal -
    fixedTotal allocations - gap * (allocations.length - 1)) limited (by omega)
  rw [← sizes] at loop
  unfold fixedTotal totalWeight at *
  simp only [splitWords, gaps, totalGaps, limited.sum_eq, limited.count_eq, guarded, left,
    weighted, loop, limited.placeWords_eq resolved, Option.bind_eq_bind, Option.bind_some]

/-! ## Accepted splits -/

/-- A split that has room yields the resolved sizes. -/
theorem splitExtents_sizes {extent totalGaps : Nat} {allocations : List Allocation} :
    Ensures (OfSome fun extents => fixedTotal allocations + totalGaps ≤ extent ∧
        extents = resolvedSizes (extent - fixedTotal allocations - totalGaps)
          (totalWeight allocations) 0 allocations)
      (splitExtents path extent totalGaps allocations) := by
  apply splitExtents_resolves
  intro fits _
  apply resolveExtents_sizes.mono
  intro result sizes extents same
  exact ⟨fits, sizes extents same⟩

/-- They make the geometry of the split. -/
theorem splitExtents_geometry {count : Nat} {allocations : List Allocation}
    (asked : Asked count allocations) (some : allocations ≠ [])
    (limited : Limited horizontal gap allocations bounds) :
    Ensures (OfSome fun extents => SplitGeometry horizontal gap allocations bounds
        (placeChildren bounds horizontal gap (axisStart bounds horizontal) extents))
      (splitExtents path (axisExtent bounds horizontal) (gap * (count - 1)) allocations) := by
  apply ((splitExtents_ensures asked).and splitExtents_sizes).mono
  intro result found extents same
  obtain ⟨resolved, fits⟩ := found.1 extents same
  obtain ⟨room, sizes⟩ := found.2 extents same
  have shares := resolvedSizes_shares (axisExtent bounds horizontal - fixedTotal allocations -
    gap * (count - 1)) (totalWeight allocations) allocations 0
  rw [← sizes] at shares
  obtain rfl := asked.count
  have nonempty := List.length_pos_iff.mpr some
  have gaps : allocations.length * gap = gap * (allocations.length - 1) + gap := by
    rw [← Nat.mul_succ, Nat.succ_eq_add_one, Nat.sub_add_cancel nonempty, Nat.mul_comm]
  refine ⟨?_, ?_, ?_, ?_, ?_, ?_⟩
  · intro child member
    obtain ⟨start, extent, _, rfl⟩ := mem_placeChildren member
    exact childBounds_crossAxis
  · apply placeChildren_laid
    · exact List.length_pos_iff.mp (resolved.count.ge.trans_lt' nonempty)
    · rw [stretch_eq, resolved.sum, resolved.count, gaps]
      omega
  · intro child member
    obtain ⟨start, extent, found, rfl⟩ := mem_placeChildren member
    rw [axisExtent_childBounds]
    exact resolved.positive extent found
  · exact room
  · exact placeChildren_forall₂ shares
  · exact splitWords_eq limited some room sizes resolved

end PixelStatus
