/-
# The cells of a status grid

Across and down, the cells of a grid are the pieces of a proportional cut with
gaps between them. So the cells of a row fill the width and those of a column
the height, and no two cells meet.
-/

import PixelStatus.Core.Config.Widgets
import PixelStatus.Core.Rectangles
import PixelStatus.Core.Renderer

namespace PixelStatus

/-- The cell in a row and a column. -/
def gridCellAt (grid : LayoutStatusGridConfig) (rows row column : Nat) : LayoutBounds :=
  let usableWidth := grid.width - grid.gap * (grid.columns - 1)
  let usableHeight := grid.height - grid.gap * (rows - 1)
  { x := grid.x + cut usableWidth grid.columns column + column * grid.gap
    y := grid.y + cut usableHeight rows row + row * grid.gap
    width := cut usableWidth grid.columns (column + 1) - cut usableWidth grid.columns column
    height := cut usableHeight rows (row + 1) - cut usableHeight rows row }

/-- The cells fill the rows from the left, one after the other. -/
theorem gridCell_eq (grid : LayoutStatusGridConfig) (rows index : Nat) :
    gridCell grid rows index = gridCellAt grid rows (index / grid.columns) (index % grid.columns) :=
  rfl

/-- There is room for so many rows and columns and the gaps between them. -/
structure GridRoom (grid : LayoutStatusGridConfig) (rows : Nat) : Prop where
  someColumns : 0 < grid.columns
  someRows : 0 < rows
  across : grid.columns + grid.gap * (grid.columns - 1) ≤ grid.width
  down : rows + grid.gap * (rows - 1) ≤ grid.height

variable {grid : LayoutStatusGridConfig} {rows : Nat}

/-- A grid that does not overflow has room for its cells. -/
theorem gridRoom_of_not_overflows {bounds : LayoutBounds} {count : Nat}
    (same : grid.toLayoutBounds = bounds) (columns : 1 ≤ grid.columns ∧ grid.columns ≤ count)
    (fits : gridOverflows bounds count grid.columns grid.gap = false) :
    GridRoom grid (gridRows count grid.columns) := by
  subst same
  simp only [gridOverflows, Bool.or_eq_false_iff, decide_eq_false_iff_not] at fits
  obtain ⟨⟨⟨hgaps, hwidth⟩, vgaps⟩, hheight⟩ := fits
  have some : 0 < gridRows count grid.columns := Nat.div_pos (by omega) columns.1
  exact ⟨columns.1, some, by omega, by omega⟩

/-- There are enough rows for every item. -/
theorem lt_gridRows {count columns index : Nat} (positive : 0 < columns) (inside : index < count) :
    index / columns < gridRows count columns :=
  calc index / columns < (index + columns) / columns := by
        rw [Nat.add_div_right _ positive]
        exact Nat.lt_succ_self _
    _ ≤ gridRows count columns := Nat.div_le_div_right (by omega)

namespace GridRoom

variable (room : GridRoom grid rows)
include room

/-- The cells of a row lie a gap apart from each other between the sides. -/
theorem laid_across (row : Nat) : Segments.Laid (fun column => (gridCellAt grid rows row column).x)
    (fun column => (gridCellAt grid rows row column).width) grid.gap grid.x (grid.x + grid.width)
    (List.range grid.columns) := by
  have whole : grid.x + (grid.width - grid.gap * (grid.columns - 1)) +
      grid.gap * (grid.columns - 1) = grid.x + grid.width := by
    have across := room.across
    omega
  rw [← whole]
  exact Cuts.laid room.someColumns

/-- So do the cells of a column between top and bottom. -/
theorem laid_down (column : Nat) : Segments.Laid (fun row => (gridCellAt grid rows row column).y)
    (fun row => (gridCellAt grid rows row column).height) grid.gap grid.y (grid.y + grid.height)
    (List.range rows) := by
  have whole : grid.y + (grid.height - grid.gap * (rows - 1)) + grid.gap * (rows - 1) =
      grid.y + grid.height := by
    have down := room.down
    omega
  rw [← whole]
  exact Cuts.laid room.someRows

/-- Every cell has a pixel. -/
theorem positive {row column : Nat} : 0 < (gridCellAt grid rows row column).width ∧
    0 < (gridCellAt grid rows row column).height := by
  have across := room.across
  have down := room.down
  refine ⟨?_, ?_⟩
  · exact Nat.sub_pos_of_lt (Cuts.lt_next room.someColumns (by omega))
  · exact Nat.sub_pos_of_lt (Cuts.lt_next room.someRows (by omega))

/-- Every cell is within the grid's rectangle. -/
theorem within {row column : Nat} (hrow : row < rows) (hcolumn : column < grid.columns) :
    grid.toLayoutBounds.Within (gridCellAt grid rows row column) := by
  have across := (room.laid_across row).within (List.mem_range.mpr hcolumn)
  have down := (room.laid_down column).within (List.mem_range.mpr hrow)
  exact ⟨across.1, across.2, down.1, down.2⟩

/-- The sizes of two cells differ by one pixel at most. -/
theorem sizes (row column otherRow otherColumn : Nat) :
    (gridCellAt grid rows row column).width ≤
        (gridCellAt grid rows otherRow otherColumn).width + 1 ∧
      (gridCellAt grid rows row column).height ≤
        (gridCellAt grid rows otherRow otherColumn).height + 1 := by
  refine ⟨?_, ?_⟩
  · exact (Cuts.piece_bounds room.someColumns).2.trans
      (Nat.add_le_add_right (Cuts.piece_bounds room.someColumns).1 1)
  · exact (Cuts.piece_bounds room.someRows).2.trans
      (Nat.add_le_add_right (Cuts.piece_bounds room.someRows).1 1)

/-- Two cells have no pixel in common. -/
theorem apart {row column otherRow otherColumn : Nat} (hrow : row < rows)
    (hcolumn : column < grid.columns) (hother : otherRow < rows)
    (hotherColumn : otherColumn < grid.columns)
    (different : row ≠ otherRow ∨ column ≠ otherColumn) :
    (gridCellAt grid rows row column).Apart (gridCellAt grid rows otherRow otherColumn) := by
  rintro x y ⟨⟨across, down⟩, otherAcross, otherDown⟩
  rcases different with different | different
  · have above {upper lower : Nat} (before : upper < lower) (inside : lower < rows) :=
      (room.laid_down 0).ordered_range before inside
    rcases Nat.lt_or_gt_of_ne different with before | behind
    · exact absurd (above before hother) (Nat.not_le.mpr (otherDown.1.trans_lt down.2))
    · exact absurd (above behind hrow) (Nat.not_le.mpr (down.1.trans_lt otherDown.2))
  · have beside {left right : Nat} (before : left < right) (inside : right < grid.columns) :=
      (room.laid_across 0).ordered_range before inside
    rcases Nat.lt_or_gt_of_ne different with before | behind
    · exact absurd (beside before hotherColumn) (Nat.not_le.mpr (otherAcross.1.trans_lt across.2))
    · exact absurd (beside behind hcolumn) (Nat.not_le.mpr (across.1.trans_lt otherAcross.2))

end GridRoom

/-- The renderer refuses exactly the grids that overflow. -/
theorem renderStatusGrid_eq (round : Rounding) (states : StateStore) (config : AppConfig)
    (now animationOrigin : TimePoint) (canvas : Canvas)
    (columns : 1 ≤ grid.columns ∧ grid.columns ≤ grid.sources.length) :
    renderStatusGrid round states config now animationOrigin grid canvas =
      if gridOverflows grid.toLayoutBounds grid.sources.length grid.columns grid.gap = true then
        canvas.fail (bytes "Layout status grid geometry became invalid during rendering")
      else grid.sources.zipIdx.foldlM (renderGridCell round states config now animationOrigin grid
        (gridRows grid.sources.length grid.columns)) canvas := by
  have configured : ¬ (grid.sources = [] ∨ grid.columns = 0 ∨
      grid.columns > grid.sources.length) := by
    rintro (empty | none | many)
    · rw [empty, List.length_nil] at columns
      omega
    · omega
    · omega
  have refused : gridOverflows grid.toLayoutBounds grid.sources.length grid.columns grid.gap = true ↔
      grid.gap * (grid.columns - 1) > grid.width ∨
        grid.width - grid.gap * (grid.columns - 1) < grid.columns ∨
        grid.gap * (gridRows grid.sources.length grid.columns - 1) > grid.height ∨
        grid.height - grid.gap * (gridRows grid.sources.length grid.columns - 1) <
          gridRows grid.sources.length grid.columns := by
    unfold gridOverflows
    rw [Bool.or_eq_true, Bool.or_eq_true, Bool.or_eq_true, decide_eq_true_eq, decide_eq_true_eq,
      decide_eq_true_eq, decide_eq_true_eq, or_assoc, or_assoc]
  rw [renderStatusGrid, if_neg configured]
  simp only [refused]
  rfl

end PixelStatus
