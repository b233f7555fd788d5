/-
# Status grids tile their rectangle

The loader and the renderer check separately that a grid has room; they accept
the same grids, and within the loader's limits no word wraps in either. The
cells that are drawn tile the rectangle.
-/

import PixelStatus.Core.Config.ReadCards
import PixelStatus.Core.RenderAccepted
import PixelStatus.Core.WidgetLayers

namespace PixelStatus

/-! ## In machine words -/

/-- The rows of a grid, in the order of the source. -/
def gridRowsWords (count columns : Nat) : Option Nat := do
  let total ← Checked.add wordLimit count columns
  let rounded ← Checked.sub total 1
  return rounded / columns

/-- The check that loader and renderer make, in the order of the source. What
stands behind a condition that holds is not computed. -/
def gridOverflowsWords (bounds : LayoutBounds) (count columns gap : Nat) : Option Bool := do
  let rows ← gridRowsWords count columns
  let columnGaps ← Checked.sub columns 1
  let horizontalGaps ← Checked.mul wordLimit gap columnGaps
  let rowGaps ← Checked.sub rows 1
  let verticalGaps ← Checked.mul wordLimit gap rowGaps
  if horizontalGaps > bounds.width then some true
  else do
    let usableWidth ← Checked.sub bounds.width horizontalGaps
    if usableWidth < columns ∨ verticalGaps > bounds.height then some true
    else do
      let usableHeight ← Checked.sub bounds.height verticalGaps
      return usableHeight < rows

/-- One side of a cell: where it begins and how long it is. -/
def gridSideWords (first extent count gap place : Nat) : Option (Nat × Nat) := do
  let gaps ← Checked.sub count 1
  let allGaps ← Checked.mul wordLimit gap gaps
  let usable ← Checked.sub extent allGaps
  let before ← Checked.mul wordLimit usable place
  let next ← Checked.add wordLimit place 1
  let behind ← Checked.mul wordLimit usable next
  let start ← Checked.add wordLimit first (before / count)
  let skipped ← Checked.mul wordLimit place gap
  let moved ← Checked.add wordLimit start skipped
  let size ← Checked.sub (behind / count) (before / count)
  return (moved, size)

/-- A cell of the renderer's loop. -/
def gridCellWords (grid : LayoutStatusGridConfig) (index : Nat) : Option LayoutBounds := do
  let rows ← gridRowsWords grid.sources.length grid.columns
  let across ← gridSideWords grid.x grid.width grid.columns grid.gap (index % grid.columns)
  let down ← gridSideWords grid.y grid.height rows grid.gap (index / grid.columns)
  return { x := across.1, y := down.1, width := across.2, height := down.2 }

/-- Products of numbers within the loader's limits are far from wrapping. -/
theorem mul_lt_wordLimit {left right : Nat} (hleft : left ≤ 2048) (hright : right ≤ 2048) :
    left * right < wordLimit :=
  calc left * right ≤ 2048 * 2048 := Nat.mul_le_mul hleft hright
    _ < wordLimit := by decide

/-- Within the limits there are few rows, and there is one. -/
theorem gridRows_le {count columns : Nat} (few : count ≤ maximumLayoutWidgets)
    (placed : 1 ≤ columns ∧ columns ≤ count) :
    0 < gridRows count columns ∧ gridRows count columns ≤ 2048 := by
  have limit : maximumLayoutWidgets = 1024 := rfl
  refine ⟨?_, ?_⟩
  · exact Nat.div_pos (by omega) placed.1
  · exact (Nat.div_le_self _ _).trans (by omega)

/-- Within the limits the division to rows wraps no word. -/
theorem gridRowsWords_eq {count columns : Nat} (few : count ≤ maximumLayoutWidgets)
    (placed : 1 ≤ columns ∧ columns ≤ count) :
    gridRowsWords count columns = some (gridRows count columns) := by
  have limit : maximumLayoutWidgets = 1024 := rfl
  have words : wordLimit = 18446744073709551616 := rfl
  rw [gridRowsWords, Checked.add_eq (by omega), Option.bind_eq_bind, Option.bind_some,
    Checked.sub_eq (by omega)]
  rfl

/-- The check on the loader's side of the numbers is exact. -/
theorem gridOverflowsWords_eq (bounds : LayoutBounds) {count columns gap : Nat}
    (few : count ≤ maximumLayoutWidgets) (placed : 1 ≤ columns ∧ columns ≤ count)
    (narrow : gap ≤ maximumDimension) :
    gridOverflowsWords bounds count columns gap = some (gridOverflows bounds count columns gap) := by
  have limit : maximumLayoutWidgets = 1024 := rfl
  have dimension : maximumDimension = 256 := rfl
  have bounded := gridRows_le few placed
  unfold gridOverflowsWords gridOverflows
  rw [gridRowsWords_eq few placed]
  generalize gridRows count columns = rows at *
  have horizontal : gap * (columns - 1) < wordLimit := mul_lt_wordLimit (by omega) (by omega)
  have vertical : gap * (rows - 1) < wordLimit := mul_lt_wordLimit (by omega) (by omega)
  simp only [Option.bind_eq_bind, Option.bind_some, Checked.sub_eq placed.1,
    @Checked.sub_eq rows 1 bounded.1, Checked.mul_eq horizontal, Checked.mul_eq vertical]
  by_cases wide : gap * (columns - 1) > bounds.width
  · simp [wide]
  · rw [if_neg wide, Checked.sub_eq (Nat.not_lt.mp wide), Option.bind_some]
    by_cases high : gap * (rows - 1) > bounds.height
    · simp [high]
    · by_cases narrow : bounds.width - gap * (columns - 1) < columns
      · simp [narrow]
      · rw [if_neg (not_or.mpr ⟨narrow, high⟩), Checked.sub_eq (Nat.not_lt.mp high),
          Option.bind_some]
        simp [wide, high, narrow]

/-- A side of a cell is exact when the numbers are within the loader's limits. -/
theorem gridSideWords_eq {first extent count gap place : Nat} (hfirst : first ≤ maximumDimension)
    (hextent : extent ≤ maximumDimension) (hgap : gap ≤ maximumDimension)
    (positive : 0 < count) (few : count ≤ 2048) (fits : gap * (count - 1) ≤ extent)
    (inside : place < count) :
    gridSideWords first extent count gap place =
      (let usable := extent - gap * (count - 1)
      some (first + cut usable count place + place * gap,
        cut usable count (place + 1) - cut usable count place)) := by
  have dimension : maximumDimension = 256 := rfl
  have words : wordLimit = 18446744073709551616 := rfl
  dsimp only
  generalize husable : extent - gap * (count - 1) = usable
  have small : usable ≤ 2048 := by omega
  have bounded : cut usable count place ≤ usable := Cuts.le_extent positive inside.le
  have ascending : cut usable count place ≤ cut usable count (place + 1) :=
    Cuts.mono (Nat.le_succ place)
  have skip : place * gap ≤ 2048 * 256 := Nat.mul_le_mul (by omega) (by omega)
  have gaps : Checked.sub count 1 = some (count - 1) := Checked.sub_eq positive
  have allGaps : Checked.mul wordLimit gap (count - 1) = some (gap * (count - 1)) :=
    Checked.mul_eq (mul_lt_wordLimit (by omega) (by omega))
  have left : Checked.sub extent (gap * (count - 1)) = some usable :=
    husable ▸ Checked.sub_eq fits
  have before : Checked.mul wordLimit usable place = some (usable * place) :=
    Checked.mul_eq (mul_lt_wordLimit small (by omega))
  have next : Checked.add wordLimit place 1 = some (place + 1) := Checked.add_eq (by omega)
  have behind : Checked.mul wordLimit usable (place + 1) = some (usable * (place + 1)) :=
    Checked.mul_eq (mul_lt_wordLimit small (by omega))
  have start : Checked.add wordLimit first (usable * place / count) =
      some (first + cut usable count place) := by
    change Checked.add wordLimit first (cut usable count place) = _
    exact Checked.add_eq (by omega)
  have skipped : Checked.mul wordLimit place gap = some (place * gap) := Checked.mul_eq (by omega)
  have moved : Checked.add wordLimit (first + cut usable count place) (place * gap) =
      some (first + cut usable count place + place * gap) := Checked.add_eq (by omega)
  have size : Checked.sub (usable * (place + 1) / count) (usable * place / count) =
      some (cut usable count (place + 1) - cut usable count place) := Checked.sub_eq ascending
  simp only [gridSideWords, Option.bind_eq_bind, Option.bind_some, gaps, allGaps, left, before,
    next, behind, start, skipped, moved, size]
  rfl

/-! ## Grids of a loaded configuration -/

section

variable {display : DisplayConfig} {grid : LayoutStatusGridConfig}

/-- The rectangle of a grid's cell, without a word wrapping. -/
theorem gridCellWords_eq (limited : display.Limited) (fits : grid.Fits display)
    (few : grid.Limited) {index : Nat} (inside : index < grid.sources.length) :
    gridCellWords grid index =
      some (gridCell grid (gridRows grid.sources.length grid.columns) index) := by
  have limit : maximumLayoutWidgets = 1024 := rfl
  have rows := gridRows_le few.sources fits.columns
  have room := gridRoom_of_not_overflows rfl fits.columns fits.cells
  have width := limited.width
  have height := limited.height
  have right := fits.inside.right
  have bottom := fits.inside.bottom
  have columns : grid.columns ≤ 2048 := (fits.columns.2.trans few.sources).trans (by omega)
  have across : gridSideWords grid.x grid.width grid.columns grid.gap (index % grid.columns) = _ :=
    gridSideWords_eq (by omega) (by omega) few.gap fits.columns.1 columns
      ((Nat.le_add_left _ _).trans room.across) (Nat.mod_lt index fits.columns.1)
  have down : gridSideWords grid.y grid.height (gridRows grid.sources.length grid.columns) grid.gap
      (index / grid.columns) = _ :=
    gridSideWords_eq (by omega) (by omega) few.gap rows.1 rows.2
      ((Nat.le_add_left _ _).trans room.down) (lt_gridRows fits.columns.1 inside)
  simp only [gridCellWords, gridRowsWords_eq few.sources fits.columns, Option.bind_eq_bind,
    Option.bind_some, across, down]
  rfl

end

/-- The rows that the sources of a grid need. -/
def LayoutStatusGridConfig.rows (grid : LayoutStatusGridConfig) : Nat :=
  gridRows grid.sources.length grid.columns

/-- How the cells of a grid lie in its rectangle. -/
structure GridTiling (grid : LayoutStatusGridConfig) : Prop where
  placed : ∀ index, gridCell grid grid.rows index =
    gridCellAt grid grid.rows (index / grid.columns) (index % grid.columns)
  counted : ∀ index < grid.sources.length,
    index / grid.columns < grid.rows ∧ index % grid.columns < grid.columns
  needed : (grid.rows - 1) * grid.columns < grid.sources.length
  across : ∀ row, Segments.Laid (fun column => (gridCellAt grid grid.rows row column).x)
    (fun column => (gridCellAt grid grid.rows row column).width) grid.gap grid.x
    (grid.x + grid.width) (List.range grid.columns)
  down : ∀ column, Segments.Laid (fun row => (gridCellAt grid grid.rows row column).y)
    (fun row => (gridCellAt grid grid.rows row column).height) grid.gap grid.y
    (grid.y + grid.height) (List.range grid.rows)
  aligned : ∀ row column other,
    (gridCellAt grid grid.rows row column).x = (gridCellAt grid grid.rows other column).x ∧
      (gridCellAt grid grid.rows row column).width =
        (gridCellAt grid grid.rows other column).width ∧
      (gridCellAt grid grid.rows row column).y = (gridCellAt grid grid.rows row other).y ∧
      (gridCellAt grid grid.rows row column).height = (gridCellAt grid grid.rows row other).height
  positive : ∀ row column, 0 < (gridCellAt grid grid.rows row column).width ∧
    0 < (gridCellAt grid grid.rows row column).height
  within : ∀ row column, row < grid.rows → column < grid.columns →
    grid.toLayoutBounds.Within (gridCellAt grid grid.rows row column)
  sizes : ∀ row column otherRow otherColumn,
    (gridCellAt grid grid.rows row column).width ≤
        (gridCellAt grid grid.rows otherRow otherColumn).width + 1 ∧
      (gridCellAt grid grid.rows row column).height ≤
        (gridCellAt grid grid.rows otherRow otherColumn).height + 1
  apart : ∀ row column otherRow otherColumn, row < grid.rows → column < grid.columns →
    otherRow < grid.rows → otherColumn < grid.columns → row ≠ otherRow ∨ column ≠ otherColumn →
    (gridCellAt grid grid.rows row column).Apart
      (gridCellAt grid grid.rows otherRow otherColumn)
  disjoint : ∀ index other, index < grid.sources.length → other < grid.sources.length →
    index ≠ other → (gridCell grid grid.rows index).Apart (gridCell grid grid.rows other)

section

variable {display : DisplayConfig} {grid : LayoutStatusGridConfig}

/-- The cells of a grid that fits tile its rectangle. -/
theorem gridTiling_of_fits (fits : grid.Fits display) : GridTiling grid := by
  have positive : 0 < grid.columns := fits.columns.1
  have room : GridRoom grid grid.rows := gridRoom_of_not_overflows rfl fits.columns fits.cells
  have counted {index : Nat} (inside : index < grid.sources.length) :
      index / grid.columns < grid.rows ∧ index % grid.columns < grid.columns :=
    ⟨lt_gridRows positive inside, Nat.mod_lt index positive⟩
  refine
    { placed := gridCell_eq grid grid.rows
      counted := fun index => counted
      needed := ?_
      across := room.laid_across
      down := room.laid_down
      aligned := fun row column other => ⟨rfl, rfl, rfl, rfl⟩
      positive := fun row column => room.positive
      within := fun row column => room.within
      sizes := room.sizes
      apart := fun row column otherRow otherColumn => room.apart
      disjoint := ?_ }
  · have most : grid.rows * grid.columns ≤ grid.sources.length + grid.columns - 1 :=
      Nat.div_mul_le_self _ _
    rw [Nat.sub_mul]
    have some := fits.columns
    omega
  · intro index other inside hother different
    rw [gridCell_eq, gridCell_eq]
    apply room.apart (counted inside).1 (counted inside).2 (counted hother).1 (counted hother).2
    by_contra same
    rw [not_or, not_not, not_not] at same
    apply different
    rw [← Nat.div_add_mod index grid.columns, ← Nat.div_add_mod other grid.columns, same.1, same.2]

/-- A grid shows a source's colour in the source's cell and nothing elsewhere. -/
theorem statusGridLayer_eq_some {round : Rounding} {states : StateStore} {config : AppConfig}
    {now animationOrigin : TimePoint} {place : Place} {color : Rgb} (tiling : GridTiling grid) :
    statusGridLayer round states config now animationOrigin grid place = some color ↔
      ∃ index source, grid.sources[index]? = some source ∧
        (gridCell grid grid.rows index).Covers place.1 place.2 ∧
        (sampleOf round states config now animationOrigin source).color = some color := by
  refine ⟨?_, ?_⟩
  · intro painted
    obtain ⟨layer, member, shown⟩ := Layer.exists_of_stack painted
    obtain ⟨⟨source, index⟩, listed, rfl⟩ := List.mem_map.mp member
    have parts := sampleLayer_eq_some.mp shown
    exact ⟨index, source, List.mem_zipIdx_iff_getElem?.mp listed, parts.1, parts.2⟩
  · rintro ⟨index, source, listed, covered, shown⟩
    have inside : index < grid.sources.length := (List.getElem?_eq_some_iff.mp listed).1
    have member : (source, index) ∈ grid.sources.zipIdx := List.mem_zipIdx_iff_getElem?.mpr listed
    apply Layer.stack_of_agree (List.mem_map_of_mem member)
    · exact sampleLayer_eq_some.mpr ⟨covered, shown⟩
    · intro layer hlayer other painted
      obtain ⟨⟨otherSource, otherIndex⟩, hother, rfl⟩ := List.mem_map.mp hlayer
      have parts := sampleLayer_eq_some.mp painted
      have otherListed := List.mem_zipIdx_iff_getElem?.mp hother
      -- A place in two cells would make the two sources one.
      have same : otherIndex = index := by
        by_contra different
        have otherInside := (List.getElem?_eq_some_iff.mp otherListed).1
        exact tiling.disjoint otherIndex index otherInside inside different _ _
          ⟨parts.1, covered⟩
      subst same
      obtain rfl : source = otherSource := Option.some.inj (listed.symm.trans otherListed)
      exact Option.some.inj (parts.2.symm.trans shown)

end

/-! ## The check of the loader -/

/-- The error about a grid that has no room for its cells. -/
def capacityError (path : Bytes) : Bytes :=
  path ++ bytes " bounds cannot fit its grid cells and gaps"

/-- What the parser has read when it comes to the check. -/
structure GridRead (item : Members) (path : Bytes) (display : DisplayConfig)
    (assigned : Option LayoutBounds) (bounds : LayoutBounds) (sources : List Json)
    (columns gap : Nat) : Prop where
  named : ∃ id, requiredIdentifier item "id" path = pure (some id)
  placed : parseLayoutBounds item path display assigned = pure (some bounds)
  listed : boundedArray (item.field "sources") maximumLayoutWidgets
    (path ++ bytes ".sources must contain between 1 and 1024 identifiers") = pure (some sources)
  divided : boundedSize item "columns" path 1 sources.length = pure (some columns)
  spaced : optionalSize item "gap" path maximumDimension = pure (some gap)
  sized : layoutBoundsAreValid bounds path = pure true

/-- An unknown field is reported in other words. -/
theorem rejectUnknownFields_writes (item : Members) (allowed : List String) (path : Bytes) :
    Logged.Writes (fun message => message ≠ capacityError path)
      (rejectUnknownFields item allowed path) := by
  apply Logged.Writes.forM
  intro field
  split
  · exact Logged.Writes.pure ()
  · apply Logged.Writes.write
    intro same
    rw [capacityError, List.append_assoc, List.append_cancel_left_eq] at same
    have letter := congrArg (fun text : Bytes => text[1]?) same
    rw [List.getElem?_append_left (by decide)] at letter
    exact absurd letter (by decide)

/-- So are the sources that are refused. -/
theorem distinctIdentifiers_writes (items : List Json) (path invalid duplicate : Bytes) :
    Logged.Writes (fun message => message ≠ capacityError path)
      (distinctIdentifiers items (fieldPath path "sources") invalid duplicate) := by
  have refused (kept : Kept (List Bytes)) (index : Nat) (text : Bytes) :
      Logged.Writes (fun message => message ≠ capacityError path)
        (kept.refuse (itemPath (fieldPath path "sources") index ++ text)) := by
    refine (Logged.Writes.write ?_).bind fun _ => Logged.Writes.pure _
    intro same
    simp only [capacityError, itemPath, fieldPath, List.append_assoc,
      List.append_cancel_left_eq] at same
    have dot := congrArg List.head? same
    rw [List.head?_append, show (bytes ".").head? = some 0x2E from rfl, Option.some_or] at dot
    exact absurd dot (by decide)
  apply Logged.Writes.foldlM
  intro kept item
  unfold keepIdentifier
  split
  · split_ifs
    · exact refused _ _ _
    · exact refused _ _ _
    · exact Logged.Writes.pure _
  · exact refused _ _ _

/-- Once it has read a grid, the parser raises its capacity error exactly when the
grid overflows. -/
theorem capacityError_mem_iff {item : Members} {path : Bytes} {display : DisplayConfig}
    {assigned : Option LayoutBounds} {bounds : LayoutBounds} {sources : List Json}
    {columns gap : Nat} (read : GridRead item path display assigned bounds sources columns gap) :
    capacityError path ∈ (parseLayoutStatusGridConfig item path display assigned).log ↔
      gridOverflows bounds sources.length columns gap = true := by
  obtain ⟨id, hid⟩ := read.named
  have fields := (rejectUnknownFields_writes item
    (widgetFields ["sources", "columns", "gap"] assigned) path).entries (capacityError path)
  have listed := (distinctIdentifiers_writes sources path (bytes " must be a valid identifier")
    (bytes " duplicates an earlier grid source")).entries (capacityError path)
  unfold parseLayoutStatusGridConfig
  simp only [hid, read.placed, read.listed, read.divided, read.spaced, read.sized, pure_bind,
    Logged.log_bind, List.mem_append, Bool.not_true, Bool.false_eq_true, if_false]
  rw [or_iff_right fun member => fields member rfl, or_iff_right fun member => listed member rfl]
  split_ifs with overflows
  · exact iff_of_true (List.mem_singleton_self _) overflows
  · exact iff_of_false List.not_mem_nil overflows
  · exact iff_of_false List.not_mem_nil overflows

variable {platform : Platform} {round : Rounding} {parse : Bytes → Option Json} {path : Bytes}
  {file : ConfigFile} {config : AppConfig} {grid : LayoutStatusGridConfig}

/-- The cells of every grid of a loaded configuration tile its rectangle, and a
drawing of the grid shows in each the colour of its source. The loader's check and
the renderer's refuse exactly the grids that overflow; neither wraps a word, nor
does a cell. -/
theorem status_grid_law
    (loaded : (loadConfigFile platform round parse path file).config = some config)
    (shown : .statusGrid grid ∈ config.widgets) :
    GridTiling grid ∧
    (∀ states now animationOrigin (canvas : Canvas), canvas.Sound config.display → ∃ drawn,
      renderStatusGrid round states config now animationOrigin grid canvas = .ok drawn ∧
      Frame.Paints (statusGridLayer round states config now animationOrigin grid) canvas.output
        drawn.output) ∧
    (∀ states now animationOrigin place color,
      statusGridLayer round states config now animationOrigin grid place = some color ↔
        ∃ index source, grid.sources[index]? = some source ∧
          (gridCell grid grid.rows index).Covers place.1 place.2 ∧
          (sampleOf round states config now animationOrigin source).color = some color) ∧
    (∀ (other : LayoutStatusGridConfig) states now animationOrigin canvas,
      1 ≤ other.columns ∧ other.columns ≤ other.sources.length →
      renderStatusGrid round states config now animationOrigin other canvas =
        if gridOverflows other.toLayoutBounds other.sources.length other.columns other.gap = true
        then canvas.fail (bytes "Layout status grid geometry became invalid during rendering")
        else other.sources.zipIdx.foldlM (renderGridCell round states config now animationOrigin
          other other.rows) canvas) ∧
    (∀ item path display assigned bounds sources columns gap,
      GridRead item path display assigned bounds sources columns gap →
      (capacityError path ∈ (parseLayoutStatusGridConfig item path display assigned).log ↔
        gridOverflows bounds sources.length columns gap = true)) ∧
    (∀ bounds count columns gap, count ≤ maximumLayoutWidgets → 1 ≤ columns ∧ columns ≤ count →
      gap ≤ maximumDimension →
      gridOverflowsWords bounds count columns gap = some (gridOverflows bounds count columns gap)) ∧
    ∀ index < grid.sources.length,
      gridCellWords grid index = some (gridCell grid grid.rows index) := by
  have sound := sound_of_loadConfigFile loaded
  have widget := sound.widget shown
  have tiling := gridTiling_of_fits widget.fits
  refine ⟨tiling, ?_, ?_, ?_, ?_, ?_, ?_⟩
  · intro states now animationOrigin canvas started
    obtain ⟨drawn, succeeds, -, paints⟩ := (renderStatusGrid_draws grid).paints
      (renderStatusGrid_reaches started widget.fits)
    exact ⟨drawn, succeeds, paints⟩
  · exact fun states now animationOrigin place color => statusGridLayer_eq_some tiling
  · exact fun other states now animationOrigin canvas placed =>
      renderStatusGrid_eq round states config now animationOrigin canvas placed
  · exact fun item path display assigned bounds sources columns gap read =>
      capacityError_mem_iff read
  · exact fun bounds count columns gap few placed narrow =>
      gridOverflowsWords_eq bounds few placed narrow
  · exact fun index inside => gridCellWords_eq sound.limited widget.fits widget.checked inside

/-- The grid of the panel is tiled. -/
theorem status_grid_law_panel : ∃ grid, .statusGrid grid ∈ panelConfig.widgets ∧
    GridTiling grid := by
  obtain ⟨widget, shown, kind⟩ := @exists_panel_widget 3 (by decide)
  cases widget with
  | statusGrid grid =>
      exact ⟨grid, shown, (status_grid_law (@panelDocument_loads []) shown).1⟩
  | indicator | clock | bar | aggregateStatus | bitmap => cases kind

end PixelStatus
