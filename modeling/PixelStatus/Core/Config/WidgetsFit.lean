/-
# Widgets that were read fit the display

For each kind of widget, what the renderer needs to draw it, and that its reader
ensures it of a widget inside the display. What holds of the rectangle that was
read or assigned holds of the widget's; for an assigned one the layout tree
vouches.
-/

import PixelStatus.Core.Config.Widgets

namespace PixelStatus

open Logged

/-! ## What fits -/

/-- Rows of equal width, all of palette characters. -/
structure PixelsFit (palette : UnorderedMap UInt8 Rgb) (pixels : List Bytes)
    (width height : Nat) : Prop where
  rows : pixels.length = height
  widths : ∀ row ∈ pixels, row.length = width
  colored : ∀ row ∈ pixels, ∀ character ∈ row, character ∈ palette

structure LayoutClockConfig.Fits (display : DisplayConfig) (clock : LayoutClockConfig) :
    Prop where
  inside : clock.toLayoutBounds.Inside display
  width : 15 ≤ clock.width
  height : 7 ≤ clock.height

structure LayoutStatusGridConfig.Fits (display : DisplayConfig)
    (grid : LayoutStatusGridConfig) : Prop where
  inside : grid.toLayoutBounds.Inside display
  columns : 1 ≤ grid.columns ∧ grid.columns ≤ grid.sources.length
  cells : gridOverflows grid.toLayoutBounds grid.sources.length grid.columns grid.gap = false

structure LayoutAggregateStatusConfig.Fits (display : DisplayConfig)
    (aggregate : LayoutAggregateStatusConfig) : Prop where
  inside : aggregate.toLayoutBounds.Inside display
  colored : ∀ status ∈ aggregate.priority, status ∈ aggregate.colors

structure LayoutBitmapConfig.Fits (display : DisplayConfig) (bitmap : LayoutBitmapConfig) :
    Prop where
  inside : bitmap.toLayoutBounds.Inside display
  pixels : PixelsFit bitmap.palette bitmap.pixels bitmap.width bitmap.height

def LayoutWidgetConfig.Fits (display : DisplayConfig) : LayoutWidgetConfig → Prop
  | .indicator config => config.toLayoutBounds.Inside display
  | .clock config => config.Fits display
  | .bar config => config.toLayoutBounds.Inside display
  | .statusGrid config => config.Fits display
  | .aggregateStatus config => config.Fits display
  | .bitmap config => config.Fits display

/-! ## What is checked -/

/-- A bar between two finite numbers. -/
def LayoutBarConfig.Ranged (bar : LayoutBarConfig) : Prop :=
  ∃ low high : ℚ, bar.minimum = .finite low ∧ bar.maximum = .finite high ∧ low < high

/-- A grid of at most so many sources with a gap of at most so many pixels. -/
structure LayoutStatusGridConfig.Limited (grid : LayoutStatusGridConfig) : Prop where
  sources : grid.sources.length ≤ maximumLayoutWidgets
  gap : grid.gap ≤ maximumDimension

/-! ## Rectangles -/

variable {round : Rounding} {display : DisplayConfig} {path : Bytes} {item : Members}
  {assigned : Option LayoutBounds}

/-- A rectangle that is read has a pixel. -/
theorem parseRectangle_ensures :
    Ensures (OfSome fun bounds => 1 ≤ bounds.width ∧ 1 ≤ bounds.height)
      (parseRectangle item path) := by
  apply Ensures.step
  intro x
  apply Ensures.step
  intro y
  apply boundedSize_ensures.bind
  intro width hwidth
  apply boundedSize_ensures.bind
  intro height hheight
  split
  next x y width height =>
    exact Ensures.pure (OfSome.some ⟨(hwidth width rfl).1, (hheight height rfl).1⟩)
  · exact Ensures.pure OfSome.none

/-- A rectangle that passes the check is inside the display. -/
theorem requireInside_ensures {bounds : LayoutBounds}
    (nonempty : 1 ≤ bounds.width ∧ 1 ≤ bounds.height) :
    Ensures (OfSome (LayoutBounds.Inside display)) (requireInside display bounds path) := by
  unfold requireInside
  split
  · exact ensures_reject
  next inside =>
    simp only [LayoutBounds.exceeds, Bool.or_eq_true, decide_eq_true_eq] at inside
    exact Ensures.pure (OfSome.some ⟨nonempty.1, nonempty.2, by omega, by omega⟩)

/-- A legacy indicator is inside the display. -/
theorem parseIndicatorConfig_ensures {item : Json} :
    Ensures (OfSome fun indicator : IndicatorConfig => indicator.toLayoutBounds.Inside display)
      (parseIndicatorConfig item path display) := by
  unfold parseIndicatorConfig
  split
  · apply Ensures.step
    intro _
    apply Ensures.step
    intro id
    apply Ensures.step
    intro source
    apply parseRectangle_ensures.bind
    intro bounds hbounds
    split
    next id source bounds =>
      exact (requireInside_ensures (hbounds bounds rfl)).bindMap fun _ inside => inside
    · exact Ensures.pure OfSome.none
  · exact ensures_reject

/-- So is the rectangle of a widget. -/
theorem parseLayoutBounds_ensures (trusted : ∀ bounds ∈ assigned, bounds.Inside display) :
    Ensures (OfSome (LayoutBounds.Inside display))
      (parseLayoutBounds item path display assigned) := by
  unfold parseLayoutBounds
  split
  next bounds => exact Ensures.pure (OfSome.some (trusted bounds rfl))
  · apply parseRectangle_ensures.bindSome
    · exact Ensures.pure OfSome.none
    intro bounds nonempty
    exact requireInside_ensures nonempty

/-! ## Numbers -/

/-- A number that may be left out is within its bound. -/
theorem optionalSize_ensures {key : String} {maximum : Nat} :
    Ensures (OfSome fun value => value ≤ maximum) (optionalSize item key path maximum) := by
  unfold optionalSize
  split
  · apply boundedSize_ensures.mono
    intro result inside value same
    exact (inside value same).2
  · exact Ensures.pure (OfSome.some (Nat.zero_le _))

/-- A measure that may be left out is finite. -/
theorem optionalFiniteNumber_ensures {key : String} {default : Double}
    (finite : default.isFinite = true) :
    Ensures (OfSome fun number => ∃ value : ℚ, number = .finite value)
      (optionalFiniteNumber round item key default path) := by
  have read (number : Double) (finite : number.isFinite = true) :
      ∃ value : ℚ, number = .finite value := by
    cases number with
    | finite value => exact ⟨value, rfl⟩
    | infinite negative => cases finite
    | nan => cases finite
  unfold optionalFiniteNumber
  split
  · exact Ensures.pure (OfSome.some (read _ finite))
  · split
    · exact ensures_reject
    · split
      next known => exact Ensures.pure (OfSome.some (read _ known))
      · exact ensures_reject

/-! ## Lists -/

theorem keepIdentifier_ensures {invalid duplicate : Bytes} {count : Nat}
    {kept : Kept (List Bytes)} {item : Json × Nat} (passed : kept.items.length = count) :
    Ensures (fun kept => kept.items.length = count + 1)
      (keepIdentifier path invalid duplicate kept item) := by
  unfold keepIdentifier
  split
  · split
    · exact ensures_addError_bind
    · split
      · exact ensures_addError_bind
      · apply Ensures.pure
        rw [List.length_append, passed, List.length_singleton]
  · exact ensures_addError_bind

/-- No identifier is lost in silence. -/
theorem distinctIdentifiers_ensures {items : List Json} {invalid duplicate : Bytes} :
    Ensures (fun kept => kept.items.length = items.length)
      (distinctIdentifiers items path invalid duplicate) := by
  rw [← @List.length_zipIdx _ items 0]
  apply Ensures.foldlM_count fun count (kept : Kept (List Bytes)) => kept.items.length = count
  · rfl
  · exact fun _ _ _ _ passed => keepIdentifier_ensures passed

/-- One more row that fits. -/
theorem PixelsFit.append {palette : UnorderedMap UInt8 Rgb} {pixels : List Bytes}
    {width height : Nat} {row : Bytes} (fits : PixelsFit palette pixels width height)
    (wide : row.length = width) (colored : ∀ character ∈ row, character ∈ palette) :
    PixelsFit palette (pixels ++ [row]) width (height + 1) where
  rows := by rw [List.length_append, fits.rows, List.length_singleton]
  widths := List.forall_mem_append.mpr ⟨fits.widths, List.forall_mem_singleton.mpr wide⟩
  colored := List.forall_mem_append.mpr ⟨fits.colored, List.forall_mem_singleton.mpr colored⟩

/-- A row that is kept is as wide as asked for and in the palette. -/
theorem keepPixelRow_ensures {width count : Nat} {wrongWidth : Bytes}
    {palette : UnorderedMap UInt8 Rgb} {kept : Kept (List Bytes)} {row : Json × Nat}
    (fits : PixelsFit palette kept.items width count) :
    Ensures (fun kept => PixelsFit palette kept.items width (count + 1))
      (keepPixelRow path width wrongWidth palette kept row) := by
  unfold keepPixelRow
  dsimp only
  split
  next value _ =>
    split
    · exact ensures_addError_bind
    next width =>
      split
      · exact ensures_addError_bind
      next colored =>
        apply Ensures.pure
        apply fits.append (Decidable.not_not.mp width)
        simpa using colored
  · exact ensures_addError_bind

/-- So are all rows of a bitmap. -/
theorem parsePixelRows_ensures {rows : List Json} {width : Nat} {wrongWidth : Bytes}
    {palette : UnorderedMap UInt8 Rgb} :
    Ensures (fun kept => PixelsFit palette kept.items width rows.length)
      (parsePixelRows rows path width wrongWidth palette) := by
  rw [← @List.length_zipIdx _ rows 0]
  apply Ensures.foldlM_count fun count (kept : Kept (List Bytes)) =>
    PixelsFit palette kept.items width count
  · exact ⟨rfl, List.forall_mem_nil _, List.forall_mem_nil _⟩
  · exact fun _ _ _ _ fits => keepPixelRow_ensures fits

/-- An array that is read is the field's, neither empty nor too long. -/
theorem boundedArray_read {value : Option Json} {maximum : Nat} {message : Bytes} :
    Ensures (OfSome fun items => value = some (.array items) ∧ items ≠ [] ∧
      items.length ≤ maximum) (boundedArray value maximum message) := by
  unfold boundedArray
  split
  next items =>
    split
    · exact ensures_reject
    next sized =>
      have parts := not_or.mp sized
      exact Ensures.pure (OfSome.some ⟨rfl, parts.1, Nat.not_lt.mp parts.2⟩)
  · exact ensures_reject

theorem boundedArray_ensures {value : Option Json} {maximum : Nat} {message : Bytes} :
    Ensures (OfSome fun items => items ≠ []) (boundedArray value maximum message) := by
  apply boundedArray_read.mono
  intro result read items same
  exact (read items same).2.1

/-- Every status of the order has a colour. -/
theorem requireStatusColors_ensures {priority : List Bytes} {colors : UnorderedMap Bytes Rgb} :
    Ensures (fun _ => ∀ status ∈ priority, status ∈ colors)
      (requireStatusColors priority colors path) := by
  apply Ensures.forM
  intro status _
  split
  next colored => exact Ensures.pure colored
  · exact ensures_addError

/-! ## Widgets -/

section

variable {property : LayoutBounds → Prop}
  (bounded : Ensures (OfSome property) (parseLayoutBounds item path display assigned))
include bounded

/-- An indicator has nothing but its rectangle to fit. -/
theorem parseLayoutIndicatorConfig_ensures :
    Ensures (OfSome fun indicator : IndicatorConfig => property indicator.toLayoutBounds)
      (parseLayoutIndicatorConfig item path display assigned) := by
  apply Ensures.step
  intro _
  apply Ensures.step
  intro id
  apply Ensures.step
  intro source
  apply bounded.bind
  intro bounds hbounds
  split
  next id source bounds =>
    apply Ensures.step
    intro valid
    split
    · exact Ensures.pure (OfSome.some (hbounds bounds rfl))
    · exact Ensures.pure OfSome.none
  · exact Ensures.pure OfSome.none

/-- A clock that is read fits its rectangle. -/
theorem parseLayoutClockConfig_ensures :
    Ensures (OfSome fun clock : LayoutClockConfig => property clock.toLayoutBounds ∧
        (clock.toLayoutBounds.Inside display → clock.Fits display))
      (parseLayoutClockConfig item path display assigned) := by
  apply Ensures.step
  intro _
  apply Ensures.step
  intro id
  apply bounded.bind
  intro bounds hbounds
  apply Ensures.step
  intro timezone
  apply Ensures.step
  intro source
  split
  next id bounds timezone =>
    apply Ensures.step
    intro valid
    split
    · exact Ensures.pure OfSome.none
    · split
      · exact ensures_reject
      next large =>
        rw [not_or, Nat.not_lt, Nat.not_lt] at large
        apply (Ensures.anySome _).bindSome
        · exact Ensures.pure OfSome.none
        intro zone _
        apply (Ensures.anySome _).bindMap
        intro color _
        exact ⟨hbounds bounds rfl, fun inside => ⟨inside, large.1, large.2⟩⟩
  · exact Ensures.pure OfSome.none

/-- A bar that is read has a range. -/
theorem parseLayoutBarConfig_ensures :
    Ensures (OfSome fun bar : LayoutBarConfig => property bar.toLayoutBounds ∧ bar.Ranged)
      (parseLayoutBarConfig round item path display assigned) := by
  apply Ensures.step
  intro _
  apply Ensures.step
  intro id
  apply Ensures.step
  intro source
  apply bounded.bind
  intro bounds hbounds
  apply (optionalFiniteNumber_ensures rfl).bind
  intro minimum hminimum
  apply (optionalFiniteNumber_ensures rfl).bind
  intro maximum hmaximum
  split
  next id source bounds minimum maximum =>
    obtain ⟨low, rfl⟩ := hminimum minimum rfl
    obtain ⟨high, rfl⟩ := hmaximum maximum rfl
    apply Ensures.step
    intro valid
    split
    · exact Ensures.pure OfSome.none
    · split
      · exact ensures_reject
      next above =>
        have ordered : low < high := by
          simpa [Double.le, Double.compare] using above
        apply (Ensures.anySome _).bindSome
        · exact Ensures.pure OfSome.none
        intro direction _
        apply (Ensures.anySome _).bindMap
        intro trackColor _
        exact ⟨hbounds bounds rfl, low, high, rfl, rfl, ordered⟩
  · exact Ensures.pure OfSome.none

/-- A grid that is read has room for its cells. -/
theorem parseLayoutStatusGridConfig_ensures :
    Ensures (OfSome fun grid : LayoutStatusGridConfig => property grid.toLayoutBounds ∧
        (grid.toLayoutBounds.Inside display → grid.Fits display) ∧ grid.Limited)
      (parseLayoutStatusGridConfig item path display assigned) := by
  apply Ensures.step
  intro _
  apply Ensures.step
  intro id
  apply bounded.bind
  intro bounds hbounds
  apply boundedArray_read.bindSome
  · exact Ensures.pure OfSome.none
  intro sourcesField read
  apply boundedSize_ensures.bind
  intro columns hcolumns
  apply optionalSize_ensures.bindSome
  · exact Ensures.pure OfSome.none
  intro gap hgap
  dsimp only
  split
  next id bounds columns =>
    apply Ensures.step
    intro valid
    split
    · exact Ensures.pure OfSome.none
    · apply distinctIdentifiers_ensures.bind
      intro sources hsources
      split
      · exact ensures_reject
      next cells =>
        split
        · apply Ensures.pure
          apply OfSome.some
          rw [← hsources, Bool.not_eq_true] at cells
          have limited : sources.items.length ≤ maximumLayoutWidgets := hsources.trans_le read.2.2
          exact ⟨hbounds bounds rfl, fun inside =>
            ⟨inside, hsources ▸ hcolumns columns rfl, cells⟩, limited, hgap⟩
        · exact Ensures.pure OfSome.none
  · exact Ensures.pure OfSome.none

/-- A bitmap that is read is as large as its rectangle. -/
theorem parseLayoutBitmapConfig_ensures :
    Ensures (OfSome fun bitmap : LayoutBitmapConfig => property bitmap.toLayoutBounds ∧
        (bitmap.toLayoutBounds.Inside display → bitmap.Fits display))
      (parseLayoutBitmapConfig item path display assigned) := by
  apply Ensures.step
  intro _
  apply Ensures.step
  intro id
  apply bounded.bind
  intro bounds hbounds
  split
  next id bounds =>
    apply Ensures.step
    intro valid
    split
    · exact Ensures.pure OfSome.none
    · apply (Ensures.anySome _).bindSome
      · exact Ensures.pure OfSome.none
      intro paletteField _
      apply Ensures.step
      intro palette
      dsimp only
      split
      · split
        · exact ensures_reject
        next height =>
          apply parsePixelRows_ensures.bind
          intro pixels fits
          split
          · apply Ensures.pure
            apply OfSome.some
            rw [Decidable.not_not] at height
            exact ⟨hbounds bounds rfl, fun inside => ⟨inside, height ▸ fits⟩⟩
          · exact Ensures.pure OfSome.none
      · exact ensures_reject
  · exact Ensures.pure OfSome.none

/-- An aggregate that is read has a colour for each of its statuses. -/
theorem parseLayoutAggregateStatusConfig_ensures :
    Ensures (OfSome fun aggregate : LayoutAggregateStatusConfig =>
        property aggregate.toLayoutBounds ∧
          (aggregate.toLayoutBounds.Inside display → aggregate.Fits display))
      (parseLayoutAggregateStatusConfig item path display assigned) := by
  apply Ensures.step
  intro _
  apply Ensures.step
  intro id
  apply bounded.bind
  intro bounds hbounds
  apply (Ensures.anySome _).bindSome
  · exact Ensures.pure OfSome.none
  intro sourcesField _
  apply (Ensures.anySome _).bindSome
  · exact Ensures.pure OfSome.none
  intro priorityField _
  apply (Ensures.anySome _).bindSome
  · exact Ensures.pure OfSome.none
  intro colorsField _
  dsimp only
  split
  next id bounds =>
    apply Ensures.step
    intro valid
    split
    · exact Ensures.pure OfSome.none
    · apply Ensures.step
      intro sources
      apply Ensures.step
      intro priority
      apply Ensures.step
      intro colors
      apply requireStatusColors_ensures.bind
      intro _ colored
      apply (Ensures.anySome _).bindSome
      · exact Ensures.pure OfSome.none
      intro defaultColor _
      dsimp only
      split
      · exact Ensures.pure (OfSome.some ⟨hbounds bounds rfl, fun inside => ⟨inside, colored⟩⟩)
      · exact Ensures.pure OfSome.none
  · exact Ensures.pure OfSome.none

end

/-- Every reader of the table returns widgets in the rectangle that was read or
assigned, which fit if it lies inside the display. -/
theorem widgetTypes_ensures {property : LayoutBounds → Prop}
    (bounded : ∀ item path,
      Ensures (OfSome property) (parseLayoutBounds item path display assigned)) :
    ∀ entry ∈ widgetTypes round, ∀ item path,
      Ensures (OfSome fun widget : LayoutWidgetConfig => property widget.bounds ∧
          (widget.bounds.Inside display → widget.Fits display))
        (entry.2 item path display assigned) := by
  simp only [widgetTypes, List.forall_mem_cons]
  refine ⟨?_, ?_, ?_, ?_, ?_, ?_, List.forall_mem_nil _⟩
  · exact fun item path =>
      (parseLayoutIndicatorConfig_ensures (bounded item path)).bindMap fun _ h => ⟨h, id⟩
  · exact fun item path =>
      (parseLayoutClockConfig_ensures (bounded item path)).bindMap fun _ h => h
  · exact fun item path =>
      (parseLayoutBarConfig_ensures (bounded item path)).bindMap fun _ h => ⟨h.1, id⟩
  · exact fun item path =>
      (parseLayoutStatusGridConfig_ensures (bounded item path)).bindMap fun _ h => ⟨h.1, h.2.1⟩
  · exact fun item path =>
      (parseLayoutAggregateStatusConfig_ensures (bounded item path)).bindMap fun _ h => h
  · exact fun item path =>
      (parseLayoutBitmapConfig_ensures (bounded item path)).bindMap fun _ h => h

/-- What every reader of the table ensures holds of every widget. -/
theorem parseLayoutWidget_each {property : LayoutWidgetConfig → Prop}
    (each : ∀ entry ∈ widgetTypes round, ∀ item path,
      Ensures (OfSome property) (entry.2 item path display assigned)) {item : Json} :
    Ensures (OfSome property) (parseLayoutWidget round item path display assigned) := by
  unfold parseLayoutWidget
  split
  · apply (Ensures.anySome _).bindSome
    · exact Ensures.pure OfSome.none
    intro type _
    dsimp only
    split
    next parse known => exact each _ (List.mem_of_find?_eq_some known) _ path
    · exact Ensures.step fun _ => ensures_reject
  · exact ensures_reject

/-- A widget fits where its rectangle does. -/
theorem parseLayoutWidget_bounded {property : LayoutBounds → Prop}
    (bounded : ∀ item path,
      Ensures (OfSome property) (parseLayoutBounds item path display assigned)) {item : Json} :
    Ensures (OfSome fun widget : LayoutWidgetConfig => property widget.bounds ∧
        (widget.bounds.Inside display → widget.Fits display))
      (parseLayoutWidget round item path display assigned) :=
  parseLayoutWidget_each (widgetTypes_ensures bounded)

/-- A widget that is read fits the display. -/
theorem parseLayoutWidget_ensures (trusted : ∀ bounds ∈ assigned, bounds.Inside display)
    {item : Json} : Ensures (OfSome (LayoutWidgetConfig.Fits display))
      (parseLayoutWidget round item path display assigned) := by
  apply (parseLayoutWidget_bounded fun _ _ => parseLayoutBounds_ensures trusted).mono
  intro result fits widget same
  exact (fits widget same).2 (fits widget same).1

/-- A widget takes the rectangle that it was assigned. -/
theorem parseLayoutWidget_assigned {bounds : LayoutBounds} {item : Json} :
    Ensures (OfSome fun widget : LayoutWidgetConfig => widget.bounds = bounds)
      (parseLayoutWidget round item path display (some bounds)) := by
  have bounded (item : Members) (path : Bytes) : Ensures (OfSome fun other => other = bounds)
      (parseLayoutBounds item path display (some bounds)) := Ensures.pure (OfSome.some rfl)
  apply (parseLayoutWidget_bounded bounded).mono
  intro result assigned widget same
  exact (assigned widget same).1

end PixelStatus
