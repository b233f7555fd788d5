/-
# What the widgets paint

Each widget paints one layer, which depends on the store, the times and the
calendar, and not on what is already in the frame. A drawing step that succeeds
has painted its layer and nothing else.
-/

import PixelStatus.Core.Pictures
import PixelStatus.Core.Renderer
import PixelStatus.Logic.Outcome

namespace PixelStatus

open Layer Outcome

/-- A drawing step that has painted a layer whenever it succeeds. -/
def Draws (layer : Layer Place Rgb) (step : Canvas → Drawing) : Prop :=
  ∀ canvas drawn, step canvas = .ok drawn → Frame.Paints layer canvas.output drawn.output

namespace Draws

variable {layer lower upper : Layer Place Rgb} {step first second : Canvas → Drawing}

/-- A step that only changes the report. -/
theorem keep {change : Canvas → Canvas} (keeps : ∀ canvas, (change canvas).output = canvas.output) :
    Draws blank fun canvas => .ok (change canvas) := by
  intro canvas drawn same
  cases same
  rw [keeps]
  exact Frame.Paints.refl _

/-- A failure paints nothing. -/
theorem fail (message : Bytes) : Draws layer fun canvas => canvas.fail message := by
  intro canvas drawn impossible
  cases impossible

/-- Two drawings in a row paint one layer over the other. -/
theorem bind (hfirst : Draws lower first) (hsecond : Draws upper second) :
    Draws (lower.beneath upper) fun canvas => first canvas >>= second := by
  intro canvas drawn succeeds
  obtain ⟨between, started, finished⟩ := bind_eq_ok.mp succeeds
  exact (hfirst canvas between started).trans (hsecond between drawn finished)

/-- A step behind one that changes the report. -/
theorem after (change : Canvas → Canvas)
    (keeps : ∀ canvas, (change canvas).output = canvas.output) (draws : Draws layer step) :
    Draws layer fun canvas => step (change canvas) := by
  intro canvas drawn succeeds
  rw [← keeps]
  exact draws (change canvas) drawn succeeds

/-- A step, and a change of the report behind it. -/
theorem before (change : Canvas → Canvas)
    (keeps : ∀ canvas, (change canvas).output = canvas.output) (draws : Draws layer step) :
    Draws layer fun canvas => step canvas >>= fun drawn => pure (change drawn) :=
  draws.bind (keep keeps)

/-- A step that succeeds paints its layer. -/
theorem paints {property : Canvas → Prop} {canvas : Canvas} (draws : Draws layer step)
    (reaches : Reaches property (step canvas)) :
    ∃ drawn, step canvas = .ok drawn ∧ property drawn ∧
      Frame.Paints layer canvas.output drawn.output := by
  obtain ⟨drawn, succeeds, holds⟩ := reaches
  exact ⟨drawn, succeeds, holds, draws canvas drawn succeeds⟩

/-- The steps of a list paint a stack of layers. -/
theorem foldlM {α : Type} {step : Canvas → α → Drawing} {layer : α → Layer Place Rgb}
    {items : List α} (each : ∀ item ∈ items, Draws (layer item) fun canvas => step canvas item) :
    Draws (stack (items.map layer)) fun canvas => items.foldlM step canvas := by
  induction items with
  | nil => exact keep fun _ => rfl
  | cons item items ih =>
      have parts := List.forall_mem_cons.mp each
      exact parts.1.bind (ih parts.2)

/-- Filling a rectangle paints it. -/
theorem fillRect (x y width height : Nat) (color : Rgb) (message : Bytes) :
    Draws (rectangle { x, y, width, height } color)
      fun canvas => canvas.fillRect x y width height color message := by
  intro canvas drawn succeeds
  change canvas.fillRect x y width height color message = _ at succeeds
  unfold Canvas.fillRect at succeeds
  split at succeeds
  next output filled =>
    cases succeeds
    exact Frame.fillRect_paints filled
  · cases succeeds

end Draws

section

variable (round : Rounding) (states : StateStore) (config : AppConfig)
  (now animationOrigin : TimePoint)

/-- The sample of a source, whatever the report counts. -/
def sampleOf (source : Bytes) : SourceSample :=
  (sampleSource round states config now animationOrigin source {}).1

/-- The layer that the sample of a source decides. -/
def sampleLayer (bounds : LayoutBounds) (source : Bytes) : Layer Place Rgb :=
  ((sampleOf round states config now animationOrigin source).color).elim blank (rectangle bounds)

def indicatorLayer (indicator : IndicatorConfig) : Layer Place Rgb :=
  sampleLayer round states config now animationOrigin indicator.toLayoutBounds indicator.source

/-- The lit part of a bar for a value. -/
def barFillLayer (bar : LayoutBarConfig) (value : Double) (color : Rgb) : Layer Place Rgb :=
  let raw := rawFraction round bar value
  let filled := filledLines round (Double.clamp raw (.finite 0) (.finite 1)) (barExtent bar)
  if raw.isFinite = false ∨ filled = 0 then blank else rectangle (litBounds bar filled) color

/-- The lit part of a bar for a sample. -/
def barSampleLayer (bar : LayoutBarConfig) (sample : SourceSample) : Layer Place Rgb :=
  match sample.state, sample.color with
  | some resolved, some color =>
      (numericValue round resolved.state.value).elim blank
        fun value => barFillLayer round bar value color
  | _, _ => blank

def barLayer (bar : LayoutBarConfig) : Layer Place Rgb :=
  (rectangle bar.toLayoutBounds bar.trackColor).beneath
    (barSampleLayer round bar (sampleOf round states config now animationOrigin bar.source))

def statusGridLayer (grid : LayoutStatusGridConfig) : Layer Place Rgb :=
  let rows := (grid.sources.length + grid.columns - 1) / grid.columns
  stack (grid.sources.zipIdx.map fun item =>
    sampleLayer round states config now animationOrigin (gridCell grid rows item.2) item.1)

/-- The status of a source, `unknown` when it is missing. -/
def statusOf (source : Bytes) : Bytes :=
  ((states.resolve source now).map ResolvedState.effectiveStatus).getD (bytes "unknown")

/-- The best priority among the sources of an aggregate. -/
def selectedPriority (aggregate : LayoutAggregateStatusConfig) : Nat :=
  (aggregate.sources.foldl (selectPriority states now aggregate.priority)
    (aggregate.priority.length, {})).1

def aggregateStatusLayer (aggregate : LayoutAggregateStatusConfig) : Layer Place Rgb :=
  (aggregateColor aggregate (selectedPriority states now aggregate)).elim blank
    (rectangle aggregate.toLayoutBounds)

/-- One row of palette characters. -/
def bitmapRowLayer (palette : UnorderedMap UInt8 Rgb) (x y : Nat) (row : Bytes) :
    Layer Place Rgb :=
  stack (row.zipIdx.map fun character =>
    (palette.lookup character.1).elim blank (dot (x + character.2) y))

def bitmapLayer (palette : UnorderedMap UInt8 Rgb) (pixels : List Bytes) (x y : Nat) :
    Layer Place Rgb :=
  stack (pixels.zipIdx.map fun row => bitmapRowLayer palette x (y + row.2) row.1)

/-- Whether a digit lights a pixel of its three columns and seven rows. -/
def glyphLit (digit row column : Nat) : Bool :=
  ((digitGlyphs.getD digit []).getD row 0).testBit (2 - column)

def digitLayer (x y digit : Nat) (color : Rgb) : Layer Place Rgb :=
  area (fun place => LayoutBounds.Covers { x, y, width := 3, height := 7 } place.1 place.2 ∧
    glyphLit digit (place.2 - y) (place.1 - x) = true) color

def colonLayer (x y : Nat) (color : Rgb) : Layer Place Rgb :=
  (dot (x + 7) (y + 2) color).beneath (dot (x + 7) (y + 4) color)

/-- The digits of a time from a corner on. -/
def digitsLayer (x y hour minute : Nat) (showColon : Bool) (color : Rgb) : Layer Place Rgb :=
  stack [digitLayer x y (hour / 10) color, digitLayer (x + 3) y (hour % 10) color,
    if showColon then colonLayer x y color else blank,
    digitLayer (x + 9) y (minute / 10) color, digitLayer (x + 12) y (minute % 10) color]

/-- A time in the middle of a rectangle. -/
def timeLayer (bounds : LayoutBounds) (hour minute : Nat) (showColon : Bool) (color : Rgb) :
    Layer Place Rgb :=
  digitsLayer (bounds.x + (bounds.width - 15) / 2) (bounds.y + (bounds.height - 7) / 2) hour
    minute showColon color

def clockTimesLayer (clock : LayoutClockConfig) (times : Tm × Tm) (showColon : Tm → Bool) :
    Layer Place Rgb :=
  let shown := if clock.timezone = .local then times.1 else times.2
  timeLayer clock.toLayoutBounds shown.hour shown.minute (showColon shown) clock.color

variable (calendar : Calendar)

def sourcedClockLayer (clock : LayoutClockConfig) : Layer Place Rgb :=
  ((states.resolve clock.source now).bind fun resolved =>
    epochTimes round calendar resolved.state.value).elim blank
      fun times => clockTimesLayer clock times fun _ => true

variable (wallNow : Int)

def wallClockLayer (clock : LayoutClockConfig) : Layer Place Rgb :=
  (splitWallTime calendar wallNow).elim blank fun times => clockTimesLayer clock times evenSecond

/-- What a widget paints. -/
def widgetLayer : LayoutWidgetConfig → Layer Place Rgb
  | .indicator indicator => indicatorLayer round states config now animationOrigin indicator
  | .bar bar => barLayer round states config now animationOrigin bar
  | .statusGrid grid => statusGridLayer round states config now animationOrigin grid
  | .aggregateStatus aggregate => aggregateStatusLayer states now aggregate
  | .bitmap bitmap => bitmapLayer bitmap.palette bitmap.pixels bitmap.x bitmap.y
  | .clock clock =>
      if clock.source ≠ [] then sourcedClockLayer round states now calendar clock
      else wallClockLayer calendar wallNow clock

end

/-! ## The widgets paint their layers -/

section

variable {round : Rounding} {states : StateStore} {config : AppConfig}
  {now animationOrigin : TimePoint} {layer : Layer Place Rgb}

/-- A sample's rectangle shows its colour, if it has one. -/
theorem sampleLayer_eq_some {bounds : LayoutBounds} {source : Bytes} {place : Place} {color : Rgb} :
    sampleLayer round states config now animationOrigin bounds source place = some color ↔
      bounds.Covers place.1 place.2 ∧
        (sampleOf round states config now animationOrigin source).color = some color := by
  unfold sampleLayer
  cases (sampleOf round states config now animationOrigin source).color with
  | none => exact ⟨(nomatch ·), fun absurd => nomatch absurd.2⟩
  | some shown => rw [Option.elim_some, rectangle, area_eq_some, Option.some_inj]

/-- A drawing with a sample paints as it does with that of its source. -/
theorem withSample_draws {source : Bytes} {draw : SourceSample → Canvas → Drawing}
    (draws : Draws layer (draw (sampleOf round states config now animationOrigin source))) :
    Draws layer fun canvas =>
      withSample round states config now animationOrigin source canvas draw := by
  intro canvas drawn succeeds
  exact draws { canvas with report := (sampleSource round states config now animationOrigin source
    canvas.report).2 } drawn succeeds

/-- An indicator paints its layer. -/
theorem renderIndicator_draws (indicator : IndicatorConfig) :
    Draws (indicatorLayer round states config now animationOrigin indicator) fun canvas =>
      renderIndicator round states config now animationOrigin indicator canvas := by
  apply withSample_draws
  unfold indicatorLayer sampleLayer
  cases (sampleOf round states config now animationOrigin indicator.source).color with
  | none => exact Draws.keep fun _ => rfl
  | some color => exact (Draws.fillRect _ _ _ _ color _).before _ fun _ => rfl

/-- The lit part of a bar paints its lines. -/
theorem fillBar_draws (bar : LayoutBarConfig) (value : Double) (color : Rgb) :
    Draws (barFillLayer round bar value color) (fillBar round bar value color) := by
  unfold fillBar barFillLayer
  dsimp only
  cases finite : (rawFraction round bar value).isFinite with
  | false => exact Draws.keep fun _ => rfl
  | true =>
      by_cases filled : filledLines round (Double.clamp (rawFraction round bar value) (.finite 0)
        (.finite 1)) (barExtent bar) = 0
      · rw [if_pos (Or.inr filled)]
        simp only [filled, if_true]
        exact Draws.keep fun _ => rfl
      · rw [if_neg (not_or.mpr ⟨by decide, filled⟩)]
        simp only [filled, if_false]
        exact Draws.fillRect _ _ _ _ color _

/-- A bar paints its track and over it the lit part. -/
theorem renderBar_draws (bar : LayoutBarConfig) :
    Draws (barLayer round states config now animationOrigin bar) fun canvas =>
      renderBar round states config now animationOrigin bar canvas := by
  apply (Draws.fillRect _ _ _ _ bar.trackColor _).bind
  apply withSample_draws
  unfold barSampleLayer
  cases (sampleOf round states config now animationOrigin bar.source).state with
  | none => exact Draws.keep fun _ => rfl
  | some resolved =>
      cases (sampleOf round states config now animationOrigin bar.source).color with
      | none => exact Draws.keep fun _ => rfl
      | some color =>
          dsimp only
          cases numericValue round resolved.state.value with
          | none => exact Draws.keep fun _ => rfl
          | some value => exact (fillBar_draws bar value color).after _ fun _ => rfl

/-- A cell of a grid paints its rectangle. -/
theorem renderGridCell_draws (grid : LayoutStatusGridConfig) (rows : Nat) (item : Bytes × Nat) :
    Draws (sampleLayer round states config now animationOrigin (gridCell grid rows item.2) item.1)
      fun canvas => renderGridCell round states config now animationOrigin grid rows canvas item := by
  apply withSample_draws
  unfold sampleLayer
  cases (sampleOf round states config now animationOrigin item.1).color with
  | none => exact Draws.keep fun _ => rfl
  | some color =>
      exact (Draws.fillRect _ _ _ _ color _).after (fun canvas => canvas.count countRendered)
        fun _ => rfl

/-- A grid paints its cells one over the other. -/
theorem renderStatusGrid_draws (grid : LayoutStatusGridConfig) :
    Draws (statusGridLayer round states config now animationOrigin grid) fun canvas =>
      renderStatusGrid round states config now animationOrigin grid canvas := by
  unfold renderStatusGrid
  split
  · exact Draws.fail _
  · dsimp only
    split
    · exact Draws.fail _
    · exact Draws.foldlM fun item _ => renderGridCell_draws grid _ item

/-- The report has no part in the choice. -/
theorem selectPriority_fst (priority : List Bytes) (sources : List Bytes) (best : Nat)
    (report other : RenderReport) :
    (sources.foldl (selectPriority states now priority) (best, report)).1 =
      (sources.foldl (selectPriority states now priority) (best, other)).1 := by
  induction sources generalizing best report other with
  | nil => rfl
  | cons source sources ih =>
      rw [List.foldl_cons, List.foldl_cons]
      unfold selectPriority
      dsimp only
      cases priority.idxOf? (((states.resolve source now).map
        ResolvedState.effectiveStatus).getD (bytes "unknown")) with
      | none => exact ih _ _ _
      | some found => exact ih _ _ _

/-- An aggregate paints its rectangle. -/
theorem renderAggregateStatus_draws (aggregate : LayoutAggregateStatusConfig) :
    Draws (aggregateStatusLayer states now aggregate) fun canvas =>
      renderAggregateStatus states now aggregate canvas := by
  intro canvas drawn succeeds
  change renderAggregateStatus states now aggregate canvas = _ at succeeds
  unfold renderAggregateStatus at succeeds
  dsimp only at succeeds
  rw [selectPriority_fst _ _ _ _ {}, ← selectedPriority] at succeeds
  unfold aggregateStatusLayer
  cases known : aggregateColor aggregate (selectedPriority states now aggregate) with
  | none =>
      rw [known] at succeeds
      cases succeeds
  | some color =>
      rw [known] at succeeds
      have draws := (Draws.fillRect aggregate.x aggregate.y aggregate.width aggregate.height color
        (bytes "Aggregate status bounds became invalid during rendering")).before
          (fun drawn => drawn.count countRendered) fun _ => rfl
      exact draws { canvas with report := (aggregate.sources.foldl
        (selectPriority states now aggregate.priority)
        (aggregate.priority.length, canvas.report)).2 } drawn succeeds

/-- A character of a bitmap paints one place. -/
theorem drawCharacter_draws (palette : UnorderedMap UInt8 Rgb) (x y : Nat) (message : Bytes)
    (character : UInt8 × Nat) :
    Draws ((palette.lookup character.1).elim blank (dot (x + character.2) y)) fun canvas =>
      drawCharacter palette x y message canvas character := by
  unfold drawCharacter
  cases palette.lookup character.1 with
  | none => exact Draws.fail message
  | some color =>
      intro canvas drawn succeeds
      dsimp only at succeeds
      split at succeeds
      · cases succeeds
      next output set =>
        cases succeeds
        exact Frame.setPixel_paints set

/-- A bitmap paints its characters. -/
theorem drawBitmap_draws (palette : UnorderedMap UInt8 Rgb) (pixels : List Bytes) (x y : Nat)
    (message : Bytes) : Draws (bitmapLayer palette pixels x y) fun canvas =>
      drawBitmap palette pixels x y message canvas :=
  Draws.foldlM fun row _ => Draws.foldlM fun character _ =>
    drawCharacter_draws palette x (y + row.2) message character

/-! ## Clocks -/

/-- A pixel inside the frame is painted. -/
theorem putPixel_paints {output : Frame} {x y : Nat} (color : Rgb)
    (inside : output.bounds.Covers x y) :
    Frame.Paints (dot x y color) output (putPixel output x y color) := by
  have place := Frame.covers_bounds.mp inside
  obtain ⟨drawn, set, _⟩ := Frame.setPixel_of_inside color place.1 place.2
  rw [putPixel, set, Option.getD_some]
  exact Frame.setPixel_paints set

/-- No digit has more than seven rows. -/
theorem glyph_rows (digit : Nat) : (digitGlyphs.getD digit []).length ≤ 7 := by
  by_cases known : digit < 10
  · revert digit
    decide
  · have missing : digitGlyphs[digit]? = none := List.getElem?_eq_none (Nat.not_lt.mp known)
    rw [List.getD_eq_getElem?_getD, missing]
    exact Nat.zero_le 7

/-- A digit lights the bits that are set in its rows. -/
theorem glyphLit_iff {digit row column : Nat} : glyphLit digit row column = true ↔
    ∃ bits, (bits, row) ∈ (digitGlyphs.getD digit []).zipIdx ∧ bits.testBit (2 - column) = true := by
  rw [glyphLit, List.getD_eq_getElem?_getD]
  simp only [List.mk_mem_zipIdx_iff_getElem?]
  cases (digitGlyphs.getD digit [])[row]? with
  | none => simp
  | some bits => simp

/-- The pixels of a digit, row by row. -/
theorem digitLayer_eq (x y digit : Nat) (color : Rgb) :
    stack ((digitGlyphs.getD digit []).zipIdx.map fun row => stack ((List.range 3).map fun column =>
      if row.1.testBit (2 - column) = true then dot (x + column) (y + row.2) color else blank)) =
        digitLayer x y digit color := by
  have pixel (lit : Bool) (x y : Nat) :
      Only color (if lit = true then dot x y color else (blank : Layer Place Rgb)) := by
    split
    · exact Only.area
    · exact Only.blank
  have rows (row : Nat × Nat) : ∀ layer ∈ (List.range 3).map fun column =>
      if row.1.testBit (2 - column) = true then dot (x + column) (y + row.2) color else blank,
      layer.Only color := by
    intro layer member
    obtain ⟨column, _, rfl⟩ := List.mem_map.mp member
    exact pixel _ _ _
  have each : ∀ layer ∈ (digitGlyphs.getD digit []).zipIdx.map fun row =>
      stack ((List.range 3).map fun column =>
        if row.1.testBit (2 - column) = true then dot (x + column) (y + row.2) color else blank),
      layer.Only color := by
    intro layer member
    obtain ⟨row, _, rfl⟩ := List.mem_map.mp member
    exact Only.stack (rows row)
  apply (Only.stack each).ext Only.area
  intro place
  rw [stack_of_only each, area_eq_some, glyphLit_iff]
  refine ⟨?_, ?_⟩
  · rintro ⟨layer, hlayer, painted⟩
    obtain ⟨row, hrow, rfl⟩ := List.mem_map.mp hlayer
    obtain ⟨layer, hlayer, painted⟩ := (stack_of_only (rows row)).mp painted
    obtain ⟨column, hcolumn, rfl⟩ := List.mem_map.mp hlayer
    have down : row.2 < 7 := (List.snd_lt_of_mem_zipIdx hrow).trans_le (glyph_rows digit)
    have across : column < 3 := List.mem_range.mp hcolumn
    split at painted
    next bit =>
      obtain rfl := (area_eq_some.mp painted).1
      refine ⟨⟨⟨by dsimp only; omega, by dsimp only; omega⟩, row.1, ?_, ?_⟩, rfl⟩
      · rwa [Nat.add_sub_cancel_left]
      · rwa [Nat.add_sub_cancel_left]
    · cases painted
  · rintro ⟨⟨covered, bits, hrow, bit⟩, _⟩
    simp only [LayoutBounds.Covers] at covered
    refine ⟨_, List.mem_map_of_mem hrow, (stack_of_only (rows _)).mpr ?_⟩
    refine ⟨_, List.mem_map_of_mem (List.mem_range.mpr (show place.1 - x < 3 by omega)), ?_⟩
    rw [if_pos bit]
    exact if_pos (Prod.ext (by dsimp only; omega) (by dsimp only; omega))

/-- A digit inside the frame is painted. -/
theorem drawDigit_paints {output : Frame} {x y : Nat} (digit : Nat) (color : Rgb)
    (right : x + 3 ≤ output.width) (bottom : y + 7 ≤ output.height) :
    Frame.Paints (digitLayer x y digit color) output (drawDigit output x y digit color) := by
  rw [← digitLayer_eq]
  apply Frame.Paints.foldl
  intro row hrow frame same
  have down : row.2 < 7 := (List.snd_lt_of_mem_zipIdx hrow).trans_le (glyph_rows digit)
  apply Frame.Paints.foldl
  intro column hcolumn drawn same'
  have across : column < 3 := List.mem_range.mp hcolumn
  have size := same'.trans same
  split
  · apply putPixel_paints color
    apply Frame.covers_bounds.mpr
    rw [size.1, size.2]
    omega
  · exact Frame.Paints.refl _

/-- So is a colon. -/
theorem drawColon_paints {output : Frame} {x y : Nat} (color : Rgb)
    (right : x + 15 ≤ output.width) (bottom : y + 7 ≤ output.height) :
    Frame.Paints (colonLayer x y color) output (drawColon output x y color) := by
  have upper : Frame.Paints (dot (x + 7) (y + 2) color) output
      (putPixel output (x + 7) (y + 2) color) :=
    putPixel_paints color (Frame.covers_bounds.mpr (by omega))
  have size := upper.size
  exact upper.trans (putPixel_paints color
    (Frame.covers_bounds.mpr ⟨size.1 ▸ by omega, size.2 ▸ by omega⟩))

/-- So are all digits of a time. -/
theorem drawDigits_paints {output : Frame} {x y : Nat} (hour minute : Nat) (showColon : Bool)
    (color : Rgb) (right : x + 15 ≤ output.width) (bottom : y + 7 ≤ output.height) :
    Frame.Paints (digitsLayer x y hour minute showColon color) output
      (drawDigits output x y hour minute showColon color) := by
  have digit (frame : Frame) (same : Frame.SameSize frame output) (place digit : Nat)
      (fits : place ≤ 12) : Frame.Paints (digitLayer (x + place) y digit color) frame
        (drawDigit frame (x + place) y digit color) := by
    apply drawDigit_paints
    · rw [same.1]
      omega
    · rw [same.2]
      exact bottom
  have tens := digit output (Frame.SameSize.refl _) 0 (hour / 10) (Nat.zero_le _)
  have ones := digit _ tens.size 3 (hour % 10) (by decide)
  have hours := tens.trans ones
  have colon : Frame.Paints (if showColon then colonLayer x y color else blank)
      (drawDigit (drawDigit output (x + 0) y (hour / 10) color) (x + 3) y (hour % 10) color)
      (if showColon then drawColon (drawDigit (drawDigit output (x + 0) y (hour / 10) color)
        (x + 3) y (hour % 10) color) x y color
      else drawDigit (drawDigit output (x + 0) y (hour / 10) color) (x + 3) y (hour % 10) color) := by
    cases showColon with
    | false => exact Frame.Paints.refl _
    | true =>
        apply drawColon_paints
        · rw [hours.size.1]
          exact right
        · rw [hours.size.2]
          exact bottom
  have middle := hours.trans colon
  have minutes := middle.trans (digit _ middle.size 9 (minute / 10) (by decide))
  have all := minutes.trans (digit _ minutes.size 12 (minute % 10) (by decide))
  simp only [beneath_assoc] at all
  exact all

/-- A time that fits is painted in the middle of its rectangle. -/
theorem drawTime_paints {output drawn : Frame} {bounds : LayoutBounds} {hour minute : Nat}
    {showColon : Bool} {color : Rgb}
    (shown : drawTime output bounds.x bounds.y bounds.width bounds.height hour minute showColon
      color = some drawn) :
    Frame.Paints (timeLayer bounds hour minute showColon color) output drawn := by
  unfold drawTime at shown
  split at shown
  · cases shown
  next fits =>
    cases shown
    exact drawDigits_paints hour minute showColon color (by omega) (by omega)

/-- A clock paints the times that fit it. -/
theorem drawClock_draws (clock : LayoutClockConfig) (times : Tm × Tm) (showColon : Tm → Bool) :
    Draws (clockTimesLayer clock times showColon) (drawClock clock times showColon) := by
  intro canvas drawn succeeds
  unfold drawClock at succeeds
  dsimp only at succeeds
  split at succeeds
  · cases succeeds
  next output shown =>
    cases succeeds
    exact drawTime_paints shown

variable {calendar : Calendar} {wallNow : Int}

/-- A clock with a source paints its layer. -/
theorem renderSourcedClock_draws (clock : LayoutClockConfig) :
    Draws (sourcedClockLayer round states now calendar clock) fun canvas =>
      renderSourcedClock round states now calendar clock canvas := by
  unfold renderSourcedClock sourcedClockLayer
  cases states.resolve clock.source now with
  | none => exact Draws.keep fun _ => rfl
  | some resolved =>
      dsimp only [Option.bind_some]
      cases epochTimes round calendar resolved.state.value with
      | none => exact Draws.keep fun _ => rfl
      | some times => exact drawClock_draws clock times _

/-- So does a clock of the wall time. -/
theorem renderWallClock_draws (clock : LayoutClockConfig) :
    Draws (wallClockLayer calendar wallNow clock) fun canvas =>
      renderWallClock calendar wallNow clock canvas := by
  unfold renderWallClock wallClockLayer
  cases splitWallTime calendar wallNow with
  | none => exact Draws.fail _
  | some times => exact drawClock_draws clock times _

/-- A widget paints its layer. -/
theorem renderWidget_draws (widget : LayoutWidgetConfig) :
    Draws (widgetLayer round states config now animationOrigin calendar wallNow widget)
      fun canvas =>
        renderWidget round states config now animationOrigin calendar wallNow canvas widget := by
  cases widget with
  | indicator indicator => exact renderIndicator_draws indicator
  | bar bar => exact renderBar_draws bar
  | statusGrid grid => exact renderStatusGrid_draws grid
  | aggregateStatus aggregate => exact renderAggregateStatus_draws aggregate
  | bitmap bitmap => exact drawBitmap_draws _ _ _ _ _
  | clock clock =>
      unfold renderWidget widgetLayer
      dsimp only
      split
      · exact renderSourcedClock_draws clock
      · exact renderWallClock_draws clock

end

end PixelStatus
