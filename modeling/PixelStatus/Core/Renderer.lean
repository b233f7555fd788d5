/-
# The renderer

A drawing step takes a canvas, the report and the frame under way, and either
goes on with another or stops with the canvas whose report holds an error. The
calendar functions of the C library are a record; their results are in the
ranges the library documents. Converting the wall time has no effect, so the
renderer's memory of the converted time is left out.
-/

import PixelStatus.Core.Config.Types
import PixelStatus.Core.Frame
import PixelStatus.Core.State
import PixelStatus.Logic.Cuts

namespace PixelStatus

/-- What a rendering met. -/
structure RenderReport where
  success : Bool := false
  renderedIndicators : Nat := 0
  missingSources : Nat := 0
  missingStatuses : Nat := 0
  invalidValues : Nat := 0
  activeCard : Bytes := []
  nextCard : Bytes := []
  transitioning : Bool := false
  error : Bytes := []
  deriving DecidableEq

def mergeReport (target source : RenderReport) : RenderReport :=
  { target with
    renderedIndicators := target.renderedIndicators + source.renderedIndicators
    missingSources := target.missingSources + source.missingSources
    missingStatuses := target.missingStatuses + source.missingStatuses
    invalidValues := target.invalidValues + source.invalidValues
    error :=
      if source.success = false ∧ target.error = [] then source.error else target.error }

/-- The fields of `std::tm` that the renderer reads. -/
structure Tm where
  hour : Fin 24
  minute : Fin 60
  second : Fin 61

/-- The C library's conversions; a system-clock instant is a number of ticks. -/
structure Calendar where
  toTimeT : Int → Int
  fromTimeT : Int → Int
  localtime : Int → Option Tm
  gmtime : Int → Option Tm

/-- The report and the frame under way. -/
structure Canvas where
  report : RenderReport
  output : Frame

/-- How a drawing step ends. -/
abbrev Drawing := Except Canvas Canvas

namespace Canvas

/-- Stop with an error. -/
def fail (canvas : Canvas) (message : Bytes) : Drawing :=
  .error { canvas with report := { canvas.report with error := message } }

/-- Go on with another report. -/
def count (canvas : Canvas) (change : RenderReport → RenderReport) : Canvas :=
  { canvas with report := change canvas.report }

/-- Fill a rectangle, which is an error outside the frame. -/
def fillRect (canvas : Canvas) (x y width height : Nat) (color : Rgb) (message : Bytes) :
    Drawing :=
  match canvas.output.fillRect x y width height color with
  | some drawn => .ok { canvas with output := drawn }
  | none => canvas.fail message

end Canvas

def countRendered (report : RenderReport) : RenderReport :=
  { report with renderedIndicators := report.renderedIndicators + 1 }

def countMissingSource (report : RenderReport) : RenderReport :=
  { report with missingSources := report.missingSources + 1 }

def countMissingStatus (report : RenderReport) : RenderReport :=
  { report with missingStatuses := report.missingStatuses + 1 }

def countInvalidValue (report : RenderReport) : RenderReport :=
  { report with invalidValues := report.invalidValues + 1 }

/-! ## Sources -/

/-- The state a source resolves to and the colour it shows. -/
structure SourceSample where
  state : Option ResolvedState
  color : Option Rgb

section

variable (round : Rounding) (states : StateStore) (config : AppConfig)
  (now animationOrigin : TimePoint)

/-- The appearance of a status, or that of `unknown`, and whether it is the
status's own. -/
def appearanceOf (status : Bytes) : Option TimelineAppearance × Bool :=
  match config.statuses.lookup status with
  | some appearance => (some appearance, true)
  | none => (config.statuses.lookup (bytes "unknown"), false)

def sampleSource (source : Bytes) (report : RenderReport) : SourceSample × RenderReport :=
  let state := states.resolve source now
  let report := if state.isSome then report else countMissingSource report
  let status := (state.map ResolvedState.effectiveStatus).getD (bytes "unknown")
  let enteredAt := (state.map ResolvedState.statusEnteredAt).getD animationOrigin
  let (appearance, known) := appearanceOf config status
  let report := if known then report else countMissingStatus report
  let elapsed := max (durationCast (now - enteredAt)) 0
  ({ state, color := appearance.map fun appearance => appearance.sample round elapsed }, report)

/-- Draw with the sample of a source. -/
def withSample (source : Bytes) (canvas : Canvas)
    (draw : SourceSample → Canvas → Drawing) : Drawing :=
  let (sample, report) := sampleSource round states config now animationOrigin source
    canvas.report
  draw sample { canvas with report }

/-! ## Indicators and bars -/

def renderIndicator (indicator : IndicatorConfig) (canvas : Canvas) : Drawing :=
  withSample round states config now animationOrigin indicator.source canvas
    fun sample canvas =>
      match sample.color with
      | none => .ok canvas
      | some color => do
          let canvas ← canvas.fillRect indicator.x indicator.y indicator.width
            indicator.height color (bytes "Indicator layout became invalid during rendering")
          return canvas.count countRendered

def numericValue : StateValue → Option Double
  | .integer value => some (round value.toInt)
  | .real value => if value.isFinite then some value else none
  | _ => none

/-- `static_cast<std::size_t>` of a double that is not negative. -/
def truncate : Double → Nat
  | .finite value => ⌊value⌋.toNat
  | _ => 0

def barHorizontal (direction : BarDirection) : Bool :=
  direction = .right || direction = .left

/-- The lines that a bar has. -/
def barExtent (bar : LayoutBarConfig) : Nat :=
  if barHorizontal bar.direction then bar.width else bar.height

/-- The lines that a bar lights of so many. -/
def filledLines (fraction : Double) (extent : Nat) : Nat :=
  min extent (truncate
    (Double.add round (Double.mul round fraction (.finite extent)) (.finite (1 / 2))))

/-- The lit part of a bar. -/
def litBounds (bar : LayoutBarConfig) (filled : Nat) : LayoutBounds :=
  match bar.direction with
  | .right => { bar.toLayoutBounds with width := filled }
  | .left => { bar.toLayoutBounds with x := bar.x + (bar.width - filled), width := filled }
  | .down => { bar.toLayoutBounds with height := filled }
  | .up => { bar.toLayoutBounds with y := bar.y + (bar.height - filled), height := filled }

/-- The fraction of its range that a value makes up, not yet clamped. -/
def rawFraction (bar : LayoutBarConfig) (value : Double) : Double :=
  Double.div round (Double.sub round value bar.minimum)
    (Double.sub round bar.maximum bar.minimum)

/-- Light the part of a bar that a value fills. -/
def fillBar (bar : LayoutBarConfig) (value : Double) (color : Rgb) (canvas : Canvas) :
    Drawing :=
  let raw := rawFraction round bar value
  if !raw.isFinite then .ok (canvas.count countInvalidValue)
  else
    let fraction := Double.clamp raw (.finite 0) (.finite 1)
    let filled := filledLines round fraction (barExtent bar)
    if filled = 0 then .ok canvas
    else
      let lit := litBounds bar filled
      canvas.fillRect lit.x lit.y lit.width lit.height color
        (bytes "Layout bar fill became invalid during rendering")

def renderBar (bar : LayoutBarConfig) (canvas : Canvas) : Drawing := do
  let canvas ← canvas.fillRect bar.x bar.y bar.width bar.height bar.trackColor
    (bytes "Layout bar bounds became invalid during rendering")
  withSample round states config now animationOrigin bar.source canvas fun sample canvas =>
    let canvas := canvas.count countRendered
    match sample.state, sample.color with
    | some resolved, some color =>
        match numericValue round resolved.state.value with
        | none => .ok (canvas.count countInvalidValue)
        | some value => fillBar round bar value color canvas
    | _, _ => .ok canvas

/-! ## Status grids -/

/-- The cell of a grid, by its place in the list of sources. -/
def gridCell (grid : LayoutStatusGridConfig) (rows index : Nat) : LayoutBounds :=
  let usableWidth := grid.width - grid.gap * (grid.columns - 1)
  let usableHeight := grid.height - grid.gap * (rows - 1)
  let column := index % grid.columns
  let row := index / grid.columns
  let left := cut usableWidth grid.columns column
  let right := cut usableWidth grid.columns (column + 1)
  let top := cut usableHeight rows row
  let bottom := cut usableHeight rows (row + 1)
  { x := grid.x + left + column * grid.gap
    y := grid.y + top + row * grid.gap
    width := right - left
    height := bottom - top }

def renderGridCell (grid : LayoutStatusGridConfig) (rows : Nat) (canvas : Canvas)
    (item : Bytes × Nat) : Drawing :=
  withSample round states config now animationOrigin item.1 canvas fun sample canvas =>
    let canvas := canvas.count countRendered
    match sample.color with
    | none => .ok canvas
    | some color =>
        let cell := gridCell grid rows item.2
        canvas.fillRect cell.x cell.y cell.width cell.height color
          (bytes "Layout status grid bounds became invalid during rendering")

def renderStatusGrid (grid : LayoutStatusGridConfig) (canvas : Canvas) : Drawing :=
  if grid.sources = [] ∨ grid.columns = 0 ∨ grid.columns > grid.sources.length then
    canvas.fail (bytes "Layout status grid configuration became invalid during rendering")
  else
    let rows := (grid.sources.length + grid.columns - 1) / grid.columns
    let horizontalGaps := grid.gap * (grid.columns - 1)
    let verticalGaps := grid.gap * (rows - 1)
    if horizontalGaps > grid.width ∨ grid.width - horizontalGaps < grid.columns
        ∨ verticalGaps > grid.height ∨ grid.height - verticalGaps < rows then
      canvas.fail (bytes "Layout status grid geometry became invalid during rendering")
    else
      grid.sources.zipIdx.foldlM
        (renderGridCell round states config now animationOrigin grid rows) canvas

/-! ## Aggregates and bitmaps -/

/-- One source of an aggregate: the best priority so far and the report. -/
def selectPriority (priority : List Bytes) (selection : Nat × RenderReport) (source : Bytes) :
    Nat × RenderReport :=
  let resolved := states.resolve source now
  let status := (resolved.map ResolvedState.effectiveStatus).getD (bytes "unknown")
  let report := if resolved.isSome then selection.2 else countMissingSource selection.2
  match priority.idxOf? status with
  | none => (selection.1, report)
  | some found => (min selection.1 found, report)

/-- The colour of an aggregate; `none` when the selected status has none. -/
def aggregateColor (aggregate : LayoutAggregateStatusConfig) (selected : Nat) : Option Rgb :=
  match aggregate.priority[selected]? with
  | none => some aggregate.defaultColor
  | some status => aggregate.colors.lookup status

def renderAggregateStatus (aggregate : LayoutAggregateStatusConfig) (canvas : Canvas) :
    Drawing := do
  let (selected, report) := aggregate.sources.foldl
    (selectPriority states now aggregate.priority) (aggregate.priority.length, canvas.report)
  let canvas := { canvas with report }
  match aggregateColor aggregate selected with
  | none => canvas.fail (bytes "Aggregate status color became invalid during rendering")
  | some color =>
      let canvas ← canvas.fillRect aggregate.x aggregate.y aggregate.width aggregate.height
        color (bytes "Aggregate status bounds became invalid during rendering")
      return canvas.count countRendered

/-- Draw one character of a bitmap. -/
def drawCharacter (palette : UnorderedMap UInt8 Rgb) (x y : Nat) (message : Bytes)
    (canvas : Canvas) (character : UInt8 × Nat) : Drawing :=
  match palette.lookup character.1 with
  | none => canvas.fail message
  | some color =>
      match canvas.output.setPixel (x + character.2) y color with
      | none => canvas.fail message
      | some drawn => .ok { canvas with output := drawn }

/-- Draw rows of palette characters from a corner on. -/
def drawBitmap (palette : UnorderedMap UInt8 Rgb) (pixels : List Bytes) (x y : Nat)
    (message : Bytes) (canvas : Canvas) : Drawing :=
  pixels.zipIdx.foldlM (fun canvas row =>
    row.1.zipIdx.foldlM (drawCharacter palette x (y + row.2) message) canvas) canvas

def renderLayoutBitmap (bitmap : LayoutBitmapConfig) (canvas : Canvas) : Drawing :=
  drawBitmap bitmap.palette bitmap.pixels bitmap.x bitmap.y
    (bytes "Layout bitmap became invalid during rendering") canvas

/-! ## Clocks -/

/-- The rows of the ten digits, three bits each. -/
def digitGlyphs : List (List Nat) :=
  [[0b111, 0b101, 0b101, 0b101, 0b101, 0b101, 0b111],
    [0b010, 0b110, 0b010, 0b010, 0b010, 0b010, 0b111],
    [0b111, 0b001, 0b001, 0b111, 0b100, 0b100, 0b111],
    [0b111, 0b001, 0b001, 0b111, 0b001, 0b001, 0b111],
    [0b101, 0b101, 0b101, 0b111, 0b001, 0b001, 0b001],
    [0b111, 0b100, 0b100, 0b111, 0b001, 0b001, 0b111],
    [0b111, 0b100, 0b100, 0b111, 0b101, 0b101, 0b111],
    [0b111, 0b001, 0b001, 0b010, 0b010, 0b010, 0b010],
    [0b111, 0b101, 0b101, 0b111, 0b101, 0b101, 0b111],
    [0b111, 0b101, 0b101, 0b111, 0b001, 0b001, 0b111]]

/-- `set_pixel` whose failure is ignored. -/
def putPixel (output : Frame) (x y : Nat) (color : Rgb) : Frame :=
  (output.setPixel x y color).getD output

def drawDigit (output : Frame) (x y digit : Nat) (color : Rgb) : Frame :=
  (digitGlyphs.getD digit []).zipIdx.foldl (fun output row =>
    (List.range 3).foldl (fun output column =>
      if row.1.testBit (2 - column) then putPixel output (x + column) (y + row.2) color
      else output) output) output

/-- The colon between the digits of a time. -/
def drawColon (output : Frame) (x y : Nat) (color : Rgb) : Frame :=
  putPixel (putPixel output (x + 7) (y + 2) color) (x + 7) (y + 4) color

/-- The four digits of a time, with or without the colon. -/
def drawDigits (output : Frame) (x y hour minute : Nat) (showColon : Bool) (color : Rgb) :
    Frame :=
  let output := drawDigit output x y (hour / 10) color
  let output := drawDigit output (x + 3) y (hour % 10) color
  let output := if showColon then drawColon output x y color else output
  let output := drawDigit output (x + 9) y (minute / 10) color
  drawDigit output (x + 12) y (minute % 10) color

/-- Draw a time in the middle of a rectangle; `none` when it does not fit. -/
def drawTime (output : Frame) (x y width height hour minute : Nat) (showColon : Bool)
    (color : Rgb) : Option Frame :=
  if width < 15 ∨ height < 7 ∨ x ≥ output.width ∨ width > output.width - x
      ∨ y ≥ output.height ∨ height > output.height - y then
    none
  else
    some (drawDigits output (x + (width - 15) / 2) (y + (height - 7) / 2) hour minute showColon
      color)

variable (calendar : Calendar)

/-- The local time and the UTC time of an instant. -/
def splitWallTime (wallNow : Int) : Option (Tm × Tm) :=
  let raw := calendar.toTimeT wallNow
  match calendar.localtime raw, calendar.gmtime raw with
  | some localTime, some utc => some (localTime, utc)
  | _, _ => none

/-- Draw a time into a clock widget. -/
def drawClock (clock : LayoutClockConfig) (times : Tm × Tm) (showColon : Tm → Bool)
    (canvas : Canvas) : Drawing :=
  let shown := if clock.timezone = .local then times.1 else times.2
  match drawTime canvas.output clock.x clock.y clock.width clock.height shown.hour shown.minute
      (showColon shown) clock.color with
  | none => canvas.fail (bytes "Layout clock bounds became invalid during rendering")
  | some drawn => .ok { canvas with output := drawn }

/-- Whether the colon of a running clock is lit. -/
def evenSecond (time : Tm) : Bool := time.second.val % 2 = 0

/-- The times that a source's value denotes, if it can be an epoch. -/
def epochTimes (value : StateValue) : Option (Tm × Tm) :=
  match numericValue round value with
  | none => none
  | some epoch =>
      if epoch.lt (.finite 0) || (Double.finite 32503680000).lt epoch then none
      else splitWallTime calendar (calendar.fromTimeT (truncate epoch))

/-- A clock that shows its source's value. Its colon stays lit, and a value that
is no time leaves the bounds blank. -/
def renderSourcedClock (clock : LayoutClockConfig) (canvas : Canvas) : Drawing :=
  match states.resolve clock.source now with
  | none => .ok (canvas.count countMissingSource)
  | some resolved =>
      match epochTimes round calendar resolved.state.value with
      | none => .ok (canvas.count countInvalidValue)
      | some times => drawClock clock times (fun _ => true) canvas

variable (wallNow : Int)

/-- A clock that shows the wall time. -/
def renderWallClock (clock : LayoutClockConfig) (canvas : Canvas) : Drawing :=
  match splitWallTime calendar wallNow with
  | none => canvas.fail (bytes "Layout clock could not convert the current wall time")
  | some times => drawClock clock times evenSecond canvas

/-! ## Cards -/

/-- One widget by its kind. -/
def renderWidget (canvas : Canvas) : LayoutWidgetConfig → Drawing
  | .indicator indicator =>
      renderIndicator round states config now animationOrigin indicator canvas
  | .bar bar => renderBar round states config now animationOrigin bar canvas
  | .statusGrid grid => renderStatusGrid round states config now animationOrigin grid canvas
  | .aggregateStatus aggregate => renderAggregateStatus states now aggregate canvas
  | .bitmap bitmap => renderLayoutBitmap bitmap canvas
  | .clock clock =>
      if clock.source ≠ [] then renderSourcedClock round states now calendar clock canvas
      else renderWallClock calendar wallNow clock canvas

/-- A new report over a frame of the background colour. -/
def startCanvas (output : Frame) : Canvas :=
  { report := {}, output := output.fill config.display.background }

/-- The report and the frame with which drawing ends. -/
def finishDrawing : Drawing → RenderReport × Frame
  | .ok canvas => ({ canvas.report with success := true }, canvas.output)
  | .error canvas => (canvas.report, canvas.output)

def renderIndicators (indicators : List IndicatorConfig) (output : Frame) :
    RenderReport × Frame :=
  finishDrawing (indicators.foldlM
    (fun canvas indicator =>
      renderIndicator round states config now animationOrigin indicator canvas)
    (startCanvas config output))

/-- The two times of a clock card; a time that does not fit is left out. -/
def drawClockCard (clock : ClockCardConfig) (localTime utc : Tm) (output : Frame) : Frame :=
  let showColon := evenSecond localTime
  let output := (drawTime output 0 0 output.width 7 localTime.hour localTime.minute showColon
    clock.localColor).getD output
  (drawTime output 0 (output.height - 7) output.width 7 utc.hour utc.minute showColon
    clock.utcColor).getD output

def renderClockCard (clock : ClockCardConfig) (canvas : Canvas) : Drawing :=
  match splitWallTime calendar wallNow with
  | none => canvas.fail (bytes "Clock card could not convert the current wall time")
  | some (localTime, utc) =>
      .ok { canvas with output := drawClockCard clock localTime utc canvas.output }

/-- One card by its content. -/
def renderCard (card : CardConfig) (output : Frame) : RenderReport × Frame :=
  match card.content with
  | .indicators content =>
      renderIndicators round states config now animationOrigin content.indicators output
  | .layout content =>
      finishDrawing (content.widgets.foldlM
        (renderWidget round states config now animationOrigin calendar wallNow)
        (startCanvas config output))
  | .bitmap content =>
      finishDrawing (drawBitmap content.palette content.pixels 0 0
        (bytes "Bitmap card became invalid during rendering") (startCanvas config output))
  | .clock content =>
      finishDrawing (renderClockCard calendar wallNow content (startCanvas config output))

end

/-! ## Transitions -/

/-- Paint every pixel of a frame. -/
def paintAll (output : Frame) (color : Nat → Nat → Rgb) : Frame :=
  (List.range output.height).foldl (fun painted y =>
    (List.range output.width).foldl (fun painted x => putPixel painted x y (color x y))
      painted) output

/-- A pixel that is there. -/
def pixelAt (frame : Frame) (x y : Nat) : Rgb := (frame.pixel x y).getD {}

/-- The pixel that a slide shows at a place. -/
def slidePixel (source target : Frame) (transition : CardTransition)
    (width height offset x y : Nat) : Rgb :=
  match transition with
  | .slideLeft =>
      if x + offset < width then pixelAt source (x + offset) y
      else pixelAt target (x + offset - width) y
  | .slideRight =>
      if x ≥ offset then pixelAt source (x - offset) y
      else pixelAt target (width - offset + x) y
  | .slideUp =>
      if y + offset < height then pixelAt source x (y + offset)
      else pixelAt target x (y + offset - height)
  | _ =>
      if y ≥ offset then pixelAt source x (y - offset)
      else pixelAt target x (height - offset + y)

variable (round : Rounding)

def composeTransition (source target : Frame) (transition : CardTransition)
    (progress : Double) (output : Frame) : Frame :=
  let width := output.width
  let height := output.height
  if transition = .fade then
    paintAll output fun x y =>
      interpolate round (pixelAt source x y) (pixelAt target x y) progress
  else
    let horizontal := transition = .slideLeft ∨ transition = .slideRight
    let extent := if horizontal then width else height
    let offset := min extent (truncate (Double.mul round progress (.finite extent)))
    paintAll output (slidePixel source target transition width height offset)

/-! ## Decks -/

/-- The time from one card's start to the next one's. -/
def CardConfig.segment (card : CardConfig) : Duration := card.hold + card.transition.duration

/-- The time in which a deck returns to its first card. -/
def deckCycle (cards : List CardConfig) : Duration := (cards.map CardConfig.segment).sum

/-- The card in whose segment a position lies, the position in that segment,
and the card that follows. The last card keeps whatever is left. -/
def locateCard (first : CardConfig) (position : Duration) (card : CardConfig) :
    List CardConfig → CardConfig × Duration × CardConfig
  | [] => (card, position, first)
  | next :: rest =>
      if position < card.segment then (card, position, next)
      else locateCard first (position - card.segment) next rest

variable (states : StateStore) (config : AppConfig) (now animationOrigin : TimePoint)
  (calendar : Calendar) (wallNow : Int)

/-- A transition between two cards. -/
def renderTransition (active next : CardConfig) (elapsed : Duration) (output : Frame) :
    RenderReport × Frame :=
  let blank := Frame.create config.display.width config.display.height
  let render := fun card => renderCard round states config now animationOrigin calendar wallNow
    card blank
  let (fromReport, source) := render active
  let (toReport, target) := render next
  let report := mergeReport (mergeReport { activeCard := active.id } fromReport) toReport
  if report.error ≠ [] then (report, output)
  else
    let progress := Double.div round (round elapsed) (round active.transition.duration)
    ({ report with
        success := true
        activeCard := active.id
        nextCard := next.id
        transitioning := true },
      composeTransition round source target active.transition.type progress output)

/-- A card on its own. -/
def renderActiveCard (card : CardConfig) (output : Frame) : RenderReport × Frame :=
  let (report, output) :=
    renderCard round states config now animationOrigin calendar wallNow card output
  ({ report with activeCard := card.id }, output)

/-- A deck of two or more cards. -/
def renderDeck (first : CardConfig) (rest : List CardConfig) (output : Frame) :
    RenderReport × Frame :=
  let elapsed := max (durationCast (now - animationOrigin)) 0
  let (active, position, next) :=
    locateCard first (elapsed.tmod (deckCycle (first :: rest))) first rest
  if position < active.hold ∨ active.transition.duration = 0
      ∨ active.transition.type = .instant then
    renderActiveCard round states config now animationOrigin calendar wallNow active output
  else
    renderTransition round states config now animationOrigin calendar wallNow active next
      (position - active.hold) output

/-- `Renderer::render` into a frame with any contents. -/
def render (output : Frame) : RenderReport × Frame :=
  if output.width ≠ config.display.width ∨ output.height ≠ config.display.height then
    ({ error := bytes "Output frame dimensions do not match display configuration" }, output)
  else match config.cards with
    | [] => renderIndicators round states config now animationOrigin config.indicators output
    | [card] =>
        renderActiveCard round states config now animationOrigin calendar wallNow card output
    | first :: rest =>
        renderDeck round states config now animationOrigin calendar wallNow first rest output

end PixelStatus
