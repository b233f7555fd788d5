/-
# What every drawing step keeps

A drawing step counts in the report, writes an error or draws into the frame.
A property of the canvas that none of these breaks holds however a drawing ends.
-/

import PixelStatus.Core.WidgetLayers

namespace PixelStatus

open Outcome

section

variable (round : Rounding) (states : StateStore) (config : AppConfig)
  (now animationOrigin : TimePoint)

/-- No change that a drawing step makes breaks the property. -/
structure Lasting (holds : Canvas → Prop) : Prop where
  error : ∀ canvas message, holds canvas →
    holds { canvas with report := { canvas.report with error := message } }
  drawn : ∀ canvas drawn, holds canvas → Frame.SameSize drawn canvas.output →
    holds { canvas with output := drawn }
  sampled : ∀ source canvas, holds canvas → holds { canvas with
    report := (sampleSource round states config now animationOrigin source canvas.report).2 }
  rendered : ∀ canvas, holds canvas → holds (canvas.count countRendered)
  missingSource : ∀ canvas, holds canvas → holds (canvas.count countMissingSource)
  invalidValue : ∀ canvas, holds canvas → holds (canvas.count countInvalidValue)

/-- However the drawing ends, the property holds. -/
abbrev Drawing.Keeps (holds : Canvas → Prop) (drawing : Drawing) : Prop :=
  Ends holds holds drawing

variable (calendar : Calendar) (wallNow : Int)

/-- Draw the content of a card. -/
def drawContent (content : CardContentConfig) (canvas : Canvas) : Drawing :=
  match content with
  | .indicators content =>
      content.indicators.foldlM (fun canvas indicator =>
        renderIndicator round states config now animationOrigin indicator canvas) canvas
  | .layout content =>
      content.widgets.foldlM
        (renderWidget round states config now animationOrigin calendar wallNow) canvas
  | .bitmap content =>
      drawBitmap content.palette content.pixels 0 0
        (bytes "Bitmap card became invalid during rendering") canvas
  | .clock content => renderClockCard calendar wallNow content canvas

end

section

variable {round : Rounding} {states : StateStore} {config : AppConfig}
  {now animationOrigin : TimePoint} {calendar : Calendar} {wallNow : Int}

/-- A card is drawn onto the background of the display. -/
theorem renderCard_eq (card : CardConfig) (output : Frame) :
    renderCard round states config now animationOrigin calendar wallNow card output =
      finishDrawing (drawContent round states config now animationOrigin calendar wallNow
        card.content (startCanvas config output)) := by
  unfold renderCard drawContent
  cases card.content <;> rfl

variable {holds : Canvas → Prop} {canvas : Canvas}
  (lasting : Lasting round states config now animationOrigin holds)

include lasting

/-- A failure keeps the property. -/
theorem Canvas.fail_keeps (kept : holds canvas) (message : Bytes) :
    (canvas.fail message).Keeps holds := Ends.error (lasting.error canvas message kept)

/-- So does a rectangle, whether it is filled or refused. -/
theorem Canvas.fillRect_keeps (kept : holds canvas) (x y width height : Nat) (color : Rgb)
    (message : Bytes) : (canvas.fillRect x y width height color message).Keeps holds := by
  unfold Canvas.fillRect
  split
  next drawn filled =>
    exact Ends.ok (lasting.drawn canvas drawn kept (Frame.fillRect_paints filled).size)
  · exact Canvas.fail_keeps lasting kept message

/-- So does a drawing with a sample when it does so with any. -/
theorem withSample_keeps {source : Bytes} {draw : SourceSample → Canvas → Drawing}
    (kept : holds canvas)
    (hdraw : ∀ sample canvas, holds canvas → (draw sample canvas).Keeps holds) :
    (withSample round states config now animationOrigin source canvas draw).Keeps holds :=
  hdraw _ _ (lasting.sampled source canvas kept)

/-! ## Widgets -/

/-- So does an indicator. -/
theorem renderIndicator_keeps {indicator : IndicatorConfig} (kept : holds canvas) :
    (renderIndicator round states config now animationOrigin indicator canvas).Keeps holds := by
  apply withSample_keeps lasting kept
  intro sample canvas kept
  split
  · exact Ends.ok kept
  · exact (Canvas.fillRect_keeps lasting kept _ _ _ _ _ _).bind
      fun canvas kept => Ends.ok (lasting.rendered canvas kept)

/-- So does the lit part of a bar. -/
theorem fillBar_keeps {bar : LayoutBarConfig} {value : Double} {color : Rgb}
    (kept : holds canvas) : (fillBar round bar value color canvas).Keeps holds := by
  unfold fillBar
  dsimp only
  split
  · exact Ends.ok (lasting.invalidValue canvas kept)
  · split
    · exact Ends.ok kept
    · exact Canvas.fillRect_keeps lasting kept _ _ _ _ _ _

/-- So does a whole bar. -/
theorem renderBar_keeps {bar : LayoutBarConfig} (kept : holds canvas) :
    (renderBar round states config now animationOrigin bar canvas).Keeps holds := by
  apply (Canvas.fillRect_keeps lasting kept _ _ _ _ _ _).bind
  intro canvas kept
  apply withSample_keeps lasting kept
  intro sample canvas kept
  have counted := lasting.rendered canvas kept
  dsimp only
  split
  · split
    · exact Ends.ok (lasting.invalidValue _ counted)
    · exact fillBar_keeps lasting counted
  · exact Ends.ok counted

/-- So does a cell of a status grid. -/
theorem renderGridCell_keeps {grid : LayoutStatusGridConfig} {rows : Nat} {item : Bytes × Nat}
    (kept : holds canvas) :
    (renderGridCell round states config now animationOrigin grid rows canvas item).Keeps
      holds := by
  apply withSample_keeps lasting kept
  intro sample canvas kept
  have counted := lasting.rendered canvas kept
  dsimp only
  split
  · exact Ends.ok counted
  · exact Canvas.fillRect_keeps lasting counted _ _ _ _ _ _

/-- So does a whole grid. -/
theorem renderStatusGrid_keeps {grid : LayoutStatusGridConfig} (kept : holds canvas) :
    (renderStatusGrid round states config now animationOrigin grid canvas).Keeps holds := by
  unfold renderStatusGrid
  split
  · exact Canvas.fail_keeps lasting kept _
  · dsimp only
    split
    · exact Canvas.fail_keeps lasting kept _
    · exact Ends.foldlM kept fun canvas item kept => renderGridCell_keeps lasting kept

/-- Choosing a priority only counts missing sources. -/
theorem selectPriority_keeps {priority sources : List Bytes} {best : Nat} (kept : holds canvas) :
    holds { canvas with report := (sources.foldl (selectPriority states now priority)
      (best, canvas.report)).2 } := by
  induction sources generalizing canvas best with
  | nil => exact kept
  | cons source sources ih =>
      have counted : holds { canvas with
          report := (selectPriority states now priority (best, canvas.report) source).2 } := by
        unfold selectPriority
        dsimp only
        cases (states.resolve source now).isSome with
        | true => split <;> exact kept
        | false => split <;> exact lasting.missingSource canvas kept
      exact @ih _ (selectPriority states now priority (best, canvas.report) source).1 counted

/-- So does an aggregate. -/
theorem renderAggregateStatus_keeps {aggregate : LayoutAggregateStatusConfig}
    (kept : holds canvas) :
    (renderAggregateStatus states now aggregate canvas).Keeps holds := by
  have counted := @selectPriority_keeps round states config now animationOrigin holds canvas
    lasting aggregate.priority aggregate.sources aggregate.priority.length kept
  unfold renderAggregateStatus
  dsimp only
  split
  · exact Canvas.fail_keeps lasting counted _
  · exact (Canvas.fillRect_keeps lasting counted _ _ _ _ _ _).bind
      fun canvas kept => Ends.ok (lasting.rendered canvas kept)

/-- So does a bitmap. -/
theorem drawBitmap_keeps {palette : UnorderedMap UInt8 Rgb} {pixels : List Bytes} {x y : Nat}
    {message : Bytes} (kept : holds canvas) :
    (drawBitmap palette pixels x y message canvas).Keeps holds := by
  apply Ends.foldlM kept
  intro canvas row kept
  apply Ends.foldlM kept
  intro canvas character kept
  unfold drawCharacter
  split
  · exact Canvas.fail_keeps lasting kept message
  · split
    · exact Canvas.fail_keeps lasting kept message
    next drawn set =>
      exact Ends.ok (lasting.drawn canvas drawn kept (Frame.setPixel_paints set).size)

/-! ## Clocks -/

/-- So do the digits of a clock. -/
theorem drawClock_keeps {clock : LayoutClockConfig} {times : Tm × Tm} {showColon : Tm → Bool}
    (kept : holds canvas) : (drawClock clock times showColon canvas).Keeps holds := by
  unfold drawClock
  dsimp only
  split
  · exact Canvas.fail_keeps lasting kept _
  next drawn shown =>
    exact Ends.ok (lasting.drawn canvas drawn kept (drawTime_paints shown).size)

/-- So does a clock with a source. -/
theorem renderSourcedClock_keeps {clock : LayoutClockConfig} (kept : holds canvas) :
    (renderSourcedClock round states now calendar clock canvas).Keeps holds := by
  unfold renderSourcedClock
  split
  · exact Ends.ok (lasting.missingSource canvas kept)
  · split
    · exact Ends.ok (lasting.invalidValue canvas kept)
    · exact drawClock_keeps lasting kept

/-- So does a clock of the wall time. -/
theorem renderWallClock_keeps {clock : LayoutClockConfig} (kept : holds canvas) :
    (renderWallClock calendar wallNow clock canvas).Keeps holds := by
  unfold renderWallClock
  split
  · exact Canvas.fail_keeps lasting kept _
  · exact drawClock_keeps lasting kept

/-- So does every widget. -/
theorem renderWidget_keeps {widget : LayoutWidgetConfig} (kept : holds canvas) :
    (renderWidget round states config now animationOrigin calendar wallNow canvas
      widget).Keeps holds := by
  cases widget with
  | indicator indicator => exact renderIndicator_keeps lasting kept
  | bar bar => exact renderBar_keeps lasting kept
  | statusGrid grid => exact renderStatusGrid_keeps lasting kept
  | aggregateStatus aggregate => exact renderAggregateStatus_keeps lasting kept
  | bitmap bitmap => exact drawBitmap_keeps lasting kept
  | clock clock =>
      unfold renderWidget
      dsimp only
      split
      · exact renderSourcedClock_keeps lasting kept
      · exact renderWallClock_keeps lasting kept

/-! ## Cards -/

omit lasting in
/-- A time that does not fit is left out, so the size stays in any case. -/
theorem drawTime_getD_sameSize (output : Frame) (x y width height hour minute : Nat)
    (showColon : Bool) (color : Rgb) :
    Frame.SameSize ((drawTime output x y width height hour minute showColon color).getD output)
      output := by
  cases shown : drawTime output x y width height hour minute showColon color with
  | none => exact Frame.SameSize.refl output
  | some drawn => exact (@drawTime_paints output drawn ⟨x, y, width, height⟩ _ _ _ _ shown).size

omit lasting in
/-- A clock card is as large as the frame. -/
theorem drawClockCard_sameSize (clock : ClockCardConfig) (localTime utc : Tm) (output : Frame) :
    Frame.SameSize (drawClockCard clock localTime utc output) output :=
  (drawTime_getD_sameSize _ _ _ _ _ _ _ _ _).trans (drawTime_getD_sameSize _ _ _ _ _ _ _ _ _)

/-- A clock card keeps the property. -/
theorem renderClockCard_keeps {clock : ClockCardConfig} (kept : holds canvas) :
    (renderClockCard calendar wallNow clock canvas).Keeps holds := by
  unfold renderClockCard
  split
  · exact Canvas.fail_keeps lasting kept _
  · exact Ends.ok (lasting.drawn canvas _ kept (drawClockCard_sameSize _ _ _ _))

/-- So does the content of every card. -/
theorem drawContent_keeps {content : CardContentConfig} (kept : holds canvas) :
    (drawContent round states config now animationOrigin calendar wallNow content canvas).Keeps
      holds := by
  unfold drawContent
  split
  · exact Ends.foldlM kept fun canvas indicator kept => renderIndicator_keeps lasting kept
  · exact Ends.foldlM kept fun canvas widget kept => renderWidget_keeps lasting kept
  · exact drawBitmap_keeps lasting kept
  · exact renderClockCard_keeps lasting kept

end

/-! ## Success is reported last -/

/-- The drawing has not been reported as done, and keeps the size it began with. -/
structure Canvas.Underway (start : Frame) (canvas : Canvas) : Prop where
  unfinished : canvas.report.success = false
  size : Frame.SameSize canvas.output start

section

variable {round : Rounding} {states : StateStore} {config : AppConfig}
  {now animationOrigin : TimePoint} {calendar : Calendar} {wallNow : Int}

/-- A sample changes no success. -/
theorem sampleSource_success (source : Bytes) (report : RenderReport) :
    (sampleSource round states config now animationOrigin source report).2.success =
      report.success := by
  unfold sampleSource
  dsimp only
  split <;> split <;> rfl

/-- A drawing that is underway stays so. -/
theorem lasting_underway (start : Frame) :
    Lasting round states config now animationOrigin (Canvas.Underway start) where
  error _ _ kept := ⟨kept.unfinished, kept.size⟩
  drawn _ _ kept same := ⟨kept.unfinished, same.trans kept.size⟩
  sampled source canvas kept := by
    have same := @sampleSource_success round states config now animationOrigin source canvas.report
    exact ⟨same.trans kept.unfinished, kept.size⟩
  rendered _ kept := ⟨kept.unfinished, kept.size⟩
  missingSource _ kept := ⟨kept.unfinished, kept.size⟩
  invalidValue _ kept := ⟨kept.unfinished, kept.size⟩

/-- It is underway from the start. -/
theorem startCanvas_underway (output : Frame) : (startCanvas config output).Underway output :=
  ⟨rfl, Frame.fill_sameSize output _⟩

/-- A drawing changes no size. -/
theorem finishDrawing_sameSize {drawing : Drawing} {start : Frame}
    (keeps : drawing.Keeps (Canvas.Underway start)) :
    Frame.SameSize (finishDrawing drawing).2 start := by
  cases drawing with
  | ok canvas => exact (keeps.2 canvas rfl).size
  | error canvas => exact (keeps.1 canvas rfl).size

/-- A drawing that is reported as done has gone through. -/
theorem ok_of_success {drawing : Drawing} {start : Frame}
    (keeps : drawing.Keeps (Canvas.Underway start))
    (success : (finishDrawing drawing).1.success = true) :
    ∃ canvas, drawing = .ok canvas ∧ (finishDrawing drawing).2 = canvas.output := by
  cases drawing with
  | ok canvas => exact ⟨canvas, rfl, rfl⟩
  | error canvas =>
      rw [finishDrawing, (keeps.1 canvas rfl).unfinished] at success
      cases success

/-- Rendering a card keeps the size of the frame. -/
theorem renderCard_sameSize (card : CardConfig) (output : Frame) :
    Frame.SameSize (renderCard round states config now animationOrigin calendar wallNow card
      output).2 output := by
  rw [renderCard_eq]
  exact finishDrawing_sameSize
    (drawContent_keeps (lasting_underway output) (startCanvas_underway output))

/-- A card that is reported as rendered has been drawn. -/
theorem drawContent_of_success {card : CardConfig} {output : Frame}
    (success : (renderCard round states config now animationOrigin calendar wallNow card
      output).1.success = true) :
    ∃ canvas, drawContent round states config now animationOrigin calendar wallNow card.content
        (startCanvas config output) = .ok canvas ∧
      (renderCard round states config now animationOrigin calendar wallNow card output).2 =
        canvas.output := by
  rw [renderCard_eq] at success ⊢
  exact ok_of_success
    (drawContent_keeps (lasting_underway output) (startCanvas_underway output)) success

end

end PixelStatus
