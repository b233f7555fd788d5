/-
# An accepted configuration can be rendered

Every check the renderer makes is implied by what the loader promises of a
configuration. The drawing steps keep a canvas that has the dimensions of the
display and no error; the cards, and with them the transitions between cards,
are made of such steps.
-/

import PixelStatus.Core.Config.Load
import PixelStatus.Core.GridCells
import PixelStatus.Core.Renderer
import PixelStatus.Logic.Outcome
import Mathlib.Algebra.Order.BigOperators.Group.List

namespace PixelStatus

open Outcome

/-! ## Frames of the display's size -/

/-- A frame with the dimensions of the display. -/
structure Frame.Sized (display : DisplayConfig) (frame : Frame) : Prop where
  width : frame.width = display.width
  height : frame.height = display.height

/-- A frame of the same size fits the display as well. -/
theorem Frame.Sized.of_sameSize {display : DisplayConfig} {frame drawn : Frame}
    (sized : frame.Sized display) (same : Frame.SameSize drawn frame) : drawn.Sized display :=
  ⟨same.1.trans sized.width, same.2.trans sized.height⟩

/-- What every drawing step keeps. -/
structure Canvas.Sound (display : DisplayConfig) (canvas : Canvas) : Prop where
  output : canvas.output.Sized display
  noError : canvas.report.error = []

variable {display : DisplayConfig} {canvas : Canvas}

/-- A rectangle inside the display is filled. -/
theorem Canvas.fillRect_reaches {bounds : LayoutBounds} {color : Rgb} {message : Bytes}
    (sound : canvas.Sound display) (inside : bounds.Inside display) :
    Reaches (Canvas.Sound display)
      (canvas.fillRect bounds.x bounds.y bounds.width bounds.height color message) := by
  have right : bounds.x + bounds.width ≤ canvas.output.width :=
    inside.right.trans sound.output.width.ge
  have bottom : bounds.y + bounds.height ≤ canvas.output.height :=
    inside.bottom.trans sound.output.height.ge
  obtain ⟨drawn, filled, same⟩ :=
    Frame.fillRect_of_inside color inside.width inside.height right bottom
  rw [Canvas.fillRect, filled]
  exact Reaches.ok ⟨sound.output.of_sameSize same, sound.noError⟩

/-- Counting changes no error. -/
theorem Canvas.Sound.count {change : RenderReport → RenderReport}
    (sound : canvas.Sound display) (keeps : ∀ report, (change report).error = report.error) :
    (canvas.count change).Sound display :=
  ⟨sound.output, (keeps canvas.report).trans sound.noError⟩

section

variable {round : Rounding} {states : StateStore} {config : AppConfig}
  {now animationOrigin : TimePoint}

/-- A sample reports no error. -/
theorem sampleSource_error (source : Bytes) (report : RenderReport) :
    (sampleSource round states config now animationOrigin source report).2.error =
      report.error := by
  unfold sampleSource
  dsimp only
  split <;> split <;> rfl

/-- A drawing with a sample succeeds when it does with any. -/
theorem withSample_reaches {source : Bytes} {draw : SourceSample → Canvas → Drawing}
    (sound : canvas.Sound display)
    (hdraw : ∀ sample canvas, canvas.Sound display →
      Reaches (Canvas.Sound display) (draw sample canvas)) :
    Reaches (Canvas.Sound display)
      (withSample round states config now animationOrigin source canvas draw) := by
  have noError : (sampleSource round states config now animationOrigin source
      canvas.report).2.error = [] := (sampleSource_error source canvas.report).trans sound.noError
  exact hdraw _ _ ⟨sound.output, noError⟩

/-! ## Widgets -/

/-- An indicator inside the display is drawn. -/
theorem renderIndicator_reaches {indicator : IndicatorConfig} (sound : canvas.Sound display)
    (inside : indicator.toLayoutBounds.Inside display) :
    Reaches (Canvas.Sound display)
      (renderIndicator round states config now animationOrigin indicator canvas) := by
  apply withSample_reaches sound
  intro sample canvas sound
  split
  · exact Reaches.ok sound
  · apply (Canvas.fillRect_reaches sound inside).bind
    exact fun canvas sound => Reaches.ok (sound.count fun _ => rfl)

theorem filledLines_le (fraction : Double) (extent : Nat) :
    filledLines round fraction extent ≤ extent := Nat.min_le_left _ _

/-- The lit part of a bar lies inside its rectangle. -/
theorem litBounds_inside {bar : LayoutBarConfig} {filled : Nat}
    (inside : bar.toLayoutBounds.Inside display) (positive : 0 < filled)
    (bounded : filled ≤ barExtent bar) : (litBounds bar filled).Inside display := by
  obtain ⟨width, height, right, bottom⟩ := inside
  unfold barExtent at bounded
  unfold litBounds
  cases direction : bar.direction with
  | right =>
      rw [direction] at bounded
      exact ⟨positive, height, (Nat.add_le_add_left bounded _).trans right, bottom⟩
  | left =>
      rw [direction] at bounded
      have bounded : filled ≤ bar.width := bounded
      refine ⟨positive, height, ?_, bottom⟩
      rwa [Nat.add_assoc, Nat.sub_add_cancel bounded]
  | up =>
      rw [direction] at bounded
      have bounded : filled ≤ bar.height := bounded
      refine ⟨width, positive, right, ?_⟩
      rwa [Nat.add_assoc, Nat.sub_add_cancel bounded]
  | down =>
      rw [direction] at bounded
      exact ⟨width, positive, right, (Nat.add_le_add_left bounded _).trans bottom⟩

/-- The lit part of a bar is filled. -/
theorem fillBar_reaches {bar : LayoutBarConfig} {value : Double} {color : Rgb}
    (sound : canvas.Sound display) (inside : bar.toLayoutBounds.Inside display) :
    Reaches (Canvas.Sound display) (fillBar round bar value color canvas) := by
  unfold fillBar
  dsimp only
  split
  · exact Reaches.ok (sound.count fun _ => rfl)
  · split
    · exact Reaches.ok sound
    next some =>
      have lit := litBounds_inside inside (Nat.pos_of_ne_zero some) (filledLines_le _ _)
      exact Canvas.fillRect_reaches sound lit

/-- A bar inside the display is drawn. -/
theorem renderBar_reaches {bar : LayoutBarConfig} (sound : canvas.Sound display)
    (inside : bar.toLayoutBounds.Inside display) : Reaches (Canvas.Sound display)
      (renderBar round states config now animationOrigin bar canvas) := by
  apply (Canvas.fillRect_reaches sound inside).bind
  intro canvas sound
  apply withSample_reaches sound
  intro sample canvas sound
  have counted : (canvas.count countRendered).Sound display := sound.count fun _ => rfl
  dsimp only
  split
  · split
    · exact Reaches.ok (counted.count fun _ => rfl)
    · exact fillBar_reaches counted inside
  · exact Reaches.ok counted

/-- The cells of a grid that fits lie inside its rectangle. -/
theorem gridCell_inside {grid : LayoutStatusGridConfig} {index : Nat} (fits : grid.Fits display)
    (hindex : index < grid.sources.length) :
    (gridCell grid (gridRows grid.sources.length grid.columns) index).Inside display := by
  have room := gridRoom_of_not_overflows rfl fits.columns fits.cells
  have within := room.within (lt_gridRows fits.columns.1 hindex)
    (Nat.mod_lt index fits.columns.1)
  exact ⟨room.positive.1, room.positive.2, within.right.trans fits.inside.right,
    within.bottom.trans fits.inside.bottom⟩

/-- A cell of a grid that fits is drawn. -/
theorem renderGridCell_reaches {grid : LayoutStatusGridConfig} {item : Bytes × Nat}
    (sound : canvas.Sound display) (fits : grid.Fits display)
    (hindex : item.2 < grid.sources.length) : Reaches (Canvas.Sound display)
      (renderGridCell round states config now animationOrigin grid
        (gridRows grid.sources.length grid.columns) canvas item) := by
  apply withSample_reaches sound
  intro sample canvas sound
  have counted : (canvas.count countRendered).Sound display := sound.count fun _ => rfl
  dsimp only
  split
  · exact Reaches.ok counted
  · exact Canvas.fillRect_reaches counted (gridCell_inside fits hindex)

/-- A grid that fits is drawn. -/
theorem renderStatusGrid_reaches {grid : LayoutStatusGridConfig} (sound : canvas.Sound display)
    (fits : grid.Fits display) : Reaches (Canvas.Sound display)
      (renderStatusGrid round states config now animationOrigin grid canvas) := by
  rw [renderStatusGrid_eq _ _ _ _ _ _ fits.columns, if_neg (fits.cells.trans_ne Bool.false_ne_true)]
  apply Reaches.foldlM sound
  intro canvas item member sound
  exact renderGridCell_reaches sound fits (List.snd_lt_of_mem_zipIdx member)

/-- Ranking the sources reports no error. -/
theorem selectPriority_error {priority : List Bytes} {sources : List Bytes}
    {selection : Nat × RenderReport} (noError : selection.2.error = []) :
    (sources.foldl (selectPriority states now priority) selection).2.error = [] := by
  induction sources generalizing selection with
  | nil => exact noError
  | cons source sources ih =>
      apply ih
      unfold selectPriority
      dsimp only
      split <;> split <;> exact noError

/-- An aggregate that fits has a colour for whatever is selected. -/
theorem aggregateColor_isSome {aggregate : LayoutAggregateStatusConfig}
    (fits : aggregate.Fits display) (selected : Nat) :
    ∃ color, aggregateColor aggregate selected = some color := by
  unfold aggregateColor
  split
  · exact ⟨_, rfl⟩
  next status listed =>
    have colored := fits.colored status (List.mem_of_getElem? listed)
    exact Option.isSome_iff_exists.mp (AList.lookup_isSome.mpr colored)

/-- An aggregate that fits is drawn. -/
theorem renderAggregateStatus_reaches {aggregate : LayoutAggregateStatusConfig}
    (sound : canvas.Sound display) (fits : aggregate.Fits display) :
    Reaches (Canvas.Sound display) (renderAggregateStatus states now aggregate canvas) := by
  unfold renderAggregateStatus
  obtain ⟨color, known⟩ := aggregateColor_isSome fits (aggregate.sources.foldl
    (selectPriority states now aggregate.priority)
    (aggregate.priority.length, canvas.report)).1
  dsimp only
  rw [known]
  have counted : Canvas.Sound display { canvas with report := (aggregate.sources.foldl
      (selectPriority states now aggregate.priority)
      (aggregate.priority.length, canvas.report)).2 } :=
    ⟨sound.output, selectPriority_error sound.noError⟩
  apply (Canvas.fillRect_reaches counted fits.inside).bind
  exact fun canvas sound => Reaches.ok (sound.count fun _ => rfl)

/-- A known character inside the display is drawn. -/
theorem drawCharacter_reaches {palette : UnorderedMap UInt8 Rgb} {x y : Nat} {message : Bytes}
    {character : UInt8 × Nat} (sound : canvas.Sound display) (known : character.1 ∈ palette)
    (hx : x + character.2 < display.width) (hy : y < display.height) :
    Reaches (Canvas.Sound display) (drawCharacter palette x y message canvas character) := by
  obtain ⟨color, found⟩ := Option.isSome_iff_exists.mp (AList.lookup_isSome.mpr known)
  obtain ⟨drawn, set, same⟩ := Frame.setPixel_of_inside color
    (hx.trans_eq sound.output.width.symm) (hy.trans_eq sound.output.height.symm)
  unfold drawCharacter
  rw [found]
  dsimp only
  rw [set]
  exact Reaches.ok ⟨sound.output.of_sameSize same, sound.noError⟩

/-- A bitmap can be drawn into the rectangle that its rows fill. -/
theorem drawBitmap_reaches {palette : UnorderedMap UInt8 Rgb} {pixels : List Bytes}
    {bounds : LayoutBounds} {message : Bytes} (sound : canvas.Sound display)
    (inside : bounds.Inside display)
    (fits : PixelsFit palette pixels bounds.width bounds.height) :
    Reaches (Canvas.Sound display)
      (drawBitmap palette pixels bounds.x bounds.y message canvas) := by
  apply Reaches.foldlM sound
  intro canvas row hrow sound
  have rowIndex : row.2 < pixels.length := List.snd_lt_of_mem_zipIdx hrow
  have rowMember : row.1 ∈ pixels := List.fst_mem_of_mem_zipIdx hrow
  apply Reaches.foldlM sound
  intro canvas character hcharacter sound
  have column : character.2 < row.1.length := List.snd_lt_of_mem_zipIdx hcharacter
  have known : character.1 ∈ palette :=
    fits.colored row.1 rowMember character.1 (List.fst_mem_of_mem_zipIdx hcharacter)
  have right := inside.right
  have bottom := inside.bottom
  rw [fits.widths row.1 rowMember] at column
  rw [fits.rows] at rowIndex
  exact drawCharacter_reaches sound known (by omega) (by omega)

/-! ## Clocks -/

/-- A pixel changes no size. -/
theorem putPixel_sameSize (output : Frame) (x y : Nat) (color : Rgb) :
    Frame.SameSize (putPixel output x y color) output := by
  unfold putPixel Frame.setPixel
  split
  · exact Frame.SameSize.refl output
  · exact ⟨rfl, rfl⟩

/-- A fold of steps that keep the size keeps the size. -/
theorem foldl_sameSize {α : Type} {step : Frame → α → Frame}
    (keeps : ∀ frame item, Frame.SameSize (step frame item) frame) (items : List α)
    (frame : Frame) : Frame.SameSize (items.foldl step frame) frame := by
  induction items generalizing frame with
  | nil => exact Frame.SameSize.refl frame
  | cons item items ih => exact (ih (step frame item)).trans (keeps frame item)

theorem drawDigit_sameSize (output : Frame) (x y digit : Nat) (color : Rgb) :
    Frame.SameSize (drawDigit output x y digit color) output := by
  apply foldl_sameSize
  intro frame row
  apply foldl_sameSize
  intro frame column
  split
  · exact putPixel_sameSize _ _ _ _
  · exact Frame.SameSize.refl frame

theorem drawColon_sameSize (output : Frame) (x y : Nat) (color : Rgb) :
    Frame.SameSize (drawColon output x y color) output :=
  (putPixel_sameSize _ _ _ _).trans (putPixel_sameSize _ _ _ _)

/-- Nor do the digits of a clock. -/
theorem drawDigits_sameSize (output : Frame) (x y hour minute : Nat) (showColon : Bool)
    (color : Rgb) : Frame.SameSize (drawDigits output x y hour minute showColon color)
      output := by
  have hours : Frame.SameSize (drawDigit (drawDigit output x y (hour / 10) color) (x + 3) y
      (hour % 10) color) output :=
    (drawDigit_sameSize _ _ _ _ _).trans (drawDigit_sameSize _ _ _ _ _)
  unfold drawDigits
  dsimp only
  apply (drawDigit_sameSize _ _ _ _ _).trans
  apply (drawDigit_sameSize _ _ _ _ _).trans
  split
  · exact (drawColon_sameSize _ _ _ _).trans hours
  · exact hours

/-- A time can be drawn into a rectangle that is large enough. -/
theorem drawTime_of_inside {output : Frame} {bounds : LayoutBounds} {hour minute : Nat}
    {showColon : Bool} {color : Rgb} (sized : output.Sized display)
    (inside : bounds.Inside display) (width : 15 ≤ bounds.width) (height : 7 ≤ bounds.height) :
    ∃ drawn, drawTime output bounds.x bounds.y bounds.width bounds.height hour minute showColon
      color = some drawn ∧ Frame.SameSize drawn output := by
  have right := inside.right.trans sized.width.ge
  have bottom := inside.bottom.trans sized.height.ge
  rw [drawTime, if_neg (by omega)]
  exact ⟨_, rfl, drawDigits_sameSize _ _ _ _ _ _ _⟩

/-- A clock that fits shows its digits. -/
theorem drawClock_reaches {clock : LayoutClockConfig} {times : Tm × Tm}
    {showColon : Tm → Bool} (sound : canvas.Sound display) (fits : clock.Fits display) :
    Reaches (Canvas.Sound display) (drawClock clock times showColon canvas) := by
  obtain ⟨drawn, shown, same⟩ :=
    drawTime_of_inside sound.output fits.inside fits.width fits.height
  unfold drawClock
  dsimp only
  rw [shown]
  exact Reaches.ok ⟨sound.output.of_sameSize same, sound.noError⟩

variable {calendar : Calendar} {wallNow : Int}

/-- So does a clock with a source. -/
theorem renderSourcedClock_reaches {clock : LayoutClockConfig} (sound : canvas.Sound display)
    (fits : clock.Fits display) : Reaches (Canvas.Sound display)
      (renderSourcedClock round states now calendar clock canvas) := by
  unfold renderSourcedClock
  split
  · exact Reaches.ok (sound.count fun _ => rfl)
  · split
    · exact Reaches.ok (sound.count fun _ => rfl)
    · exact drawClock_reaches sound fits

/-- The C library can convert the wall time. -/
structure Converts (calendar : Calendar) (wallNow : Int) : Prop where
  localtime : (calendar.localtime (calendar.toTimeT wallNow)).isSome = true
  gmtime : (calendar.gmtime (calendar.toTimeT wallNow)).isSome = true

/-- A wall time that converts has both of its forms. -/
theorem splitWallTime_of_converts (converts : Converts calendar wallNow) :
    ∃ localTime utc, splitWallTime calendar wallNow = some (localTime, utc) := by
  obtain ⟨localTime, hlocal⟩ := Option.isSome_iff_exists.mp converts.localtime
  obtain ⟨utc, hutc⟩ := Option.isSome_iff_exists.mp converts.gmtime
  refine ⟨localTime, utc, ?_⟩
  unfold splitWallTime
  dsimp only
  rw [hlocal, hutc]

/-- Every widget that fits is drawn. -/
theorem renderWidget_reaches {widget : LayoutWidgetConfig} (sound : canvas.Sound display)
    (fits : widget.Fits display) (converts : Converts calendar wallNow) :
    Reaches (Canvas.Sound display)
      (renderWidget round states config now animationOrigin calendar wallNow canvas widget) := by
  cases widget with
  | indicator indicator => exact renderIndicator_reaches sound fits
  | bar bar => exact renderBar_reaches sound fits
  | statusGrid grid => exact renderStatusGrid_reaches sound fits
  | aggregateStatus aggregate => exact renderAggregateStatus_reaches sound fits
  | bitmap bitmap => exact drawBitmap_reaches sound fits.inside fits.pixels
  | clock clock =>
      unfold renderWidget
      dsimp only
      split
      · exact renderSourcedClock_reaches sound fits
      · obtain ⟨localTime, utc, converted⟩ := splitWallTime_of_converts converts
        rw [renderWallClock, converted]
        exact drawClock_reaches sound fits

/-! ## Cards -/

/-- What a caller sees of a drawing that went well. -/
def RenderReport.Clean (report : RenderReport) : Prop :=
  report.success = true ∧ report.error = []

/-- A drawing that succeeds ends without an error. -/
theorem finishDrawing_clean {drawing : Drawing}
    (reaches : Reaches (Canvas.Sound display) drawing) : (finishDrawing drawing).1.Clean := by
  obtain ⟨canvas, rfl, sound⟩ := reaches
  exact ⟨rfl, sound.noError⟩

/-- The canvas is sound from the start. -/
theorem startCanvas_sound {output : Frame} (sized : output.Sized config.display) :
    (startCanvas config output).Sound config.display :=
  ⟨sized.of_sameSize (Frame.fill_sameSize output _), rfl⟩

/-- Indicators inside the display are rendered without an error. -/
theorem renderIndicators_clean {indicators : List IndicatorConfig} {output : Frame}
    (sized : output.Sized config.display)
    (inside : ∀ indicator ∈ indicators, indicator.toLayoutBounds.Inside config.display) :
    (renderIndicators round states config now animationOrigin indicators output).1.Clean := by
  apply finishDrawing_clean
  apply Reaches.foldlM (startCanvas_sound sized)
  exact fun canvas indicator member sound =>
    renderIndicator_reaches sound (inside indicator member)

/-- So is a card that fits. -/
theorem renderCard_clean {card : CardConfig} {output : Frame}
    (sized : output.Sized config.display) (nonempty : config.display.bounds.Inside config.display)
    (fits : card.content.Fits config.display) (converts : Converts calendar wallNow) :
    (renderCard round states config now animationOrigin calendar wallNow card output).1.Clean := by
  have start := startCanvas_sound sized
  unfold renderCard
  split
  next content same =>
    rw [same] at fits
    exact renderIndicators_clean sized fits
  next content same =>
    rw [same] at fits
    apply finishDrawing_clean
    apply Reaches.foldlM start
    exact fun canvas widget member sound =>
      renderWidget_reaches sound (fits widget member) converts
  next content same =>
    rw [same] at fits
    apply finishDrawing_clean
    exact drawBitmap_reaches start nonempty fits
  next content same =>
    obtain ⟨localTime, utc, converted⟩ := splitWallTime_of_converts converts
    rw [renderClockCard, converted]
    exact ⟨rfl, rfl⟩

/-! ## Decks -/

/-- A deck turns to cards of its own. -/
theorem locateCard_mem {first card : CardConfig} {rest : List CardConfig}
    {position : Duration} :
    (locateCard first position card rest).1 ∈ card :: rest ∧
      (locateCard first position card rest).2.2 ∈ first :: rest := by
  induction rest generalizing position card with
  | nil => exact ⟨List.mem_cons_self, List.mem_cons_self⟩
  | cons next rest ih =>
      unfold locateCard
      split
      · exact ⟨List.mem_cons_self, List.mem_cons_of_mem _ List.mem_cons_self⟩
      · refine ⟨?_, ?_⟩
        · exact List.mem_cons_of_mem _ ih.1
        · rcases List.mem_cons.mp ih.2 with again | later
          · rw [again]
            exact List.mem_cons_self
          · exact List.mem_cons_of_mem _ (List.mem_cons_of_mem _ later)

/-- A deck of cards that take time never stands still, so its cycle divides. -/
theorem deckCycle_pos {cards : List CardConfig} (some : cards ≠ [])
    (timed : ∀ card ∈ cards, 0 < card.segment) : 0 < deckCycle cards := by
  apply List.sum_pos
  · intro segment member
    obtain ⟨card, listed, rfl⟩ := List.mem_map.mp member
    exact timed card listed
  · exact fun empty => some (List.map_eq_nil_iff.mp empty)

/-- Merging a clean report brings in no error. -/
theorem mergeReport_error {target source : RenderReport} (noError : target.error = [])
    (clean : source.Clean) : (mergeReport target source).error = [] := by
  unfold mergeReport
  dsimp only
  rw [if_neg]
  · exact noError
  · exact fun failed => absurd (clean.1.symm.trans failed.1) (by decide)

/-- A card on its own is rendered without an error. -/
theorem renderActiveCard_clean {card : CardConfig} {output : Frame}
    (sized : output.Sized config.display) (nonempty : config.display.bounds.Inside config.display)
    (fits : card.Fits config.display) (converts : Converts calendar wallNow) :
    (renderActiveCard round states config now animationOrigin calendar wallNow card
      output).1.Clean :=
  renderCard_clean sized nonempty fits.content converts

/-- So is a transition between two of them. -/
theorem renderTransition_clean {active next : CardConfig} {elapsed : Duration} {output : Frame}
    (nonempty : config.display.bounds.Inside config.display)
    (hactive : active.Fits config.display) (hnext : next.Fits config.display)
    (converts : Converts calendar wallNow) :
    (renderTransition round states config now animationOrigin calendar wallNow active next
      elapsed output).1.Clean := by
  have blank : (Frame.create config.display.width config.display.height).Sized config.display :=
    ⟨rfl, rfl⟩
  have source : (renderCard round states config now animationOrigin calendar wallNow active
      (Frame.create config.display.width config.display.height)).1.Clean :=
    renderCard_clean blank nonempty hactive.content converts
  have target : (renderCard round states config now animationOrigin calendar wallNow next
      (Frame.create config.display.width config.display.height)).1.Clean :=
    renderCard_clean blank nonempty hnext.content converts
  unfold renderTransition
  dsimp only
  rw [if_neg]
  · exact ⟨rfl, mergeReport_error (mergeReport_error rfl source) target⟩
  · exact not_not_intro (mergeReport_error (mergeReport_error rfl source) target)

/-- So is a whole deck. -/
theorem renderDeck_clean {first : CardConfig} {rest : List CardConfig} {output : Frame}
    (sized : output.Sized config.display) (nonempty : config.display.bounds.Inside config.display)
    (fit : ∀ card ∈ first :: rest, card.Fits config.display)
    (converts : Converts calendar wallNow) :
    (renderDeck round states config now animationOrigin calendar wallNow first rest
      output).1.Clean := by
  have turned := @locateCard_mem first first rest
    ((max (durationCast (now - animationOrigin)) 0).tmod (deckCycle (first :: rest)))
  unfold renderDeck
  dsimp only
  split
  · exact renderActiveCard_clean sized nonempty (fit _ turned.1) converts
  · exact renderTransition_clean nonempty (fit _ turned.1) (fit _ turned.2) converts

/-- An accepted configuration renders, whatever the store holds, at any time,
and into a frame with any contents. -/
theorem render_clean {platform : Platform} {parse : Bytes → Option Json} {path : Bytes}
    {file : ConfigFile} {output : Frame}
    (loaded : (loadConfigFile platform round parse path file).config = some config)
    (sized : output.Sized config.display) (converts : Converts calendar wallNow) :
    (render round states config now animationOrigin calendar wallNow output).1.Clean := by
  have accepted := accepted_of_loadConfigFile loaded
  have dimensions : ¬ (output.width ≠ config.display.width ∨
      output.height ≠ config.display.height) :=
    not_or.mpr ⟨not_not_intro sized.width, not_not_intro sized.height⟩
  rw [render, if_neg dimensions]
  have fit := accepted.cards
  split
  · exact renderIndicators_clean sized accepted.indicators
  next card same =>
    rw [same] at fit
    exact renderActiveCard_clean sized accepted.display (fit card List.mem_cons_self) converts
  next first rest _ same =>
    rw [same] at fit
    exact renderDeck_clean sized accepted.display fit converts

end

/-- A calendar in which it is always noon. -/
def noon : Calendar where
  toTimeT ticks := ticks
  fromTimeT seconds := seconds
  localtime _ := some { hour := 12, minute := 0, second := 0 }
  gmtime _ := some { hour := 12, minute := 0, second := 0 }

/-- The sample deck renders in the middle of its transition. -/
theorem render_clean_sample :
    (render Double.exact StateStore.empty sampleConfig 6250000000 0 noon 43200
      (Frame.create 24 16)).1.Clean := by
  have loaded := @sampleDocument_loads []
  have sized : (Frame.create 24 16).Sized sampleConfig.display :=
    ⟨by decide +kernel, by decide +kernel⟩
  exact render_clean loaded sized ⟨rfl, rfl⟩

end PixelStatus
