/-
# Where a pixel's colour comes from

No widget paints outside its rectangle, so a pixel of a card shows the last of
the widgets that paint it, among those whose rectangles contain it. What the
store knows of other sources has no part in its colour.
-/

import PixelStatus.Core.AggregatePriority
import PixelStatus.Core.BarValues
import PixelStatus.Core.DrawingSteps

namespace PixelStatus

open Layer Outcome

/-- The places of a rectangle. -/
def LayoutBounds.places (bounds : LayoutBounds) : Place → Prop :=
  fun place => bounds.Covers place.1 place.2

/-- The sources that a widget asks the store for. -/
def LayoutWidgetConfig.sources : LayoutWidgetConfig → List Bytes
  | .indicator config => [config.source]
  | .clock config => if config.source = [] then [] else [config.source]
  | .bar config => [config.source]
  | .statusGrid config => config.sources
  | .aggregateStatus config => config.sources
  | .bitmap _ => []

/-! ## Inside the rectangles -/

section

variable {round : Rounding} {states : StateStore} {config : AppConfig}
  {now animationOrigin : TimePoint} {calendar : Calendar} {wallNow : Int} {display : DisplayConfig}

/-- A rectangle paints nothing outside itself. -/
theorem rectangle_within (bounds : LayoutBounds) (color : Rgb) :
    (rectangle bounds color).Within bounds.places :=
  fun _ _ painted => (area_eq_some.mp painted).1

/-- Nor does a rectangle of a sample's colour. -/
theorem sampleLayer_within (bounds : LayoutBounds) (source : Bytes) :
    (sampleLayer round states config now animationOrigin bounds source).Within bounds.places :=
  fun _ _ painted => (sampleLayer_eq_some.mp painted).1

/-- Nor does the lit part of a bar. -/
theorem barFillLayer_within (bar : LayoutBarConfig) (value : Double) (color : Rgb) :
    (barFillLayer round bar value color).Within bar.toLayoutBounds.places := by
  intro place shown painted
  rw [barFillLayer_eq] at painted
  split at painted
  next first => exact first.1
  · cases painted

/-- Nor does a whole bar. -/
theorem barLayer_within (bar : LayoutBarConfig) :
    (barLayer round states config now animationOrigin bar).Within bar.toLayoutBounds.places := by
  apply (rectangle_within _ _).beneath
  unfold barSampleLayer
  split
  next resolved color _ _ =>
    cases numericValue round resolved.state.value with
    | none => exact Within.blank
    | some value => exact barFillLayer_within bar value color
  · exact Within.blank

/-- Nor does a grid that fits. -/
theorem statusGridLayer_within {grid : LayoutStatusGridConfig} (fits : grid.Fits display) :
    (statusGridLayer round states config now animationOrigin grid).Within
      grid.toLayoutBounds.places := by
  have room := gridRoom_of_not_overflows rfl fits.columns fits.cells
  apply Within.stack
  intro layer member
  obtain ⟨⟨source, index⟩, listed, rfl⟩ := List.mem_map.mp member
  refine (sampleLayer_within (gridCell grid _ index) source).mono fun place covered => ?_
  have row := lt_gridRows fits.columns.1 (List.snd_lt_of_mem_zipIdx listed)
  exact (room.within row (Nat.mod_lt index fits.columns.1)).covers covered

/-- Nor does an aggregate. -/
theorem aggregateStatusLayer_within (aggregate : LayoutAggregateStatusConfig) :
    (aggregateStatusLayer states now aggregate).Within aggregate.toLayoutBounds.places := by
  unfold aggregateStatusLayer
  cases aggregateColor aggregate (selectedPriority states now aggregate) with
  | none => exact Within.blank
  | some color => exact rectangle_within _ color

/-- Nor does a bitmap that fits. -/
theorem bitmapLayer_within {bitmap : LayoutBitmapConfig} (fits : bitmap.Fits display) :
    (bitmapLayer bitmap.palette bitmap.pixels bitmap.x bitmap.y).Within
      bitmap.toLayoutBounds.places := by
  apply Within.stack
  intro layer member
  obtain ⟨⟨row, down⟩, listed, rfl⟩ := List.mem_map.mp member
  apply Within.stack
  intro layer member
  obtain ⟨⟨character, across⟩, inRow, rfl⟩ := List.mem_map.mp member
  have below : down < bitmap.height := fits.pixels.rows ▸ List.snd_lt_of_mem_zipIdx listed
  have beside : across < bitmap.width :=
    fits.pixels.widths row (List.fst_mem_of_mem_zipIdx listed) ▸ List.snd_lt_of_mem_zipIdx inRow
  cases bitmap.palette.lookup character with
  | none => exact Within.blank
  | some color =>
      intro place shown painted
      obtain rfl := (area_eq_some.mp painted).1
      exact ⟨⟨Nat.le_add_right _ _, Nat.add_lt_add_left beside _⟩, Nat.le_add_right _ _,
        Nat.add_lt_add_left below _⟩

/-- Four digits and a colon fill a rectangle of fifteen columns and seven rows. -/
theorem digitsLayer_within (x y hour minute : Nat) (showColon : Bool) (color : Rgb) :
    (digitsLayer x y hour minute showColon color).Within
      (LayoutBounds.places { x, y, width := 15, height := 7 }) := by
  have digit {left : Nat} (value : Nat) (inside : x ≤ left ∧ left + 3 ≤ x + 15) :
      (digitLayer left y value color).Within
        (LayoutBounds.places { x, y, width := 15, height := 7 }) := by
    intro place shown painted
    obtain ⟨across, down⟩ := (area_eq_some.mp painted).1.1
    exact ⟨⟨inside.1.trans across.1, across.2.trans_le inside.2⟩, down⟩
  have point {down : Nat} (inside : down < 7) : (dot (x + 7) (y + down) color).Within
      (LayoutBounds.places { x, y, width := 15, height := 7 }) := by
    intro place shown painted
    obtain rfl := (area_eq_some.mp painted).1
    exact ⟨⟨by simp, by simp⟩, by simp, by simpa using inside⟩
  have colon : (if showColon then colonLayer x y color else blank).Within
      (LayoutBounds.places { x, y, width := 15, height := 7 }) := by
    split
    · exact (point (by omega)).beneath (point (by omega))
    · exact Within.blank
  apply Within.stack
  simp only [List.forall_mem_cons]
  refine ⟨digit _ ?_, digit _ ?_, colon, digit _ ?_, digit _ ?_, List.forall_mem_nil _⟩
  all_goals omega

/-- Nor does a clock that fits. -/
theorem clockTimesLayer_within {clock : LayoutClockConfig} (fits : clock.Fits display)
    (times : Tm × Tm) (showColon : Tm → Bool) :
    (clockTimesLayer clock times showColon).Within clock.toLayoutBounds.places := by
  have width := fits.width
  have height := fits.height
  refine (digitsLayer_within _ _ _ _ _ _).mono fun place covered => ?_
  simp only [LayoutBounds.places, LayoutBounds.Covers] at covered ⊢
  omega

/-- No widget paints outside its rectangle. -/
theorem widgetLayer_within {widget : LayoutWidgetConfig} (fits : widget.Fits display) :
    (widgetLayer round states config now animationOrigin calendar wallNow widget).Within
      widget.bounds.places := by
  cases widget with
  | indicator indicator => exact sampleLayer_within _ _
  | bar bar => exact barLayer_within bar
  | statusGrid grid => exact statusGridLayer_within fits
  | aggregateStatus aggregate => exact aggregateStatusLayer_within aggregate
  | bitmap bitmap => exact bitmapLayer_within fits
  | clock clock =>
      unfold widgetLayer
      dsimp only
      split
      · unfold sourcedClockLayer
        cases (states.resolve clock.source now).bind fun resolved =>
            epochTimes round calendar resolved.state.value with
        | none => exact Within.blank
        | some times => exact clockTimesLayer_within fits times fun _ => true
      · unfold wallClockLayer
        cases splitWallTime calendar wallNow with
        | none => exact Within.blank
        | some times => exact clockTimesLayer_within fits times evenSecond

/-! ## The sources that matter -/

/-- Two stores know the same of a source. -/
def StateStore.SameEntry (states other : StateStore) (source : Bytes) : Prop :=
  states.states.lookup source = other.states.lookup source

variable {other : StateStore}

/-- Two stores with the same entry resolve it alike. -/
theorem StateStore.SameEntry.resolve {source : Bytes} (same : states.SameEntry other source) :
    states.resolve source now = other.resolve source now := by
  rw [StateStore.resolve, same, StateStore.resolve]

/-- So they sample it alike. -/
theorem StateStore.SameEntry.sampleOf {source : Bytes} (same : states.SameEntry other source) :
    sampleOf round states config now animationOrigin source =
      PixelStatus.sampleOf round other config now animationOrigin source := by
  rw [PixelStatus.sampleOf, sampleSource, same.resolve, PixelStatus.sampleOf, sampleSource]

/-- So they paint it alike. -/
theorem StateStore.SameEntry.sampleLayer {source : Bytes} (same : states.SameEntry other source)
    (bounds : LayoutBounds) : sampleLayer round states config now animationOrigin bounds source =
      PixelStatus.sampleLayer round other config now animationOrigin bounds source := by
  rw [PixelStatus.sampleLayer, same.sampleOf, PixelStatus.sampleLayer]

/-- So they rank it alike. -/
theorem StateStore.SameEntry.statusOf {source : Bytes} (same : states.SameEntry other source) :
    statusOf states now source = PixelStatus.statusOf other now source := by
  rw [PixelStatus.statusOf, same.resolve, PixelStatus.statusOf]

/-- A widget paints the same from stores that know the same of its sources. -/
theorem widgetLayer_congr {widget : LayoutWidgetConfig}
    (same : ∀ source ∈ widget.sources, states.SameEntry other source) :
    widgetLayer round states config now animationOrigin calendar wallNow widget =
      widgetLayer round other config now animationOrigin calendar wallNow widget := by
  cases widget with
  | indicator indicator => exact (same _ List.mem_cons_self).sampleLayer _
  | bar bar =>
      change barLayer round states config now animationOrigin bar = barLayer round other config now
        animationOrigin bar
      rw [barLayer, (same _ List.mem_cons_self).sampleOf, barLayer]
  | statusGrid grid =>
      apply congrArg stack
      apply List.map_congr_left
      intro item member
      exact (same item.1 (List.fst_mem_of_mem_zipIdx member)).sampleLayer _
  | aggregateStatus aggregate =>
      have ranks (source : Bytes) (member : source ∈ aggregate.sources) :
          aggregate.priority.idxOf (statusOf states now source) =
            aggregate.priority.idxOf (statusOf other now source) := by
        rw [(same source member).statusOf]
      have chosen : selectedPriority states now aggregate = selectedPriority other now aggregate := by
        rw [selectedPriority_eq, selectedPriority_eq]
        apply le_antisymm
        · exact LeastRank.mono fun source member => ⟨source, member, (ranks source member).le⟩
        · exact LeastRank.mono fun source member => ⟨source, member, (ranks source member).ge⟩
      change aggregateStatusLayer states now aggregate = aggregateStatusLayer other now aggregate
      rw [aggregateStatusLayer, chosen, aggregateStatusLayer]
  | bitmap bitmap => rfl
  | clock clock =>
      unfold widgetLayer
      dsimp only
      split
      next sourced =>
        have asked : clock.source ∈ (LayoutWidgetConfig.clock clock).sources := by
          rw [LayoutWidgetConfig.sources, if_neg sourced]
          exact List.mem_cons_self
        rw [sourcedClockLayer, (same clock.source asked).resolve, sourcedClockLayer]
      · rfl

/-! ## Which cards fail -/

/-- Only a clock of the wall time needs a time that can be converted. -/
def LayoutWidgetConfig.Convertible (calendar : Calendar) (wallNow : Int) :
    LayoutWidgetConfig → Prop
  | .clock config => config.source = [] → (splitWallTime calendar wallNow).isSome = true
  | _ => True

/-- A widget that fits is drawn, or is such a clock and draws nothing. -/
theorem renderWidget_cases {canvas : Canvas} {widget : LayoutWidgetConfig}
    (sound : canvas.Sound display) (fits : widget.Fits display) :
    (widget.Convertible calendar wallNow ∧ Reaches (Canvas.Sound display)
      (renderWidget round states config now animationOrigin calendar wallNow canvas widget)) ∨
    ¬ widget.Convertible calendar wallNow ∧ ∃ message,
      renderWidget round states config now animationOrigin calendar wallNow canvas widget =
        canvas.fail message := by
  cases widget with
  | indicator indicator => exact Or.inl ⟨trivial, renderIndicator_reaches sound fits⟩
  | bar bar => exact Or.inl ⟨trivial, renderBar_reaches sound fits⟩
  | statusGrid grid => exact Or.inl ⟨trivial, renderStatusGrid_reaches sound fits⟩
  | aggregateStatus aggregate => exact Or.inl ⟨trivial, renderAggregateStatus_reaches sound fits⟩
  | bitmap bitmap => exact Or.inl ⟨trivial, drawBitmap_reaches sound fits.inside fits.pixels⟩
  | clock clock =>
      unfold renderWidget LayoutWidgetConfig.Convertible
      dsimp only
      split
      next sourced =>
        exact Or.inl ⟨fun none => absurd none sourced, renderSourcedClock_reaches sound fits⟩
      next wall =>
        rw [ne_eq, not_not] at wall
        unfold renderWallClock
        cases converted : splitWallTime calendar wallNow with
        | none => exact Or.inr ⟨fun all => Bool.false_ne_true (all wall), _, rfl⟩
        | some times => exact Or.inl ⟨fun _ => rfl, drawClock_reaches sound fits⟩

/-- A list of widgets is drawn when the time can be converted for its clocks. -/
theorem drawWidgets_ok_iff {canvas : Canvas} {widgets : List LayoutWidgetConfig}
    (sound : canvas.Sound display) (fits : ∀ widget ∈ widgets, widget.Fits display) :
    (∃ drawn, widgets.foldlM (renderWidget round states config now animationOrigin calendar
      wallNow) canvas = .ok drawn) ↔ ∀ widget ∈ widgets, widget.Convertible calendar wallNow := by
  induction widgets generalizing canvas with
  | nil => exact iff_of_true ⟨canvas, rfl⟩ (List.forall_mem_nil _)
  | cons widget widgets ih =>
      have parts := List.forall_mem_cons.mp fits
      rw [List.foldlM_cons, List.forall_mem_cons]
      rcases @renderWidget_cases round states config now animationOrigin calendar wallNow display
        canvas widget sound parts.1 with ⟨convertible, next, drawn, kept⟩ | ⟨stuck, message, failed⟩
      · rw [drawn, ok_bind, ih kept parts.2]
        exact (and_iff_right convertible).symm
      · rw [failed]
        exact iff_of_false (fun ⟨_, impossible⟩ => nomatch impossible) fun both => stuck both.1

/-! ## Cards of widgets -/

/-- The widgets that a layout or an indicators card draws, in their order. -/
def CardContentConfig.drawn : CardContentConfig → Option (List LayoutWidgetConfig)
  | .layout content => some content.widgets
  | .indicators content => some (content.indicators.map .indicator)
  | _ => none

/-- The content of a card is drawn widget by widget. -/
theorem drawContent_eq {content : CardContentConfig} {widgets : List LayoutWidgetConfig}
    (drawn : content.drawn = some widgets) (canvas : Canvas) :
    drawContent round states config now animationOrigin calendar wallNow content canvas =
      widgets.foldlM (renderWidget round states config now animationOrigin calendar wallNow)
        canvas := by
  cases content with
  | layout content =>
      cases drawn
      rfl
  | indicators content =>
      cases drawn
      unfold drawContent
      rw [List.foldlM_map]
      rfl
  | bitmap | clock => cases drawn

/-- The widgets of a sound card fit. -/
theorem drawn_fits {content : CardContentConfig} {widgets : List LayoutWidgetConfig}
    (drawn : content.drawn = some widgets)
    (meets : content.Meets display (LayoutWidgetConfig.Sound display)) :
    ∀ widget ∈ widgets, widget.Fits display := by
  cases content with
  | layout content =>
      cases drawn
      exact fun widget member => (meets widget member).fits
  | indicators content =>
      cases drawn
      intro widget member
      obtain ⟨indicator, listed, rfl⟩ := List.mem_map.mp member
      exact meets indicator listed
  | bitmap | clock => cases drawn

/-- A frame is as it was outside a rectangle. -/
def Frame.SameOutside (bounds : LayoutBounds) (frame drawn : Frame) : Prop :=
  ∀ place : Place, ¬ bounds.Covers place.1 place.2 → drawn.picture place = frame.picture place

/-- However the drawing of a widget ends, the rest of the frame is as it was. -/
theorem renderWidget_ends {canvas : Canvas} {widget : LayoutWidgetConfig}
    (sound : canvas.Sound display) (fits : widget.Fits display) :
    Ends (fun stopped => canvas.output.SameOutside widget.bounds stopped.output)
      (fun drawn => canvas.output.SameOutside widget.bounds drawn.output ∧
        Frame.Paints (widgetLayer round states config now animationOrigin calendar wallNow widget)
          canvas.output drawn.output)
      (renderWidget round states config now animationOrigin calendar wallNow canvas widget) := by
  rcases @renderWidget_cases round states config now animationOrigin calendar wallNow display
    canvas widget sound fits with ⟨-, drawn, succeeds, -⟩ | ⟨-, message, failed⟩
  · have paints := renderWidget_draws widget canvas drawn succeeds
    rw [succeeds]
    refine Ends.ok ⟨fun place outside => ?_, paints⟩
    have bare := (@widgetLayer_within round states config now animationOrigin calendar wallNow
      display widget fits).eq_none outside
    rw [paints.picture, beneath_of_none bare]
  · rw [failed]
    exact Ends.error fun place _ => rfl

variable {output : Frame} {card : CardConfig} {widgets : List LayoutWidgetConfig}

/-- A card of widgets shows their layers over the background. -/
theorem renderCard_picture (drawn : card.content.drawn = some widgets)
    (success : (renderCard round states config now animationOrigin calendar wallNow card
      output).1.success = true) :
    (renderCard round states config now animationOrigin calendar wallNow card output).2.picture =
      (rectangle output.bounds config.display.background).beneath (stack (widgets.map
        (widgetLayer round states config now animationOrigin calendar wallNow))) := by
  obtain ⟨canvas, finished, shown⟩ := drawContent_of_success success
  rw [drawContent_eq drawn] at finished
  have paints := @Draws.foldlM _ (renderWidget round states config now animationOrigin calendar
    wallNow) _ widgets (fun widget _ => renderWidget_draws widget) _ _ finished
  have start : (startCanvas config output).output.picture =
      rectangle output.bounds config.display.background := Frame.create_picture _ _ _
  rw [shown, paints.picture, start]

/-- A card succeeds exactly when all of its widgets do. -/
theorem renderCard_success_iff (drawn : card.content.drawn = some widgets)
    (sized : output.Sized config.display) (fits : ∀ widget ∈ widgets, widget.Fits config.display) :
    (renderCard round states config now animationOrigin calendar wallNow card
      output).1.success = true ↔ ∀ widget ∈ widgets, widget.Convertible calendar wallNow := by
  rw [← drawWidgets_ok_iff (startCanvas_sound sized) fits]
  refine ⟨?_, ?_⟩
  · intro success
    obtain ⟨canvas, finished, -⟩ := drawContent_of_success success
    exact ⟨canvas, drawContent_eq drawn _ ▸ finished⟩
  · rintro ⟨canvas, finished⟩
    rw [renderCard_eq, drawContent_eq drawn, finished]
    rfl

end

/-- A picture shows in each place the last widget that paints it, and is decided
there by the widgets whose rectangles contain the place. -/
structure ShowsLast (display : DisplayConfig) (layer : LayoutWidgetConfig → Layer Place Rgb)
    (widgets : List LayoutWidgetConfig) (shown : Layer Place Rgb) : Prop where
  last : ∀ place before widget after color, widgets = before ++ widget :: after →
    layer widget place = some color → (∀ later ∈ after, layer later place = none) →
    shown place = some color
  background : ∀ place, display.bounds.Covers place.1 place.2 →
    (∀ widget ∈ widgets, layer widget place = none) → shown place = some display.background
  covering : ∀ place, shown place = (rectangle display.bounds display.background).beneath
    (stack ((widgets.filter fun widget => widget.bounds.Covers place.1 place.2).map layer)) place

/-- What a stack over the background shows. -/
theorem showsLast_stack {display : DisplayConfig} {layer : LayoutWidgetConfig → Layer Place Rgb}
    {widgets : List LayoutWidgetConfig}
    (within : ∀ widget ∈ widgets, (layer widget).Within widget.bounds.places) :
    ShowsLast display layer widgets
      ((rectangle display.bounds display.background).beneath (stack (widgets.map layer))) where
  last place before widget after color same painted bare := by
    have top : stack (widgets.map layer) place = some color := by
      apply stack_eq_some.mpr
      refine ⟨before.map layer, layer widget, after.map layer, ?_, painted, ?_⟩
      · rw [same, List.map_append, List.map_cons]
      · intro other member
        obtain ⟨later, listed, rfl⟩ := List.mem_map.mp member
        exact bare later listed
    rw [beneath_of_some top]
  background place inside bare := by
    have none : stack (widgets.map layer) place = none := by
      apply stack_eq_none.mpr
      intro other member
      obtain ⟨widget, listed, rfl⟩ := List.mem_map.mp member
      exact bare widget listed
    rw [beneath_of_none none, rectangle, area, if_pos inside]
  covering place := by
    have kept : stack ((widgets.filter fun widget => widget.bounds.Covers place.1 place.2).map
        layer) place = stack (widgets.map layer) place := by
      apply stack_map_filter
      intro widget member away
      have outside : ¬ widget.bounds.Covers place.1 place.2 := of_decide_eq_false away
      exact (within widget member).eq_none outside
    rw [beneath, beneath, kept]

variable {platform : Platform} {round : Rounding} {parse : Bytes → Option Json} {path : Bytes}
  {file : ConfigFile} {config : AppConfig} {card : CardConfig} {widgets : List LayoutWidgetConfig}

/-- On a layout or indicators card of a loaded configuration a widget changes
nothing outside its rectangle, however its drawing ends. A card that is rendered
shows in each place the last widget that paints it; a store that knows the same
of the sources of the widgets there gives the place the same colour. -/
theorem pixel_locality
    (loaded : (loadConfigFile platform round parse path file).config = some config)
    (member : card ∈ config.cards) (drawn : card.content.drawn = some widgets) :
    (∀ widget ∈ widgets, ∀ states now animationOrigin calendar wallNow (canvas : Canvas),
      canvas.Sound config.display →
      Ends (fun stopped => canvas.output.SameOutside widget.bounds stopped.output)
        (fun drawn => canvas.output.SameOutside widget.bounds drawn.output ∧
          Frame.Paints (widgetLayer round states config now animationOrigin calendar wallNow widget)
            canvas.output drawn.output)
        (renderWidget round states config now animationOrigin calendar wallNow canvas widget)) ∧
    ∀ states now animationOrigin calendar wallNow output, output.Sized config.display →
      (renderCard round states config now animationOrigin calendar wallNow card
        output).1.success = true →
      ShowsLast config.display
        (widgetLayer round states config now animationOrigin calendar wallNow) widgets
        (renderCard round states config now animationOrigin calendar wallNow card output).2.picture ∧
      ∀ place (other : StateStore),
        (∀ widget ∈ widgets, widget.bounds.Covers place.1 place.2 →
          ∀ source ∈ widget.sources, states.SameEntry other source) →
        (renderCard round other config now animationOrigin calendar wallNow card
          output).1.success = true ∧
        (renderCard round other config now animationOrigin calendar wallNow card
            output).2.picture place =
          (renderCard round states config now animationOrigin calendar wallNow card
            output).2.picture place := by
  have fits := drawn_fits drawn ((sound_of_loadConfigFile loaded).cards card member).content
  constructor
  · exact fun widget listed states now animationOrigin calendar wallNow canvas sound =>
      renderWidget_ends sound (fits widget listed)
  intro states now animationOrigin calendar wallNow output sized success
  have bounds : output.bounds = config.display.bounds := by
    rw [Frame.bounds, sized.width, sized.height, DisplayConfig.bounds]
  have shows (store : StateStore)
      (done : (renderCard round store config now animationOrigin calendar wallNow card
        output).1.success = true) :
      ShowsLast config.display
        (widgetLayer round store config now animationOrigin calendar wallNow) widgets
        (renderCard round store config now animationOrigin calendar wallNow card
          output).2.picture := by
    rw [renderCard_picture drawn done, bounds]
    exact showsLast_stack fun widget listed => widgetLayer_within (fits widget listed)
  refine ⟨shows states success, fun place other same => ?_⟩
  have again : (renderCard round other config now animationOrigin calendar wallNow card
      output).1.success = true :=
    (renderCard_success_iff drawn sized fits).mpr ((renderCard_success_iff drawn sized fits).mp success)
  refine ⟨again, ?_⟩
  rw [(shows other again).covering, (shows states success).covering]
  congr 2
  apply List.map_congr_left
  intro widget listed
  obtain ⟨inside, covers⟩ := List.mem_filter.mp listed
  exact (widgetLayer_congr (same widget inside (of_decide_eq_true covers))).symm

/-- The card of the panel shows the last widget in every place. -/
theorem pixel_locality_panel : ∃ card ∈ panelConfig.cards, ∃ widgets,
    card.content.drawn = some widgets ∧
    ShowsLast panelConfig.display
      (widgetLayer Double.exact StateStore.empty panelConfig 0 0 noon 43200) widgets
      (renderCard Double.exact StateStore.empty panelConfig 0 0 noon 43200 card
        (Frame.create panelConfig.display.width panelConfig.display.height)).2.picture := by
  obtain ⟨widget, shown, -⟩ := @exists_panel_widget 1 (by decide)
  obtain ⟨card, member, inside⟩ := List.mem_flatMap.mp shown
  have content : card.content.drawn = some card.content.widgets := by
    cases kind : card.content with
    | layout content => rfl
    | bitmap | clock | indicators =>
        rw [kind] at inside
        cases inside
  have sized : (Frame.create panelConfig.display.width panelConfig.display.height).Sized
      panelConfig.display := ⟨rfl, rfl⟩
  have sound := sound_of_loadConfigFile (@panelDocument_loads [])
  have success : (renderCard Double.exact StateStore.empty panelConfig 0 0 noon 43200 card
      (Frame.create panelConfig.display.width panelConfig.display.height)).1.success = true := by
    have fits := drawn_fits content (sound.cards card member).content
    apply (renderCard_success_iff content sized fits).mpr
    intro widget _
    cases widget with
    | clock clock => exact fun _ => rfl
    | indicator | bar | statusGrid | aggregateStatus | bitmap => trivial
  have law := pixel_locality (@panelDocument_loads []) member content
  exact ⟨card, member, _, content, (law.2 _ _ _ _ _ _ sized success).1⟩

end PixelStatus
