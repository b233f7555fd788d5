/-
# Sources that a rendering misses

A drawing counts a missing source each time it asks the store for one that the
store does not know. A drawing that ends early says why, and has counted no more
missing sources than the whole drawing would have.
-/

import PixelStatus.Core.DeckTimeline
import PixelStatus.Core.PixelLocality

namespace PixelStatus

open Outcome

/-- How many of these sources the store does not know, each as often as it is
listed. -/
def StateStore.missing (states : StateStore) (sources : List Bytes) : Nat :=
  sources.countP fun source => (states.find source).isNone

/-- A drawing that succeeds has counted so many missing sources, and one that fails
at most so many. -/
def Drawing.Misses (count : Nat) (drawing : Drawing) : Prop :=
  Ends (fun canvas => canvas.report.missingSources ≤ count ∧ canvas.report.error ≠ [])
    (fun canvas => canvas.report.missingSources = count) drawing

/-- The sources that the content of a card asks the store for. -/
def CardContentConfig.sources (content : CardContentConfig) : List Bytes :=
  (content.drawn.getD []).flatMap LayoutWidgetConfig.sources

section

variable {states : StateStore} {now : TimePoint} {sources more : List Bytes} {source : Bytes}

@[simp] theorem StateStore.missing_nil : states.missing [] = 0 := rfl

/-- The missing sources of two lists are added. -/
theorem StateStore.missing_append :
    states.missing (sources ++ more) = states.missing sources + states.missing more :=
  List.countP_append

/-- The first source is counted with the others. -/
theorem StateStore.missing_cons :
    states.missing (source :: sources) = states.missing [source] + states.missing sources :=
  @StateStore.missing_append states [source] sources

/-- The missing sources of a list of lists are added up. -/
theorem StateStore.missing_flatMap {α : Type} {items : List α} {sourcesOf : α → List Bytes} :
    states.missing (items.flatMap sourcesOf) =
      (items.map fun item => states.missing (sourcesOf item)).sum :=
  List.countP_flatMap

/-- Nothing is missing when the store knows every source. -/
theorem StateStore.missing_eq_zero :
    states.missing sources = 0 ↔ ∀ source ∈ sources, (states.find source).isSome = true := by
  rw [StateStore.missing, List.countP_eq_zero]
  simp only [Bool.not_eq_true, Option.isNone_eq_false_iff]

/-- A source is resolved at any time when the store knows it. -/
theorem StateStore.resolve_isSome :
    (states.resolve source now).isSome = (states.find source).isSome := by
  rw [StateStore.resolve, StateStore.find, Option.isSome_map, Option.isSome_map]

/-- What asking for one source adds to the count. -/
theorem StateStore.missing_singleton : states.missing [source] =
    if (states.resolve source now).isSome = true then 0 else 1 := by
  rw [StateStore.resolve_isSome, StateStore.missing, List.countP_singleton]
  cases states.find source <;> rfl

end

namespace Drawing.Misses

variable {count more : Nat} {step : Drawing} {next : Canvas → Drawing} {canvas : Canvas}
  {message : Bytes}

/-- A canvas with the exact count. -/
theorem ok (counted : canvas.report.missingSources = count) :
    Misses count (.ok canvas) := Ends.ok counted

/-- A failure that has counted no more and says why. -/
theorem fail (counted : canvas.report.missingSources ≤ count) (told : message ≠ []) :
    Misses count (canvas.fail message) := Ends.error ⟨counted, told⟩

/-- Two steps in a row miss what both of them miss. -/
theorem bind (first : Misses count step)
    (second : ∀ canvas, canvas.report.missingSources = count → Misses (count + more) (next canvas)) :
    Misses (count + more) (step >>= next) := by
  have within : Ends (fun canvas => canvas.report.missingSources ≤ count + more ∧
      canvas.report.error ≠ []) (fun canvas => canvas.report.missingSources = count) step := by
    refine ⟨fun stopped ends => ?_, first.2⟩
    have early := first.1 stopped ends
    exact ⟨early.1.trans (Nat.le_add_right count more), early.2⟩
  exact within.bind second

/-- Nothing is counted behind the first drawing. -/
theorem andThen (first : Misses count step)
    (second : ∀ canvas, canvas.report.missingSources = count → Misses count (next canvas)) :
    Misses count (step >>= next) := @bind count 0 step next first second

/-- A list of drawings counts what each of them does. -/
theorem foldlM {α : Type} {program : Canvas → α → Drawing} {weight : α → Nat} {items : List α}
    (each : ∀ canvas item, Misses (canvas.report.missingSources + weight item)
      (program canvas item)) :
    Misses (canvas.report.missingSources + (items.map weight).sum)
      (items.foldlM program canvas) := by
  induction items generalizing canvas with
  | nil => exact ok rfl
  | cons item items ih =>
      rw [List.foldlM_cons, List.map_cons, List.sum_cons, ← Nat.add_assoc]
      apply (each canvas item).bind
      intro drawn counted
      rw [← counted]
      exact ih

end Drawing.Misses

open Drawing.Misses

section

variable {round : Rounding} {states : StateStore} {config : AppConfig}
  {now animationOrigin : TimePoint} {calendar : Calendar} {wallNow : Int} {canvas : Canvas}
  {message : Bytes}

/-- A rectangle misses nothing. -/
theorem Canvas.fillRect_misses (told : message ≠ []) (x y width height : Nat) (color : Rgb) :
    (canvas.fillRect x y width height color message).Misses canvas.report.missingSources := by
  unfold Canvas.fillRect
  split
  · exact Drawing.Misses.ok rfl
  · exact Drawing.Misses.fail le_rfl told

/-- A sample counts its source if the store does not know it. -/
theorem sampleSource_missingSources (source : Bytes) (report : RenderReport) :
    (sampleSource round states config now animationOrigin source report).2.missingSources =
      report.missingSources + states.missing [source] := by
  rw [@StateStore.missing_singleton states now]
  unfold sampleSource
  dsimp only
  cases (states.resolve source now).isSome with
  | true => split <;> rfl
  | false => split <;> rfl

/-- Drawing with a sample counts its source and nothing else. -/
theorem withSample_misses {source : Bytes} {draw : SourceSample → Canvas → Drawing}
    (hdraw : ∀ sample canvas, (draw sample canvas).Misses canvas.report.missingSources) :
    (withSample round states config now animationOrigin source canvas draw).Misses
      (canvas.report.missingSources + states.missing [source]) := by
  rw [← @sampleSource_missingSources round states config now animationOrigin]
  exact hdraw _ _

/-! ## Widgets -/

/-- An indicator misses its source. -/
theorem renderIndicator_misses (indicator : IndicatorConfig) :
    (renderIndicator round states config now animationOrigin indicator canvas).Misses
      (canvas.report.missingSources + states.missing [indicator.source]) := by
  apply withSample_misses
  intro sample canvas
  split
  · exact ok rfl
  · apply (Canvas.fillRect_misses (by decide) _ _ _ _ _).andThen
    exact fun drawn counted => ok counted

/-- The lit part of a bar misses nothing. -/
theorem fillBar_misses {bar : LayoutBarConfig} {value : Double} {color : Rgb} :
    (fillBar round bar value color canvas).Misses canvas.report.missingSources := by
  unfold fillBar
  dsimp only
  split
  · exact ok rfl
  · split
    · exact ok rfl
    · exact Canvas.fillRect_misses (by decide) _ _ _ _ _

/-- A bar misses its source. -/
theorem renderBar_misses (bar : LayoutBarConfig) :
    (renderBar round states config now animationOrigin bar canvas).Misses
      (canvas.report.missingSources + states.missing [bar.source]) := by
  apply (Canvas.fillRect_misses (by decide) _ _ _ _ _).bind
  intro drawn counted
  rw [← counted]
  apply withSample_misses
  intro sample canvas
  dsimp only
  split
  · split
    · exact ok rfl
    · exact fillBar_misses
  · exact ok rfl

/-- A cell of a grid misses its source. -/
theorem renderGridCell_misses {grid : LayoutStatusGridConfig} {rows : Nat} (item : Bytes × Nat) :
    (renderGridCell round states config now animationOrigin grid rows canvas item).Misses
      (canvas.report.missingSources + states.missing [item.1]) := by
  apply withSample_misses
  intro sample canvas
  dsimp only
  split
  · exact ok rfl
  · exact Canvas.fillRect_misses (by decide) _ _ _ _ _

/-- A grid misses its sources, one after the other. -/
theorem renderStatusGrid_misses (grid : LayoutStatusGridConfig) :
    (renderStatusGrid round states config now animationOrigin grid canvas).Misses
      (canvas.report.missingSources + states.missing grid.sources) := by
  have cells : (grid.sources.zipIdx.map fun item => states.missing [item.1]).sum =
      states.missing grid.sources := by
    calc (grid.sources.zipIdx.map fun item => states.missing [item.1]).sum
      _ = ((grid.sources.zipIdx.map Prod.fst).map fun source => states.missing [source]).sum := by
          rw [List.map_map]
          rfl
      _ = states.missing (grid.sources.flatMap fun source => [source]) := by
          rw [List.zipIdx_map_fst, StateStore.missing_flatMap]
      _ = states.missing grid.sources := by rw [List.flatMap_singleton']
  unfold renderStatusGrid
  split
  · exact fail (Nat.le_add_right _ _) (by decide)
  · dsimp only
    split
    · exact fail (Nat.le_add_right _ _) (by decide)
    · rw [← cells]
      exact Drawing.Misses.foldlM fun canvas item => renderGridCell_misses item

/-- Choosing a priority counts every source of the aggregate. -/
theorem selectPriority_missingSources {priority sources : List Bytes} {best : Nat}
    {report : RenderReport} :
    (sources.foldl (selectPriority states now priority) (best, report)).2.missingSources =
      report.missingSources + states.missing sources := by
  induction sources generalizing best report with
  | nil => rfl
  | cons source sources ih =>
      have one : (selectPriority states now priority (best, report) source).2.missingSources =
          report.missingSources + states.missing [source] := by
        rw [@StateStore.missing_singleton states now]
        unfold selectPriority
        dsimp only
        cases (states.resolve source now).isSome with
        | true => split <;> rfl
        | false => split <;> rfl
      rw [List.foldl_cons, StateStore.missing_cons, ← Nat.add_assoc, ← one]
      exact ih

/-- So does an aggregate. -/
theorem renderAggregateStatus_misses (aggregate : LayoutAggregateStatusConfig) :
    (renderAggregateStatus states now aggregate canvas).Misses
      (canvas.report.missingSources + states.missing aggregate.sources) := by
  have counted := @selectPriority_missingSources states now aggregate.priority aggregate.sources
    aggregate.priority.length canvas.report
  unfold renderAggregateStatus
  dsimp only
  rw [← counted]
  split
  · exact fail le_rfl (by decide)
  · apply (Canvas.fillRect_misses (by decide) _ _ _ _ _).andThen
    exact fun drawn counted => ok counted

/-- A character of a bitmap misses nothing. -/
theorem drawCharacter_misses {palette : UnorderedMap UInt8 Rgb} {x y : Nat}
    (told : message ≠ []) (character : UInt8 × Nat) :
    (drawCharacter palette x y message canvas character).Misses canvas.report.missingSources := by
  unfold drawCharacter
  split
  · exact fail le_rfl told
  · split
    · exact fail le_rfl told
    · exact ok rfl

/-- Nor does a whole bitmap. -/
theorem drawBitmap_misses {palette : UnorderedMap UInt8 Rgb} {pixels : List Bytes} {x y : Nat}
    (told : message ≠ []) :
    (drawBitmap palette pixels x y message canvas).Misses canvas.report.missingSources := by
  have nothing {α : Type} (items : List α) : (items.map fun _ => 0).sum = 0 :=
    List.sum_eq_zero fun _ member => (List.mem_map.mp member).choose_spec.2.symm
  have whole := @Drawing.Misses.foldlM canvas _ (fun canvas (row : Bytes × Nat) =>
    row.1.zipIdx.foldlM (drawCharacter palette x (y + row.2) message) canvas) (fun _ => 0)
    pixels.zipIdx
  rw [nothing] at whole
  apply whole
  intro canvas row
  have line := @Drawing.Misses.foldlM canvas _ (drawCharacter palette x (y + row.2) message)
    (fun _ => 0) row.1.zipIdx
  rw [nothing] at line
  exact line fun canvas character => drawCharacter_misses told character

/-- Nor do the digits of a clock. -/
theorem drawClock_misses {clock : LayoutClockConfig} {times : Tm × Tm} {showColon : Tm → Bool} :
    (drawClock clock times showColon canvas).Misses canvas.report.missingSources := by
  unfold drawClock
  dsimp only
  split
  · exact fail le_rfl (by decide)
  · exact ok rfl

/-- A clock with a source misses it. -/
theorem renderSourcedClock_misses (clock : LayoutClockConfig) :
    (renderSourcedClock round states now calendar clock canvas).Misses
      (canvas.report.missingSources + states.missing [clock.source]) := by
  rw [@StateStore.missing_singleton states now]
  unfold renderSourcedClock
  cases states.resolve clock.source now with
  | none => exact ok rfl
  | some resolved =>
      dsimp only
      rw [Option.isSome_some, if_pos rfl]
      split
      · exact ok rfl
      · exact drawClock_misses

/-- Every widget misses its own sources. -/
theorem renderWidget_misses (widget : LayoutWidgetConfig) :
    (renderWidget round states config now animationOrigin calendar wallNow canvas widget).Misses
      (canvas.report.missingSources + states.missing widget.sources) := by
  cases widget with
  | indicator indicator => exact renderIndicator_misses indicator
  | bar bar => exact renderBar_misses bar
  | statusGrid grid => exact renderStatusGrid_misses grid
  | aggregateStatus aggregate => exact renderAggregateStatus_misses aggregate
  | bitmap bitmap => exact drawBitmap_misses (by decide)
  | clock clock =>
      by_cases wall : clock.source = []
      · rw [LayoutWidgetConfig.sources, if_pos wall, renderWidget, if_neg (not_not_intro wall)]
        unfold renderWallClock
        split
        · exact fail le_rfl (by decide)
        · exact drawClock_misses
      · rw [LayoutWidgetConfig.sources, if_neg wall, renderWidget, if_pos wall]
        exact renderSourcedClock_misses clock

/-! ## Cards -/

/-- The content of a card misses those of its widgets. -/
theorem drawContent_misses (content : CardContentConfig) :
    (drawContent round states config now animationOrigin calendar wallNow content canvas).Misses
      (canvas.report.missingSources + states.missing content.sources) := by
  have listed {widgets : List LayoutWidgetConfig} (drawn : content.drawn = some widgets) :
      (drawContent round states config now animationOrigin calendar wallNow content
        canvas).Misses (canvas.report.missingSources + states.missing content.sources) := by
    rw [drawContent_eq drawn, CardContentConfig.sources, drawn, Option.getD_some,
      StateStore.missing_flatMap]
    exact Drawing.Misses.foldlM fun canvas widget => renderWidget_misses widget
  cases content with
  | layout content => exact listed rfl
  | indicators content => exact listed rfl
  | bitmap content => exact drawBitmap_misses (by decide)
  | clock content =>
      unfold drawContent renderClockCard
      dsimp only
      split
      · exact fail (Nat.le_add_right _ _) (by decide)
      · exact ok rfl

/-- The report of a rendering that succeeds counts so many missing sources, and that
of one that fails counts at most so many and has an error. -/
structure RenderReport.Misses (count : Nat) (report : RenderReport) : Prop where
  most : report.missingSources ≤ count
  all : report.success = true → report.missingSources = count
  told : report.success = false → report.error ≠ []

/-- So does the whole card. -/
theorem renderCard_misses (card : CardConfig) (output : Frame) :
    (renderCard round states config now animationOrigin calendar wallNow card output).1.Misses
      (states.missing card.content.sources) := by
  have drawing := @drawContent_misses round states config now animationOrigin calendar wallNow
    (startCanvas config output) card.content
  have start : (startCanvas config output).report.missingSources = 0 := rfl
  rw [start, Nat.zero_add] at drawing
  rw [renderCard_eq]
  cases ends : drawContent round states config now animationOrigin calendar wallNow card.content
      (startCanvas config output) with
  | ok canvas =>
      have counted := drawing.2 canvas ends
      exact ⟨counted.le, fun _ => counted, fun failed => nomatch failed⟩
  | error canvas =>
      have early := drawing.1 canvas ends
      have underway := (drawContent_keeps (lasting_underway output)
        (startCanvas_underway output)).1 canvas ends
      refine ⟨early.1, fun success => ?_, fun _ => early.2⟩
      exact absurd (underway.unfinished.symm.trans success) Bool.false_ne_true

/-! ## Decks -/

variable {active next : CardConfig} {elapsed : Duration} {output : Frame}

/-- What merging two reports leaves silent was not told by either. -/
theorem mergeReport_silent {target source : RenderReport}
    (silent : (mergeReport target source).error = []) :
    target.error = [] ∧ (source.success = false → source.error = []) := by
  unfold mergeReport at silent
  dsimp only at silent
  split at silent
  next failed => exact ⟨failed.2, fun _ => silent⟩
  next passed => exact ⟨silent, fun failed => absurd ⟨failed, silent⟩ passed⟩

/-- A report that is told of when it fails succeeded if nothing was told. -/
theorem RenderReport.Misses.success {count : Nat} {report : RenderReport}
    (misses : report.Misses count) (silent : report.success = false → report.error = []) :
    report.success = true := by
  by_contra failed
  rw [Bool.not_eq_true] at failed
  exact misses.told failed (silent failed)

/-- A transition misses what both of its cards miss. -/
theorem renderTransition_misses :
    (renderTransition round states config now animationOrigin calendar wallNow active next elapsed
      output).1.Misses (states.missing active.content.sources +
        states.missing next.content.sources) := by
  have source := @renderCard_misses round states config now animationOrigin calendar wallNow active
    (Frame.create config.display.width config.display.height)
  have target := @renderCard_misses round states config now animationOrigin calendar wallNow next
    (Frame.create config.display.width config.display.height)
  have counted (first second : RenderReport) :
      (mergeReport (mergeReport { activeCard := active.id } first) second).missingSources =
        first.missingSources + second.missingSources :=
    congrArg (· + second.missingSources) (Nat.zero_add first.missingSources)
  unfold renderTransition
  dsimp only
  split
  next failed =>
    refine ⟨?_, (nomatch ·), fun _ => failed⟩
    rw [counted]
    exact Nat.add_le_add source.most target.most
  next silent =>
    obtain ⟨first, second⟩ := mergeReport_silent (not_not.mp silent)
    have total := counted
      (renderCard round states config now animationOrigin calendar wallNow active
        (Frame.create config.display.width config.display.height)).1
      (renderCard round states config now animationOrigin calendar wallNow next
        (Frame.create config.display.width config.display.height)).1
    rw [source.all (source.success (mergeReport_silent first).2),
      target.all (target.success second)] at total
    exact ⟨total.le, fun _ => total, fun failed => nomatch failed⟩

/-- The sources that any part of the configuration asks for, in its order. -/
def AppConfig.shownSources (config : AppConfig) : List Bytes :=
  config.indicators.map IndicatorConfig.source ++
    config.cards.flatMap fun card => card.content.sources

/-- The rendering of this report asks for these sources: for none when the frame does
not fit, for those of the indicators of a configuration without cards, for those of
the card that the report names, or for those of that card and of the next one, which
it names when it succeeds. -/
inductive RenderReport.Asks (config : AppConfig) (report : RenderReport) : List Bytes → Prop
  | refused (failed : report.success = false) (unnamed : report.activeCard = []) :
      Asks config report []
  | indicators (none : config.cards = []) :
      Asks config report (config.indicators.map IndicatorConfig.source)
  | alone {active : CardConfig} (member : active ∈ config.cards)
      (named : report.activeCard = active.id) (still : report.transitioning = false) :
      Asks config report active.content.sources
  | moving {active next : CardConfig} (member : active ∈ config.cards)
      (follows : next ∈ config.cards) (named : report.activeCard = active.id)
      (composed : report.success = true →
        report.nextCard = next.id ∧ report.transitioning = true) :
      Asks config report (active.content.sources ++ next.content.sources)

/-- A successful rendering counts what is missing of the sources that it asks for, a
failed one counts no more and says why it failed; nothing is missing when the store
knows every shown source. -/
structure RenderReport.Accounts (config : AppConfig) (states : StateStore)
    (report : RenderReport) : Prop where
  misses : ∃ sources, report.Asks config sources ∧ report.Misses (states.missing sources)
  none : states.missing config.shownSources = 0 → report.missingSources = 0

/-- A rendering asks for shown sources only. -/
theorem RenderReport.Asks.shown {report : RenderReport} {sources : List Bytes}
    (asks : report.Asks config sources) : ∀ source ∈ sources, source ∈ config.shownSources := by
  have ofCard {card : CardConfig} (member : card ∈ config.cards) {source : Bytes}
      (asked : source ∈ card.content.sources) : source ∈ config.shownSources :=
    List.mem_append_right _ (List.mem_flatMap.mpr ⟨card, member, asked⟩)
  intro source asked
  cases asks with
  | refused _ _ => cases asked
  | indicators _ => exact List.mem_append_left _ asked
  | alone member _ _ => exact ofCard member asked
  | moving member follows _ _ =>
      obtain first | second := List.mem_append.mp asked
      · exact ofCard member first
      · exact ofCard follows second

/-- The legacy indicators miss their sources. -/
theorem renderIndicators_misses (indicators : List IndicatorConfig) :
    (renderIndicators round states config now animationOrigin indicators output).1.Misses
      (states.missing (indicators.map IndicatorConfig.source)) := by
  have card := @renderCard_misses round states config now animationOrigin noon 0
    { id := [], content := .indicators { indicators } } output
  have same : (CardContentConfig.indicators { indicators }).sources =
      indicators.map IndicatorConfig.source := by
    rw [CardContentConfig.sources, CardContentConfig.drawn, Option.getD_some, List.flatMap_map]
    exact List.map_eq_flatMap.symm
  rw [← same]
  exact card

/-- A rendering of one card asks for its sources. -/
theorem renderActiveCard_asks (member : active ∈ config.cards) :
    (renderActiveCard round states config now animationOrigin calendar wallNow active
      output).1.Asks config active.content.sources :=
  .alone member rfl (@renderActiveCard_report round states config now animationOrigin calendar
    wallNow output active).2

/-- A rendering of one card misses those that the store does not know. -/
theorem renderActiveCard_misses :
    (renderActiveCard round states config now animationOrigin calendar wallNow active
      output).1.Misses (states.missing active.content.sources) := by
  have misses := @renderCard_misses round states config now animationOrigin calendar wallNow
    active output
  exact ⟨misses.most, misses.all, misses.told⟩

/-- A transition names the card it leaves. -/
theorem renderTransition_activeCard :
    (renderTransition round states config now animationOrigin calendar wallNow active next elapsed
      output).1.activeCard = active.id := by
  unfold renderTransition
  dsimp only
  split
  · rfl
  · rfl

/-- A transition asks for the sources of both cards. -/
theorem renderTransition_asks (hactive : active ∈ config.cards) (hnext : next ∈ config.cards) :
    (renderTransition round states config now animationOrigin calendar wallNow active next elapsed
      output).1.Asks config (active.content.sources ++ next.content.sources) := by
  refine .moving hactive hnext renderTransition_activeCard fun success => ?_
  have reported := renderTransition_of_success success
  exact ⟨reported.2.1, reported.2.2.1⟩

/-- Every branch of a rendering misses what the store does not know of the sources that
it asks for. -/
theorem render_misses : ∃ sources,
    (render round states config now animationOrigin calendar wallNow output).1.Asks config
      sources ∧
    (render round states config now animationOrigin calendar wallNow output).1.Misses
      (states.missing sources) := by
  have mismatch : bytes "Output frame dimensions do not match display configuration" ≠ [] := by
    decide
  unfold render
  split
  · exact ⟨[], .refused rfl rfl, Nat.le_refl 0, (nomatch ·), fun _ => mismatch⟩
  · split
    next bare => exact ⟨_, .indicators bare, renderIndicators_misses config.indicators⟩
    next card same =>
      exact ⟨_, renderActiveCard_asks (same ▸ List.mem_cons_self), renderActiveCard_misses⟩
    next first rest _ same =>
      have turned := @locateCard_mem first first rest
        ((max (durationCast (now - animationOrigin)) 0).tmod (deckCycle (first :: rest)))
      have members {card : CardConfig} (listed : card ∈ first :: rest) : card ∈ config.cards :=
        same ▸ listed
      unfold renderDeck
      dsimp only
      split
      · exact ⟨_, renderActiveCard_asks (members turned.1), renderActiveCard_misses⟩
      · refine ⟨_, renderTransition_asks (members turned.1) (members turned.2), ?_⟩
        rw [StateStore.missing_append]
        exact renderTransition_misses

/-- Nothing is missing when the store knows every shown source. -/
theorem render_missingSources_eq_zero (known : states.missing config.shownSources = 0) :
    (render round states config now animationOrigin calendar wallNow
      output).1.missingSources = 0 := by
  obtain ⟨sources, asks, misses⟩ := @render_misses round states config now animationOrigin
    calendar wallNow output
  have none : states.missing sources = 0 := by
    rw [StateStore.missing_eq_zero] at known ⊢
    exact fun source asked => known source (asks.shown source asked)
  exact Nat.le_zero.mp (misses.most.trans_eq none)

/-- A rendering counts as often as its cards ask for them, the sources that the store
does not know. -/
theorem render_accounts : (render round states config now animationOrigin calendar wallNow
    output).1.Accounts config states :=
  ⟨render_misses, render_missingSources_eq_zero⟩

end

/-- A panel over an empty store misses both sources of its aggregate, those of its bar
and its clock, and the three of its grid. -/
example : (render Double.exact .empty panelConfig 0 0 noon 0 (Frame.create 24 20)).1.missingSources =
    7 := by decide +kernel

end PixelStatus
