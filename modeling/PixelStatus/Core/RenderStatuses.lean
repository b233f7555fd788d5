/-
# Rendering with every status defined

Where every status that the store resolves to has an appearance, a drawing never
falls back to another one: no drawing step counts a missing status, whether or
not the drawing succeeds.
-/

import PixelStatus.Core.Config.RequiredStatuses
import PixelStatus.Core.DrawingSteps

namespace PixelStatus

open Outcome

/-- Every status that is resolved at any time, or stands in for a missing source,
has an appearance. -/
structure StatusesDefined (statuses : Statuses) (states : StateStore) : Prop where
  resolved : ∀ id now resolved, states.resolve id now = some resolved →
    resolved.effectiveStatus ∈ statuses
  unknown : bytes "unknown" ∈ statuses

/-- No status has been missing. -/
def Canvas.Complete (canvas : Canvas) : Prop := canvas.report.missingStatuses = 0

section

variable {round : Rounding} {states : StateStore} {config : AppConfig}
  {now animationOrigin : TimePoint}

/-- A source is drawn with the appearance of its own effective status, or with that
of `unknown` when it is missing. -/
theorem sampleSource_of_defined (defined : StatusesDefined config.statuses states)
    (source : Bytes) (report : RenderReport) :
    (sampleSource round states config now animationOrigin source report).2.missingStatuses =
        report.missingStatuses ∧
      ∃ appearance,
        config.statuses.lookup (((states.resolve source now).map
          ResolvedState.effectiveStatus).getD (bytes "unknown")) = some appearance ∧
        (sampleSource round states config now animationOrigin source report).1.color =
          some (appearance.sample round (max (durationCast (now - ((states.resolve source now).map
            ResolvedState.statusEnteredAt).getD animationOrigin)) 0)) := by
  have known : ((states.resolve source now).map ResolvedState.effectiveStatus).getD
      (bytes "unknown") ∈ config.statuses := by
    cases resolves : states.resolve source now with
    | none => exact defined.unknown
    | some resolved => exact defined.resolved source now resolved resolves
  obtain ⟨appearance, found⟩ := Option.isSome_iff_exists.mp (AList.lookup_isSome.mpr known)
  unfold sampleSource
  dsimp only
  rw [appearanceOf, found]
  refine ⟨?_, appearance, rfl, rfl⟩
  dsimp only
  rw [if_pos rfl]
  split <;> rfl

variable (defined : StatusesDefined config.statuses states) {calendar : Calendar} {wallNow : Int}

include defined

/-- No step of a drawing misses a status. -/
theorem lasting_complete : Lasting round states config now animationOrigin Canvas.Complete where
  error _ _ complete := complete
  drawn _ _ complete _ := complete
  sampled source canvas complete := by
    have sample := @sampleSource_of_defined round states config now animationOrigin defined source
      canvas.report
    exact sample.1.trans complete
  rendered _ complete := complete
  missingSource _ complete := complete
  invalidValue _ complete := complete

/-! ## Cards -/

omit defined in
/-- So a drawing misses none. -/
theorem finishDrawing_complete {drawing : Drawing} (complete : drawing.Keeps Canvas.Complete) :
    (finishDrawing drawing).1.missingStatuses = 0 := by
  cases drawing with
  | ok canvas => exact complete.2 canvas rfl
  | error canvas => exact complete.1 canvas rfl

/-- Nor do the legacy indicators. -/
theorem renderIndicators_complete (indicators : List IndicatorConfig) (output : Frame) :
    (renderIndicators round states config now animationOrigin indicators
      output).1.missingStatuses = 0 := by
  apply finishDrawing_complete
  apply Ends.foldlM
  · exact (rfl : ({} : RenderReport).missingStatuses = 0)
  · exact fun canvas indicator complete =>
      renderIndicator_keeps (lasting_complete defined) complete

/-- Nor does a card. -/
theorem renderCard_complete (card : CardConfig) (output : Frame) :
    (renderCard round states config now animationOrigin calendar wallNow card
      output).1.missingStatuses = 0 := by
  have start : (startCanvas config output).Complete := rfl
  rw [renderCard_eq]
  exact finishDrawing_complete (drawContent_keeps (lasting_complete defined) start)

/-- Nor does a transition. -/
theorem renderTransition_complete (active next : CardConfig) (elapsed : Duration) (output : Frame) :
    (renderTransition round states config now animationOrigin calendar wallNow active next elapsed
      output).1.missingStatuses = 0 := by
  have source := @renderCard_complete round states config now animationOrigin defined calendar
    wallNow active (Frame.create config.display.width config.display.height)
  have target := @renderCard_complete round states config now animationOrigin defined calendar
    wallNow next (Frame.create config.display.width config.display.height)
  have merged : 0 + (renderCard round states config now animationOrigin calendar wallNow active
        (Frame.create config.display.width config.display.height)).1.missingStatuses +
      (renderCard round states config now animationOrigin calendar wallNow next
        (Frame.create config.display.width config.display.height)).1.missingStatuses = 0 := by
    rw [source, target]
  unfold renderTransition
  dsimp only
  split
  · exact merged
  · exact merged

/-- A rendering finds every status. -/
theorem render_complete (output : Frame) :
    (render round states config now animationOrigin calendar wallNow output).1.missingStatuses =
      0 := by
  unfold render
  split
  · rfl
  · split
    · exact renderIndicators_complete defined _ output
    · exact renderCard_complete defined _ output
    · unfold renderDeck
      dsimp only
      split
      · exact renderCard_complete defined _ output
      · exact renderTransition_complete defined _ _ _ output

end

end PixelStatus
