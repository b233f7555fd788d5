/-
# Reusing a frame

A successful rendering depends on the size of the frame that it is given, and
not on what the frame holds: a card is drawn onto the background, and a
transition overwrites every pixel. So a frame that is used for a whole run shows
at each instant what a fresh one would.
-/

import PixelStatus.Core.DrawingSteps
import PixelStatus.Core.RenderAccepted
import PixelStatus.Core.TransitionPictures

namespace PixelStatus

section

variable {round : Rounding} {states : StateStore} {config : AppConfig}
  {now animationOrigin : TimePoint} {calendar : Calendar} {wallNow : Int} {output other : Frame}

/-- Every drawing starts on a canvas that does not depend on the old pixels. -/
theorem startCanvas_eq (same : Frame.SameSize output other) :
    startCanvas config output = startCanvas config other := by
  rw [startCanvas, startCanvas, Frame.fill, Frame.fill, same.1, same.2]

/-- A card is drawn the same into every frame of a size. -/
theorem renderCard_congr (same : Frame.SameSize output other) (card : CardConfig) :
    renderCard round states config now animationOrigin calendar wallNow card output =
      renderCard round states config now animationOrigin calendar wallNow card other := by
  rw [renderCard_eq, renderCard_eq, startCanvas_eq same]

/-- So do the legacy indicators. -/
theorem renderIndicators_congr (same : Frame.SameSize output other)
    (indicators : List IndicatorConfig) :
    renderIndicators round states config now animationOrigin indicators output =
      renderIndicators round states config now animationOrigin indicators other := by
  rw [renderIndicators, renderIndicators, startCanvas_eq same]

/-- So does a card. -/
theorem renderActiveCard_congr (same : Frame.SameSize output other) (card : CardConfig) :
    renderActiveCard round states config now animationOrigin calendar wallNow card output =
      renderActiveCard round states config now animationOrigin calendar wallNow card other := by
  rw [renderActiveCard, renderActiveCard, renderCard_congr same]

/-- A transition that succeeds has overwritten the frame. -/
theorem renderTransition_congr (same : Frame.SameSize output other) {active next : CardConfig}
    {elapsed : Duration}
    (success : (renderTransition round states config now animationOrigin calendar wallNow active
      next elapsed output).1.success = true) :
    renderTransition round states config now animationOrigin calendar wallNow active next elapsed
        output =
      renderTransition round states config now animationOrigin calendar wallNow active next elapsed
        other := by
  unfold renderTransition at success ⊢
  dsimp only at success ⊢
  split
  next failed =>
    rw [if_pos failed] at success
    cases success
  · rw [composeTransition_eq same]

/-- So does a deck that is drawn. -/
theorem renderDeck_congr (same : Frame.SameSize output other) {first : CardConfig}
    {rest : List CardConfig}
    (success : (renderDeck round states config now animationOrigin calendar wallNow first rest
      output).1.success = true) :
    renderDeck round states config now animationOrigin calendar wallNow first rest output =
      renderDeck round states config now animationOrigin calendar wallNow first rest other := by
  unfold renderDeck at success ⊢
  dsimp only at success ⊢
  split
  · exact renderActiveCard_congr same _
  next moving =>
    rw [if_neg moving] at success
    exact renderTransition_congr same success

/-- So does every rendering that succeeds. -/
theorem render_congr (same : Frame.SameSize output other)
    (success : (render round states config now animationOrigin calendar wallNow
      output).1.success = true) :
    render round states config now animationOrigin calendar wallNow output =
      render round states config now animationOrigin calendar wallNow other := by
  unfold render at success ⊢
  rw [← same.1, ← same.2]
  split
  next wrong =>
    rw [if_pos wrong] at success
    cases success
  next sized =>
    rw [if_neg sized] at success
    cases cards : config.cards with
    | nil => exact renderIndicators_congr same _
    | cons first rest =>
        rw [cards] at success
        cases rest with
        | nil => exact renderActiveCard_congr same first
        | cons second rest => exact renderDeck_congr same success

/-! ## Every rendering keeps the size -/

/-- A transition changes no size. -/
theorem renderTransition_sameSize (active next : CardConfig) (elapsed : Duration) :
    Frame.SameSize (renderTransition round states config now animationOrigin calendar wallNow
      active next elapsed output).2 output := by
  unfold renderTransition
  dsimp only
  split
  · exact Frame.SameSize.refl output
  · exact composeTransition_sameSize

/-- Nor does any rendering. -/
theorem render_sameSize : Frame.SameSize (render round states config now animationOrigin calendar
    wallNow output).2 output := by
  unfold render
  split
  · exact Frame.SameSize.refl output
  · split
    · apply finishDrawing_sameSize
      exact Outcome.Ends.foldlM (startCanvas_underway output) fun canvas indicator kept =>
        renderIndicator_keeps (lasting_underway output) kept
    · exact renderCard_sameSize _ output
    · unfold renderDeck
      dsimp only
      split
      · exact renderCard_sameSize _ output
      · exact renderTransition_sameSize _ _ _

end

/-! ## Runs -/

/-- What one call of `render` is given besides the frame. -/
structure RenderCall where
  states : StateStore
  now : TimePoint
  wallNow : Int

variable (round : Rounding) (config : AppConfig) (animationOrigin : TimePoint)
  (calendar : Calendar)

def RenderCall.render (call : RenderCall) (output : Frame) : RenderReport × Frame :=
  PixelStatus.render round call.states config call.now animationOrigin calendar call.wallNow output

/-- The calls of a run into one frame, each with what it reports and leaves there. -/
def renderAll (output : Frame) : List RenderCall → List (RenderCall × RenderReport × Frame)
  | [] => []
  | call :: calls =>
      let result := call.render round config animationOrigin calendar output
      (call, result) :: renderAll result.2 calls

variable {round config animationOrigin calendar}

/-- In a run every successful call shows what it would show in any other frame. -/
theorem renderAll_fresh {output : Frame} (sized : output.Sized config.display)
    {calls : List RenderCall} {call : RenderCall} {result : RenderReport × Frame}
    (member : (call, result) ∈ renderAll round config animationOrigin calendar output calls)
    (success : result.1.success = true) {fresh : Frame} (same : fresh.Sized config.display) :
    result = call.render round config animationOrigin calendar fresh := by
  induction calls generalizing output with
  | nil => cases member
  | cons head calls ih =>
      rcases List.mem_cons.mp member with here | later
      · obtain ⟨rfl, rfl⟩ := Prod.mk.inj here
        exact render_congr
          ⟨sized.width.trans same.width.symm, sized.height.trans same.height.symm⟩ success
      · exact ih (sized.of_sameSize render_sameSize) later

/-- A rendering that succeeds depends on nothing that was in the frame: two frames
of the display's size are equal afterwards, and so is each frame of a run that
reuses one. -/
theorem render_independent (round : Rounding) (config : AppConfig) (animationOrigin : TimePoint)
    (calendar : Calendar) :
    (∀ (states : StateStore) (now : TimePoint) (wallNow : Int) (output other : Frame),
      output.Sized config.display → other.Sized config.display →
      (render round states config now animationOrigin calendar wallNow output).1.success = true →
      render round states config now animationOrigin calendar wallNow output =
        render round states config now animationOrigin calendar wallNow other) ∧
    ∀ (output : Frame) (calls : List RenderCall), output.Sized config.display →
      ∀ call result,
        (call, result) ∈ renderAll round config animationOrigin calendar output calls →
        result.1.success = true → ∀ fresh : Frame, fresh.Sized config.display →
          result = call.render round config animationOrigin calendar fresh := by
  refine ⟨?_, ?_⟩
  · intro states now wallNow output other sized sized' success
    exact render_congr
      ⟨sized.width.trans sized'.width.symm, sized.height.trans sized'.height.symm⟩ success
  · intro output calls sized call result member success fresh same
    exact renderAll_fresh sized member success same

/-- A white frame in the middle of a fade is as good as a black one. -/
theorem render_independent_sample :
    render Double.exact StateStore.empty sampleConfig 6250000000 0 noon 43200
        (Frame.create 24 16 { r := 255, g := 255, b := 255 }) =
      render Double.exact StateStore.empty sampleConfig 6250000000 0 noon 43200
        (Frame.create 24 16) := by
  have size : 24 = sampleConfig.display.width ∧ 16 = sampleConfig.display.height := by
    decide +kernel
  have success : (render Double.exact StateStore.empty sampleConfig 6250000000 0 noon 43200
      (Frame.create 24 16 { r := 255, g := 255, b := 255 })).1.success = true := by
    decide +kernel
  exact (render_independent Double.exact sampleConfig 0 noon).1 StateStore.empty 6250000000 43200
    _ _ ⟨size.1, size.2⟩ ⟨size.1, size.2⟩ success

end PixelStatus
