/-
# Appearances

A timeline of colours. Its constructor sorts the keyframes, gives an empty
timeline one black keyframe and stretches the cycle to the last keyframe; the
structure carries these as its fields' invariants.
-/

import PixelStatus.Core.Color
import Mathlib.Data.List.Sort

namespace PixelStatus

inductive Transition
  | step
  | linear
  deriving DecidableEq

structure ColorKeyframe where
  at' : Duration := 0
  color : Rgb := {}
  transitionToNext : Transition := .step
  deriving DecidableEq

/-- The order in which the constructor sorts. -/
def ColorKeyframe.before (left right : ColorKeyframe) : Prop := left.at' ≤ right.at'

instance : DecidableRel ColorKeyframe.before :=
  fun left right => inferInstanceAs (Decidable (left.at' ≤ right.at'))

instance : Std.Total ColorKeyframe.before := ⟨fun left right => Int.le_total left.at' right.at'⟩

instance : IsTrans ColorKeyframe ColorKeyframe.before := ⟨fun _ _ _ => Int.le_trans⟩

structure TimelineAppearance where
  keyframes : List ColorKeyframe
  cycle : Duration
  repeats : Bool
  nonempty : keyframes ≠ []
  ascending : keyframes.Pairwise ColorKeyframe.before
  covers : (keyframes.getLast nonempty).at' ≤ cycle

namespace TimelineAppearance

/-- The keyframes as the constructor orders them. -/
def arrange (keyframes : List ColorKeyframe) : List ColorKeyframe :=
  (if keyframes = [] then [{}] else keyframes).insertionSort ColorKeyframe.before

/-- A timeline always has a frame. -/
theorem arrange_ne_nil (keyframes : List ColorKeyframe) : arrange keyframes ≠ [] := by
  unfold arrange
  intro empty
  have length := congrArg List.length empty
  rw [List.length_insertionSort] at length
  split at length
  · cases length
  next nonempty => exact nonempty (List.eq_nil_of_length_eq_zero length)

/-- The constructor. -/
def make (keyframes : List ColorKeyframe) (cycle : Duration) (repeats : Bool) :
    TimelineAppearance where
  keyframes := arrange keyframes
  cycle := max cycle ((arrange keyframes).getLast (arrange_ne_nil keyframes)).at'
  repeats
  nonempty := arrange_ne_nil keyframes
  ascending := List.pairwise_insertionSort _ _
  covers := Int.le_max_right _ _

def solid (color : Rgb) : TimelineAppearance := make [{ color }] 0 false

def blink (color : Rgb) (on off : Duration) : TimelineAppearance :=
  make [{ color }, { at' := on }] (on + off) true

/-- The phase of an elapsed time inside the cycle. -/
def phase (appearance : TimelineAppearance) (elapsed : Duration) : Duration :=
  let elapsed := max elapsed 0
  if appearance.repeats ∧ appearance.cycle > 0 then elapsed.tmod appearance.cycle
  else if appearance.cycle > 0 ∧ elapsed > appearance.cycle then appearance.cycle
  else elapsed

/-- The loop of `sample`: the last keyframe up to the first that lies after the
phase, and the keyframes behind it. -/
def current (phase : Duration) (candidate : ColorKeyframe) :
    List ColorKeyframe → ColorKeyframe × List ColorKeyframe
  | [] => (candidate, [])
  | next :: rest =>
      if next.at' > phase then (candidate, next :: rest) else current phase next rest

variable (round : Rounding) (appearance : TimelineAppearance)

/-- Mix the current keyframe with the next one, which begins at `nextTime`. -/
def blend (phase : Duration) (current next : ColorKeyframe) (nextTime : Duration) : Rgb :=
  let interval := nextTime - current.at'
  if interval ≤ 0 then next.color
  else
    let amount := Double.div round (round ((phase - current.at' : Int) : ℚ))
      (round (interval : ℚ))
    interpolate round current.color next.color amount

/-- The colour at a phase. -/
def sampleAt (phase : Duration) (first : ColorKeyframe) (rest : List ColorKeyframe) : Rgb :=
  match current phase first rest with
  | (keyframe, following) =>
      match keyframe.transitionToNext, following with
      | .step, _ => keyframe.color
      | .linear, next :: _ => blend round phase keyframe next next.at'
      | .linear, [] =>
          if appearance.repeats = false ∨ appearance.cycle ≤ keyframe.at' then keyframe.color
          else blend round phase keyframe first appearance.cycle

def sample (elapsed : Duration) : Rgb :=
  let phase := appearance.phase elapsed
  sampleAt round appearance phase (appearance.keyframes.head appearance.nonempty)
    appearance.keyframes.tail

end TimelineAppearance

end PixelStatus
