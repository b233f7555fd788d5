/-
# Timelines in stages

A timeline in stages shows each colour for its duration, either as it is or
fading into the next one. The keyframes of the stages lie at the ends of those
before, so the loop of `sample` finds the stage that contains the phase.
-/

import PixelStatus.Core.Appearance
import PixelStatus.Core.ColorMixtures
import PixelStatus.Logic.Timeline

namespace PixelStatus

/-- A colour and how long it shows. -/
structure Stage where
  color : Rgb
  duration : Duration

/-- The durations of stages. -/
def durations (stages : List Stage) : List Duration := stages.map Stage.duration

/-- How long all stages take. -/
def stagesTotal (stages : List Stage) : Duration := (durations stages).sum

/-- The keyframes of stages, from an offset on. -/
def stageFrames (transition : Transition) (offset : Duration) : List Stage → List ColorKeyframe
  | [] => []
  | stage :: rest =>
      { at' := offset, color := stage.color, transitionToNext := transition } ::
        stageFrames transition (offset + stage.duration) rest

/-- The timeline of stages. -/
def stagedTimeline (transition : Transition) (stages : List Stage) (repeats : Bool) :
    TimelineAppearance :=
  TimelineAppearance.make (stageFrames transition 0 stages) (stagesTotal stages) repeats

variable {transition : Transition} {stage : Stage} {stages : List Stage} {offset phase : Duration}

/-! ## The keyframes -/

/-- No frame comes before their beginning. -/
theorem le_at_of_mem {keyframe : ColorKeyframe} (nonneg : ∀ stage ∈ stages, 0 ≤ stage.duration)
    (member : keyframe ∈ stageFrames transition offset stages) : offset ≤ keyframe.at' := by
  induction stages generalizing offset with
  | nil => cases member
  | cons stage stages ih =>
      have parts := List.forall_mem_cons.mp nonneg
      rcases List.mem_cons.mp member with rfl | later
      · exact le_rfl
      · exact (le_add_of_nonneg_right parts.1).trans (ih parts.2 later)

/-- No frame comes behind the end of the stages. -/
theorem at_le_of_mem {keyframe : ColorKeyframe} (nonneg : ∀ stage ∈ stages, 0 ≤ stage.duration)
    (member : keyframe ∈ stageFrames transition offset stages) :
    keyframe.at' ≤ offset + stagesTotal stages := by
  induction stages generalizing offset with
  | nil => cases member
  | cons stage stages ih =>
      have parts := List.forall_mem_cons.mp nonneg
      have total : stagesTotal (stage :: stages) = stage.duration + stagesTotal stages :=
        List.sum_cons
      have rest : 0 ≤ stagesTotal stages := by
        apply List.sum_nonneg
        intro duration listed
        obtain ⟨other, hother, rfl⟩ := List.mem_map.mp listed
        exact parts.2 other hother
      rw [total, ← add_assoc]
      rcases List.mem_cons.mp member with rfl | later
      · exact (le_add_of_nonneg_right parts.1).trans (le_add_of_nonneg_right rest)
      · exact ih parts.2 later

/-- The frames of stages come one behind the other. -/
theorem stageFrames_ascending (nonneg : ∀ stage ∈ stages, 0 ≤ stage.duration) :
    (stageFrames transition offset stages).Pairwise ColorKeyframe.before := by
  induction stages generalizing offset with
  | nil => exact .nil
  | cons stage stages ih =>
      have parts := List.forall_mem_cons.mp nonneg
      apply List.pairwise_cons.mpr
      refine ⟨?_, ?_⟩
      · intro keyframe later
        exact (le_add_of_nonneg_right parts.1).trans (le_at_of_mem parts.2 later)
      · exact ih parts.2

/-! ## The loop -/

/-- The loop stops at the keyframe of the stage that contains the phase. -/
theorem current_of_contains {index : Nat} (nonneg : ∀ other ∈ stage :: stages, 0 ≤ other.duration)
    (here : Timeline.Contains (durations (stage :: stages)) index (phase - offset)) :
    ∃ active, (stage :: stages)[index]? = some active ∧
      TimelineAppearance.current phase
          { at' := offset, color := stage.color, transitionToNext := transition }
          (stageFrames transition (offset + stage.duration) stages) =
        ({ at' := offset + Timeline.start (durations (stage :: stages)) index
           color := active.color, transitionToNext := transition },
          stageFrames transition
            (offset + Timeline.start (durations (stage :: stages)) (index + 1))
            ((stage :: stages).drop (index + 1))) := by
  induction stages generalizing stage offset index with
  | nil =>
      obtain rfl : index = 0 := Nat.lt_one_iff.mp here.lt_length
      refine ⟨stage, rfl, ?_⟩
      rw [Timeline.start_zero, add_zero]
      rfl
  | cons next rest ih =>
      have parts := List.forall_mem_cons.mp nonneg
      cases index with
      | zero =>
          refine ⟨stage, rfl, ?_⟩
          have ends : Timeline.start (durations (stage :: next :: rest)) 1 = stage.duration := by
            rw [durations, List.map_cons, Timeline.start_cons, Timeline.start_zero, add_zero]
          have early : offset + stage.duration > phase := by
            have stops := here.2
            rw [zero_add, ends] at stops
            exact sub_lt_iff_lt_add'.mp stops
          rw [stageFrames, TimelineAppearance.current, if_pos early, Timeline.start_zero, add_zero,
            zero_add, ends]
          rfl
      | succ index =>
          have later : Timeline.Contains (durations (next :: rest)) index
              (phase - (offset + stage.duration)) := by
            rw [← sub_sub]
            exact Timeline.contains_cons.mp here
          obtain ⟨active, listed, found⟩ := ih parts.2 later
          refine ⟨active, listed, ?_⟩
          have begun : 0 ≤ Timeline.start (durations (next :: rest)) index := by
            apply Timeline.start_nonneg
            intro duration member
            obtain ⟨other, hother, rfl⟩ := List.mem_map.mp member
            exact parts.2 other hother
          have late : ¬ offset + stage.duration > phase :=
            not_lt.mpr (sub_nonneg.mp (begun.trans later.1))
          have starts (place : Nat) :
              Timeline.start (durations (stage :: next :: rest)) (place + 1) =
                stage.duration + Timeline.start (durations (next :: rest)) place :=
            Timeline.start_cons
          rw [stageFrames, TimelineAppearance.current, if_neg late, found, starts, starts,
            ← add_assoc, ← add_assoc]
          rfl

/-- Behind the last keyframe the loop stops at it. -/
theorem current_of_past {last : Stage} (last_stage : (stage :: stages).getLast? = some last)
    (past : ∀ keyframe ∈ stageFrames transition (offset + stage.duration) stages,
      keyframe.at' ≤ phase) :
    ∃ at', TimelineAppearance.current phase
        { at' := offset, color := stage.color, transitionToNext := transition }
        (stageFrames transition (offset + stage.duration) stages) =
      ({ at', color := last.color, transitionToNext := transition }, []) := by
  induction stages generalizing stage offset with
  | nil =>
      cases last_stage
      exact ⟨offset, rfl⟩
  | cons next rest ih =>
      have parts := List.forall_mem_cons.mp past
      obtain ⟨at', found⟩ := ih last_stage parts.2
      refine ⟨at', ?_⟩
      rw [stageFrames, TimelineAppearance.current, if_neg (not_lt.mpr parts.1), found]

/-! ## The constructor -/

/-- The frames of stages are in order already. -/
theorem arrange_stageFrames (nonneg : ∀ other ∈ stage :: stages, 0 ≤ other.duration) :
    TimelineAppearance.arrange (stageFrames transition 0 (stage :: stages)) =
      stageFrames transition 0 (stage :: stages) := by
  have some : stageFrames transition 0 (stage :: stages) ≠ [] := List.cons_ne_nil _ _
  rw [TimelineAppearance.arrange, if_neg some]
  exact (stageFrames_ascending nonneg).insertionSort_eq

/-- The cycle is the time that all stages take. -/
theorem stagedTimeline_cycle {repeats : Bool}
    (nonneg : ∀ other ∈ stage :: stages, 0 ≤ other.duration) :
    (stagedTimeline transition (stage :: stages) repeats).cycle = stagesTotal (stage :: stages) := by
  apply max_eq_left
  have member := List.getLast_mem (TimelineAppearance.arrange_ne_nil
    (stageFrames transition 0 (stage :: stages)))
  have listed : ∀ keyframe ∈ TimelineAppearance.arrange
      (stageFrames transition 0 (stage :: stages)),
      keyframe ∈ stageFrames transition 0 (stage :: stages) := by
    rw [arrange_stageFrames nonneg]
    exact fun _ member => member
  exact (at_le_of_mem nonneg (listed _ member)).trans_eq (zero_add _)

/-- A timeline in stages is sampled from its first stage on. -/
theorem sample_stagedTimeline {round : Rounding} {repeats : Bool}
    (nonneg : ∀ other ∈ stage :: stages, 0 ≤ other.duration) (elapsed : Duration) :
    (stagedTimeline transition (stage :: stages) repeats).sample round elapsed =
      (stagedTimeline transition (stage :: stages) repeats).sampleAt round
        ((stagedTimeline transition (stage :: stages) repeats).phase elapsed)
        { at' := 0, color := stage.color, transitionToNext := transition }
        (stageFrames transition (0 + stage.duration) stages) := by
  have keyframes : (stagedTimeline transition (stage :: stages) repeats).keyframes =
      { at' := 0, color := stage.color, transitionToNext := transition } ::
        stageFrames transition (0 + stage.duration) stages := arrange_stageFrames nonneg
  unfold TimelineAppearance.sample
  simp only [keyframes, List.head_cons, List.tail_cons]

/-! ## The colour of a stage -/

/-- A stage that does not fade shows its colour. -/
theorem sampleAt_step {round : Rounding} {appearance : TimelineAppearance} {index : Nat}
    {active : Stage} (nonneg : ∀ other ∈ stage :: stages, 0 ≤ other.duration)
    (listed : (stage :: stages)[index]? = some active)
    (here : Timeline.Contains (durations (stage :: stages)) index phase) :
    appearance.sampleAt round phase { at' := 0, color := stage.color, transitionToNext := .step }
      (stageFrames .step (0 + stage.duration) stages) = active.color := by
  obtain ⟨other, same, found⟩ := @current_of_contains .step stage stages 0 phase index nonneg
    (by rwa [sub_zero])
  obtain rfl : active = other := Option.some.inj (listed.symm.trans same)
  rw [TimelineAppearance.sampleAt, found]

/-- Without rounding a keyframe is blended in proportion. -/
theorem blend_exact {keyframe next : ColorKeyframe} {nextTime duration : Duration}
    (ends : nextTime = keyframe.at' + duration) (positive : 0 < duration) :
    TimelineAppearance.blend Double.exact phase keyframe next nextTime =
      interpolate Double.exact keyframe.color next.color
        (.finite (((phase - keyframe.at' : Int) : ℚ) / duration)) := by
  have interval : nextTime - keyframe.at' = duration := by rw [ends, add_sub_cancel_left]
  have nonzero : (duration : ℚ) ≠ 0 := by exact_mod_cast positive.ne'
  unfold TimelineAppearance.blend
  dsimp only
  rw [interval, if_neg (not_le.mpr positive)]
  simp only [Double.exact, Double.div, if_neg nonzero]

/-- A stage that fades shows a mixture with the next colour, which for the last
stage is the first colour. -/
theorem sampleAt_linear {appearance : TimelineAppearance} {index : Nat} {active next : Stage}
    (repeats : appearance.repeats = true)
    (cycle : appearance.cycle = stagesTotal (stage :: stages))
    (positive : ∀ other ∈ stage :: stages, 0 < other.duration)
    (listed : (stage :: stages)[index]? = some active)
    (follows : (stage :: stages)[(index + 1) % (stage :: stages).length]? = some next)
    (here : Timeline.Contains (durations (stage :: stages)) index phase) :
    appearance.sampleAt Double.exact phase
        { at' := 0, color := stage.color, transitionToNext := .linear }
        (stageFrames .linear (0 + stage.duration) stages) =
      interpolate Double.exact active.color next.color (.finite
        (((phase - Timeline.start (durations (stage :: stages)) index : Int) : ℚ) /
          active.duration)) := by
  obtain ⟨other, same, found⟩ := @current_of_contains .linear stage stages 0 phase index
    (fun other member => (positive other member).le) (by rwa [sub_zero])
  obtain rfl : active = other := Option.some.inj (listed.symm.trans same)
  have lasts : 0 < active.duration := positive active (List.mem_of_getElem? listed)
  have ends : Timeline.start (durations (stage :: stages)) (index + 1) =
      Timeline.start (durations (stage :: stages)) index + active.duration :=
    Timeline.start_succ (by rw [durations, List.getElem?_map, listed]; rfl)
  rw [zero_add, zero_add, zero_add] at found
  rw [TimelineAppearance.sampleAt, zero_add, found]
  rcases Nat.lt_or_ge (index + 1) (stage :: stages).length with inside | beyond
  · rw [Nat.mod_eq_of_lt inside] at follows
    rw [List.drop_eq_getElem_cons inside, (List.getElem?_eq_some_iff.mp follows).2]
    exact blend_exact ends lasts
  · -- The last stage fades back to the first.
    have last : index + 1 = (stage :: stages).length :=
      le_antisymm (List.getElem?_eq_some_iff.mp listed).1 beyond
    rw [last, Nat.mod_self] at follows
    obtain rfl : stage = next := Option.some.inj follows
    have whole : appearance.cycle =
        Timeline.start (durations (stage :: stages)) index + active.duration := by
      rw [cycle, ← ends, last, ← List.length_map Stage.duration]
      exact Timeline.start_length.symm
    have fades : ¬ (appearance.repeats = false ∨
        appearance.cycle ≤ Timeline.start (durations (stage :: stages)) index) := by
      rw [repeats, whole]
      exact not_or.mpr ⟨(nomatch ·), not_le.mpr (lt_add_of_pos_right _ lasts)⟩
    rw [List.drop_eq_nil_of_le beyond]
    dsimp only [stageFrames]
    rw [if_neg fades]
    exact blend_exact whole lasts

/-! ## The laws of the animations -/

/-- Where in its cycle a time is. -/
def turnPhase (stages : List Stage) (elapsed : Duration) : Duration :=
  max elapsed 0 % stagesTotal stages

/-- The colour is decided by the stage that contains the time in its cycle. -/
structure Turns (stages : List Stage) (sample : Duration → Rgb) : Prop where
  positive : 0 < stagesTotal stages
  located : ∀ elapsed,
    ∃! index, Timeline.Contains (durations stages) index (turnPhase stages elapsed)
  periodic : ∀ elapsed, 0 ≤ elapsed → ∀ turns : Nat,
    sample (elapsed + turns * stagesTotal stages) = sample elapsed

/-- Each stage in turn shows its colour. -/
structure Stepwise (stages : List Stage) (sample : Duration → Rgb) : Prop
    extends Turns stages sample where
  shows : ∀ elapsed index stage, stages[index]? = some stage →
    Timeline.Contains (durations stages) index (turnPhase stages elapsed) →
    sample elapsed = stage.color

/-- Each stage in turn fades into the next one, and the last into the first. -/
structure Smooth (stages : List Stage) (sample : Duration → Rgb) : Prop
    extends Turns stages sample where
  mixes : ∀ elapsed index stage next, stages[index]? = some stage →
    stages[(index + 1) % stages.length]? = some next →
    Timeline.Contains (durations stages) index (turnPhase stages elapsed) →
    Mixture stage.color next.color
        (((turnPhase stages elapsed - Timeline.start (durations stages) index : Int) : ℚ) /
          stage.duration) (sample elapsed) ∧
      ChannelsBetween stage.color next.color (sample elapsed)

/-- Each stage shows its colour once, and the last one keeps showing it. -/
structure Once (stages : List Stage) (sample : Duration → Rgb) : Prop where
  located : ∀ elapsed < stagesTotal stages,
    ∃! index, Timeline.Contains (durations stages) index (max elapsed 0)
  shows : ∀ elapsed index stage, stages[index]? = some stage →
    Timeline.Contains (durations stages) index (max elapsed 0) → sample elapsed = stage.color
  holds : ∀ last, stages.getLast? = some last → ∀ elapsed, 0 ≤ elapsed →
    Timeline.start (durations stages) (stages.length - 1) ≤ elapsed → sample elapsed = last.color

section

variable {repeats : Bool} {elapsed : Duration}

theorem durations_nonneg (positive : ∀ stage ∈ stages, 0 < stage.duration) :
    ∀ duration ∈ durations stages, 0 ≤ duration := by
  intro duration member
  obtain ⟨stage, listed, rfl⟩ := List.mem_map.mp member
  exact (positive stage listed).le

/-- Stages that take time take some in total. -/
theorem stagesTotal_pos (some : stages ≠ []) (positive : ∀ stage ∈ stages, 0 < stage.duration) :
    0 < stagesTotal stages := by
  apply List.sum_pos
  · intro duration member
    obtain ⟨stage, listed, rfl⟩ := List.mem_map.mp member
    exact positive stage listed
  · exact fun empty => some (List.map_eq_nil_iff.mp empty)

/-- The sampled phase of a repeating timeline is the time in its cycle. -/
theorem phase_of_repeats (some : stages ≠ [])
    (positive : ∀ stage ∈ stages, 0 < stage.duration) :
    (stagedTimeline transition stages true).phase elapsed = turnPhase stages elapsed := by
  obtain ⟨stage, rest, rfl⟩ := List.exists_cons_of_ne_nil some
  have cycle := @stagedTimeline_cycle transition stage rest true
    fun other member => (positive other member).le
  have turning : (stagedTimeline transition (stage :: rest) true).repeats = true ∧
      (stagedTimeline transition (stage :: rest) true).cycle > 0 :=
    ⟨rfl, cycle ▸ stagesTotal_pos some positive⟩
  unfold TimelineAppearance.phase
  dsimp only
  rw [if_pos turning, cycle, Int.tmod_eq_emod_of_nonneg (le_max_right _ _), turnPhase]

/-- Repeated stages take turns. -/
theorem turns_stagedTimeline {round : Rounding} (some : stages ≠ [])
    (positive : ∀ stage ∈ stages, 0 < stage.duration) :
    Turns stages ((stagedTimeline transition stages true).sample round) where
  positive := stagesTotal_pos some positive
  located elapsed := by
    have total := stagesTotal_pos some positive
    obtain ⟨index, here⟩ := Timeline.exists_contains
      (Int.emod_nonneg _ total.ne' : 0 ≤ turnPhase stages elapsed) (Int.emod_lt_of_pos _ total)
    exact ⟨index, here, fun other there =>
      Timeline.contains_unique (durations_nonneg positive) there here⟩
  periodic elapsed begun turns := by
    have total := stagesTotal_pos some positive
    have later : 0 ≤ elapsed + turns * stagesTotal stages :=
      add_nonneg begun (mul_nonneg (Int.natCast_nonneg _) total.le)
    have same : turnPhase stages (elapsed + turns * stagesTotal stages) =
        turnPhase stages elapsed := by
      rw [turnPhase, turnPhase, max_eq_left begun, max_eq_left later, Int.add_mul_emod_self_right]
    unfold TimelineAppearance.sample
    dsimp only
    rw [phase_of_repeats some positive, phase_of_repeats some positive, same]

/-- Stages without a transition change in steps. -/
theorem stepwise_stagedTimeline {round : Rounding} (some : stages ≠ [])
    (positive : ∀ stage ∈ stages, 0 < stage.duration) :
    Stepwise stages ((stagedTimeline .step stages true).sample round) where
  toTurns := turns_stagedTimeline some positive
  shows elapsed index stage listed here := by
    obtain ⟨first, rest, rfl⟩ := List.exists_cons_of_ne_nil some
    have nonneg : ∀ other ∈ first :: rest, 0 ≤ other.duration :=
      fun other member => (positive other member).le
    rw [sample_stagedTimeline nonneg, phase_of_repeats some positive]
    exact sampleAt_step nonneg listed here

/-- Linear stages change smoothly. -/
theorem smooth_stagedTimeline (some : stages ≠ [])
    (positive : ∀ stage ∈ stages, 0 < stage.duration) :
    Smooth stages ((stagedTimeline .linear stages true).sample Double.exact) where
  toTurns := turns_stagedTimeline some positive
  mixes elapsed index stage next listed follows here := by
    obtain ⟨first, rest, rfl⟩ := List.exists_cons_of_ne_nil some
    have nonneg : ∀ other ∈ first :: rest, 0 ≤ other.duration :=
      fun other member => (positive other member).le
    have lasts : (0 : ℚ) < stage.duration := by
      exact_mod_cast positive stage (List.mem_of_getElem? listed)
    have ends : Timeline.start (durations (first :: rest)) (index + 1) =
        Timeline.start (durations (first :: rest)) index + stage.duration :=
      Timeline.start_succ (by rw [durations, List.getElem?_map, listed]; rfl)
    have begun : (0 : ℚ) ≤ ((turnPhase (first :: rest) elapsed -
        Timeline.start (durations (first :: rest)) index : Int) : ℚ) := by
      exact_mod_cast sub_nonneg.mpr here.1
    have short : ((turnPhase (first :: rest) elapsed -
        Timeline.start (durations (first :: rest)) index : Int) : ℚ) ≤ stage.duration := by
      have stops := here.2
      rw [ends] at stops
      exact_mod_cast (sub_lt_iff_lt_add'.mpr stops).le
    have least := div_nonneg begun lasts.le
    have most := (div_le_one lasts).mpr short
    rw [sample_stagedTimeline nonneg, phase_of_repeats some positive,
      sampleAt_linear rfl (stagedTimeline_cycle nonneg) positive listed follows here]
    have mixed := @interpolate_exact _ stage.color next.color least most
    exact ⟨mixed, mixed.between least most⟩

/-- The sampled phase of a timeline that does not repeat stops at its end. -/
theorem phase_of_once (some : stages ≠ []) (positive : ∀ stage ∈ stages, 0 < stage.duration) :
    (stagedTimeline transition stages false).phase elapsed =
      min (max elapsed 0) (stagesTotal stages) := by
  obtain ⟨stage, rest, rfl⟩ := List.exists_cons_of_ne_nil some
  have cycle := @stagedTimeline_cycle transition stage rest false
    fun other member => (positive other member).le
  have total := stagesTotal_pos some positive
  have once : ¬ ((stagedTimeline transition (stage :: rest) false).repeats = true ∧
      (stagedTimeline transition (stage :: rest) false).cycle > 0) :=
    fun both => Bool.false_ne_true both.1
  unfold TimelineAppearance.phase
  dsimp only
  rw [if_neg once, cycle]
  split
  next ended => exact (min_eq_right ended.2.le).symm
  next within =>
    have inside : max elapsed 0 ≤ stagesTotal (stage :: rest) :=
      not_lt.mp fun ended => within ⟨total, ended⟩
    exact (min_eq_left inside).symm

/-- The keyframes of a timeline are behind its end nowhere. -/
theorem sample_of_past {round : Rounding} {last : Stage}
    (last_stage : (stage :: stages).getLast? = some last)
    (nonneg : ∀ other ∈ stage :: stages, 0 ≤ other.duration)
    (ended : (stagedTimeline .step (stage :: stages) repeats).phase elapsed =
      stagesTotal (stage :: stages)) :
    (stagedTimeline .step (stage :: stages) repeats).sample round elapsed = last.color := by
  have parts := List.forall_mem_cons.mp nonneg
  have total : stagesTotal (stage :: stages) = stage.duration + stagesTotal stages := List.sum_cons
  have past : ∀ keyframe ∈ stageFrames .step (0 + stage.duration) stages,
      keyframe.at' ≤ stagesTotal (stage :: stages) := by
    intro keyframe member
    have bound := at_le_of_mem parts.2 member
    rwa [zero_add, ← total] at bound
  obtain ⟨at', found⟩ := current_of_past last_stage past
  rw [sample_stagedTimeline nonneg, ended, TimelineAppearance.sampleAt, found]

/-- Stages that are shown once end with the last one. -/
theorem once_stagedTimeline {round : Rounding} (some : stages ≠ [])
    (positive : ∀ stage ∈ stages, 0 < stage.duration) :
    Once stages ((stagedTimeline .step stages false).sample round) := by
  have total := stagesTotal_pos some positive
  obtain ⟨first, rest, rfl⟩ := List.exists_cons_of_ne_nil some
  have nonneg : ∀ other ∈ first :: rest, 0 ≤ other.duration :=
    fun other member => (positive other member).le
  have whole : Timeline.start (durations (first :: rest)) (first :: rest).length =
      stagesTotal (first :: rest) := by
    rw [← List.length_map Stage.duration]
    exact Timeline.start_length
  have shows (elapsed : Duration) (index : Nat) (stage : Stage)
      (listed : (first :: rest)[index]? = Option.some stage)
      (here : Timeline.Contains (durations (first :: rest)) index (max elapsed 0)) :
      (stagedTimeline .step (first :: rest) false).sample round elapsed = stage.color := by
    have ends : Timeline.start (durations (first :: rest)) (index + 1) ≤
        stagesTotal (first :: rest) := by
      rw [← whole]
      exact Timeline.start_mono (durations_nonneg positive) (List.getElem?_eq_some_iff.mp listed).1
    have within : min (max elapsed 0) (stagesTotal (first :: rest)) = max elapsed 0 :=
      min_eq_left (here.2.le.trans ends)
    rw [sample_stagedTimeline nonneg, phase_of_once some positive, within]
    exact sampleAt_step nonneg listed here
  refine ⟨?_, shows, ?_⟩
  · intro elapsed early
    obtain ⟨index, here⟩ := Timeline.exists_contains (le_max_right elapsed 0)
      (max_lt early total : _ < (durations (first :: rest)).sum)
    exact ⟨index, here, fun other there =>
      Timeline.contains_unique (durations_nonneg positive) there here⟩
  · intro last last_stage elapsed begun late
    rcases lt_or_ge elapsed (stagesTotal (first :: rest)) with early | ended
    · apply shows elapsed ((first :: rest).length - 1)
      · rw [← List.getLast?_eq_getElem?, last_stage]
      · rw [max_eq_left begun]
        refine ⟨late, ?_⟩
        have last_index : (first :: rest).length - 1 + 1 = (first :: rest).length := rfl
        rw [last_index, whole]
        exact early
    · apply sample_of_past last_stage nonneg
      rw [phase_of_once some positive, max_eq_left begun, min_eq_right ended]

/-! ## There and back -/

/-- The two stages of a swing between two colours. -/
def swingStages (first second : Rgb) (period : Duration) : List Stage :=
  [{ color := first, duration := period / 2 },
    { color := second, duration := period - period / 2 }]

/-- A swing shows its extremes at the start and in the middle of each period. -/
structure Swings (first second : Rgb) (period : Duration) (sample : Duration → Rgb) : Prop
    extends Smooth (swingStages first second period) sample where
  lasts : stagesTotal (swingStages first second period) = period
  starts : ∀ turns : Nat, sample (turns * period) = first
  middle : ∀ turns : Nat, sample (turns * period + period / 2) = second

/-- Half a period is neither empty nor the whole. -/
theorem half_bounds {period : Int} (long : 2 ≤ period) : 0 < period / 2 ∧ period / 2 < period := by
  omega

/-- There and back is a swing between two colours. -/
theorem swings_stagedTimeline {first second : Rgb} {period : Duration} (long : 2 ≤ period) :
    Swings first second period
      ((stagedTimeline .linear (swingStages first second period) true).sample Double.exact) := by
  have half : 0 < period / 2 ∧ period / 2 < period := half_bounds long
  have two : swingStages first second period ≠ [] := List.cons_ne_nil _ _
  have positive : ∀ stage ∈ swingStages first second period, 0 < stage.duration := by
    simp only [swingStages, List.forall_mem_cons]
    exact ⟨half.1, sub_pos.mpr half.2, List.forall_mem_nil _⟩
  have smooth := smooth_stagedTimeline two positive
  have lasts : stagesTotal (swingStages first second period) = period := by
    simp [stagesTotal, durations, swingStages]
  have start_one : Timeline.start (durations (swingStages first second period)) 1 = period / 2 := by
    simp [Timeline.start, durations, swingStages]
  have start_two : Timeline.start (durations (swingStages first second period)) 2 = period := by
    simp [Timeline.start, durations, swingStages]
  -- A colour shows unmixed at the start of its stage.
  have extreme {elapsed : Duration} {index : Nat} {stage next : Stage}
      (listed : (swingStages first second period)[index]? = some stage)
      (follows : (swingStages first second period)[(index + 1) % 2]? = some next)
      (begun : 0 ≤ elapsed) (within : elapsed < period)
      (here : elapsed = Timeline.start (durations (swingStages first second period)) index)
      (ends : elapsed < Timeline.start (durations (swingStages first second period)) (index + 1))
      (turns : Nat) :
      (stagedTimeline .linear (swingStages first second period) true).sample Double.exact
        (turns * period + elapsed) = stage.color := by
    have phase : turnPhase (swingStages first second period) elapsed = elapsed := by
      rw [turnPhase, lasts, max_eq_left begun, Int.emod_eq_of_lt begun within]
    have mixed := (smooth.mixes elapsed index stage next listed follows
      (by rw [phase]; exact ⟨here.ge, ends⟩)).1
    rw [phase, ← here, sub_self, Int.cast_zero, zero_div] at mixed
    have turned := smooth.periodic elapsed begun turns
    rw [lasts, add_comm] at turned
    rw [turned]
    exact mixed.unique Mixture.zero
  refine { toSmooth := smooth, lasts, starts := ?_, middle := ?_ }
  · intro turns
    have shown := @extreme 0 0 _ _ rfl rfl le_rfl (half.1.trans half.2) rfl
      (start_one.symm ▸ half.1) turns
    rwa [add_zero] at shown
  · intro turns
    exact @extreme (period / 2) 1 _ _ rfl rfl half.1.le half.2 start_one.symm
      (start_two.symm ▸ half.2) turns

end

end PixelStatus
