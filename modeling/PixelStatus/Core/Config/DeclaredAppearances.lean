/-
# Declared appearances

Each of the seven forms declares an animation of its own. The reader compiles
all of them to timelines in stages, and sampling such a timeline shows the
animation that was declared.
-/

import PixelStatus.Core.Config.Appearances
import PixelStatus.Core.StagedTimelines

namespace PixelStatus

open Logged

/-- An animation, by the form in which it is declared. -/
inductive AppearanceForm
  | solid (color : Rgb)
  | blink (color : Rgb) (on off : Duration)
  | toggle (colors : List Rgb) (period : Duration)
  | fade (source target : Rgb) (period : Duration)
  | pulse (color : Rgb) (minimum maximum : Double) (period : Duration)
  | sequence (stages : List Stage) (repeats : Bool)
  | cycle (stages : List Stage) (transition : Transition)

/-! ## What a document declares -/

/-- The value of a field is read as something. -/
def FieldReads {α : Type} (object : Members) (key : String) (reads : Json → α → Prop) (item : α) :
    Prop :=
  ∃ value, object.field key = some value ∧ reads value item

def ReadsColor (value : Json) (color : Rgb) : Prop :=
  ∃ text, value = .string text ∧ parseRgbHex text = some color

def ReadsDuration (value : Json) (duration : Duration) : Prop :=
  ∃ text, value = .string text ∧ parseDuration text = some duration ∧ 0 < duration ∧
    duration ≤ maximumAppearanceDuration

def ReadsColors (value : Json) (colors : List Rgb) : Prop :=
  ∃ items, value = .array items ∧ List.Forall₂ ReadsColor items colors

def ReadsStage (value : Json) (stage : Stage) : Prop :=
  ∃ object, value = .object object ∧ FieldReads object "color" ReadsColor stage.color ∧
    FieldReads object "duration" ReadsDuration stage.duration

def ReadsStages (value : Json) (stages : List Stage) : Prop :=
  ∃ items, value = .array items ∧ List.Forall₂ ReadsStage items stages

variable (round : Rounding)

/-- A share of a hundred, or a default when there is none. -/
def ReadsShare (object : Members) (key : String) (default share : Double) : Prop :=
  (object.field key = none ∧ share = default) ∨
    ∃ value percent, object.field key = some value ∧ percentOf value = some percent ∧
      0 ≤ percent ∧ percent ≤ 100 ∧ share = Double.div round (.finite percent) (.finite 100)

def ReadsRepeat (object : Members) (repeats : Bool) : Prop :=
  (object.field "repeat" = none ∧ repeats = true) ∨
    object.field "repeat" = some (.boolean repeats)

def ReadsTransition (object : Members) (transition : Transition) : Prop :=
  (object.field "transition" = none ∧ transition = .linear) ∨
    (object.field "transition" = some (.string (bytes "linear")) ∧ transition = .linear) ∨
    (object.field "transition" = some (.string (bytes "step")) ∧ transition = .step)

/-- The value under the name of a form declares an animation. -/
inductive Declares : String → Json → AppearanceForm → Prop
  | solid {value : Json} {color : Rgb} :
      ReadsColor value color → Declares "solid" value (.solid color)
  | blink {object : Members} {color : Rgb} {on off : Duration} :
      FieldReads object "color" ReadsColor color → FieldReads object "on" ReadsDuration on →
      FieldReads object "off" ReadsDuration off →
      Declares "blink" (.object object) (.blink color on off)
  | toggle {object : Members} {colors : List Rgb} {period : Duration} :
      FieldReads object "colors" ReadsColors colors →
      FieldReads object "period" ReadsDuration period →
      Declares "toggle" (.object object) (.toggle colors period)
  | fade {object : Members} {source target : Rgb} {period : Duration} :
      FieldReads object "from" ReadsColor source → FieldReads object "to" ReadsColor target →
      FieldReads object "period" ReadsDuration period →
      Declares "fade" (.object object) (.fade source target period)
  | pulse {object : Members} {color : Rgb} {minimum maximum : Double} {period : Duration} :
      FieldReads object "color" ReadsColor color →
      ReadsShare round object "minimum" (round (1 / 10)) minimum →
      ReadsShare round object "maximum" (.finite 1) maximum →
      FieldReads object "period" ReadsDuration period →
      Declares "pulse" (.object object) (.pulse color minimum maximum period)
  | sequence {object : Members} {stages : List Stage} {repeats : Bool} :
      FieldReads object "steps" ReadsStages stages → ReadsRepeat object repeats →
      Declares "sequence" (.object object) (.sequence stages repeats)
  | cycle {object : Members} {stages : List Stage} {transition : Transition} :
      FieldReads object "steps" ReadsStages stages → ReadsTransition object transition →
      Declares "cycle" (.object object) (.cycle stages transition)

namespace AppearanceForm

/-- What the reader checks of an animation. -/
def Proper : AppearanceForm → Prop
  | .solid _ => True
  | .blink _ on off => 0 < on ∧ 0 < off
  | .toggle colors period => colors ≠ [] ∧ 0 < period
  | .fade _ _ period => 2 ≤ period
  | .pulse _ minimum maximum period => 2 ≤ period ∧ maximum.lt minimum = false
  | .sequence stages _ => stages ≠ [] ∧ ∀ stage ∈ stages, 0 < stage.duration
  | .cycle stages _ => stages ≠ [] ∧ ∀ stage ∈ stages, 0 < stage.duration

/-- The timeline to which an animation is compiled. -/
def timeline : AppearanceForm → TimelineAppearance
  | .solid color => stagedTimeline .step [{ color, duration := 0 }] false
  | .blink color on off =>
      stagedTimeline .step [{ color, duration := on }, { color := {}, duration := off }] true
  | .toggle colors period =>
      stagedTimeline .step (colors.map fun color => { color, duration := period }) true
  | .fade source target period => stagedTimeline .linear (swingStages source target period) true
  | .pulse color minimum maximum period =>
      stagedTimeline .linear (swingStages (scaleBrightness round color minimum)
        (scaleBrightness round color maximum) period) true
  | .sequence stages repeats => stagedTimeline .step stages repeats
  | .cycle stages transition => stagedTimeline transition stages true

end AppearanceForm

/-- A timeline is compiled from an animation that a value declares. -/
def CompiledFrom (name : String) (value : Json) (timeline : TimelineAppearance) : Prop :=
  ∃ form, Declares round name value form ∧ form.Proper ∧ timeline = form.timeline round

/-! ## The readers -/

variable {round} {path : Bytes}

/-- A colour is read from its text. -/
theorem colorValue_returns {value : Json} :
    Returns (ReadsColor value) (colorValue value path) := by
  unfold colorValue
  split
  next text =>
    split
    · exact ensures_reject
    next color read => exact Returns.pure ⟨text, rfl, read⟩
  · exact ensures_reject

/-- A duration is read from its text and is positive. -/
theorem durationValue_returns {value : Json} :
    Returns (ReadsDuration value) (durationValue value path) := by
  unfold durationValue
  split
  next text =>
    split
    next duration read =>
      split
      · exact ensures_reject
      next inside =>
        rw [not_or, not_le, not_lt] at inside
        exact Returns.pure ⟨text, rfl, read, inside⟩
    · exact ensures_reject
  · exact ensures_reject

theorem ReadsDuration.pos {value : Json} {duration : Duration} (read : ReadsDuration value duration) :
    0 < duration := by
  obtain ⟨text, -, -, positive, -⟩ := read
  exact positive

/-- A percentage is read as a share. -/
theorem percentageValue_returns {object : Members} {key : String} {default : Double} :
    Returns (ReadsShare round object key default)
      (percentageValue round object key default path) := by
  unfold percentageValue
  split
  next absent => exact Returns.pure (Or.inl ⟨absent, rfl⟩)
  next value present =>
    split
    next percent read =>
      split
      · exact ensures_reject
      next inside =>
        rw [not_or, not_lt, not_lt] at inside
        exact Returns.pure (Or.inr ⟨value, percent, present, read, inside.1, inside.2, rfl⟩)
    · exact ensures_reject

/-- A solid appearance is compiled as its form says. -/
theorem parseSolid_returns {solid : Json} :
    Returns (CompiledFrom round "solid" solid) (parseSolid solid path) :=
  colorValue_returns.map fun color read => ⟨.solid color, .solid read, trivial, rfl⟩

/-- A blink is compiled as its form says. -/
theorem parseBlink_returns {blink : Json} :
    Returns (CompiledFrom round "blink" blink) (parseBlink blink path) := by
  unfold parseBlink
  split
  next object =>
    apply Ensures.step
    intro _
    split
    next colorField onField offField hcolor hon hoff =>
      apply colorValue_returns.bind
      intro color readColor
      apply durationValue_returns.bind
      intro on readOn
      apply durationValue_returns.bind
      intro off readOff
      dsimp only
      split
      · exact ensures_reject
      · apply Returns.pure
        refine ⟨.blink color on off,
          .blink ⟨_, hcolor, readColor⟩ ⟨_, hon, readOn⟩ ⟨_, hoff, readOff⟩,
          ⟨readOn.pos, readOff.pos⟩, ?_⟩
        simp only [AppearanceForm.timeline, stagedTimeline, stageFrames, stagesTotal, durations,
          TimelineAppearance.blink, List.map_cons, List.map_nil, List.sum_cons, List.sum_nil,
          zero_add, add_zero]
    · exact ensures_reject
  · exact ensures_reject

/-- The keyframes of a toggle lie a period apart. -/
theorem parseToggleColors_returns {period : Duration} {index : Nat}
    {keyframes : List ColorKeyframe} {items : List Json} :
    Returns (fun result => ∃ colors, List.Forall₂ ReadsColor items colors ∧
        result = keyframes ++ stageFrames .step (period * index)
          (colors.map fun color => { color, duration := period }))
      (parseToggleColors path period index keyframes items) := by
  induction items generalizing index keyframes with
  | nil =>
      apply Returns.pure
      exact ⟨[], .nil, (List.append_nil _).symm⟩
  | cons item items ih =>
      apply colorValue_returns.bind
      intro color read
      apply (@ih (index + 1) _).mono
      rintro result ⟨value, rfl, colors, reads, rfl⟩
      refine ⟨_, rfl, color :: colors, .cons read reads, ?_⟩
      have next : period * ((index + 1 : Nat) : Int) = period * index + period := by
        rw [Nat.cast_succ, mul_add, mul_one]
      rw [List.append_assoc, next]
      rfl

/-- Equal stages take the period as often as there are colours. -/
theorem stagesTotal_toggle (colors : List Rgb) (period : Duration) :
    stagesTotal (colors.map fun color => { color, duration := period }) = period * colors.length := by
  induction colors with
  | nil => exact (mul_zero _).symm
  | cons color colors ih =>
      change period + stagesTotal (colors.map fun color => { color, duration := period }) = _
      rw [ih, List.length_cons, Nat.cast_succ, mul_add, mul_one, add_comm]

/-- A toggle is compiled as its form says. -/
theorem parseToggle_returns {toggle : Json} :
    Returns (CompiledFrom round "toggle" toggle) (parseToggle toggle path) := by
  unfold parseToggle
  split
  next object =>
    apply Ensures.step
    intro _
    split
    next items listed =>
      split
      · exact ensures_reject
      next enough =>
        split
        · exact ensures_reject
        next periodField hperiod =>
          apply durationValue_returns.bind
          intro period readPeriod
          dsimp only
          split
          · exact ensures_reject
          · apply parseToggleColors_returns.map
            rintro keyframes ⟨colors, reads, rfl⟩
            have same : items.length = colors.length := reads.length_eq
            have some : colors ≠ [] := by
              rintro rfl
              rw [same] at enough
              exact enough (Or.inl (by decide))
            refine ⟨.toggle colors period, .toggle ⟨_, listed, items, rfl, reads⟩
              ⟨_, hperiod, readPeriod⟩, ⟨some, readPeriod.pos⟩, ?_⟩
            rw [AppearanceForm.timeline, stagedTimeline, stagesTotal_toggle, same, List.nil_append,
              Nat.cast_zero, mul_zero]
    · exact ensures_reject
  · exact ensures_reject

/-- There and back are two stages of half a period each. -/
theorem backAndForth_eq {first second : Rgb} {period : Duration} (long : 2 ≤ period) :
    backAndForth first second period =
      stagedTimeline .linear (swingStages first second period) true := by
  have half : period.tdiv 2 = period / 2 :=
    Int.tdiv_eq_ediv_of_nonneg ((show (0 : Int) ≤ 2 by decide).trans long)
  simp only [backAndForth, stagedTimeline, stageFrames, swingStages, stagesTotal, durations,
    List.map_cons, List.map_nil, List.sum_cons, List.sum_nil, zero_add, add_zero, half,
    add_sub_cancel]

/-- A fade is compiled as its form says. -/
theorem parseFade_returns {fade : Json} :
    Returns (CompiledFrom round "fade" fade) (parseFade fade path) := by
  unfold parseFade
  split
  next object =>
    apply Ensures.step
    intro _
    split
    next fromField toField periodField hfrom hto hperiod =>
      apply colorValue_returns.bind
      intro source readSource
      apply colorValue_returns.bind
      intro target readTarget
      apply durationValue_returns.bind
      intro period readPeriod
      dsimp only
      split
      · exact ensures_reject
      next long =>
        apply Returns.pure
        exact ⟨.fade source target period,
          .fade ⟨_, hfrom, readSource⟩ ⟨_, hto, readTarget⟩ ⟨_, hperiod, readPeriod⟩,
          not_lt.mp long, backAndForth_eq (not_lt.mp long)⟩
    · exact ensures_reject
  · exact ensures_reject

/-- A pulse is compiled as its form says. -/
theorem parsePulse_returns {pulse : Json} :
    Returns (CompiledFrom round "pulse" pulse) (parsePulse round pulse path) := by
  unfold parsePulse
  split
  next object =>
    apply Ensures.step
    intro _
    split
    next colorField periodField hcolor hperiod =>
      apply colorValue_returns.bind
      intro color readColor
      apply durationValue_returns.bind
      intro period readPeriod
      apply percentageValue_returns.bind
      intro minimum readMinimum
      apply percentageValue_returns.bind
      intro maximum readMaximum
      dsimp only
      split
      · exact ensures_reject
      next long =>
        split
        · exact ensures_reject
        next ordered =>
          apply Returns.pure
          exact ⟨.pulse color minimum maximum period,
            .pulse ⟨_, hcolor, readColor⟩ readMinimum readMaximum ⟨_, hperiod, readPeriod⟩,
            ⟨not_lt.mp long, Bool.eq_false_of_not_eq_true ordered⟩,
            backAndForth_eq (not_lt.mp long)⟩
    · exact ensures_reject
  · exact ensures_reject

/-! ## Steps -/

/-- Every stage of a list of steps takes time. -/
theorem stages_pos {items : List Json} {stages : List Stage}
    (reads : List.Forall₂ ReadsStage items stages) : ∀ stage ∈ stages, 0 < stage.duration := by
  induction reads with
  | nil => exact List.forall_mem_nil _
  | cons read _ ih =>
      obtain ⟨object, -, -, value, -, duration⟩ := read
      exact List.forall_mem_cons.mpr ⟨duration.pos, ih⟩

/-- The keyframes of steps lie at the sums of the durations before. -/
theorem parseStepsFrom_returns {transition : Transition} {index : Nat} {parsed : ParsedSteps}
    {items : List Json} :
    Returns (fun result => ∃ stages, List.Forall₂ ReadsStage items stages ∧
        result = { keyframes := parsed.keyframes ++ stageFrames transition parsed.cycle stages
                   cycle := parsed.cycle + stagesTotal stages })
      (parseStepsFrom path transition index parsed items) := by
  induction items generalizing index parsed with
  | nil =>
      apply Returns.pure
      refine ⟨[], .nil, ?_⟩
      simp only [stageFrames, stagesTotal, durations, List.map_nil, List.sum_nil, List.append_nil,
        add_zero]
  | cons item items ih =>
      cases item with
      | object step =>
          unfold parseStepsFrom
          apply Ensures.step
          intro _
          split
          next colorField durationField hcolor hduration =>
            apply colorValue_returns.bind
            intro color readColor
            apply durationValue_returns.bind
            intro duration readDuration
            dsimp only
            split
            · exact ensures_reject
            · apply (@ih (index + 1) _).mono
              rintro result ⟨value, rfl, stages, reads, rfl⟩
              refine ⟨_, rfl, { color, duration } :: stages, .cons ⟨step, rfl,
                ⟨_, hcolor, readColor⟩, _, hduration, readDuration⟩ reads, ?_⟩
              have total : stagesTotal ({ color, duration } :: stages) =
                  duration + stagesTotal stages := List.sum_cons
              rw [total, ← add_assoc, List.append_assoc]
              rfl
          · exact ensures_reject
      | null | boolean | integer | unsigned | float | string | array => exact ensures_reject

/-- The frames of a list of steps are those of its stages. -/
theorem parseSteps_returns {value : Json} {minimumSteps : Nat} {transition : Transition}
    (some : 0 < minimumSteps) :
    Returns (fun result => ∃ stages, ReadsStages value stages ∧ stages ≠ [] ∧
        (∀ stage ∈ stages, 0 < stage.duration) ∧
        result = { keyframes := stageFrames transition 0 stages, cycle := stagesTotal stages })
      (parseSteps value path minimumSteps transition) := by
  unfold parseSteps
  dsimp only
  split
  next items =>
    split
    · exact ensures_reject
    next enough =>
      apply parseStepsFrom_returns.mono
      rintro result ⟨value, rfl, stages, reads, rfl⟩
      refine ⟨_, rfl, stages, ⟨items, rfl, reads⟩, ?_, stages_pos reads, ?_⟩
      · rintro rfl
        cases reads
        exact enough (Or.inl some)
      · simp only [List.nil_append, zero_add]
  · exact ensures_reject

/-- A sequence repeats as it says, and for ever if it says nothing. -/
theorem sequenceRepeat_returns {sequence : Members} :
    Returns (ReadsRepeat sequence) (sequenceRepeat sequence path) := by
  unfold sequenceRepeat
  split
  next absent => exact Returns.pure (Or.inl ⟨absent, rfl⟩)
  next repeats present => exact Returns.pure (Or.inr present)
  · exact ensures_reject

/-- A sequence is compiled as its form says. -/
theorem parseSequence_returns {sequence : Json} :
    Returns (CompiledFrom round "sequence" sequence) (parseSequence sequence path) := by
  unfold parseSequence
  split
  next object =>
    apply Ensures.step
    intro _
    apply sequenceRepeat_returns.bind
    intro repeats readRepeat
    dsimp only
    split
    · exact ensures_reject
    next steps present =>
      apply (parseSteps_returns Nat.one_pos).map
      rintro parsed ⟨stages, reads, some, positive, rfl⟩
      exact ⟨.sequence stages repeats, .sequence ⟨_, present, reads⟩ readRepeat,
        ⟨some, positive⟩, rfl⟩
  · exact ensures_reject

/-- A cycle changes as it says, and at once if it says nothing. -/
theorem cycleTransition_returns {cycle : Members} :
    Returns (ReadsTransition cycle) (cycleTransition cycle path) := by
  unfold cycleTransition
  split
  next absent => exact Returns.pure (Or.inl ⟨absent, rfl⟩)
  next text present =>
    split
    next same => exact Returns.pure (Or.inr (Or.inl ⟨same ▸ present, rfl⟩))
    · split
      next same => exact Returns.pure (Or.inr (Or.inr ⟨same ▸ present, rfl⟩))
      · exact ensures_reject
  · exact ensures_reject

/-- A cycle is compiled as its form says. -/
theorem parseCycle_returns {cycle : Json} :
    Returns (CompiledFrom round "cycle" cycle) (parseCycle cycle path) := by
  unfold parseCycle
  split
  next object =>
    apply Ensures.step
    intro _
    apply cycleTransition_returns.bind
    intro transition readTransition
    dsimp only
    split
    · exact ensures_reject
    next steps present =>
      apply (parseSteps_returns Nat.two_pos).map
      rintro parsed ⟨stages, reads, some, positive, rfl⟩
      exact ⟨.cycle stages transition, .cycle ⟨_, present, reads⟩ readTransition,
        ⟨some, positive⟩, rfl⟩
  · exact ensures_reject

/-- Every form compiles what its value declares. -/
theorem appearanceForms_returns
    {form : String × (Json → Bytes → Loading (Option TimelineAppearance))}
    (known : form ∈ appearanceForms round) (value : Json) :
    Returns (CompiledFrom round form.1 value) (form.2 value path) := by
  simp only [appearanceForms, List.mem_cons, List.not_mem_nil, or_false] at known
  rcases known with rfl | rfl | rfl | rfl | rfl | rfl | rfl
  · exact parseSolid_returns
  · exact parseBlink_returns
  · exact parseToggle_returns
  · exact parseFade_returns
  · exact parsePulse_returns
  · exact parseSequence_returns
  · exact parseCycle_returns

/-- An appearance is compiled from the one animation that a status declares. -/
theorem parseAppearance_returns {status : Members} :
    Returns (fun timeline => ∃ appearance name value,
        status.field "appearance" = some (.object appearance) ∧ appearance.length = 1 ∧
        Members.field appearance name = some value ∧ CompiledFrom round name value timeline)
      (parseAppearance round status path) := by
  unfold parseAppearance
  dsimp only
  split
  next appearance declared =>
    apply Ensures.step
    intro _
    apply Ensures.step
    intro _
    split
    · exact ensures_reject
    next single =>
      split
      next form parse found =>
        have contained := List.find?_some found
        have known := List.mem_of_find?_eq_some found
        obtain ⟨value, field⟩ := Option.isSome_iff_exists.mp contained
        rw [field]
        apply (appearanceForms_returns known value).mono
        rintro result ⟨timeline, rfl, compiled⟩
        exact ⟨timeline, rfl, appearance, form, value, declared, not_not.mp single, field, compiled⟩
      · exact ensures_reject
  · exact ensures_reject

/-! ## The law -/

namespace AppearanceForm

/-- The animation that a form stands for. -/
def Law : AppearanceForm → (Duration → Rgb) → Prop
  | .solid color, sample => ∀ elapsed, sample elapsed = color
  | .blink color on off, sample =>
      Stepwise [{ color, duration := on }, { color := {}, duration := off }] sample
  | .toggle colors period, sample =>
      Stepwise (colors.map fun color => { color, duration := period }) sample
  | .fade source target period, sample => Swings source target period sample
  | .pulse color minimum maximum period, sample =>
      ∃ (low high : ℚ) (dark bright : Rgb), minimum = .finite low ∧ maximum = .finite high ∧
        (0 ≤ low ∧ low ≤ high ∧ high ≤ 1) ∧ Mixture {} color low dark ∧
        Mixture {} color high bright ∧ Swings dark bright period sample
  | .sequence stages true, sample => Stepwise stages sample
  | .sequence stages false, sample => Once stages sample
  | .cycle stages .step, sample => Stepwise stages sample
  | .cycle stages .linear, sample => Smooth stages sample

end AppearanceForm

/-- In exact arithmetic a share lies between nothing and all. -/
theorem ReadsShare.bounds {object : Members} {key : String} {default : ℚ} {share : Double}
    (inside : 0 ≤ default ∧ default ≤ 1)
    (read : ReadsShare Double.exact object key (.finite default) share) :
    ∃ value : ℚ, share = .finite value ∧ 0 ≤ value ∧ value ≤ 1 := by
  rcases read with ⟨-, rfl⟩ | ⟨-, percent, -, -, low, high, rfl⟩
  · exact ⟨default, rfl, inside⟩
  · have least : (0 : ℚ) ≤ percent := by exact_mod_cast low
    have most : (percent : ℚ) ≤ 100 := by exact_mod_cast high
    refine ⟨percent / 100, ?_, by positivity, (div_le_one (by norm_num)).mpr most⟩
    simp only [Double.div, Double.exact, if_neg (show (100 : ℚ) ≠ 0 by norm_num)]

/-- Sampling the timeline of an animation shows the animation. -/
theorem law_of_declares {name : String} {value : Json} {form : AppearanceForm}
    (declares : Declares Double.exact name value form) (proper : form.Proper) :
    form.Law ((form.timeline Double.exact).sample Double.exact) := by
  cases declares with
  | solid read => exact fun elapsed => rfl
  | blink =>
      apply stepwise_stagedTimeline (List.cons_ne_nil _ _)
      simp only [List.forall_mem_cons]
      exact ⟨proper.1, proper.2, List.forall_mem_nil _⟩
  | toggle =>
      apply stepwise_stagedTimeline
      · exact List.map_eq_nil_iff.not.mpr proper.1
      · intro stage member
        obtain ⟨color, -, rfl⟩ := List.mem_map.mp member
        exact proper.2
  | fade => exact swings_stagedTimeline proper
  | pulse _ minimum maximum _ =>
      obtain ⟨low, rfl, least, lowMost⟩ := ReadsShare.bounds ⟨by norm_num, by norm_num⟩ minimum
      obtain ⟨high, rfl, highLeast, most⟩ := ReadsShare.bounds ⟨by norm_num, by norm_num⟩ maximum
      have ordered : low ≤ high := not_lt.mp (of_decide_eq_false proper.2)
      exact ⟨low, high, _, _, rfl, rfl, ⟨least, ordered, most⟩, interpolate_exact least lowMost,
        interpolate_exact highLeast most, swings_stagedTimeline proper.1⟩
  | @sequence object stages repeats =>
      cases repeats with
      | true => exact stepwise_stagedTimeline proper.1 proper.2
      | false => exact once_stagedTimeline proper.1 proper.2
  | @cycle object stages transition =>
      cases transition with
      | step => exact stepwise_stagedTimeline proper.1 proper.2
      | linear => exact smooth_stagedTimeline proper.1 proper.2

/-- An appearance that is accepted shows the one animation that its status declares. -/
theorem appearance_law {status : Members} {timeline : TimelineAppearance}
    (silent : (parseAppearance Double.exact status path).log = [])
    (accepted : (parseAppearance Double.exact status path).value = some timeline) :
    ∃ appearance name value form, status.field "appearance" = some (.object appearance) ∧
      appearance.length = 1 ∧ Members.field appearance name = some value ∧
      Declares Double.exact name value form ∧ form.Law (timeline.sample Double.exact) := by
  obtain ⟨compiled, same, appearance, name, value, declared, single, field, form, declares, proper,
    rfl⟩ := parseAppearance_returns.value silent
  obtain rfl : timeline = form.timeline Double.exact := Option.some.inj (accepted.symm.trans same)
  exact ⟨appearance, name, value, form, declared, single, field, declares,
    law_of_declares declares proper⟩

/-- A fade with a period that has no half. -/
def fadeStatus : Members :=
  [(bytes "appearance", .object
    [(bytes "fade", .object
      [(bytes "from", .string (bytes "#FF0000")), (bytes "period", .string (bytes "5ms")),
        (bytes "to", .string (bytes "#00FF00"))])])]

/-- A fade that is loaded obeys the law of its form. -/
theorem appearance_law_fade : ∃ timeline form,
    (parseAppearance Double.exact fadeStatus []).value = some timeline ∧
    AppearanceForm.Law form (timeline.sample Double.exact) := by
  have silent : (parseAppearance Double.exact fadeStatus []).log = [] := by decide +kernel
  have yielded : (parseAppearance Double.exact fadeStatus []).value.isSome = true := by
    decide +kernel
  obtain ⟨timeline, accepted⟩ := Option.isSome_iff_exists.mp yielded
  obtain ⟨appearance, name, value, form, -, -, -, -, law⟩ := appearance_law silent accepted
  exact ⟨timeline, form, accepted, law⟩

end PixelStatus
