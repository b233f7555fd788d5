/-
# The timeline of a deck

The cards of a deck show one after the other, each for its hold and then, when
its change is not instant, in transition to the next one. Which card shows is
decided by the time since the origin alone, counted in turns of the whole deck.
-/

import PixelStatus.Core.Config.ReadCards
import PixelStatus.Core.DrawingSteps
import PixelStatus.Core.RenderAccepted
import PixelStatus.Logic.Timeline

namespace PixelStatus

/-- Where in the cycle of its deck an instant is. -/
def deckPosition (cards : List CardConfig) (now animationOrigin : TimePoint) : Duration :=
  max (durationCast (now - animationOrigin)) 0 % deckCycle cards

/-- A card's stretch of the cycle contains a position. -/
def Shows (cards : List CardConfig) (index : Nat) (position : Duration) : Prop :=
  Timeline.Contains (cards.map CardConfig.segment) index position

/-- How far a position is into the stretch of a card. -/
def deckPhase (cards : List CardConfig) (index : Nat) (position : Duration) : Duration :=
  position - Timeline.start (cards.map CardConfig.segment) index

/-- A change that takes time. -/
def CardConfig.Animated (card : CardConfig) : Prop := card.transition.type ≠ .instant

/-! ## The walk through the cards -/

/-- The walk stops at the card whose stretch contains the position. -/
theorem locateCard_of_shows {first card : CardConfig} {rest : List CardConfig} {index : Nat}
    {position : Duration} (nonneg : ∀ other ∈ card :: rest, 0 ≤ other.segment)
    (shows : Shows (card :: rest) index position) :
    ∃ active next, (card :: rest)[index]? = some active ∧ (rest ++ [first])[index]? = some next ∧
      locateCard first position card rest =
        (active, deckPhase (card :: rest) index position, next) := by
  induction rest generalizing card index position with
  | nil =>
      obtain rfl : index = 0 := Nat.lt_one_iff.mp shows.lt_length
      exact ⟨card, first, rfl, rfl, by rw [deckPhase, Timeline.start_zero, sub_zero]; rfl⟩
  | cons following rest ih =>
      have parts := List.forall_mem_cons.mp nonneg
      cases index with
      | zero =>
          refine ⟨card, following, rfl, rfl, ?_⟩
          have early : position < card.segment := by
            have ends := shows.2
            rwa [List.map_cons, Timeline.start_cons, Timeline.start_zero, add_zero] at ends
          rw [locateCard, if_pos early, deckPhase, Timeline.start_zero, sub_zero]
      | succ index =>
          have later : Shows (following :: rest) index (position - card.segment) :=
            Timeline.contains_cons.mp shows
          obtain ⟨active, next, hactive, hnext, located⟩ := ih parts.2 later
          refine ⟨active, next, hactive, hnext, ?_⟩
          have begun : 0 ≤ Timeline.start ((following :: rest).map CardConfig.segment) index := by
            apply Timeline.start_nonneg
            intro length member
            obtain ⟨other, listed, rfl⟩ := List.mem_map.mp member
            exact parts.2 other listed
          have late : ¬ position < card.segment := not_lt.mpr (sub_nonneg.mp (begun.trans later.1))
          have total : Timeline.start ((card :: following :: rest).map CardConfig.segment)
              (index + 1) = card.segment +
                Timeline.start ((following :: rest).map CardConfig.segment) index :=
            Timeline.start_cons
          rw [locateCard, if_neg late, located, deckPhase, deckPhase, total, sub_sub]

/-- The card behind the last one is the first. -/
theorem getElem?_next {first next : CardConfig} {rest : List CardConfig} {index : Nat}
    (listed : (rest ++ [first])[index]? = some next) :
    (first :: rest)[(index + 1) % (first :: rest).length]? = some next := by
  rcases Nat.lt_trichotomy index rest.length with inside | last | beyond
  · rw [List.getElem?_append_left inside] at listed
    rwa [List.length_cons, Nat.mod_eq_of_lt (Nat.succ_lt_succ inside), List.getElem?_cons_succ]
  · subst last
    rw [List.getElem?_append_right le_rfl, Nat.sub_self] at listed
    rw [List.length_cons, Nat.mod_self]
    exact listed
  · rw [List.getElem?_eq_none (by rw [List.length_append, List.length_singleton]; omega)] at listed
    cases listed

/-! ## Progress -/

/-- How far a transition has come. -/
def transitionProgress (round : Rounding) (active : CardConfig) (elapsed : Duration) : Double :=
  Double.div round (round elapsed) (round active.transition.duration)

/-- A part that is not the whole is less than one, however the quotient is rounded. -/
theorem Rounding.Lawful.div_lt_one {round : Rounding} (lawful : Rounding.Lawful round)
    {part whole : Int} (begun : 0 ≤ part) (proper : part < whole) (small : whole ≤ 2 ^ 53) :
    ∃ share : ℚ, Double.div round (round part) (round whole) = .finite share ∧ 0 ≤ share ∧
      share < 1 := by
  have positive : (0 : ℚ) < whole := by exact_mod_cast begun.trans_lt proper
  have quotient : Double.div round (round part) (round whole) = round (part / whole) := by
    rw [lawful.int (show part.natAbs ≤ 2 ^ 53 by omega),
      lawful.int (show whole.natAbs ≤ 2 ^ 53 by omega), Double.div, if_neg positive.ne']
  have low := lawful.monotone 0 (part / whole)
    (div_nonneg (by exact_mod_cast begun) positive.le)
  -- The greatest double below one lies between every such quotient and one.
  have high := lawful.monotone (part / whole) (((2 ^ 53 - 1 : Int) : ℚ) / 2 ^ 53) (by
    rw [div_le_div_iff₀ positive (by norm_num)]
    have cross : part * 2 ^ 53 ≤ (2 ^ 53 - 1) * whole := by omega
    exact_mod_cast cross)
  have zero : round 0 = .finite 0 := by
    exact_mod_cast lawful.int (show (0 : Int).natAbs ≤ 2 ^ 53 by decide)
  rw [zero] at low
  rw [lawful.keeps (2 ^ 53 - 1) 53 (by decide) (by decide)] at high
  rw [quotient]
  cases rounded : round (part / whole) with
  | finite share =>
      rw [rounded] at low high
      have below : share ≤ ((2 ^ 53 - 1 : Int) : ℚ) / 2 ^ 53 := of_decide_eq_true high
      refine ⟨share, rfl, of_decide_eq_true low, below.trans_lt ?_⟩
      norm_num
  | infinite negative =>
      rw [rounded] at low high
      cases negative
      · cases high
      · cases low
  | nan =>
      rw [rounded] at low
      cases low

/-! ## What is reported -/

/-- No transition has been reported. -/
def Canvas.Still (canvas : Canvas) : Prop := canvas.report.transitioning = false

section

variable {round : Rounding} {states : StateStore} {config : AppConfig}
  {now animationOrigin : TimePoint} {calendar : Calendar} {wallNow : Int} {output : Frame}
  {active next : CardConfig} {elapsed : Duration}

/-- No step of a drawing starts a transition. -/
theorem lasting_still : Lasting round states config now animationOrigin Canvas.Still where
  error _ _ still := still
  drawn _ _ still _ := still
  sampled source canvas still := by
    have same : (sampleSource round states config now animationOrigin source
        canvas.report).2.transitioning = canvas.report.transitioning := by
      unfold sampleSource
      dsimp only
      split <;> split <;> rfl
    exact same.trans still
  rendered _ still := still
  missingSource _ still := still
  invalidValue _ still := still

/-- So a drawing without one ends without one. -/
theorem finishDrawing_still {drawing : Drawing} (still : drawing.Keeps Canvas.Still) :
    (finishDrawing drawing).1.transitioning = false := by
  cases drawing with
  | ok canvas => exact still.2 canvas rfl
  | error canvas => exact still.1 canvas rfl

/-- A card on its own is reported as that. -/
theorem renderActiveCard_report :
    (renderActiveCard round states config now animationOrigin calendar wallNow active
        output).1.activeCard = active.id ∧
      (renderActiveCard round states config now animationOrigin calendar wallNow active
        output).1.transitioning = false := by
  have start : (startCanvas config output).Still := rfl
  refine ⟨rfl, ?_⟩
  change (renderCard round states config now animationOrigin calendar wallNow active
    output).1.transitioning = false
  rw [renderCard_eq]
  exact finishDrawing_still (drawContent_keeps lasting_still start)

/-- A transition that succeeds is reported, and composes the frames of both cards. -/
theorem renderTransition_of_success
    (success : (renderTransition round states config now animationOrigin calendar wallNow active
      next elapsed output).1.success = true) :
    (renderTransition round states config now animationOrigin calendar wallNow active next elapsed
        output).1.activeCard = active.id ∧
      (renderTransition round states config now animationOrigin calendar wallNow active next
        elapsed output).1.nextCard = next.id ∧
      (renderTransition round states config now animationOrigin calendar wallNow active next
        elapsed output).1.transitioning = true ∧
      (renderTransition round states config now animationOrigin calendar wallNow active next
        elapsed output).2 =
        composeTransition round
          (renderCard round states config now animationOrigin calendar wallNow active
            (Frame.create config.display.width config.display.height)).2
          (renderCard round states config now animationOrigin calendar wallNow next
            (Frame.create config.display.width config.display.height)).2
          active.transition.type (transitionProgress round active elapsed) output := by
  unfold renderTransition at success ⊢
  dsimp only at success ⊢
  split
  next failed =>
    rw [if_pos failed] at success
    cases success
  · exact ⟨rfl, rfl, rfl, rfl⟩

end

/-! ## The law -/

/-- What is rendered at a phase of a card's stretch: the card on its own, or its
transition to the next one. -/
structure Scene (round : Rounding) (config : AppConfig) (now animationOrigin : TimePoint)
    (active next : CardConfig) (phase : Duration) : Prop where
  within : 0 ≤ phase ∧ phase < active.hold + active.transition.duration
  alone : phase < active.hold ∨ ¬ active.Animated → ∀ states calendar wallNow output,
    output.Sized config.display →
    render round states config now animationOrigin calendar wallNow output =
        renderActiveCard round states config now animationOrigin calendar wallNow active output ∧
      (render round states config now animationOrigin calendar wallNow output).1.activeCard =
        active.id ∧
      (render round states config now animationOrigin calendar wallNow
        output).1.transitioning = false
  moving : active.hold ≤ phase → active.Animated → ∀ states calendar wallNow output,
    output.Sized config.display →
    render round states config now animationOrigin calendar wallNow output =
        renderTransition round states config now animationOrigin calendar wallNow active next
          (phase - active.hold) output ∧
      ((render round states config now animationOrigin calendar wallNow output).1.success = true →
        (render round states config now animationOrigin calendar wallNow output).1.activeCard =
            active.id ∧
          (render round states config now animationOrigin calendar wallNow output).1.nextCard =
            next.id ∧
          (render round states config now animationOrigin calendar wallNow
            output).1.transitioning = true ∧
          (render round states config now animationOrigin calendar wallNow output).2 =
            composeTransition round
              (renderCard round states config now animationOrigin calendar wallNow active
                (Frame.create config.display.width config.display.height)).2
              (renderCard round states config now animationOrigin calendar wallNow next
                (Frame.create config.display.width config.display.height)).2
              active.transition.type
              (transitionProgress round active (phase - active.hold)) output)
  progress : active.hold ≤ phase → active.Animated → Rounding.Lawful round →
    ∃ share : ℚ, transitionProgress round active (phase - active.hold) = .finite share ∧
      0 ≤ share ∧ share < 1

section

variable {round : Rounding} {config : AppConfig}

/-- Every card holds for some time. -/
theorem segment_pos {card : CardConfig} (sound : card.Sound config.display) : 0 < card.segment := by
  have hold : (0 : Int) < card.hold := lt_of_lt_of_le (by decide) sound.hold
  exact Int.add_pos_of_pos_of_nonneg hold sound.transition.nonneg

/-- A deck renders the card whose stretch contains the position, or its transition. -/
theorem render_of_shows {now animationOrigin : TimePoint} {index : Nat}
    (many : 2 ≤ config.cards.length) (nonneg : ∀ card ∈ config.cards, 0 ≤ card.segment)
    (shows : Shows config.cards index (deckPosition config.cards now animationOrigin)) :
    ∃ active next, config.cards[index]? = some active ∧
      config.cards[(index + 1) % config.cards.length]? = some next ∧
      ∀ states calendar wallNow output, output.Sized config.display →
        render round states config now animationOrigin calendar wallNow output =
          let phase := deckPhase config.cards index (deckPosition config.cards now animationOrigin)
          if phase < active.hold ∨ active.transition.duration = 0 ∨
              active.transition.type = .instant then
            renderActiveCard round states config now animationOrigin calendar wallNow active output
          else
            renderTransition round states config now animationOrigin calendar wallNow active next
              (phase - active.hold) output := by
  cases cards : config.cards with
  | nil =>
      rw [cards] at many
      cases many
  | cons first others =>
      cases others with
      | nil =>
          rw [cards] at many
          exact absurd many (Nat.not_le.mpr Nat.one_lt_two)
      | cons second rest =>
          rw [cards] at nonneg shows
          obtain ⟨active, next, hactive, hnext, located⟩ := @locateCard_of_shows first first
            (second :: rest) index _ nonneg shows
          refine ⟨active, next, hactive, getElem?_next hnext, ?_⟩
          intro states calendar wallNow output sized
          have position : (max (durationCast (now - animationOrigin)) 0).tmod
              (deckCycle (first :: second :: rest)) =
                deckPosition (first :: second :: rest) now animationOrigin :=
            Int.tmod_eq_emod_of_nonneg (le_max_right _ _)
          rw [render, if_neg (not_or.mpr ⟨not_not.mpr sized.width, not_not.mpr sized.height⟩), cards]
          dsimp only
          rw [renderDeck, position, located]

/-- The renderer shows the card whose segment it is. -/
theorem scene_of_shows {now animationOrigin : TimePoint} {index : Nat}
    (many : 2 ≤ config.cards.length) (sound : ∀ card ∈ config.cards, card.Sound config.display)
    (shows : Shows config.cards index (deckPosition config.cards now animationOrigin)) :
    ∃ active next, config.cards[index]? = some active ∧
      config.cards[(index + 1) % config.cards.length]? = some next ∧
      Scene round config now animationOrigin active next
        (deckPhase config.cards index (deckPosition config.cards now animationOrigin)) := by
  obtain ⟨active, next, hactive, hnext, renders⟩ := @render_of_shows round config now
    animationOrigin index many (fun card member => (segment_pos (sound card member)).le) shows
  refine ⟨active, next, hactive, hnext, ?_⟩
  have timed := (sound active (List.mem_of_getElem? hactive)).transition
  have within : 0 ≤ deckPhase config.cards index (deckPosition config.cards now animationOrigin) ∧
      deckPhase config.cards index (deckPosition config.cards now animationOrigin) <
        active.hold + active.transition.duration := by
    have ends : Timeline.start (config.cards.map CardConfig.segment) (index + 1) =
        Timeline.start (config.cards.map CardConfig.segment) index + active.segment :=
      Timeline.start_succ (by rw [List.getElem?_map, hactive]; rfl)
    have stops := shows.2
    rw [ends] at stops
    exact ⟨sub_nonneg.mpr shows.1, sub_lt_iff_lt_add'.mpr stops⟩
  generalize deckPhase config.cards index (deckPosition config.cards now animationOrigin) = phase
    at renders within
  have moves (held : active.hold ≤ phase) (animated : active.Animated) :
      ¬ (phase < active.hold ∨ active.transition.duration = 0 ∨
        active.transition.type = .instant) := by
    rcases timed with ⟨instant, -⟩ | ⟨-, positive, -⟩
    · exact absurd instant animated
    · exact not_or.mpr ⟨not_lt.mpr held, not_or.mpr ⟨positive.ne', animated⟩⟩
  exact
    { within
      alone := by
        intro still states calendar wallNow output sized
        have chosen : phase < active.hold ∨ active.transition.duration = 0 ∨
            active.transition.type = .instant := by
          rcases still with early | instant
          · exact Or.inl early
          · exact Or.inr (Or.inr (not_not.mp instant))
        rw [renders states calendar wallNow output sized]
        dsimp only
        rw [if_pos chosen]
        exact ⟨rfl, renderActiveCard_report⟩
      moving := by
        intro held animated states calendar wallNow output sized
        rw [renders states calendar wallNow output sized]
        dsimp only
        rw [if_neg (moves held animated)]
        exact ⟨rfl, renderTransition_of_success⟩
      progress := by
        intro held animated lawful
        rcases timed with ⟨instant, -⟩ | ⟨-, -, short⟩
        · exact absurd instant animated
        · apply lawful.div_lt_one (sub_nonneg.mpr held) (sub_lt_iff_lt_add'.mpr within.2)
          exact short.trans (by decide) }

/-- The position does not change over whole turns. -/
theorem deckPosition_turns {cards : List CardConfig} {now animationOrigin : TimePoint}
    (positive : 0 < deckCycle cards) (begun : animationOrigin ≤ now) (turns : Nat) :
    deckPosition cards (now + turns * nanoseconds (deckCycle cards)) animationOrigin =
      deckPosition cards now animationOrigin := by
  have span : 0 ≤ now - animationOrigin := sub_nonneg.mpr begun
  have round : 0 ≤ (turns : Int) * deckCycle cards := mul_nonneg (Int.natCast_nonneg _) positive.le
  have later : now + turns * nanoseconds (deckCycle cards) - animationOrigin =
      now - animationOrigin + turns * deckCycle cards * 1000000 := by
    rw [nanoseconds, ← mul_assoc, add_sub_right_comm]
  have cast : durationCast (now - animationOrigin + turns * deckCycle cards * 1000000) =
      durationCast (now - animationOrigin) + turns * deckCycle cards := by
    rw [durationCast, durationCast, Int.tdiv_eq_ediv_of_nonneg span,
      Int.tdiv_eq_ediv_of_nonneg (add_nonneg span (mul_nonneg round (by decide))),
      Int.add_mul_ediv_right _ _ (by decide)]
  have started : 0 ≤ durationCast (now - animationOrigin) := Int.tdiv_nonneg span (by decide)
  rw [deckPosition, deckPosition, later, cast, max_eq_left started,
    max_eq_left (add_nonneg started round), Int.add_mul_emod_self_right]

end

variable {platform : Platform} {round : Rounding} {parse : Bytes → Option Json} {path : Bytes}
  {file : ConfigFile} {config : AppConfig}

/-- A deck of a loaded configuration renders the one card whose stretch of the cycle
contains the time since the origin, or its transition to the next card, and
returns to its first card when the cycle is over. -/
theorem deck_timeline
    (loaded : (loadConfigFile platform round parse path file).config = some config)
    (many : 2 ≤ config.cards.length) :
    0 < deckCycle config.cards ∧
    (∀ now animationOrigin,
      ∃! index, Shows config.cards index (deckPosition config.cards now animationOrigin)) ∧
    (∀ now animationOrigin index,
      Shows config.cards index (deckPosition config.cards now animationOrigin) →
      ∃ active next, config.cards[index]? = some active ∧
        config.cards[(index + 1) % config.cards.length]? = some next ∧
        Scene round config now animationOrigin active next
          (deckPhase config.cards index (deckPosition config.cards now animationOrigin))) ∧
    (∀ now animationOrigin, now ≤ animationOrigin →
      deckPosition config.cards now animationOrigin = 0) ∧
    ∀ now animationOrigin, animationOrigin ≤ now → ∀ turns : Nat,
      deckPosition config.cards (now + turns * nanoseconds (deckCycle config.cards))
          animationOrigin =
        deckPosition config.cards now animationOrigin := by
  have sound := (sound_of_loadConfigFile loaded).cards
  have nonneg : ∀ length ∈ config.cards.map CardConfig.segment, 0 ≤ length := by
    intro length member
    obtain ⟨card, listed, rfl⟩ := List.mem_map.mp member
    exact (segment_pos (sound card listed)).le
  have positive : 0 < deckCycle config.cards := by
    apply deckCycle_pos
    · exact List.ne_nil_of_length_pos (by omega)
    · exact fun card member => segment_pos (sound card member)
  refine ⟨positive, ?_, ?_, ?_, ?_⟩
  · intro now animationOrigin
    obtain ⟨index, shows⟩ := Timeline.exists_contains
      (Int.emod_nonneg _ positive.ne' : 0 ≤ deckPosition config.cards now animationOrigin)
      (Int.emod_lt_of_pos _ positive)
    exact ⟨index, shows, fun other there => Timeline.contains_unique nonneg there shows⟩
  · exact fun now animationOrigin index shows => scene_of_shows many sound shows
  · intro now animationOrigin before
    have none : durationCast (now - animationOrigin) ≤ 0 := by
      rw [durationCast, ← neg_sub, Int.neg_tdiv, neg_nonpos]
      exact Int.tdiv_nonneg (sub_nonneg.mpr before) (by decide)
    rw [deckPosition, max_eq_right none, Int.zero_emod]
  · exact fun now animationOrigin begun turns => deckPosition_turns positive begun turns

/-- The sample deck returns to its first card. -/
theorem deck_timeline_sample : 0 < deckCycle sampleConfig.cards ∧
    ∃! index, Shows sampleConfig.cards index (deckPosition sampleConfig.cards 6250000000 0) := by
  have many : 2 ≤ sampleConfig.cards.length := by decide +kernel
  have law := deck_timeline (@sampleDocument_loads []) many
  exact ⟨law.1, law.2.1 6250000000 0⟩

end PixelStatus
