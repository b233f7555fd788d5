/-
# Bars show values

In exact arithmetic the lit part of a bar is a gauge: so many lines from the
side where its direction begins, in the colour of the source, with the track
everywhere else in its rectangle.
-/

import PixelStatus.Core.Config.ReadCards
import PixelStatus.Core.Config.RequiredStatuses
import PixelStatus.Core.RenderAccepted
import PixelStatus.Core.WidgetLayers
import PixelStatus.Logic.Gauge

namespace PixelStatus

/-- The number that a value of the store stands for. -/
inductive StateValue.Number : StateValue → ℚ → Prop
  | integer (value : Int64) : Number (.integer value) value.toInt
  | real (value : ℚ) : Number (.real (.finite value)) value

/-- A number is read as itself. -/
theorem StateValue.Number.numericValue {value : StateValue} {number : ℚ}
    (holds : value.Number number) : numericValue Double.exact value = some (.finite number) := by
  cases holds with
  | integer value => rfl
  | real => rfl

/-- The line of a bar that a place belongs to, counted from the side where the
bar's direction begins. -/
def barLine (bar : LayoutBarConfig) (place : Place) : Nat :=
  match bar.direction with
  | .right => place.1 - bar.x
  | .left => bar.x + bar.width - 1 - place.1
  | .down => place.2 - bar.y
  | .up => bar.y + bar.height - 1 - place.2

namespace LayoutBounds

/-- A place seen from the other side of a rectangle. -/
def mirrorAcross (bounds : LayoutBounds) (place : Place) : Place :=
  (bounds.x + (bounds.x + bounds.width - 1 - place.1), place.2)

/-- A place seen from the other end of a rectangle. -/
def mirrorDown (bounds : LayoutBounds) (place : Place) : Place :=
  (place.1, bounds.y + (bounds.y + bounds.height - 1 - place.2))

end LayoutBounds

section

variable {round : Rounding} {bar : LayoutBarConfig} {value : Double} {place : Place} {filled : Nat}

/-- The lit part is the first lines. -/
theorem litBounds_covers (bounded : filled ≤ barExtent bar) :
    (litBounds bar filled).Covers place.1 place.2 ↔
      bar.toLayoutBounds.Covers place.1 place.2 ∧ barLine bar place < filled := by
  unfold barExtent at bounded
  unfold litBounds barLine
  cases direction : bar.direction
  all_goals
    simp only [direction, barHorizontal, LayoutBounds.Covers, reduceCtorEq, decide_true,
      decide_false, Bool.or_true, Bool.or_false, if_true, Bool.false_eq_true, if_false] at bounded ⊢
    omega

/-- The lines that a value lights; none when its share is no number. -/
def barFilled (round : Rounding) (bar : LayoutBarConfig) (value : Double) : Nat :=
  if (rawFraction round bar value).isFinite then
    filledLines round (Double.clamp (rawFraction round bar value) (.finite 0) (.finite 1))
      (barExtent bar)
  else 0

/-- The lit part of a bar is its first lines. -/
theorem barFillLayer_eq (color : Rgb) : barFillLayer round bar value color place =
    if bar.toLayoutBounds.Covers place.1 place.2 ∧ barLine bar place < barFilled round bar value then
      some color
    else none := by
  unfold barFillLayer barFilled
  cases finite : (rawFraction round bar value).isFinite with
  | false => simp [Layer.blank]
  | true =>
      generalize hfilled : filledLines round (Double.clamp (rawFraction round bar value) (.finite 0)
        (.finite 1)) (barExtent bar) = filled
      have bounded : filled ≤ barExtent bar := hfilled ▸ filledLines_le _ _
      by_cases none : filled = 0
      · simp [none, Layer.blank]
      · rw [if_neg (not_or.mpr ⟨by decide, none⟩), if_pos rfl, rectangle, Layer.area]
        simp only [litBounds_covers bounded]

/-! ## Exact arithmetic -/

/-- Exact arithmetic clamps to the interval. -/
theorem clamp_exact (share : ℚ) : Double.clamp (.finite share) (.finite 0) (.finite 1) =
    .finite (max 0 (min 1 share)) := by
  unfold Double.clamp
  simp only [Double.lt, Double.compare, decide_eq_true_eq]
  split
  next below => rw [max_eq_left ((min_le_right _ _).trans below.le)]
  next above =>
    split
    next beyond => rw [min_eq_left beyond.le, max_eq_right zero_le_one]
    next within =>
      rw [min_eq_right (not_lt.mp within), max_eq_right (not_lt.mp above)]

/-- Without rounding a bar lights the lines of a gauge. -/
theorem barFilled_exact {low high number : ℚ} (minimum : bar.minimum = .finite low)
    (maximum : bar.maximum = .finite high) (ordered : low < high) :
    barFilled Double.exact bar (.finite number) =
      Gauge.lines low high number (barExtent bar) := by
  have range : high - low ≠ 0 := (sub_pos.mpr ordered).ne'
  have share : rawFraction Double.exact bar (.finite number) =
      .finite ((number - low) / (high - low)) := by
    rw [rawFraction, minimum, maximum]
    simp only [Double.sub, Double.neg, Double.add, Double.exact, Double.div, ← sub_eq_add_neg,
      if_neg range]
  rw [barFilled, share, clamp_exact]
  simp only [Double.isFinite, if_true, filledLines, Double.mul, Double.add, Double.exact,
    truncate, Int.floor_toNat]
  rfl

end

/-! ## The law -/

/-- The lines that a bar of a range lights for a number. -/
def barLines (bar : LayoutBarConfig) (low high number : ℚ) : Nat :=
  Gauge.lines low high number (barExtent bar)

/-- How a bar of a range shows the numbers of its source. -/
structure BarLaw (config : AppConfig) (bar : LayoutBarConfig) (low high : ℚ) : Prop where
  paints : ∀ states now animationOrigin canvas, canvas.Sound config.display → ∃ drawn,
    renderBar Double.exact states config now animationOrigin bar canvas = .ok drawn ∧
      Frame.Paints (barLayer Double.exact states config now animationOrigin bar) canvas.output
        drawn.output
  shows : ∀ states now animationOrigin resolved number,
    states.resolve bar.source now = some resolved → resolved.state.value.Number number →
    ∃ color, (sampleOf Double.exact states config now animationOrigin bar.source).color =
        some color ∧
      ∀ place, barLayer Double.exact states config now animationOrigin bar place =
        if bar.toLayoutBounds.Covers place.1 place.2 then
          some (if barLine bar place < barLines bar low high number then color else bar.trackColor)
        else none
  numbered : ∀ line, line < barExtent bar ↔
    ∃ place, bar.toLayoutBounds.Covers place.1 place.2 ∧ barLine bar place = line
  formula : ∀ number, barLines bar low high number = min (barExtent bar)
    ⌊max 0 (min 1 ((number - low) / (high - low))) * barExtent bar + 1 / 2⌋.toNat
  monotone : ∀ number other, number ≤ other →
    barLines bar low high number ≤ barLines bar low high other
  empty : ∀ number ≤ low, barLines bar low high number = 0
  full : ∀ number, high ≤ number → barLines bar low high number = barExtent bar
  across : ∀ states now animationOrigin place, bar.toLayoutBounds.Covers place.1 place.2 →
    barLayer Double.exact states config now animationOrigin { bar with direction := .left } place =
      barLayer Double.exact states config now animationOrigin { bar with direction := .right }
        (bar.mirrorAcross place)
  down : ∀ states now animationOrigin place, bar.toLayoutBounds.Covers place.1 place.2 →
    barLayer Double.exact states config now animationOrigin { bar with direction := .up } place =
      barLayer Double.exact states config now animationOrigin { bar with direction := .down }
        (bar.mirrorDown place)

section

variable {states : StateStore} {config : AppConfig} {now animationOrigin : TimePoint}
  {bar : LayoutBarConfig} {place : Place}

/-- Every status has an appearance, its own or that of an unknown one. -/
theorem appearanceOf_isSome (unknown : bytes "unknown" ∈ config.statuses) (status : Bytes) :
    (appearanceOf config status).1.isSome = true := by
  unfold appearanceOf
  split
  · rfl
  · exact AList.lookup_isSome.mpr unknown

/-- With an appearance for `unknown` every source has a colour. -/
theorem sampleOf_color {round : Rounding} (unknown : bytes "unknown" ∈ config.statuses)
    (source : Bytes) : ∃ color,
      (sampleOf round states config now animationOrigin source).color = some color := by
  apply Option.isSome_iff_exists.mp
  unfold sampleOf sampleSource
  dsimp only
  rw [Option.isSome_map]
  exact appearanceOf_isSome unknown _

/-- The lines are those of the rectangle. -/
theorem barLine_iff {line : Nat} (width : 0 < bar.width) (height : 0 < bar.height) :
    line < barExtent bar ↔
      ∃ place : Place, bar.toLayoutBounds.Covers place.1 place.2 ∧ barLine bar place = line := by
  unfold barExtent barLine
  cases direction : bar.direction
  all_goals
    simp only [barHorizontal, LayoutBounds.Covers, reduceCtorEq, decide_true, decide_false,
      Bool.or_true, Bool.or_false, if_true, Bool.false_eq_true, if_false]
    constructor
  · exact fun inside => ⟨(bar.x + line, bar.y), by omega, by omega⟩
  · rintro ⟨place, covered, rfl⟩
    omega
  · exact fun inside => ⟨(bar.x + bar.width - 1 - line, bar.y), by omega, by omega⟩
  · rintro ⟨place, covered, rfl⟩
    omega
  · exact fun inside => ⟨(bar.x, bar.y + bar.height - 1 - line), by omega, by omega⟩
  · rintro ⟨place, covered, rfl⟩
    omega
  · exact fun inside => ⟨(bar.x, bar.y + line), by omega, by omega⟩
  · rintro ⟨place, covered, rfl⟩
    omega

/-- Two bars of one source look the same where their lines have one number. -/
theorem barLayer_eq_of_line {round : Rounding} {left right : LayoutBarConfig} {mirrored : Place}
    (source : left.source = right.source) (track : left.trackColor = right.trackColor)
    (filled : ∀ value, barFilled round left value = barFilled round right value)
    (covered : left.toLayoutBounds.Covers place.1 place.2)
    (opposite : right.toLayoutBounds.Covers mirrored.1 mirrored.2)
    (line : barLine left place = barLine right mirrored) :
    barLayer round states config now animationOrigin left place =
      barLayer round states config now animationOrigin right mirrored := by
  have fill (value : Double) (color : Rgb) : barFillLayer round left value color place =
      barFillLayer round right value color mirrored := by
    rw [barFillLayer_eq, barFillLayer_eq, filled, line]
    simp only [covered, opposite, true_and]
  have lit (sample : SourceSample) : barSampleLayer round left sample place =
      barSampleLayer round right sample mirrored := by
    obtain ⟨state, color⟩ := sample
    cases state with
    | none => rfl
    | some resolved =>
        cases color with
        | none => rfl
        | some color =>
            unfold barSampleLayer
            dsimp only
            cases numericValue round resolved.state.value with
            | none => rfl
            | some value => exact fill value color
  rw [barLayer, barLayer, Layer.beneath, Layer.beneath, source, lit, rectangle, rectangle,
    Layer.area, Layer.area, if_pos covered, if_pos opposite, track]

end

variable {config : AppConfig} {bar : LayoutBarConfig} {low high : ℚ}

/-- A bar of a range that fits the display obeys the law. -/
theorem barLaw_of_fits (unknown : bytes "unknown" ∈ config.statuses)
    (inside : bar.toLayoutBounds.Inside config.display) (minimum : bar.minimum = .finite low)
    (maximum : bar.maximum = .finite high) (ordered : low < high) :
    BarLaw config bar low high where
  paints states now animationOrigin canvas sound := by
    obtain ⟨drawn, succeeds, -, paints⟩ := (renderBar_draws bar).paints
      (renderBar_reaches sound inside)
    exact ⟨drawn, succeeds, paints⟩
  shows states now animationOrigin resolved number present holds := by
    obtain ⟨color, colored⟩ := @sampleOf_color states config now animationOrigin Double.exact
      unknown bar.source
    refine ⟨color, colored, fun place => ?_⟩
    have state : (sampleOf Double.exact states config now animationOrigin bar.source).state =
        some resolved := present
    have lit : barSampleLayer Double.exact bar
        (sampleOf Double.exact states config now animationOrigin bar.source) =
          barFillLayer Double.exact bar (.finite number) color := by
      unfold barSampleLayer
      rw [state, colored]
      dsimp only
      rw [holds.numericValue, Option.elim_some]
    rw [barLayer, lit, Layer.beneath, barFillLayer_eq, barFilled_exact minimum maximum ordered,
      rectangle, Layer.area]
    by_cases covered : bar.toLayoutBounds.Covers place.1 place.2
    · rw [if_pos covered, if_pos covered]
      by_cases first : barLine bar place < barLines bar low high number
      · rw [if_pos ⟨covered, first⟩, if_pos first, Option.some_or]
      · rw [if_neg fun both => first both.2, if_neg first, Option.none_or]
    · rw [if_neg fun both => covered both.1, if_neg covered, if_neg covered, Option.none_or]
  numbered line := barLine_iff inside.width inside.height
  formula number := by rw [barLines, Gauge.lines, ← Int.floor_toNat, Gauge.share]
  monotone number other more := Gauge.lines_mono ordered more
  empty number below := Gauge.lines_of_le ordered below
  full number above := Gauge.lines_of_ge ordered above
  across states now animationOrigin place covered := by
    have opposite : bar.toLayoutBounds.Covers (bar.mirrorAcross place).1
        (bar.mirrorAcross place).2 := by
      simp only [LayoutBounds.Covers, LayoutBounds.mirrorAcross] at covered ⊢
      omega
    apply barLayer_eq_of_line
    · rfl
    · rfl
    · exact fun value => rfl
    · exact covered
    · exact opposite
    · simp only [barLine, LayoutBounds.mirrorAcross, Nat.add_sub_cancel_left]
  down states now animationOrigin place covered := by
    have opposite : bar.toLayoutBounds.Covers (bar.mirrorDown place).1 (bar.mirrorDown place).2 := by
      simp only [LayoutBounds.Covers, LayoutBounds.mirrorDown] at covered ⊢
      omega
    apply barLayer_eq_of_line
    · rfl
    · rfl
    · exact fun value => rfl
    · exact covered
    · exact opposite
    · simp only [barLine, LayoutBounds.mirrorDown, Nat.add_sub_cancel_left]

variable {platform : Platform} {round : Rounding} {parse : Bytes → Option Json} {path : Bytes}
  {file : ConfigFile}

/-- Every bar of a loaded configuration obeys the law for the range it was given. -/
theorem bar_value_law
    (loaded : (loadConfigFile platform round parse path file).config = some config)
    (shown : .bar bar ∈ config.widgets) :
    ∃ low high, bar.minimum = .finite low ∧ bar.maximum = .finite high ∧ low < high ∧
      BarLaw config bar low high := by
  have widget := (sound_of_loadConfigFile loaded).widget shown
  obtain ⟨low, high, minimum, maximum, ordered⟩ := widget.checked
  have unknown : bytes "unknown" ∈ config.statuses :=
    (requiredStatuses_of_loadConfigFile loaded).unknown
  exact ⟨low, high, minimum, maximum, ordered,
    barLaw_of_fits unknown widget.fits minimum maximum ordered⟩

/-- The bar of the panel shows its range. -/
theorem bar_value_law_panel : ∃ bar, .bar bar ∈ panelConfig.widgets ∧
    ∃ low high, BarLaw panelConfig bar low high := by
  obtain ⟨widget, shown, kind⟩ := @exists_panel_widget 2 (by decide)
  cases widget with
  | bar bar =>
      obtain ⟨low, high, -, -, -, law⟩ := bar_value_law (@panelDocument_loads []) shown
      exact ⟨bar, shown, low, high, law⟩
  | indicator | clock | statusGrid | aggregateStatus | bitmap => cases kind

end PixelStatus
