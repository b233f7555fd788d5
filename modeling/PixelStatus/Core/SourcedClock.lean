/-
# Clocks with a source

A clock with a source shows the instant that its source holds. On a host whose
system clock counts nanoseconds in a signed word of 64 bits the instants end in
the year 2262, while the guard of the clock lets every second through until the
year 3000: from there on the word has wrapped, and the clock shows another time.
-/

import PixelStatus.Core.BarValues
import PixelStatus.Logic.TickClock

namespace PixelStatus

open Layer

/-! ## The host -/

/-- The system clock: nanoseconds in a signed word of 64 bits. -/
def systemClock : TickClock where
  rate := 1000000000
  values := 18446744073709551616

/-- The time of day of an instant in UTC. -/
structure Tm.Tells (time : Tm) (seconds : Int) : Prop where
  hour : (time.hour : Int) = seconds / 3600 % 24
  minute : (time.minute : Int) = seconds / 60 % 60
  second : (time.second : Int) = seconds % 60

/-- A host that converts with the system clock and knows the times of all instants
that the clock counts. -/
structure Calendar.Nanoseconds (calendar : Calendar) : Prop where
  fromTimeT : ∀ seconds, calendar.fromTimeT seconds = systemClock.ticks seconds
  toTimeT : ∀ ticks, calendar.toTimeT ticks = systemClock.seconds ticks
  localtime : ∀ seconds, systemClock.Counts seconds → (calendar.localtime seconds).isSome = true
  gmtime : ∀ seconds, systemClock.Counts seconds →
    ∃ utc, calendar.gmtime seconds = some utc ∧ utc.Tells seconds

/-- The second that comes back from the system clock. -/
def clockSecond (epoch : Int) : Int := systemClock.seconds (systemClock.ticks epoch)

section

variable {epoch : Int}

/-- A second of the clock can be counted. -/
theorem clockSecond_counts (epoch : Int) : systemClock.Counts (clockSecond epoch) :=
  TickClock.counts_seconds (TickClock.ticks_inWord (by decide) epoch)

/-- Until the word is full the same second comes back. -/
theorem clockSecond_of_le (nonnegative : 0 ≤ epoch) (counted : epoch ≤ 9223372036) :
    clockSecond epoch = epoch := by
  apply (TickClock.seconds_ticks_iff (by decide) (by decide)).mpr
  simp only [TickClock.Counts, TickClock.InWord, systemClock]
  omega

/-- From there on another minute of the day comes back: by a little more than 25
minutes after one wrap, by twice as much after two. -/
theorem clockSecond_minute_ne (uncounted : 9223372036 < epoch) (admitted : epoch ≤ 32503680000) :
    clockSecond epoch / 60 % 1440 ≠ epoch / 60 % 1440 := by
  obtain ⟨wraps, wrapped⟩ := TickClock.ticks_wrapped systemClock epoch
  have inWord := @TickClock.ticks_inWord systemClock (by decide) epoch
  have near : systemClock.ticks epoch - systemClock.rate < clockSecond epoch * systemClock.rate ∧
      clockSecond epoch * systemClock.rate < systemClock.ticks epoch + systemClock.rate :=
    TickClock.seconds_mul_near (by decide) _
  simp only [TickClock.InWord, systemClock] at wrapped inWord near
  generalize TickClock.ticks _ epoch = ticks at wrapped inWord near
  have once : wraps = 1 ∨ wraps = 2 := by omega
  rcases once with rfl | rfl
  · omega
  · omega

end

/-! ## The guard -/

section

variable {round : Rounding} {calendar : Calendar} {value : StateValue} {epoch : Int}

/-- An integer is the number it holds. -/
theorem StateValue.number_integer_iff {held : Int64} :
    (StateValue.integer held).Number epoch ↔ epoch = held.toInt := by
  refine ⟨?_, ?_⟩
  · intro holds
    generalize exact : (epoch : ℚ) = number at holds
    cases holds
    exact Int.cast_inj.mp exact
  · rintro rfl
    exact .integer held

/-- A small epoch is read exactly. -/
theorem StateValue.numericValue_of_epoch (lawful : Rounding.Lawful round)
    (small : epoch.natAbs ≤ 2 ^ 53) (holds : value.Number epoch) :
    numericValue round value = some (.finite epoch) := by
  generalize exact : (epoch : ℚ) = number at holds
  cases holds with
  | integer value =>
      rw [Int.cast_inj.mp exact] at small
      exact congrArg some (lawful.int small)
  | real => rfl

/-- The guard lets the seconds of its range through. -/
theorem epochTimes_of_admitted (lawful : Rounding.Lawful round) (host : calendar.Nanoseconds)
    (holds : value.Number epoch) (nonnegative : 0 ≤ epoch) (admitted : epoch ≤ 32503680000) :
    ∃ localTime utc, epochTimes round calendar value = some (localTime, utc) ∧
      utc.Tells (clockSecond epoch) := by
  have counted := clockSecond_counts epoch
  obtain ⟨localTime, hlocal⟩ := Option.isSome_iff_exists.mp (host.localtime _ counted)
  obtain ⟨utc, hutc, tells⟩ := host.gmtime _ counted
  have number : numericValue round value = some (.finite epoch) :=
    StateValue.numericValue_of_epoch lawful (by omega) holds
  have notBelow : Double.lt (.finite epoch) (.finite 0) = false :=
    decide_eq_false (not_lt.mpr (Int.cast_nonneg nonnegative))
  have notAbove : Double.lt (.finite 32503680000) (.finite epoch) = false :=
    decide_eq_false (not_lt.mpr (by exact_mod_cast admitted))
  have whole : ((truncate (.finite epoch) : Nat) : Int) = epoch := by
    rw [truncate, Int.floor_intCast, Int.toNat_of_nonneg nonnegative]
  refine ⟨localTime, utc, ?_, tells⟩
  unfold epochTimes splitWallTime
  simp only [number, notBelow, notAbove, Bool.or_self, Bool.false_eq_true, if_false, whole,
    host.fromTimeT, host.toTimeT]
  rw [clockSecond] at hlocal hutc
  rw [hlocal, hutc]

/-- The guard stops every other number, and what is no number at all. -/
theorem epochTimes_of_refused (lawful : Rounding.Lawful round)
    (refused : ∀ number, value.Number number → number < 0 ∨ 32503680000 < number) :
    epochTimes round calendar value = none := by
  have stopped (epoch : Double) (numeric : numericValue round value = some epoch)
      (beyond : epoch.lt (.finite 0) = true ∨ (Double.finite 32503680000).lt epoch = true) :
      epochTimes round calendar value = none := by
    unfold epochTimes
    rw [numeric]
    exact if_pos ((Bool.or_eq_true _ _).mpr beyond)
  cases value with
  | monostate | boolean | text => rfl
  | integer value =>
      apply stopped _ rfl
      rcases refused _ (.integer value) with below | above
      · have below : value.toInt < 0 := by exact_mod_cast below
        exact Or.inl (lawful.lt_int (by decide) below)
      · have above : 32503680000 < value.toInt := by exact_mod_cast above
        exact Or.inr (lawful.int_lt (by decide) above)
  | real value =>
      cases value with
      | infinite | nan => rfl
      | finite value =>
          apply stopped _ rfl
          rcases refused _ (.real value) with below | above
          · exact Or.inl (decide_eq_true below)
          · exact Or.inr (decide_eq_true above)

end

/-! ## Reading a time -/

section

variable {x y hour minute hour' minute' : Nat} {showColon : Bool} {color : Rgb} {place : Place}

/-- No two digits look the same. -/
theorem glyphLit_injective : ∀ digit other : Fin 10,
    (∀ (row : Fin 7) (column : Fin 3), glyphLit digit row column = glyphLit other row column) →
      digit = other := by
  decide +kernel

/-- A colon has one colour. -/
theorem colonLayer_only : (colonLayer x y color).Only color := Only.area.beneath Only.area

/-- A colon is in one column. -/
theorem colonLayer_within : (colonLayer x y color).Within fun place => place.1 = x + 7 := by
  apply Within.beneath
  · intro place shown painted
    rw [(area_eq_some.mp painted).1]
  · intro place shown painted
    rw [(area_eq_some.mp painted).1]

/-- The parts of a time have its colour. -/
theorem digitsLayer_parts : ∀ layer ∈ [digitLayer x y (hour / 10) color,
    digitLayer (x + 3) y (hour % 10) color, if showColon then colonLayer x y color else blank,
    digitLayer (x + 9) y (minute / 10) color, digitLayer (x + 12) y (minute % 10) color],
    layer.Only color := by
  have colon : (if showColon then colonLayer x y color else blank).Only color := by
    split
    · exact colonLayer_only
    · exact Only.blank
  simp only [List.forall_mem_cons]
  exact ⟨Only.area, Only.area, colon, Only.area, Only.area, List.forall_mem_nil _⟩

/-- In the cell of a digit a time shows that digit. -/
theorem digitsLayer_cell {left digit row column : Nat}
    (cell : (left, digit) ∈ [(0, hour / 10), (3, hour % 10), (9, minute / 10), (12, minute % 10)])
    (down : row < 7) (across : column < 3) :
    digitsLayer x y hour minute showColon color (x + left + column, y + row) = some color ↔
      glyphLit digit row column = true := by
  have others (left' digit' : Nat) :
      digitLayer (x + left') y digit' color (x + left + column, y + row) = some color ↔
        (left' ≤ left + column ∧ left + column < left' + 3) ∧
          glyphLit digit' row (left + column - left') = true := by
    rw [digitLayer, area_eq_some]
    simp only [LayoutBounds.Covers, Nat.add_sub_cancel_left, Nat.add_assoc, Nat.add_sub_add_left,
      and_true]
    apply and_congr_left
    intro _
    omega
  have first := others 0 (hour / 10)
  rw [Nat.add_zero] at first
  have colon : left + column ≠ 7 →
      ¬ (if showColon then colonLayer x y color else blank) (x + left + column, y + row) =
        some color := by
    intro aside painted
    split at painted
    · have inColumn := colonLayer_within _ _ painted
      dsimp only at inColumn
      omega
    · cases painted
  rw [digitsLayer, stack_of_only digitsLayer_parts]
  simp only [List.exists_mem_cons_iff, first, others]
  simp only [List.mem_cons, Prod.mk.injEq, List.not_mem_nil, or_false] at cell
  rcases cell with ⟨rfl, rfl⟩ | ⟨rfl, rfl⟩ | ⟨rfl, rfl⟩ | ⟨rfl, rfl⟩
  all_goals grind

/-- Times that look the same are the same. -/
theorem digitsLayer_injective (hours : hour < 24 ∧ hour' < 24) (minutes : minute < 60 ∧ minute' < 60)
    (same : ∀ place, digitsLayer x y hour minute showColon color place = some color ↔
      digitsLayer x y hour' minute' showColon color place = some color) :
    hour = hour' ∧ minute = minute' := by
  have digit (left : Nat) {shown other : Nat} (digits : shown < 10 ∧ other < 10)
      (cell : (left, shown) ∈ [(0, hour / 10), (3, hour % 10), (9, minute / 10), (12, minute % 10)])
      (cell' : (left, other) ∈
        [(0, hour' / 10), (3, hour' % 10), (9, minute' / 10), (12, minute' % 10)]) :
      shown = other := by
    apply Fin.mk.inj_iff.mp (glyphLit_injective ⟨shown, digits.1⟩ ⟨other, digits.2⟩ _)
    intro row column
    apply Bool.eq_iff_iff.mpr
    rw [← digitsLayer_cell cell row.2 column.2, ← digitsLayer_cell cell' row.2 column.2]
    exact same _
  have hourTens : hour / 10 = hour' / 10 := digit 0 (by omega) (by simp) (by simp)
  have hourOnes : hour % 10 = hour' % 10 := digit 3 (by omega) (by simp) (by simp)
  have minuteTens : minute / 10 = minute' / 10 := digit 9 (by omega) (by simp) (by simp)
  have minuteOnes : minute % 10 = minute' % 10 := digit 12 (by omega) (by simp) (by simp)
  omega

end

/-! ## The law -/

/-- A step that paints a layer on every canvas of a display. -/
def PaintsExactly (display : DisplayConfig) (layer : Layer Place Rgb) (step : Canvas → Drawing) :
    Prop :=
  ∀ canvas, canvas.Sound display → ∃ drawn, step canvas = .ok drawn ∧
    Frame.Paints layer canvas.output drawn.output

/-- A clock of UTC shows the value of its source: the hour and the minute of every
second until the year 3000, and nothing for what is no such second. -/
structure ShowsValue (display : DisplayConfig) (clock : LayoutClockConfig) (value : StateValue)
    (step : Canvas → Drawing) : Prop where
  time : ∀ epoch : Int, value.Number epoch → 0 ≤ epoch → epoch ≤ 32503680000 →
    PaintsExactly display (timeLayer clock.toLayoutBounds (epoch / 3600 % 24).toNat
      (epoch / 60 % 60).toNat true clock.color) step
  nothing : (∀ number, value.Number number → number < 0 ∨ 32503680000 < number) →
    PaintsExactly display blank step

section

variable {display : DisplayConfig} {clock : LayoutClockConfig} {step : Canvas → Drawing}
  {hour minute hour' minute' : Nat} {color : Rgb}

theorem exists_other_color (color : Rgb) : ∃ other, other ≠ color := by
  by_cases black : color = {}
  · subst black
    exact ⟨{ r := 1 }, by decide⟩
  · exact ⟨{}, fun same => black same.symm⟩

/-- A step paints one time only. -/
theorem PaintsExactly.time_injective (hours : hour < 24 ∧ hour' < 24)
    (minutes : minute < 60 ∧ minute' < 60)
    (first : PaintsExactly display (timeLayer clock.toLayoutBounds hour minute true color) step)
    (second : PaintsExactly display (timeLayer clock.toLayoutBounds hour' minute' true color) step) :
    hour = hour' ∧ minute = minute' := by
  obtain ⟨ground, other⟩ := exists_other_color color
  have sound : Canvas.Sound display
      { report := {}, output := Frame.create display.width display.height ground } :=
    ⟨⟨rfl, rfl⟩, rfl⟩
  obtain ⟨drawn, succeeds, paints⟩ := first _ sound
  obtain ⟨again, succeeds', paints'⟩ := second _ sound
  obtain rfl : drawn = again := Except.ok.inj (succeeds.symm.trans succeeds')
  apply digitsLayer_injective hours minutes
  intro place
  have bare : (Frame.create display.width display.height ground).picture place ≠ some color := by
    rw [Frame.create_picture]
    exact fun painted => other (area_eq_some.mp painted).2
  have seen := @beneath_eq_some_iff _ _ _
    (timeLayer clock.toLayoutBounds hour minute true color) _ _ bare
  have seen' := @beneath_eq_some_iff _ _ _
    (timeLayer clock.toLayoutBounds hour' minute' true color) _ _ bare
  rw [← paints.picture] at seen
  rw [← paints'.picture] at seen'
  exact seen.symm.trans seen'

variable {round : Rounding} {states : StateStore} {config : AppConfig}
  {now animationOrigin : TimePoint} {calendar : Calendar} {wallNow : Int}
  {resolved : ResolvedState} {epoch : Int}

/-- A clock with a source that fits paints exactly its layer. -/
theorem sourcedClock_paints (fits : clock.Fits display) (sourced : clock.source ≠ []) :
    PaintsExactly display (sourcedClockLayer round states now calendar clock) fun canvas =>
      renderWidget round states config now animationOrigin calendar wallNow canvas (.clock clock) := by
  intro canvas sound
  obtain ⟨drawn, succeeds, -, paints⟩ :=
    (renderSourcedClock_draws clock).paints (renderSourcedClock_reaches sound fits)
  exact ⟨drawn, (if_pos sourced).trans succeeds, paints⟩

/-- An admitted second shows the second that comes back from the system clock. -/
theorem sourcedClockLayer_of_admitted (lawful : Rounding.Lawful round)
    (host : calendar.Nanoseconds) (utc : clock.timezone = .utc)
    (present : states.resolve clock.source now = some resolved)
    (holds : resolved.state.value.Number epoch) (nonnegative : 0 ≤ epoch)
    (admitted : epoch ≤ 32503680000) :
    sourcedClockLayer round states now calendar clock =
      timeLayer clock.toLayoutBounds (clockSecond epoch / 3600 % 24).toNat
        (clockSecond epoch / 60 % 60).toNat true clock.color := by
  obtain ⟨localTime, time, converted, tells⟩ :=
    epochTimes_of_admitted lawful host holds nonnegative admitted
  unfold sourcedClockLayer
  rw [present, Option.bind_some, converted, Option.elim_some, clockTimesLayer, utc,
    ← tells.hour, ← tells.minute]
  rfl

/-- A value outside the range is not drawn. -/
theorem sourcedClockLayer_of_refused (lawful : Rounding.Lawful round)
    (present : states.resolve clock.source now = some resolved)
    (refused : ∀ number, resolved.state.value.Number number → number < 0 ∨ 32503680000 < number) :
    sourcedClockLayer round states now calendar clock = blank := by
  unfold sourcedClockLayer
  rw [present, Option.bind_some, epochTimes_of_refused lawful refused]
  rfl

/-- The exact condition under which a clock of a loaded configuration shows the
value of its source. -/
theorem sourced_clock_iff {platform : Platform} {parse : Bytes → Option Json} {path : Bytes}
    {file : ConfigFile} (lawful : Rounding.Lawful round) (host : calendar.Nanoseconds)
    (loaded : (loadConfigFile platform round parse path file).config = some config)
    (shown : .clock clock ∈ config.widgets) (sourced : clock.source ≠ [])
    (utc : clock.timezone = .utc) (present : states.resolve clock.source now = some resolved) :
    ShowsValue config.display clock resolved.state.value (fun canvas =>
        renderWidget round states config now animationOrigin calendar wallNow canvas
          (.clock clock)) ↔
      ∀ epoch : Int, resolved.state.value.Number epoch →
        ¬ (9223372036 < epoch ∧ epoch ≤ 32503680000) := by
  have fits := ((sound_of_loadConfigFile loaded).widget shown).fits
  have paints := @sourcedClock_paints config.display clock round states config now animationOrigin
    calendar wallNow fits sourced
  refine ⟨?_, ?_⟩
  · rintro shows epoch holds ⟨uncounted, admitted⟩
    have nonnegative : 0 ≤ epoch := by omega
    rw [sourcedClockLayer_of_admitted lawful host utc present holds nonnegative admitted] at paints
    have same := PaintsExactly.time_injective (by omega) (by omega) paints
      (shows.time epoch holds nonnegative admitted)
    have other := clockSecond_minute_ne uncounted admitted
    omega
  · intro counted
    refine ⟨?_, ?_⟩
    · intro epoch holds nonnegative admitted
      have few : epoch ≤ 9223372036 := not_lt.mp fun beyond => counted epoch holds ⟨beyond, admitted⟩
      rw [sourcedClockLayer_of_admitted lawful host utc present holds nonnegative admitted,
        clockSecond_of_le nonnegative few] at paints
      exact paints
    · intro refused
      rwa [sourcedClockLayer_of_refused lawful present refused] at paints

end

/-! ## A clock in Greenwich -/

theorem hour_lt (seconds : Int) : (seconds / 3600 % 24).toNat < 24 := by omega

theorem minute_lt (seconds : Int) : (seconds / 60 % 60).toNat < 60 := by omega

theorem second_lt (seconds : Int) : (seconds % 60).toNat < 61 := by omega

/-- The time of day of an instant in UTC. -/
def utcTime (seconds : Int) : Tm where
  hour := ⟨(seconds / 3600 % 24).toNat, hour_lt seconds⟩
  minute := ⟨(seconds / 60 % 60).toNat, minute_lt seconds⟩
  second := ⟨(seconds % 60).toNat, second_lt seconds⟩

/-- A host in Greenwich. -/
def greenwich : Calendar where
  toTimeT := systemClock.seconds
  fromTimeT := systemClock.ticks
  localtime seconds := some (utcTime seconds)
  gmtime seconds := some (utcTime seconds)

/-- The broken-down time tells the seconds of the day. -/
theorem utcTime_tells (seconds : Int) : (utcTime seconds).Tells seconds where
  hour := Int.toNat_of_nonneg (Int.emod_nonneg _ (by decide))
  minute := Int.toNat_of_nonneg (Int.emod_nonneg _ (by decide))
  second := Int.toNat_of_nonneg (Int.emod_nonneg _ (by decide))

/-- The sample calendar counts nanoseconds. -/
theorem greenwich_nanoseconds : greenwich.Nanoseconds where
  fromTimeT _ := rfl
  toTimeT _ := rfl
  localtime _ _ := rfl
  gmtime seconds _ := ⟨_, rfl, utcTime_tells seconds⟩

def LayoutWidgetConfig.asClock : LayoutWidgetConfig → Option LayoutClockConfig
  | .clock config => some config
  | _ => none

/-- The clock of the panel. -/
def departureClock : LayoutClockConfig where
  id := bytes "departure"
  x := 0
  y := 10
  timezone := .utc
  color := { r := 0xFF, g := 0xD6 }
  source := bytes "departure"

theorem panelConfig_clocks :
    panelConfig.widgets.filterMap LayoutWidgetConfig.asClock = [departureClock] := by
  decide +kernel

theorem departureClock_mem : .clock departureClock ∈ panelConfig.widgets := by
  have listed : departureClock ∈ panelConfig.widgets.filterMap LayoutWidgetConfig.asClock := by
    rw [panelConfig_clocks]
    exact List.mem_singleton_self _
  obtain ⟨widget, shown, clock⟩ := List.mem_filterMap.mp listed
  cases widget with
  | clock found =>
      obtain rfl := Option.some.inj clock
      exact shown
  | indicator | bar | statusGrid | aggregateStatus | bitmap => cases clock

/-- A report of a departure. -/
def departureState (epoch : Int64) : MonitorState where
  id := bytes "departure"
  status := bytes "ok"
  value := .integer epoch

def departures (epoch : Int64) : StateStore := (StateStore.empty.upsert (departureState epoch)).2

/-- The state with a departure is accepted. -/
theorem departureState_acceptable (epoch : Int64) : (departureState epoch).Acceptable := by
  refine ⟨?_, ?_, ?_⟩
  · show bytes "departure" ≠ []
    decide +kernel
  · show bytes "ok" ≠ []
    decide +kernel
  · exact fun ttl present => nomatch present

/-- The departure is what the clock's source resolves to. -/
theorem departures_resolve (epoch : Int64) : ∃ resolved,
    (departures epoch).resolve departureClock.source 0 = some resolved ∧
      resolved.state.value = .integer epoch := by
  have acceptable := departureState_acceptable epoch
  have filed : departures epoch = StateStore.empty.accept (departureState epoch) acceptable :=
    congrArg Prod.snd (StateStore.upsert_of_acceptable acceptable)
  rw [filed]
  refine ⟨_, congrArg (Option.map _) (StateStore.lookup_accept_self acceptable), ?_⟩
  rw [StateStore.resolveEntry_state]
  rfl

/-- Until the word is full the clock of the panel shows its source. -/
theorem sourced_clock_iff_panel : ShowsValue panelConfig.display departureClock
    (.integer 9223372036) (fun canvas => renderWidget Double.exact (departures 9223372036)
      panelConfig 0 0 greenwich 0 canvas (.clock departureClock)) := by
  obtain ⟨resolved, present, held⟩ := departures_resolve 9223372036
  rw [← held]
  apply (sourced_clock_iff Double.exact_lawful greenwich_nanoseconds (@panelDocument_loads [])
    departureClock_mem (by decide +kernel) rfl present).mpr
  rw [held]
  rintro epoch holds ⟨uncounted, -⟩
  have last : epoch = 9223372036 := StateValue.number_integer_iff.mp holds
  omega

/-- One second later, twelve minutes before midnight, it shows twelve minutes past
midnight. -/
theorem sourced_clock_wraps :
    greenwich.Nanoseconds ∧ .clock departureClock ∈ panelConfig.widgets ∧
      (∃ resolved, (departures 9223372037).resolve departureClock.source 0 = some resolved ∧
        resolved.state.value = .integer 9223372037) ∧
      PaintsExactly panelConfig.display (timeLayer departureClock.toLayoutBounds 0 12 true
        departureClock.color) (fun canvas => renderWidget Double.exact (departures 9223372037)
          panelConfig 0 0 greenwich 0 canvas (.clock departureClock)) ∧
      ¬ ShowsValue panelConfig.display departureClock (.integer 9223372037) (fun canvas =>
        renderWidget Double.exact (departures 9223372037) panelConfig 0 0 greenwich 0 canvas
          (.clock departureClock)) := by
  obtain ⟨resolved, present, held⟩ := departures_resolve 9223372037
  have fits := ((sound_of_loadConfigFile (@panelDocument_loads [])).widget departureClock_mem).fits
  have holds : resolved.state.value.Number (9223372037 : Int) := by
    rw [held]
    exact .integer 9223372037
  have layer := sourcedClockLayer_of_admitted Double.exact_lawful greenwich_nanoseconds rfl present
    holds (by decide) (by decide)
  have second : clockSecond 9223372037 = -9223372036 := by decide
  rw [second] at layer
  have paints := @sourcedClock_paints panelConfig.display departureClock Double.exact
    (departures 9223372037) panelConfig 0 0 greenwich 0 fits (by decide +kernel)
  rw [layer] at paints
  refine ⟨greenwich_nanoseconds, departureClock_mem, ⟨resolved, present, held⟩, paints, ?_⟩
  intro shows
  have same := PaintsExactly.time_injective (by decide) (by decide) paints
    (shows.time 9223372037 (held ▸ holds) (by decide) (by decide))
  exact absurd same (by decide)

end PixelStatus
