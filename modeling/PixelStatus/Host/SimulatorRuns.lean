/-
# Runs of the simulator

A simulator over a loaded configuration never stops because a rendering failed, and
no rendering misses a source. Its frames are paced by the period between them, and
the changes of a demonstration by theirs; a display that serves holds the last
frame that was rendered.
-/

import PixelStatus.Core.FrameReuse
import PixelStatus.Host.Simulator

namespace PixelStatus.SimulatorRun

variable {setting : SimulatorSetting} {run next : SimulatorRun} {now : TimePoint}

theorem framePeriod_nonneg : 0 ≤ framePeriod := by decide

theorem transitionPeriod_nonneg : 0 ≤ transitionPeriod := by decide

/-- A fetch does not change how many frames were taken. -/
theorem length_fetchNewest (taken : List TakenFrame) :
    (fetchNewest taken).length = taken.length := by
  cases taken <;> rfl

/-! ## The actions -/

/-- The loop's own checks find no failed rendering. -/
theorem checkEnding_ne {simulator : Simulator} {apiRunning executorRunning : Bool} {ending : Ending}
    (ends : simulator.checkEnding setting now apiRunning executorRunning = some ending)
    (error : Bytes) : ending ≠ .renderingFailed error := by
  rintro rfl
  unfold Simulator.checkEnding at ends
  split at ends
  · cases ends
  · split at ends
    · cases ends
    · split at ends
      · cases ends
      · split at ends <;> cases ends

/-- A change of the demonstration is followed by a drawing. -/
theorem transition_drawing (simulator : Simulator) (now : TimePoint) :
    (simulator.transition setting now).phase = .drawing now ∧
      (simulator.transition setting now).nextFrame = simulator.nextFrame := by
  unfold Simulator.transition
  split <;> exact ⟨rfl, rfl⟩

/-- A frame that is due and drawn is submitted next. -/
theorem draw_submitting {simulator : Simulator} {wallNow : Int} (due : simulator.nextFrame ≤ now)
    (success : (render setting.round simulator.states setting.config now setting.startedAt
      setting.calendar wallNow simulator.frame).1.success = true) :
    (simulator.draw setting now wallNow).phase = .submitting now := by
  rw [Simulator.draw, if_pos due]
  exact if_pos success

/-- A check of the clock keeps the invariant. -/
theorem Invariant.check (hinv : Invariant setting run) (here : run.simulator.phase = .checking)
    (later : run.clock ≤ now) (apiRunning executorRunning : Bool) :
    Invariant setting { run with
      simulator := run.simulator.check setting now apiRunning executorRunning, clock := now } where
  known := hinv.known
  sized := hinv.sized
  frames := hinv.frames
  soon := hinv.soon.trans (Int.add_le_add_right later _)
  changes := hinv.changes
  changing := hinv.changing.trans (Int.add_le_add_right later _)
  here := by
    unfold Here Simulator.check
    dsimp only
    cases ends : run.simulator.checkEnding setting now apiRunning executorRunning with
    | none => rfl
    | some ending =>
        cases ending with
        | renderingFailed error => exact checkEnding_ne ends error rfl
        | finished | apiFailed | displayFailed | executorFailed => trivial
  few := hinv.few
  counts := hinv.counts
  served driver member := by
    have served := hinv.served driver member
    refine ⟨served.all, fun running _ => served.newest running ?_⟩
    intro other submitting
    rw [here] at submitting
    cases submitting

/-- So does a change of the demonstration. -/
theorem Invariant.transition (hinv : Invariant setting run)
    (here : run.simulator.phase = .transition now) :
    Invariant setting { run with
      simulator := run.simulator.transition setting now
      transitions := run.transitionsBy setting now } := by
  have reading : now = run.clock := by
    have same := hinv.here
    unfold Here at same
    rwa [here] at same
  have served (driver : HttpDisplayDriver) (member : driver ∈ run.simulator.webDisplay) :
      driver.isRunning = true → run.rendered ≠ [] → driver.latestFrame = run.simulator.frame := by
    intro running
    apply (hinv.served driver member).newest running
    intro other submitting
    rw [here] at submitting
    cases submitting
  cases due : run.simulator.dueTransition setting now with
  | none =>
      have same : run.transitionsBy setting now = run.transitions := by
        rw [transitionsBy, due]
        rfl
      rw [Simulator.transition, due, same]
      exact { hinv with
        here := reading
        served := fun driver member =>
          ⟨(hinv.served driver member).all, fun running _ => served driver member running⟩ }
  | some front =>
      have more : run.transitionsBy setting now = now :: run.transitions := by
        rw [transitionsBy, due]
        rfl
      have reached : run.simulator.nextTransition ≤ now := by
        unfold Simulator.dueTransition at due
        split at due
        next both => exact both.2
        · cases due
      rw [Simulator.transition, due, more]
      exact { hinv with
        known := fun source shown => StateStore.find_upsert_isSome (hinv.known source shown)
        changes := hinv.changes.act transitionPeriod_nonneg reached
        changing := by
          dsimp only
          rw [reading]
        here := reading
        served := fun driver member =>
          ⟨(hinv.served driver member).all, fun running _ => served driver member running⟩ }

/-- What the simulator renders is drawn, and misses no source. -/
theorem Invariant.renders (hinv : Invariant setting run) {platform : Platform}
    {parse : Bytes → Option Json} {path : Bytes} {file : ConfigFile}
    (loaded : (loadConfigFile platform setting.round parse path file).config = some setting.config)
    (wallNow : Int) (converts : Converts setting.calendar wallNow) (now : TimePoint) :
    (render setting.round run.simulator.states setting.config now setting.startedAt
        setting.calendar wallNow run.simulator.frame).1.Clean ∧
      (render setting.round run.simulator.states setting.config now setting.startedAt
        setting.calendar wallNow run.simulator.frame).1.missingSources = 0 :=
  ⟨render_clean loaded hinv.sized converts, (showsAll_of_known hinv.known).rendered _ _ _ _ _ _⟩

/-- So does a rendering that is clean. -/
theorem Invariant.draw (hinv : Invariant setting run) (here : run.simulator.phase = .drawing now)
    {wallNow : Int}
    (clean : (render setting.round run.simulator.states setting.config now setting.startedAt
      setting.calendar wallNow run.simulator.frame).1.Clean) :
    Invariant setting { run with simulator := run.simulator.draw setting now wallNow } := by
  have reading : now = run.clock := by
    have same := hinv.here
    unfold Here at same
    rwa [here] at same
  unfold Simulator.draw
  split
  next due =>
    dsimp only
    rw [if_pos clean.1]
    exact { hinv with
      sized := hinv.sized.of_sameSize render_sameSize
      here := ⟨reading, due⟩
      served := fun driver member =>
        ⟨(hinv.served driver member).all, fun _ still => absurd rfl (still now)⟩ }
  · exact { hinv with
      here := trivial
      served := fun driver member => by
        have served := hinv.served driver member
        refine ⟨served.all, fun running _ => served.newest running ?_⟩
        intro other submitting
        rw [here] at submitting
        cases submitting }

/-- So does handing the frame to the display. -/
theorem Invariant.submit (hinv : Invariant setting run)
    (here : run.simulator.phase = .submitting now) :
    Invariant setting { run with
      simulator := run.simulator.submit now
      rendered := now :: run.rendered
      taken := run.takenBy } := by
  obtain ⟨reading, due⟩ : now = run.clock ∧ run.simulator.nextFrame ≤ now := by
    have both := hinv.here
    unfold Here at both
    rwa [here] at both
  have submitted (driver : HttpDisplayDriver) (member : driver ∈ run.simulator.webDisplay) :
      (driver.submitFrame run.simulator.frame).2.Counts setting.config.display.width
          setting.config.display.height run.takenBy ∧
        ((driver.submitFrame run.simulator.frame).2.isRunning = true →
          run.takenBy = { frame := run.simulator.frame } :: run.taken) := by
    have same : run.simulator.webDisplay = some driver := member
    unfold takenBy
    rw [same, Option.any_some]
    cases running : driver.isRunning with
    | true =>
        exact ⟨(hinv.counts driver member).submitFrame running ⟨hinv.sized.width, hinv.sized.height⟩,
          fun _ => if_pos rfl⟩
    | false =>
        rw [HttpDisplayDriver.submitFrame_of_ended running, running]
        exact ⟨hinv.counts driver member, fun impossible => nomatch impossible⟩
  have few : run.takenBy.length ≤ run.rendered.length + 1 := by
    have before := hinv.few
    unfold takenBy
    split
    · exact Nat.add_le_add_right before 1
    · exact before.trans (Nat.le_succ _)
  exact { hinv with
    frames := hinv.frames.act framePeriod_nonneg due
    soon := by
      change now + framePeriod ≤ run.clock + framePeriod
      rw [reading]
    here := trivial
    few := few
    counts := by
      intro other member
      obtain ⟨driver, old, rfl⟩ := Option.map_eq_some_iff.mp member
      exact (submitted driver old).1
    served := by
      intro other member
      obtain ⟨driver, old, rfl⟩ := Option.map_eq_some_iff.mp member
      obtain ⟨counts, taking⟩ := submitted driver old
      have ran : (driver.submitFrame run.simulator.frame).2.isRunning = true →
          driver.isRunning = true := by
        cases running : driver.isRunning with
        | true => exact fun _ => rfl
        | false =>
            rw [HttpDisplayDriver.submitFrame_of_ended running, running]
            exact id
      refine ⟨fun running => ?_, fun running _ _ => ?_⟩
      · have all := (hinv.served driver old).all (ran running)
        change run.takenBy.length = run.rendered.length + 1
        rw [taking running, List.length_cons, all]
      · apply (counts.latest { frame := run.simulator.frame } _).1
        rw [taking running]
        rfl }

/-- So does a client that asks for it. -/
theorem Invariant.fetch (hinv : Invariant setting run) (ifNoneMatch : Bytes) :
    Invariant setting { run with
      simulator := { run.simulator with
        webDisplay := run.simulator.webDisplay.map fun driver => (driver.display ifNoneMatch).2 }
      taken := fetchNewest run.taken } := by
  have kept (driver : HttpDisplayDriver) :
      (driver.display ifNoneMatch).2.isRunning = driver.isRunning ∧
        (driver.display ifNoneMatch).2.latestFrame = driver.latestFrame := by
    unfold HttpDisplayDriver.display
    dsimp only
    split <;> exact ⟨rfl, rfl⟩
  exact { hinv with
    here := hinv.here
    few := (length_fetchNewest run.taken).trans_le hinv.few
    counts := by
      intro other member
      obtain ⟨driver, old, rfl⟩ := Option.map_eq_some_iff.mp member
      exact (hinv.counts driver old).display ifNoneMatch
    served := by
      intro other member
      obtain ⟨driver, old, rfl⟩ := Option.map_eq_some_iff.mp member
      have served := hinv.served driver old
      refine ⟨fun running => ?_, fun running still some => ?_⟩
      · exact (length_fetchNewest run.taken).trans (served.all ((kept driver).1 ▸ running))
      · exact (kept driver).2.trans (served.newest ((kept driver).1 ▸ running) still some) }

/-- So does the end of the listener. -/
theorem Invariant.listenerEnds (hinv : Invariant setting run) (completedNormally : Bool) :
    Invariant setting { run with
      simulator := { run.simulator with
        webDisplay := run.simulator.webDisplay.map fun driver =>
          driver.ended completedNormally } } := by
  have stopped (driver : HttpDisplayDriver) :
      (driver.ended completedNormally).isRunning = false := by
    unfold HttpDisplayDriver.ended
    dsimp only
    split <;> rfl
  exact { hinv with
    here := hinv.here
    counts := by
      intro other member
      obtain ⟨driver, old, rfl⟩ := Option.map_eq_some_iff.mp member
      exact (hinv.counts driver old).ended completedNormally
    served := by
      intro other member
      obtain ⟨driver, old, rfl⟩ := Option.map_eq_some_iff.mp member
      refine ⟨fun running => ?_, fun running => ?_⟩
      · exact absurd (running.symm.trans (stopped driver)) (by decide)
      · exact absurd (running.symm.trans (stopped driver)) (by decide) }

/-! ## Runs -/

section

variable {platform : Platform} {parse : Bytes → Option Json} {path : Bytes} {file : ConfigFile}
  (loaded : (loadConfigFile platform setting.round parse path file).config = some setting.config)

include loaded

/-- So does every step. -/
theorem Invariant.step (converts : ∀ wallNow, Converts setting.calendar wallNow)
    (hinv : Invariant setting run) (step : Step setting run next) : Invariant setting next := by
  cases step with
  | check here now later apiRunning executorRunning =>
      exact hinv.check here later apiRunning executorRunning
  | transition now here => exact hinv.transition here
  | draw now here wallNow =>
      exact hinv.draw here (hinv.renders loaded wallNow (converts wallNow) now).1
  | submit now here => exact hinv.submit here
  | write state =>
      exact { hinv with
        known := fun source shown => StateStore.find_upsert_isSome (hinv.known source shown)
        here := hinv.here
        served := fun driver member =>
          ⟨(hinv.served driver member).all, (hinv.served driver member).newest⟩ }
  | fetch ifNoneMatch => exact hinv.fetch ifNoneMatch
  | listenerEnds completedNormally => exact hinv.listenerEnds completedNormally

/-- The invariant holds where the loop begins. -/
theorem Initial.invariant (initial : Initial setting run) : Invariant setting run := by
  obtain ⟨store, initialized, started⟩ := initializeStates_of_loaded loaded setting.startedAt
  obtain rfl := Option.some.inj (initial.states.symm.trans initialized)
  obtain ⟨rendered, transitions, taken⟩ := initial.nothing
  refine ⟨started.known, ?_, ?_, ?_, ?_, ?_, ?_, ?_, ?_, ?_⟩
  · rw [initial.frame]
    exact ⟨rfl, rfl⟩
  · rw [initial.nextFrame, rendered]
    exact Pacer.start
  · rw [initial.nextFrame, initial.clock]
    exact le_add_of_nonneg_right framePeriod_nonneg
  · rw [initial.nextTransition, transitions]
    exact Pacer.start
  · rw [initial.nextTransition, initial.clock]
  · unfold Here
    rw [initial.checking]
    trivial
  · rw [taken, rendered]
    rfl
  · intro driver member
    obtain ⟨options, bound, begun⟩ := initial.served driver member
    have counts := (HttpDisplayDriver.counts_create setting.config.display.width
      setting.config.display.height options).begin bound
    rw [begun] at counts
    rwa [taken]
  · intro driver member
    refine ⟨fun _ => ?_, fun _ _ some => absurd rendered some⟩
    rw [taken, rendered]
    rfl

end

/-- What holds at every moment of a run. -/
structure Law (setting : SimulatorSetting) (run : SimulatorRun) : Prop where
  /-- The loop has not ended over a rendering, and no rendering could make it. -/
  unfailing : ∀ error, run.simulator.phase ≠ .ended (.renderingFailed error)
  rendering : ∀ now wallNow,
    (render setting.round run.simulator.states setting.config now setting.startedAt
        setting.calendar wallNow run.simulator.frame).1.Clean ∧
      (render setting.round run.simulator.states setting.config now setting.startedAt
        setting.calendar wallNow run.simulator.frame).1.missingSources = 0
  /-- Frames and changes of a demonstration are at least their periods apart. -/
  spaced : run.rendered.Pairwise fun later earlier => earlier + framePeriod ≤ later
  rate : run.rendered.length * framePeriod ≤ run.clock - setting.startedAt + framePeriod
  changes : run.transitions.Pairwise fun later earlier => earlier + transitionPeriod ≤ later
  changeRate : run.transitions.length * transitionPeriod ≤ run.clock - setting.startedAt
  /-- The display counts what it took, and what nobody asked for in time. -/
  taken : run.taken.length ≤ run.rendered.length
  submitted : ∀ driver ∈ run.simulator.webDisplay,
    driver.driverState.submittedFrames = UInt64.ofNat run.taken.length ∧
      driver.driverState.coalescedFrames =
        UInt64.ofNat (run.taken.tail.countP fun taken => !taken.fetched)
  served : ∀ driver ∈ run.simulator.webDisplay, run.Served driver

section

variable {platform : Platform} {parse : Bytes → Option Json} {path : Bytes} {file : ConfigFile}

/-- The invariant implies the law of the loop. -/
theorem Invariant.law
    (loaded : (loadConfigFile platform setting.round parse path file).config = some setting.config)
    (converts : ∀ wallNow, Converts setting.calendar wallNow) (hinv : Invariant setting run) :
    run.Law setting := by
  refine ⟨?_, ?_, hinv.frames.spaced, ?_, hinv.changes.spaced, ?_, hinv.few, ?_, hinv.served⟩
  · intro error failed
    have here := hinv.here
    unfold Here at here
    rwa [failed] at here
  · exact fun now wallNow => hinv.renders loaded wallNow (converts wallNow) now
  · have count := hinv.frames.count
    have soon := hinv.soon
    linarith only [count, soon]
  · have count := hinv.changes.count
    have changing := hinv.changing
    linarith only [count, changing]
  · intro driver member
    have counts := hinv.counts driver member
    exact ⟨counts.submitted, counts.coalesced⟩

/-- So every reachable state obeys the law. -/
theorem law_of_reachable
    (loaded : (loadConfigFile platform setting.round parse path file).config = some setting.config)
    (converts : ∀ wallNow, Converts setting.calendar wallNow)
    (reachable : Transition.Reachable (Initial setting) (Step setting) run) : run.Law setting := by
  have hinv : Invariant setting run := by
    apply reachable.induction
    · exact fun _ initial => initial.invariant loaded
    · exact fun _ _ _ hinv step => hinv.step loaded converts step
  exact hinv.law loaded converts

/-- Every run of a simulator over a loaded configuration, with whatever is written and
asked for meanwhile, obeys the law. -/
theorem simulator_law {platform : Platform} {parse : Bytes → Option Json} {path : Bytes}
    {file : ConfigFile}
    (loaded : (loadConfigFile platform setting.round parse path file).config = some setting.config)
    (converts : ∀ wallNow, Converts setting.calendar wallNow)
    (reachable : Transition.Reachable (Initial setting) (Step setting) run) : run.Law setting :=
  law_of_reachable loaded converts reachable

end

/-- A panel that is always shown at noon. -/
def panelSetting : SimulatorSetting where
  round := Double.exact
  config := panelConfig
  calendar := noon
  runFor := none
  startedAt := 0

/-- The first round renders at once. -/
theorem simulator_law_panel : ∃ run : SimulatorRun, run.rendered = [0] ∧ run.Law panelSetting := by
  have loaded := @panelDocument_loads []
  have converts (wallNow : Int) : Converts noon wallNow := ⟨rfl, rfl⟩
  obtain ⟨store, initialized, -⟩ := initializeStates_of_loaded loaded 0
  let start : SimulatorRun :=
    { simulator :=
        { states := store, webDisplay := none, frame := Frame.create 24 20, nextFrame := 0,
          nextTransition := transitionPeriod }
      clock := 0 }
  have initial : Initial panelSetting start :=
    ⟨initialized, fun _ => (nomatch ·), rfl, rfl, (zero_add _).symm, rfl, rfl, rfl, rfl, rfl⟩
  let looked : SimulatorRun :=
    { start with simulator := start.simulator.check panelSetting 0 true true }
  let passed : SimulatorRun :=
    { looked with
      simulator := looked.simulator.transition panelSetting 0
      transitions := looked.transitionsBy panelSetting 0 }
  let drawn : SimulatorRun := { passed with simulator := passed.simulator.draw panelSetting 0 0 }
  have checked : looked.simulator.phase = .transition 0 := rfl
  have hinv := ((initial.invariant loaded).check rfl le_rfl true true).transition checked
  obtain ⟨here, same⟩ := @transition_drawing panelSetting looked.simulator 0
  have clean := (hinv.renders loaded 0 (converts 0) 0).1
  have shown := draw_submitting same.le clean.1
  have reachable : Transition.Reachable (Initial panelSetting) (Step panelSetting)
      { drawn with
        simulator := drawn.simulator.submit 0, rendered := [0], taken := drawn.takenBy } :=
    ((((Transition.Reachable.of_initial initial).tail (.check start rfl 0 le_rfl true true)).tail
      (.transition looked 0 rfl)).tail (.draw passed 0 here 0)).tail (.submit drawn 0 shown)
  exact ⟨_, rfl, simulator_law loaded converts reachable⟩

end PixelStatus.SimulatorRun
