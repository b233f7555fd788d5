/-
# The simulator's loop

Behind its start-up the simulator loops: it looks whether anything that it started
has ended, lets the first source of a demonstration change its status, and renders
and submits a frame when one is due. Between any two of these actions other threads
may write to the store or ask the browser display for its frame. What is printed
and the window of one platform are left out, and a rendering reads the store at one
moment.
-/

import PixelStatus.Host.DisplayCounts
import PixelStatus.Host.StartUp
import PixelStatus.Logic.Pacer

namespace PixelStatus

/-- What the loop is given and never changes. -/
structure SimulatorSetting where
  round : Rounding
  config : AppConfig
  calendar : Calendar
  runFor : Option Duration
  startedAt : TimePoint

/-- Why the loop ends. -/
inductive Ending
  | finished
  | apiFailed
  | displayFailed
  | executorFailed
  | renderingFailed (error : Bytes)

/-- Where the main thread is, and what it read from the clock in this round. -/
inductive SimulatorPhase
  | checking
  | transition (now : TimePoint)
  | drawing (now : TimePoint)
  | submitting (now : TimePoint)
  | ended (ending : Ending)

/-- The main loop between its stages. -/
structure Simulator where
  states : StateStore
  webDisplay : Option HttpDisplayDriver
  frame : Frame
  nextFrame : TimePoint
  nextTransition : TimePoint
  firstSourceFailed : Bool := false
  phase : SimulatorPhase := .checking

/-- The time between two frames. -/
def framePeriod : Int := nanoseconds 33

/-- The time between two changes of a demonstration. -/
def transitionPeriod : Int := nanoseconds 4000

namespace Simulator

variable (setting : SimulatorSetting)

/-- Whether the loop ends, given what the API server and the executor say; one that was
not started counts as running. The comparison puts the time to run, which the command
line bounds by the milliseconds of a word alone, in nanoseconds. -/
def checkEnding (simulator : Simulator) (now : TimePoint) (apiRunning executorRunning : Bool) :
    Option Ending :=
  if setting.runFor.any fun runFor => now - setting.startedAt ≥ toCount (nanoseconds runFor)
  then
    some .finished
  else if !apiRunning then some .apiFailed
  else if simulator.webDisplay.any fun driver => !driver.isRunning then some .displayFailed
  else if !executorRunning then some .executorFailed
  else none

def check (simulator : Simulator) (now : TimePoint) (apiRunning executorRunning : Bool) :
    Simulator :=
  { simulator with
    phase := match simulator.checkEnding setting now apiRunning executorRunning with
      | some ending => .ended ending
      | none => .transition now }

/-- The state that a demonstration gives its first source. -/
def transitionState (front : Bytes) (failed : Bool) (now : TimePoint) : MonitorState where
  id := front
  status := availableStatus setting.config (if failed then bytes "fail" else bytes "ok")
  message := bytes "Periodic simulator transition"
  observedAt := now
  updatedAt := now

/-- The source whose status is to change now. -/
def dueTransition (simulator : Simulator) (now : TimePoint) : Option Bytes :=
  if setting.config.monitors.isEmpty ∧ now ≥ simulator.nextTransition then
    (uniqueSources setting.config).head?
  else none

def transition (simulator : Simulator) (now : TimePoint) : Simulator :=
  match simulator.dueTransition setting now with
  | none => { simulator with phase := .drawing now }
  | some front =>
      let failed := !simulator.firstSourceFailed
      { simulator with
        firstSourceFailed := failed
        states := (simulator.states.upsert (transitionState setting front failed now)).2
        nextTransition := now + transitionPeriod
        phase := .drawing now }

/-- Render a frame when it is due. -/
def draw (simulator : Simulator) (now : TimePoint) (wallNow : Int) : Simulator :=
  if now ≥ simulator.nextFrame then
    let (report, frame) := render setting.round simulator.states setting.config now
      setting.startedAt setting.calendar wallNow simulator.frame
    { simulator with
      frame
      phase := if report.success then .submitting now else .ended (.renderingFailed report.error) }
  else { simulator with phase := .checking }

def submit (simulator : Simulator) (now : TimePoint) : Simulator :=
  { simulator with
    webDisplay := simulator.webDisplay.map fun driver => (driver.submitFrame simulator.frame).2
    nextFrame := now + framePeriod
    phase := .checking }

end Simulator

/-- A simulator with what has happened to it, the newest first; the program keeps none
of this. -/
structure SimulatorRun where
  simulator : Simulator
  /-- What the main thread last read from the clock. -/
  clock : TimePoint
  rendered : List TimePoint := []
  transitions : List TimePoint := []
  taken : List TakenFrame := []

namespace SimulatorRun

variable (setting : SimulatorSetting)

/-- The frames that the display has taken behind a submission. -/
def takenBy (run : SimulatorRun) : List TakenFrame :=
  if run.simulator.webDisplay.any HttpDisplayDriver.isRunning then
    { frame := run.simulator.frame } :: run.taken
  else run.taken

/-- The changes of a demonstration behind one that may be due. -/
def transitionsBy (run : SimulatorRun) (now : TimePoint) : List TimePoint :=
  if (run.simulator.dueTransition setting now).isSome then now :: run.transitions
  else run.transitions

/-- An action of the main thread, a write from elsewhere, a client's request for the
frame, or the end of the display's listener. -/
inductive Step : SimulatorRun → SimulatorRun → Prop
  | check (run : SimulatorRun) (here : run.simulator.phase = .checking) (now : TimePoint)
      (later : run.clock ≤ now) (apiRunning executorRunning : Bool) :
      Step run { run with
        simulator := run.simulator.check setting now apiRunning executorRunning
        clock := now }
  | transition (run : SimulatorRun) (now : TimePoint)
      (here : run.simulator.phase = .transition now) :
      Step run { run with
        simulator := run.simulator.transition setting now
        transitions := run.transitionsBy setting now }
  | draw (run : SimulatorRun) (now : TimePoint) (here : run.simulator.phase = .drawing now)
      (wallNow : Int) :
      Step run { run with simulator := run.simulator.draw setting now wallNow }
  | submit (run : SimulatorRun) (now : TimePoint)
      (here : run.simulator.phase = .submitting now) :
      Step run { run with
        simulator := run.simulator.submit now
        rendered := now :: run.rendered
        taken := run.takenBy }
  | write (run : SimulatorRun) (state : MonitorState) :
      Step run { run with
        simulator := { run.simulator with states := (run.simulator.states.upsert state).2 } }
  | fetch (run : SimulatorRun) (ifNoneMatch : Bytes) :
      Step run { run with
        simulator := { run.simulator with
          webDisplay := run.simulator.webDisplay.map fun driver => (driver.display ifNoneMatch).2 }
        taken := fetchNewest run.taken }
  | listenerEnds (run : SimulatorRun) (completedNormally : Bool) :
      Step run { run with
        simulator := { run.simulator with
          webDisplay := run.simulator.webDisplay.map fun driver =>
            driver.ended completedNormally } }

/-- The start-up has gone through, and the display serves if there is one. -/
structure Initial (run : SimulatorRun) : Prop where
  states : initializeStates setting.config setting.startedAt = some run.simulator.states
  served : ∀ driver ∈ run.simulator.webDisplay, ∃ options bound,
    (HttpDisplayDriver.create setting.config.display.width setting.config.display.height
      options).begin bound = (true, driver)
  frame : run.simulator.frame =
    Frame.create setting.config.display.width setting.config.display.height
  nextFrame : run.simulator.nextFrame = setting.startedAt
  nextTransition : run.simulator.nextTransition = setting.startedAt + transitionPeriod
  checking : run.simulator.phase = .checking
  clock : run.clock = setting.startedAt
  nothing : run.rendered = [] ∧ run.transitions = [] ∧ run.taken = []

/-! ## What every run keeps -/

/-- What the main thread knows at each of its actions. -/
def Here (run : SimulatorRun) : Prop :=
  match run.simulator.phase with
  | .checking => True
  | .transition now => now = run.clock
  | .drawing now => now = run.clock
  | .submitting now => now = run.clock ∧ run.simulator.nextFrame ≤ now
  | .ended (.renderingFailed _) => False
  | .ended _ => True

/-- The last frame that was rendered is the one that a serving display holds. -/
structure Served (run : SimulatorRun) (driver : HttpDisplayDriver) : Prop where
  all : driver.isRunning = true → run.taken.length = run.rendered.length
  newest : driver.isRunning = true → (∀ now, run.simulator.phase ≠ .submitting now) →
    run.rendered ≠ [] → driver.latestFrame = run.simulator.frame

/-- What every stage keeps. -/
structure Invariant (run : SimulatorRun) : Prop where
  known : ∀ source ∈ setting.config.shownSources, (run.simulator.states.find source).isSome = true
  sized : run.simulator.frame.Sized setting.config.display
  frames : Pacer framePeriod setting.startedAt run.simulator.nextFrame run.rendered
  soon : run.simulator.nextFrame ≤ run.clock + framePeriod
  changes : Pacer transitionPeriod (setting.startedAt + transitionPeriod)
    run.simulator.nextTransition run.transitions
  changing : run.simulator.nextTransition ≤ run.clock + transitionPeriod
  here : run.Here
  few : run.taken.length ≤ run.rendered.length
  counts : ∀ driver ∈ run.simulator.webDisplay, driver.Counts setting.config.display.width
    setting.config.display.height run.taken
  served : ∀ driver ∈ run.simulator.webDisplay, run.Served driver

end SimulatorRun

end PixelStatus
