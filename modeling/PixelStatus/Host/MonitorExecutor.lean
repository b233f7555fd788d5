/-
# The monitor executor

`MonitorExecutor` keeps a pool of worker threads, each of which pumps one job at
a time until it is told to stop or a pump has thrown. Its owner starts and stops
the pool; the workers run the pumps of the concurrency model under their own
index. Every access to a shared variable is a step of its own, so the counters
are added one after the other, `stats()` loads them one after the other, and a
failure is recorded before it is announced.

What was published since the last start is counted for the proofs only.
-/

import PixelStatus.Core.MonitorConcurrency
import PixelStatus.Core.MonitorResults

namespace PixelStatus.Host

open MonitorConcurrency (Pump)

def minimumIdlePollInterval : Duration := 1

def maximumIdlePollInterval : Duration := 1000

def maximumMonitorWorkerCount : Nat := 8

structure MonitorExecutorOptions where
  workerCount : Nat := 2
  idlePollInterval : Duration := 10

structure MonitorExecutorStats where
  pumpCalls : Nat := 0
  jobsExecuted : Nat := 0
  stateUpdates : Nat := 0
  transportFailures : Nat := 0
  runnerExceptions : Nat := 0

/-- The counters in the order in which a worker adds to them. -/
inductive Counter
  | pumpCalls
  | jobsExecuted
  | stateUpdates
  | transportFailures
  | runnerExceptions

namespace MonitorExecutorStats

/-- Add what a pump reports to one counter. -/
def add (stats : MonitorExecutorStats) (report : MonitorPumpReport) :
    Counter → MonitorExecutorStats
  | .pumpCalls => { stats with pumpCalls := stats.pumpCalls + 1 }
  | .jobsExecuted => { stats with jobsExecuted := stats.jobsExecuted + report.executed }
  | .stateUpdates => { stats with stateUpdates := stats.stateUpdates + report.stateUpdates }
  | .transportFailures =>
      { stats with transportFailures := stats.transportFailures + report.transportFailures }
  | .runnerExceptions =>
      { stats with runnerExceptions := stats.runnerExceptions + report.runnerExceptions }

end MonitorExecutorStats

/-- The value that one atomic load of a counter returns. -/
def MonitorExecutorStats.load (stats : MonitorExecutorStats) : Counter → Nat
  | .pumpCalls => stats.pumpCalls
  | .jobsExecuted => stats.jobsExecuted
  | .stateUpdates => stats.stateUpdates
  | .transportFailures => stats.transportFailures
  | .runnerExceptions => stats.runnerExceptions

/-- The counters in the order in which `stats()` loads them. -/
def Counter.loaded : List Counter :=
  [.pumpCalls, .jobsExecuted, .stateUpdates, .transportFailures, .runnerExceptions]

/-- Where a worker is in its loop. -/
inductive WorkerPhase
  | checking
  | calling
  | pumping (report : MonitorPumpReport)
  | counting (report : MonitorPumpReport) (counter : Counter)
  | sleeping
  | catching (what : Option Bytes)
  | failing
  | ended

/-- A worker thread. -/
structure Worker where
  phase : WorkerPhase := .checking
  stopRequested : Bool := false

/-- Behind the last counter an idle worker sleeps. -/
def WorkerPhase.counted (report : MonitorPumpReport) : Counter → WorkerPhase
  | .pumpCalls => .counting report .jobsExecuted
  | .jobsExecuted => .counting report .stateUpdates
  | .stateUpdates => .counting report .transportFailures
  | .transportFailures => .counting report .runnerExceptions
  | .runnerExceptions => if report.executed = 0 then .sleeping else .checking

/-- What the owner is doing: nothing, creating workers, or asking the workers to
stop and waiting for them, when a start is given up or at `stop`. -/
inductive OwnerPhase
  | idle
  | spawning
  | abandoning (what : Option Bytes)
  | stopping

variable {platform : Platform} {Runner : Type}

/-- The executor with its workers. -/
structure MonitorExecutor (platform : Platform) (Runner : Type) where
  options : MonitorExecutorOptions
  /-- The engine and the pumps of the workers, by their index. -/
  system : MonitorConcurrency.System platform Runner Nat
  workers : List Worker := []
  owner : OwnerPhase := .idle
  isRunning : Bool := false
  failed : Bool := false
  lastError : Bytes := []
  stats : MonitorExecutorStats := {}
  publishedSinceStart : Nat := 0

namespace MonitorExecutor

variable (executor : MonitorExecutor platform Runner)

def running : Bool := executor.isRunning && !executor.failed

/-- Why `start` refuses, if it does. -/
def refusal : Option Bytes :=
  if executor.isRunning then some (bytes "Monitor executor is already running")
  else if executor.options.workerCount = 0
      ∨ executor.options.workerCount > maximumMonitorWorkerCount then
    some (bytes "Monitor worker count must be between 1 and "
      ++ decimal maximumMonitorWorkerCount)
  else if executor.options.idlePollInterval < minimumIdlePollInterval
      ∨ executor.options.idlePollInterval > maximumIdlePollInterval then
    some (bytes "Monitor idle poll interval must be between 1ms and 1s")
  else none

/-- The locked part of a `start` that is not refused. -/
def beginStart : MonitorExecutor platform Runner :=
  { executor with
    failed := false, stats := {}, lastError := [], isRunning := true, owner := .spawning
    publishedSinceStart := 0 }

/-- Ask one worker to stop. -/
def requestStop (index : Nat) : List Worker :=
  executor.workers.modify index fun worker => { worker with stopRequested := true }

/-- Every worker has been asked to stop. -/
def Asked : Prop := ∀ worker ∈ executor.workers, worker.stopRequested = true

/-- Every worker's thread has ended, so joining it returns. -/
def Joined : Prop := ∀ worker ∈ executor.workers, worker.phase = .ended

def startErrorText : Option Bytes → Bytes
  | some what => bytes "Unable to start monitor executor: " ++ what
  | none => bytes "Unable to start monitor executor: unknown exception"

def failureText : Option Bytes → Bytes
  | some what => bytes "Monitor executor failure: " ++ what
  | none => bytes "Monitor executor failure: unknown exception"

/-- The worker with an index is at a place of its loop. -/
def At (index : Nat) (phase : WorkerPhase) : Prop :=
  ∃ worker, executor.workers[index]? = some worker ∧ worker.phase = phase

/-- A worker goes on. -/
def advance (index : Nat) (phase : WorkerPhase) : MonitorExecutor platform Runner :=
  { executor with
    workers := executor.workers.modify index fun worker => { worker with phase } }

/-- A worker goes on within its pump. -/
def pump (index : Nat) (report : MonitorPumpReport)
    (system : MonitorConcurrency.System platform Runner Nat) : MonitorExecutor platform Runner :=
  { executor.advance index (.pumping report) with system }

end MonitorExecutor

/-- A pump's report when a runner call begins. -/
def reportBegun (report : MonitorPumpReport) : MonitorPumpReport :=
  { report with executed := report.executed + 1 }

/-- A pump's report when the runner has ended. -/
def reportEnded (report : MonitorPumpReport) (outcome : RunnerOutcome) : MonitorPumpReport :=
  { report with
    runnerExceptions := report.runnerExceptions + (if outcome.isThrow then 1 else 0) }

/-- A pump's report when the state of a run went to the store. -/
def reportPublished (report : MonitorPumpReport) (outcome : RunnerOutcome) (updated : Bool) :
    MonitorPumpReport :=
  { report with
    transportFailures := report.transportFailures +
      (if outcome.result.transportSuccess then 0 else 1)
    stateUpdates := report.stateUpdates + (if updated then 1 else 0) }

namespace MonitorExecutor

/-- One step of the owner. -/
inductive OwnerStep : MonitorExecutor platform Runner → MonitorExecutor platform Runner → Prop
  | refuse (executor : MonitorExecutor platform Runner) (idle : executor.owner = .idle)
      (error : Bytes) (refused : executor.refusal = some error) :
      OwnerStep executor { executor with lastError := error }
  | start (executor : MonitorExecutor platform Runner) (idle : executor.owner = .idle)
      (accepted : executor.refusal = none) : OwnerStep executor executor.beginStart
  | spawn (executor : MonitorExecutor platform Runner) (spawning : executor.owner = .spawning)
      (more : executor.workers.length < executor.options.workerCount) :
      OwnerStep executor { executor with workers := executor.workers ++ [{}] }
  | started (executor : MonitorExecutor platform Runner) (spawning : executor.owner = .spawning)
      (all : executor.workers.length = executor.options.workerCount) :
      OwnerStep executor { executor with owner := .idle }
  | spawnFails (executor : MonitorExecutor platform Runner)
      (spawning : executor.owner = .spawning) (what : Option Bytes) :
      OwnerStep executor { executor with owner := .abandoning what }
  | abandoned (executor : MonitorExecutor platform Runner) (what : Option Bytes)
      (abandoning : executor.owner = .abandoning what) (asked : executor.Asked)
      (joined : executor.Joined) :
      OwnerStep executor
        { executor with
          workers := [], isRunning := false, owner := .idle, lastError := startErrorText what }
  | stop (executor : MonitorExecutor platform Runner) (idle : executor.owner = .idle) :
      OwnerStep executor { executor with owner := .stopping }
  | ask (executor : MonitorExecutor platform Runner)
      (waits : executor.owner ≠ .idle ∧ executor.owner ≠ .spawning) (index : Nat) :
      OwnerStep executor { executor with workers := executor.requestStop index }
  | stopped (executor : MonitorExecutor platform Runner) (stopping : executor.owner = .stopping)
      (asked : executor.Asked) (joined : executor.Joined) :
      OwnerStep executor { executor with workers := [], isRunning := false, owner := .idle }

/-- One step of the worker with an index. A worker that pumps has its pump in the
engine's system. -/
inductive WorkerStep (index : Nat) :
    MonitorExecutor platform Runner → MonitorExecutor platform Runner → Prop
  | leave (executor : MonitorExecutor platform Runner) (worker : Worker)
      (found : executor.workers[index]? = some worker) (checks : worker.phase = .checking)
      (ends : worker.stopRequested = true ∨ executor.failed = true) :
      WorkerStep index executor (executor.advance index .ended)
  | enter (executor : MonitorExecutor platform Runner) (worker : Worker)
      (found : executor.workers[index]? = some worker) (checks : worker.phase = .checking)
      (unasked : worker.stopRequested = false) (healthy : executor.failed = false) :
      WorkerStep index executor (executor.advance index .calling)
  | claim (executor : MonitorExecutor platform Runner) (calls : executor.At index .calling)
      (now : TimePoint) :
      WorkerStep index executor
        (executor.pump index { due := (executor.system.engine.dueJobs now).length }
          (executor.system.claim index now 1))
  | claimThrows (executor : MonitorExecutor platform Runner)
      (calls : executor.At index .calling) (what : Option Bytes) :
      WorkerStep index executor (executor.advance index (.catching what))
  | beginRun (executor : MonitorExecutor platform Runner) (report : MonitorPumpReport)
      (pumps : executor.At index (.pumping report)) (pump : Pump)
      (busy : executor.system.pumps index = some pump) (ready : pump.phase = .ready)
      (claim : MonitorConcurrency.Claim) (current : pump.current = some claim) :
      WorkerStep index executor (executor.pump index (reportBegun report)
        (executor.system.setPump index (some { pump with phase := .running })))
  | endRun (executor : MonitorExecutor platform Runner) (report : MonitorPumpReport)
      (pumps : executor.At index (.pumping report)) (pump : Pump)
      (busy : executor.system.pumps index = some pump) (runs : pump.phase = .running)
      (outcome : RunnerOutcome) :
      WorkerStep index executor (executor.pump index (reportEnded report outcome)
        (executor.system.setPump index (some { pump with phase := .finished outcome })))
  | publish (executor : MonitorExecutor platform Runner) (report : MonitorPumpReport)
      (pumps : executor.At index (.pumping report)) (pump : Pump)
      (busy : executor.system.pumps index = some pump) (outcome : RunnerOutcome)
      (finished : pump.phase = .finished outcome) (claim : MonitorConcurrency.Claim)
      (current : pump.current = some claim) (job : Job platform Runner)
      (registered : executor.system.engine.jobs[claim.job]? = some job) :
      WorkerStep index executor
        { executor.pump index
            (reportPublished report outcome
              (executor.system.store.upsert (job.publication outcome pump.now)).1)
            (executor.system.publish index pump claim job outcome) with
          publishedSinceStart := executor.publishedSinceStart + 1 }
  | throw (executor : MonitorExecutor platform Runner) (report : MonitorPumpReport)
      (pumps : executor.At index (.pumping report)) (pump : Pump)
      (busy : executor.system.pumps index = some pump) (outcome : RunnerOutcome)
      (finished : pump.phase = .finished outcome) :
      WorkerStep index executor (executor.pump index report
        (executor.system.setPump index (some { pump with phase := .unwinding })))
  | release (executor : MonitorExecutor platform Runner) (report : MonitorPumpReport)
      (pumps : executor.At index (.pumping report)) (pump : Pump)
      (busy : executor.system.pumps index = some pump) (published : pump.phase = .published)
      (claim : MonitorConcurrency.Claim) (current : pump.current = some claim) :
      WorkerStep index executor (executor.pump index report
        ((executor.system.release [claim]).setPump index
          (some { pump with index := pump.index + 1, phase := .ready })))
  | unwind (executor : MonitorExecutor platform Runner) (report : MonitorPumpReport)
      (pumps : executor.At index (.pumping report)) (pump : Pump)
      (busy : executor.system.pumps index = some pump) (unwinding : pump.phase = .unwinding)
      (what : Option Bytes) :
      WorkerStep index executor
        { executor.advance index (.catching what) with
          system := (executor.system.release pump.unreleased).setPump index none }
  | finish (executor : MonitorExecutor platform Runner) (report : MonitorPumpReport)
      (pumps : executor.At index (.pumping report)) (pump : Pump)
      (busy : executor.system.pumps index = some pump) (ready : pump.phase = .ready)
      (done : pump.index = pump.due.length) :
      WorkerStep index executor
        { executor.advance index (.counting report .pumpCalls) with
          system := executor.system.setPump index none }
  | count (executor : MonitorExecutor platform Runner) (report : MonitorPumpReport)
      (counter : Counter) (counts : executor.At index (.counting report counter)) :
      WorkerStep index executor
        { executor.advance index (.counted report counter) with
          stats := executor.stats.add report counter }
  | wake (executor : MonitorExecutor platform Runner) (sleeps : executor.At index .sleeping) :
      WorkerStep index executor (executor.advance index .checking)
  | record (executor : MonitorExecutor platform Runner) (what : Option Bytes)
      (catches : executor.At index (.catching what)) :
      WorkerStep index executor
        { executor.advance index .failing with
          lastError := if executor.lastError = [] then failureText what else executor.lastError }
  | fail (executor : MonitorExecutor platform Runner) (fails : executor.At index .failing) :
      WorkerStep index executor { executor.advance index .checking with failed := true }

/-- What goes on outside the executor: registrations and other writers. -/
inductive OtherStep : MonitorExecutor platform Runner → MonitorExecutor platform Runner → Prop
  | register (executor : MonitorExecutor platform Runner) (definition : MonitorDefinition)
      (runner : Option Runner) (firstDue : TimePoint) (engine : MonitorEngine platform Runner)
      (added : executor.system.engine.add definition runner firstDue = .ok engine) :
      OtherStep executor { executor with system := { executor.system with engine } }
  | write (executor : MonitorExecutor platform Runner) (state : MonitorState) :
      OtherStep executor
        { executor with
          system := { executor.system with store := (executor.system.store.upsert state).2 } }

/-- A step that is none of the owner's. -/
inductive PoolStep : MonitorExecutor platform Runner → MonitorExecutor platform Runner → Prop
  | worker {executor next : MonitorExecutor platform Runner} (index : Nat)
      (step : WorkerStep index executor next) : PoolStep executor next
  | other {executor next : MonitorExecutor platform Runner} (step : OtherStep executor next) :
      PoolStep executor next

/-- One step of a worker or of a caller. -/
inductive Step : MonitorExecutor platform Runner → MonitorExecutor platform Runner → Prop
  | owner {executor next : MonitorExecutor platform Runner} (step : OwnerStep executor next) :
      Step executor next
  | pool {executor next : MonitorExecutor platform Runner} (step : PoolStep executor next) :
      Step executor next

/-- A call of `stats()` while the owner does nothing: its loads one after the
other, with the steps of the workers and of others before, between and behind
them, and the values that they return. -/
inductive Loads : List Counter → MonitorExecutor platform Runner → List Nat →
    MonitorExecutor platform Runner → Prop
  | done {first last : MonitorExecutor platform Runner}
      (meanwhile : Relation.ReflTransGen PoolStep first last) : Loads [] first [] last
  | load {first middle last : MonitorExecutor platform Runner} {counter : Counter}
      {counters : List Counter} {values : List Nat}
      (meanwhile : Relation.ReflTransGen PoolStep first middle)
      (rest : Loads counters middle values last) :
      Loads (counter :: counters) first (middle.stats.load counter :: values) last

/-- A new executor over an engine that nobody pumps. -/
structure Initial (executor : MonitorExecutor platform Runner) : Prop where
  system : MonitorConcurrency.Initial executor.system
  workers : executor.workers = []
  owner : executor.owner = .idle
  isRunning : executor.isRunning = false
  failed : executor.failed = false
  lastError : executor.lastError = []
  stats : executor.stats = {}
  publishedSinceStart : executor.publishedSinceStart = 0

end MonitorExecutor

end PixelStatus.Host
