/-
# Runs of the monitor executor

A worker pumps exactly while it has a pump in the engine's system, so every run
of the executor is a run of the concurrency model. What a pump reports is on its
way to the counters until the worker has added it: the reports in flight and the
counters together account for everything that was published.
-/

import PixelStatus.Host.MonitorExecutor
import PixelStatus.Logic.Pending
import PixelStatus.Logic.Trace

namespace PixelStatus.Host

open MonitorConcurrency (Pump)

variable {platform : Platform} {Runner : Type}

/-! ## What a report says -/

/-- The run that a pump works on counts as executed. -/
def begun : MonitorConcurrency.Phase → Nat
  | .ready => 0
  | _ => 1

/-- The run that a pump works on has been published. -/
def publishedNow : MonitorConcurrency.Phase → Nat
  | .published => 1
  | _ => 0

/-- An exception is counted before the failure that it is. -/
def exceptionAhead : MonitorConcurrency.Phase → Nat
  | .finished outcome => if outcome.isThrow then 1 else 0
  | .unwinding => 1
  | _ => 0

/-- What the report of a pump of at most one job says at each of its phases. -/
structure Tallies (pump : Pump) (report : MonitorPumpReport) : Prop where
  room : pump.due.length ≤ 1
  executed : report.executed = pump.index + begun pump.phase
  updates : report.stateUpdates = pump.index + publishedNow pump.phase
  failures : report.transportFailures ≤ report.stateUpdates
  exceptions : report.runnerExceptions ≤ report.transportFailures + exceptionAhead pump.phase

/-- What the report of a pump that returned says. -/
structure Balanced (report : MonitorPumpReport) : Prop where
  executed : report.executed = report.stateUpdates
  room : report.executed ≤ 1
  failures : report.transportFailures ≤ report.executed
  exceptions : report.runnerExceptions ≤ report.transportFailures

namespace Tallies

variable {pump : Pump} {report : MonitorPumpReport}

/-- A claim of one job at most begins a tally. -/
theorem claim {now : TimePoint} {due : List MonitorConcurrency.Claim} (room : due.length ≤ 1)
    (found : Nat) : Tallies { now, due } { due := found } where
  room := room
  executed := rfl
  updates := rfl
  failures := le_rfl
  exceptions := le_rfl

/-- A run that begins is counted. -/
theorem beginRun (tallies : Tallies pump report) (ready : pump.phase = .ready) :
    Tallies { pump with phase := .running } (reportBegun report) where
  room := tallies.room
  executed := by
    rw [reportBegun, tallies.executed, ready]
    rfl
  updates := by
    rw [reportBegun, tallies.updates, ready]
    rfl
  failures := tallies.failures
  exceptions := by
    have exceptions := tallies.exceptions
    rwa [ready] at exceptions

/-- A run that ends is counted with its outcome. -/
theorem endRun (tallies : Tallies pump report) (runs : pump.phase = .running)
    (outcome : RunnerOutcome) :
    Tallies { pump with phase := .finished outcome } (reportEnded report outcome) where
  room := tallies.room
  executed := by
    rw [reportEnded, tallies.executed, runs]
    rfl
  updates := by
    rw [reportEnded, tallies.updates, runs]
    rfl
  failures := tallies.failures
  exceptions := by
    have exceptions := tallies.exceptions
    rw [runs] at exceptions
    exact Nat.add_le_add_right exceptions _

/-- A thrown exception becomes a failure when the run is published, and the store
takes the state. -/
theorem publish (tallies : Tallies pump report) {outcome : RunnerOutcome}
    (finished : pump.phase = .finished outcome) :
    Tallies { pump with phase := .published } (reportPublished report outcome true) where
  room := tallies.room
  executed := by
    rw [reportPublished, tallies.executed, finished]
    rfl
  updates := by
    rw [reportPublished, tallies.updates, finished]
    rfl
  failures := by
    have failures := tallies.failures
    simp only [reportPublished, if_true]
    split <;> omega
  exceptions := by
    have exceptions := tallies.exceptions
    rw [finished] at exceptions
    have failed : (if outcome.isThrow then 1 else 0) ≤
        (if outcome.result.transportSuccess then 0 else 1) := by
      cases outcome with
      | returned result => exact Nat.zero_le _
      | threw what =>
          rw [RunnerOutcome.transportSuccess_threw]
          exact le_rfl
    simp only [reportPublished, exceptionAhead] at exceptions ⊢
    omega

/-- An exception from outside of a runner counts nothing more. -/
theorem throw (tallies : Tallies pump report) {outcome : RunnerOutcome}
    (finished : pump.phase = .finished outcome) :
    Tallies { pump with phase := .unwinding } report where
  room := tallies.room
  executed := by
    rw [tallies.executed, finished]
    rfl
  updates := by
    rw [tallies.updates, finished]
    rfl
  failures := tallies.failures
  exceptions := by
    have exceptions := tallies.exceptions
    rw [finished] at exceptions
    apply exceptions.trans
    simp only [exceptionAhead]
    split <;> omega

/-- A job that is released closes its part of the tally. -/
theorem release (tallies : Tallies pump report) (published : pump.phase = .published) :
    Tallies { pump with index := pump.index + 1, phase := .ready } report where
  room := tallies.room
  executed := by
    rw [tallies.executed, published]
    rfl
  updates := by
    rw [tallies.updates, published]
    rfl
  failures := tallies.failures
  exceptions := by
    have exceptions := tallies.exceptions
    rwa [published] at exceptions

/-- A pump that has come to its end has balanced its report. -/
theorem balanced (tallies : Tallies pump report) (ready : pump.phase = .ready)
    (done : pump.index = pump.due.length) : Balanced report := by
  have room := tallies.room
  have executed := tallies.executed
  have updates := tallies.updates
  have failures := tallies.failures
  have exceptions := tallies.exceptions
  rw [ready] at executed updates exceptions
  simp only [begun, publishedNow, exceptionAhead] at executed updates exceptions
  exact ⟨by omega, by omega, by omega, by omega⟩

end Tallies

/-! ## The reports on their way to the counters -/

/-- What a worker has published and not added. -/
@[simp]
def owedUpdates : WorkerPhase → Nat
  | .pumping report => report.stateUpdates
  | .counting report .pumpCalls | .counting report .jobsExecuted
  | .counting report .stateUpdates => report.stateUpdates
  | _ => 0

/-- The part of it that is of pumps which returned. -/
@[simp]
def returnedUpdates : WorkerPhase → Nat
  | .counting report .pumpCalls | .counting report .jobsExecuted
  | .counting report .stateUpdates => report.stateUpdates
  | _ => 0

/-- The executed jobs that a worker has not added. -/
@[simp]
def owedJobs : WorkerPhase → Nat
  | .counting report .pumpCalls | .counting report .jobsExecuted => report.executed
  | _ => 0

/-- The executed jobs of a worker that has added its call. -/
@[simp]
def jobsBehindCall : WorkerPhase → Nat
  | .counting report .jobsExecuted => report.executed
  | _ => 0

/-- The failures of a worker that has added its jobs. -/
@[simp]
def failuresBehindJobs : WorkerPhase → Nat
  | .counting report .stateUpdates | .counting report .transportFailures =>
      report.transportFailures
  | _ => 0

/-- The exceptions of a worker that has added its failures. -/
@[simp]
def exceptionsBehindFailures : WorkerPhase → Nat
  | .counting report .runnerExceptions => report.runnerExceptions
  | _ => 0

/-- Counters, what the workers owe to them, and the number of publications. -/
structure Accounts (stats : MonitorExecutorStats) (owed : (WorkerPhase → Nat) → Nat)
    (published : Nat) : Prop where
  updates : stats.stateUpdates + owed owedUpdates = published
  jobs : stats.jobsExecuted + owed owedJobs = stats.stateUpdates + owed returnedUpdates
  calls : stats.jobsExecuted + owed jobsBehindCall ≤ stats.pumpCalls
  failures : stats.transportFailures + owed failuresBehindJobs ≤ stats.jobsExecuted
  exceptions : stats.runnerExceptions + owed exceptionsBehindFailures ≤ stats.transportFailures

namespace Accounts

variable {stats : MonitorExecutorStats} {owed after : (WorkerPhase → Nat) → Nat}
  {published : Nat}

/-- Before anything is owed the account is empty. -/
theorem zero (nothing : ∀ amount, owed amount = 0) : Accounts {} owed 0 := by
  constructor <;> simp [nothing]

/-- Between two phases in which the worker owes the same nothing is moved. -/
theorem move (accounts : Accounts stats owed published) {phase later : WorkerPhase}
    (moved : ∀ amount, after amount + amount phase = owed amount + amount later)
    (updates : owedUpdates later = owedUpdates phase)
    (returned : returnedUpdates later = returnedUpdates phase)
    (jobs : owedJobs later = owedJobs phase)
    (calls : jobsBehindCall later = jobsBehindCall phase)
    (failures : failuresBehindJobs later = failuresBehindJobs phase)
    (exceptions : exceptionsBehindFailures later = exceptionsBehindFailures phase) :
    Accounts stats after published := by
  have same (amount : WorkerPhase → Nat) (equal : amount later = amount phase) :
      after amount = owed amount := by
    have balance := moved amount
    omega
  constructor
  · rw [same _ updates, accounts.updates]
  · rw [same _ jobs, same _ returned, accounts.jobs]
  · rw [same _ calls]
    exact accounts.calls
  · rw [same _ failures]
    exact accounts.failures
  · rw [same _ exceptions]
    exact accounts.exceptions

/-- A worker adds to a counter what its report says. -/
theorem count (accounts : Accounts stats owed published) {report : MonitorPumpReport}
    {counter : Counter} (balanced : Balanced report)
    (moved : ∀ amount, after amount + amount (.counting report counter) =
      owed amount + amount (.counted report counter)) :
    Accounts (stats.add report counter) after published := by
  have updates := moved owedUpdates
  have returned := moved returnedUpdates
  have jobs := moved owedJobs
  have calls := moved jobsBehindCall
  have failures := moved failuresBehindJobs
  have exceptions := moved exceptionsBehindFailures
  obtain ⟨executed, room, failed, threw⟩ := balanced
  obtain ⟨oldUpdates, oldJobs, oldCalls, oldFailures, oldExceptions⟩ := accounts
  have idle (amount : WorkerPhase → Nat) (sleeps : amount .sleeping = 0)
      (checks : amount .checking = 0) :
      amount (if report.executed = 0 then .sleeping else .checking) = 0 := by
    split
    · exact sleeps
    · exact checks
  cases counter with
  | pumpCalls | jobsExecuted | stateUpdates | transportFailures =>
      simp only [WorkerPhase.counted, owedUpdates, returnedUpdates, owedJobs, jobsBehindCall,
        failuresBehindJobs, exceptionsBehindFailures]
        at updates returned jobs calls failures exceptions
      constructor <;> simp only [MonitorExecutorStats.add] <;> omega
  | runnerExceptions =>
      rw [WorkerPhase.counted, idle owedUpdates rfl rfl] at updates
      rw [WorkerPhase.counted, idle returnedUpdates rfl rfl] at returned
      rw [WorkerPhase.counted, idle owedJobs rfl rfl] at jobs
      rw [WorkerPhase.counted, idle jobsBehindCall rfl rfl] at calls
      rw [WorkerPhase.counted, idle failuresBehindJobs rfl rfl] at failures
      rw [WorkerPhase.counted, idle exceptionsBehindFailures rfl rfl] at exceptions
      simp only [owedUpdates, returnedUpdates, owedJobs, jobsBehindCall, failuresBehindJobs,
        exceptionsBehindFailures] at updates returned jobs calls failures exceptions
      constructor <;> simp only [MonitorExecutorStats.add] <;> omega

/-- A worker's pump has published a state. -/
theorem publish (accounts : Accounts stats owed published) {before report : MonitorPumpReport}
    (moved : ∀ amount, after amount + amount (.pumping before) =
      owed amount + amount (.pumping report))
    (more : report.stateUpdates = before.stateUpdates + 1) :
    Accounts stats after (published + 1) := by
  have updates := moved owedUpdates
  have returned := moved returnedUpdates
  have jobs := moved owedJobs
  have calls := moved jobsBehindCall
  have failures := moved failuresBehindJobs
  have exceptions := moved exceptionsBehindFailures
  simp only [owedUpdates, returnedUpdates, owedJobs, jobsBehindCall, failuresBehindJobs,
    exceptionsBehindFailures] at updates returned jobs calls failures exceptions
  obtain ⟨oldUpdates, oldJobs, oldCalls, oldFailures, oldExceptions⟩ := accounts
  constructor <;> omega

/-- A pump has returned with its report. -/
theorem finish (accounts : Accounts stats owed published) {report : MonitorPumpReport}
    (balanced : Balanced report)
    (moved : ∀ amount, after amount + amount (.pumping report) =
      owed amount + amount (.counting report .pumpCalls)) :
    Accounts stats after published := by
  have updates := moved owedUpdates
  have returned := moved returnedUpdates
  have jobs := moved owedJobs
  have calls := moved jobsBehindCall
  have failures := moved failuresBehindJobs
  have exceptions := moved exceptionsBehindFailures
  simp only [owedUpdates, returnedUpdates, owedJobs, jobsBehindCall, failuresBehindJobs,
    exceptionsBehindFailures] at updates returned jobs calls failures exceptions
  obtain ⟨oldUpdates, oldJobs, oldCalls, oldFailures, oldExceptions⟩ := accounts
  obtain ⟨executed, room, failed, threw⟩ := balanced
  constructor <;> omega

end Accounts

namespace MonitorExecutor

variable {executor next : MonitorExecutor platform Runner} {index : Nat}
  {phase after : WorkerPhase}

/-- An amount summed over the workers. -/
def owed (executor : MonitorExecutor platform Runner) (amount : WorkerPhase → Nat) : Nat :=
  Pending.total (fun worker => amount worker.phase) executor.workers

/-- One worker's step changes what is owed by as much. -/
theorem owed_advance (here : executor.At index phase) (after : WorkerPhase)
    (amount : WorkerPhase → Nat) :
    (executor.advance index after).owed amount + amount phase =
      executor.owed amount + amount after := by
  obtain ⟨worker, found, rfl⟩ := here
  exact Pending.total_modify found _

/-- Workers that have ended owe nothing. -/
theorem owed_eq_zero {amount : WorkerPhase → Nat} (settled : amount .ended = 0)
    (joined : executor.Joined) : executor.owed amount = 0 := by
  apply Pending.total_eq_zero
  intro worker member
  rw [joined worker member, settled]

/-- Only the worker that goes on is at another place afterwards. -/
theorem at_advance {other : Nat} {place : WorkerPhase}
    (there : (executor.advance index after).At other place) :
    (other = index ∧ place = after) ∨ (other ≠ index ∧ executor.At other place) := by
  obtain ⟨worker, found, rfl⟩ := there
  rw [advance, List.getElem?_modify] at found
  obtain ⟨before, holds, rfl⟩ := Option.map_eq_some_iff.mp found
  by_cases same : index = other
  · subst same
    exact Or.inl ⟨rfl, by simp⟩
  · refine Or.inr ⟨Ne.symm same, before, holds, ?_⟩
    simp [same]

/-- A worker is where it was moved. -/
theorem at_advance_self (here : executor.At index phase) :
    (executor.advance index after).At index after := by
  obtain ⟨worker, found, -⟩ := here
  refine ⟨{ worker with phase := after }, ?_, rfl⟩
  rw [advance, List.getElem?_modify, found]
  simp

/-- The others stay where they are. -/
theorem at_advance_ne {other : Nat} {place : WorkerPhase} (different : other ≠ index)
    (there : executor.At other place) : (executor.advance index after).At other place := by
  obtain ⟨worker, found, same⟩ := there
  refine ⟨worker, ?_, same⟩
  rw [advance, List.getElem?_modify, found]
  simp [Ne.symm different]

/-- Asking a worker to stop moves nobody. -/
theorem phase_of_requestStop {asked : Nat} {worker : Worker}
    (found : (executor.requestStop asked)[index]? = some worker) :
    ∃ before, executor.workers[index]? = some before ∧ before.phase = worker.phase := by
  rw [requestStop, List.getElem?_modify] at found
  obtain ⟨before, holds, rfl⟩ := Option.map_eq_some_iff.mp found
  refine ⟨before, holds, ?_⟩
  split <;> rfl

/-- A worker is at one place. -/
theorem At.unique (here : executor.At index phase) (there : executor.At index after) :
    phase = after := by
  obtain ⟨worker, found, rfl⟩ := here
  obtain ⟨other, holds, rfl⟩ := there
  rw [Option.some.inj (found.symm.trans holds)]

/-- A worker claims at most one job a call. -/
theorem length_issue_claimed {engine : MonitorEngine platform Runner} {now : TimePoint}
    {ticket : Nat} : (MonitorConcurrency.issue ticket (engine.claimed now 1)).length ≤ 1 := by
  rw [MonitorConcurrency.issue, List.length_map, List.length_zipIdx, MonitorEngine.claimed,
    List.length_map]
  exact List.length_take_le _ _

/-- The counters and the reports in flight account for what was published. -/
def Ledger (executor : MonitorExecutor platform Runner) : Prop :=
  Accounts executor.stats executor.owed executor.publishedSinceStart

/-- What holds between any two steps. -/
structure Sound (executor : MonitorExecutor platform Runner) : Prop where
  reachable : Transition.Reachable MonitorConcurrency.Initial MonitorConcurrency.Step
    executor.system
  pumping : ∀ index pump, executor.system.pumps index = some pump →
    ∃ report, executor.At index (.pumping report) ∧ Tallies pump report
  manned : ∀ index report, executor.At index (.pumping report) →
    ∃ pump, executor.system.pumps index = some pump
  counting : ∀ index report counter, executor.At index (.counting report counter) →
    Balanced report
  ledger : executor.Ledger
  bounded : executor.workers.length ≤
    min executor.options.workerCount maximumMonitorWorkerCount
  spawning : executor.owner = .spawning →
    executor.isRunning = true ∧ executor.options.workerCount ≤ maximumMonitorWorkerCount
  stopped : executor.owner = .idle → executor.isRunning = false → executor.workers = []

/-- A new executor is sound. -/
theorem sound_of_initial (initial : Initial executor) : Sound executor where
  reachable := .of_initial initial.system
  pumping index pump busy := by simp [initial.system.idle index] at busy
  manned index report := by
    rintro ⟨worker, found, -⟩
    simp [initial.workers] at found
  counting index report counter := by
    rintro ⟨worker, found, -⟩
    simp [initial.workers] at found
  ledger := by
    have nothing (amount : WorkerPhase → Nat) : executor.owed amount = 0 := by
      rw [owed, initial.workers]
      rfl
    rw [Ledger, initial.stats, initial.publishedSinceStart]
    exact .zero nothing
  bounded := by simp [initial.workers]
  spawning spawns := by simp [initial.owner] at spawns
  stopped _ _ := initial.workers

namespace Sound

/-- No worker at another place of its loop has a pump. -/
theorem pumps_eq_none (sound : Sound executor) (here : executor.At index phase)
    (outside : ∀ report, phase ≠ .pumping report) : executor.system.pumps index = none := by
  rw [Option.eq_none_iff_forall_ne_some]
  intro pump busy
  obtain ⟨report, pumps, -⟩ := sound.pumping index pump busy
  exact outside report (here.unique pumps)

/-- A worker in a pump has a tally of it. -/
theorem tallies (sound : Sound executor) {report : MonitorPumpReport} {pump : Pump}
    (here : executor.At index (.pumping report))
    (busy : executor.system.pumps index = some pump) : Tallies pump report := by
  obtain ⟨other, pumps, tallies⟩ := sound.pumping index pump busy
  cases here.unique pumps
  exact tallies

/-- A worker goes on: what the others do is as before. -/
theorem goOn (sound : Sound executor) (here : executor.At index phase)
    {system : MonitorConcurrency.System platform Runner Nat} {stats : MonitorExecutorStats}
    {failed : Bool} {lastError : Bytes} {published : Nat}
    (run : system = executor.system ∨ MonitorConcurrency.Step executor.system system)
    (others : ∀ other, other ≠ index → system.pumps other = executor.system.pumps other)
    (mine : ∀ pump, system.pumps index = some pump →
      ∃ report, after = .pumping report ∧ Tallies pump report)
    (manned : ∀ report, after = .pumping report → ∃ pump, system.pumps index = some pump)
    (counts : ∀ report counter, after = .counting report counter → Balanced report)
    (accounts : Accounts stats (executor.advance index after).owed published) :
    Sound { executor.advance index after with
      system, stats, failed, lastError, publishedSinceStart := published } where
  reachable := by
    rcases run with rfl | step
    · exact sound.reachable
    · exact sound.reachable.tail step
  pumping other pump busy := by
    by_cases same : other = index
    · subst same
      obtain ⟨report, rfl, tallies⟩ := mine pump busy
      exact ⟨report, at_advance_self here, tallies⟩
    · rw [others other same] at busy
      obtain ⟨report, pumps, tallies⟩ := sound.pumping other pump busy
      exact ⟨report, at_advance_ne same pumps, tallies⟩
  manned other report there := by
    rcases at_advance there with ⟨rfl, same⟩ | ⟨different, elsewhere⟩
    · exact manned report same.symm
    · obtain ⟨pump, busy⟩ := sound.manned other report elsewhere
      exact ⟨pump, by rw [← busy]; exact others other different⟩
  counting other report counter there := by
    rcases at_advance there with ⟨-, same⟩ | ⟨-, elsewhere⟩
    · exact counts report counter same.symm
    · exact sound.counting other report counter elsewhere
  ledger := accounts
  bounded := by
    have length : (executor.advance index after).workers.length = executor.workers.length :=
      List.length_modify _ _ _
    exact length.trans_le sound.bounded
  spawning := sound.spawning
  stopped idle off := by
    have none := sound.stopped idle off
    show (executor.workers.modify index _) = []
    rw [none, List.modify_nil]

/-- Between two phases that owe nothing and have no pump nothing else changes. -/
theorem advance (sound : Sound executor) (here : executor.At index phase)
    {failed : Bool} {lastError : Bytes} (outside : ∀ report, phase ≠ .pumping report)
    (pumps : ∀ report, after ≠ .pumping report)
    (counts : ∀ report counter, after ≠ .counting report counter)
    (owes : ∀ amount, amount ∈ [owedUpdates, returnedUpdates, owedJobs, jobsBehindCall,
      failuresBehindJobs, exceptionsBehindFailures] → amount after = amount phase) :
    Sound { executor.advance index after with failed, lastError } := by
  refine sound.goOn here (Or.inl rfl) (fun _ _ => rfl) ?_ ?_ ?_ ?_
  · intro pump busy
    cases (sound.pumps_eq_none here outside).symm.trans busy
  · intro report same
    exact absurd same (pumps report)
  · intro report counter same
    exact absurd same (counts report counter)
  · apply Accounts.move sound.ledger (owed_advance here after) <;> apply owes <;> simp

/-- A worker goes on within its pump. -/
theorem pump (sound : Sound executor) {before report : MonitorPumpReport}
    (here : executor.At index (.pumping before))
    {system : MonitorConcurrency.System platform Runner Nat}
    (step : MonitorConcurrency.Step executor.system system) {pump : Pump}
    (pumps : system.pumps = Function.update executor.system.pumps index (some pump))
    (tallies : Tallies pump report) (same : report.stateUpdates = before.stateUpdates) :
    Sound (executor.pump index report system) := by
  refine sound.goOn here (Or.inr step) ?_ ?_ ?_ ?_ ?_
  · intro other different
    rw [pumps, Function.update_of_ne different]
  · intro found busy
    rw [pumps, Function.update_self] at busy
    obtain rfl := Option.some.inj busy
    exact ⟨report, rfl, tallies⟩
  · intro _ _
    exact ⟨pump, by rw [pumps, Function.update_self]⟩
  · rintro _ _ ⟨⟩
  · exact Accounts.move sound.ledger (owed_advance here (.pumping report)) same rfl rfl rfl rfl rfl

/-- A pump unwinds only while it works on its one job, so nothing of it was
published. -/
theorem unwind (sound : Sound executor) {report : MonitorPumpReport} {pump : Pump}
    (here : executor.At index (.pumping report))
    (busy : executor.system.pumps index = some pump) (unwinding : pump.phase = .unwinding) :
    report.stateUpdates = 0 := by
  have tallies := sound.tallies here busy
  have working := (MonitorConcurrency.invariant_of_reachable sound.reachable).working index pump
    busy
  have inside := working.2 (by simp [unwinding])
  have room := tallies.room
  have updates := tallies.updates
  simp only [unwinding, publishedNow] at updates
  omega

/-- A worker's step keeps the executor sound. -/
theorem worker (sound : Sound executor) (step : WorkerStep index executor next) :
    Sound next := by
  cases step with
  | leave worker found checks ends =>
      exact sound.advance ⟨worker, found, checks⟩ (by simp) (by simp) (by simp) (by simp)
  | enter worker found checks unasked healthy =>
      exact sound.advance ⟨worker, found, checks⟩ (by simp) (by simp) (by simp) (by simp)
  | claim calls now =>
      have idle := sound.pumps_eq_none calls (by simp)
      refine sound.goOn calls (Or.inr (.claim executor.system index idle now 1)) ?_ ?_ ?_ ?_ ?_
      · intro other different
        exact Function.update_of_ne different _ _
      · intro found busy
        have mine : (executor.system.claim index now 1).pumps index = some _ :=
          Function.update_self _ _ _
        obtain rfl := Option.some.inj (mine.symm.trans busy)
        exact ⟨_, rfl, .claim length_issue_claimed _⟩
      · intro _ _
        exact ⟨_, Function.update_self _ _ _⟩
      · rintro _ _ ⟨⟩
      · exact Accounts.move sound.ledger (owed_advance calls _) rfl rfl rfl rfl rfl rfl
  | claimThrows calls what => exact sound.advance calls (by simp) (by simp) (by simp) (by simp)
  | beginRun report pumps pump busy ready claim current =>
      exact sound.pump pumps (.beginRun executor.system index pump busy ready claim current) rfl
        ((sound.tallies pumps busy).beginRun ready) rfl
  | endRun report pumps pump busy runs outcome =>
      exact sound.pump pumps (.endRun executor.system index pump busy runs outcome) rfl
        ((sound.tallies pumps busy).endRun runs outcome) rfl
  | publish report pumps pump busy outcome finished claim current job registered =>
      have accepted : (executor.system.store.upsert (job.publication outcome pump.now)).1 =
          true := by
        rw [StateStore.upsert_of_acceptable (job.acceptable_publication outcome pump.now)]
      rw [accepted]
      refine sound.goOn pumps (Or.inr (.publish executor.system index pump busy outcome finished
        claim current job registered)) ?_ ?_ ?_ ?_ ?_
      · intro other different
        exact Function.update_of_ne different _ _
      · intro found now
        have mine : (executor.system.publish index pump claim job outcome).pumps index =
            some { pump with phase := .published } := Function.update_self _ _ _
        obtain rfl := Option.some.inj (mine.symm.trans now)
        exact ⟨_, rfl, (sound.tallies pumps busy).publish finished⟩
      · intro _ _
        exact ⟨_, Function.update_self _ _ _⟩
      · rintro _ _ ⟨⟩
      · exact Accounts.publish sound.ledger (owed_advance pumps _) rfl
  | throw report pumps pump busy outcome finished =>
      exact sound.pump pumps (.throw executor.system index pump busy outcome finished) rfl
        ((sound.tallies pumps busy).throw finished) rfl
  | release report pumps pump busy published claim current =>
      exact sound.pump pumps (.release executor.system index pump busy published claim current) rfl
        ((sound.tallies pumps busy).release published) rfl
  | unwind report pumps pump busy unwinding what =>
      have nothing := sound.unwind pumps busy unwinding
      refine sound.goOn pumps (Or.inr (.unwind executor.system index pump busy unwinding))
        ?_ ?_ ?_ ?_ ?_
      · intro other different
        exact Function.update_of_ne different _ _
      · intro found left
        have mine : ((executor.system.release pump.unreleased).setPump index none).pumps index =
            none := Function.update_self _ _ _
        cases mine.symm.trans left
      · rintro _ ⟨⟩
      · rintro _ _ ⟨⟩
      · exact Accounts.move sound.ledger (owed_advance pumps _) nothing.symm rfl rfl rfl rfl rfl
  | finish report pumps pump busy ready done =>
      have balanced := (sound.tallies pumps busy).balanced ready done
      refine sound.goOn pumps (Or.inr (.finish executor.system index pump busy ready done))
        ?_ ?_ ?_ ?_ ?_
      · intro other different
        exact Function.update_of_ne different _ _
      · intro found left
        have mine : (executor.system.setPump index none).pumps index = none :=
          Function.update_self _ _ _
        cases mine.symm.trans left
      · rintro _ ⟨⟩
      · rintro _ _ ⟨⟩
        exact balanced
      · exact Accounts.finish sound.ledger balanced (owed_advance pumps _)
  | count report counter counts =>
      have balanced := sound.counting index report counter counts
      have idle := sound.pumps_eq_none counts (by simp)
      refine sound.goOn counts (Or.inl rfl) (fun _ _ => rfl) ?_ ?_ ?_ ?_
      · intro pump busy
        cases idle.symm.trans busy
      · intro other same
        cases counter with
        | runnerExceptions =>
            rw [WorkerPhase.counted] at same
            split at same <;> cases same
        | pumpCalls | jobsExecuted | stateUpdates | transportFailures => cases same
      · intro other later same
        have inherited : other = report := by
          cases counter with
          | runnerExceptions =>
              rw [WorkerPhase.counted] at same
              split at same <;> cases same
          | pumpCalls | jobsExecuted | stateUpdates | transportFailures =>
              cases same
              rfl
        exact inherited ▸ balanced
      · exact Accounts.count sound.ledger balanced (owed_advance counts _)
  | wake sleeps => exact sound.advance sleeps (by simp) (by simp) (by simp) (by simp)
  | record what catches => exact sound.advance catches (by simp) (by simp) (by simp) (by simp)
  | fail fails => exact sound.advance fails (by simp) (by simp) (by simp) (by simp)

/-- A change of the owner and of what the workers are asked leaves the rest. -/
theorem ofWorkers (sound : Sound executor) {workers : List Worker} {owner : OwnerPhase}
    {lastError : Bytes}
    (places : ∀ index phase, executor.At index phase →
      ∃ worker, workers[index]? = some worker ∧ worker.phase = phase)
    (old : ∀ (index : Nat) (worker : Worker), workers[index]? = some worker →
      worker.phase = .checking ∨ executor.At index worker.phase)
    (owed : ∀ amount, amount .checking = 0 →
      Pending.total (fun worker => amount worker.phase) workers = executor.owed amount)
    (bounded : workers.length ≤ min executor.options.workerCount maximumMonitorWorkerCount)
    (spawning : owner = .spawning →
      executor.isRunning = true ∧ executor.options.workerCount ≤ maximumMonitorWorkerCount)
    (stopped : owner = .idle → executor.isRunning = false → workers = []) :
    Sound { executor with workers, owner, lastError } where
  reachable := sound.reachable
  pumping index pump busy := by
    obtain ⟨report, pumps, tallies⟩ := sound.pumping index pump busy
    exact ⟨report, places index _ pumps, tallies⟩
  manned index report := by
    rintro ⟨worker, found, there⟩
    rcases old index worker found with checks | here
    · cases there.symm.trans checks
    · exact sound.manned index report (there ▸ here)
  counting index report counter := by
    rintro ⟨worker, found, there⟩
    rcases old index worker found with checks | here
    · cases there.symm.trans checks
    · exact sound.counting index report counter (there ▸ here)
  ledger := by
    have same (amount : WorkerPhase → Nat) (checks : amount .checking = 0) :
        MonitorExecutor.owed { executor with workers, owner, lastError } amount =
          executor.owed amount := owed amount checks
    have accounts := sound.ledger
    constructor
    · rw [same _ rfl]
      exact accounts.updates
    · rw [same _ rfl, same _ rfl]
      exact accounts.jobs
    · rw [same _ rfl]
      exact accounts.calls
    · rw [same _ rfl]
      exact accounts.failures
    · rw [same _ rfl]
      exact accounts.exceptions
  bounded := bounded
  spawning := spawning
  stopped := stopped

/-- Asking a worker to stop moves nobody. -/
theorem requestStop (sound : Sound executor) (asked : Nat) :
    Sound { executor with workers := executor.requestStop asked } := by
  refine sound.ofWorkers ?_ ?_ ?_ ?_ sound.spawning ?_
  · rintro index phase ⟨worker, found, rfl⟩
    rw [MonitorExecutor.requestStop, List.getElem?_modify, found]
    refine ⟨_, rfl, ?_⟩
    split <;> rfl
  · intro index worker found
    exact Or.inr (phase_of_requestStop found)
  · intro amount _
    by_cases inside : asked < executor.workers.length
    · have moved : Pending.total (fun worker => amount worker.phase)
            (executor.requestStop asked) + amount executor.workers[asked].phase =
          executor.owed amount + amount executor.workers[asked].phase :=
        Pending.total_modify (List.getElem?_eq_getElem inside) _
      exact Nat.add_right_cancel moved
    · rw [MonitorExecutor.requestStop, List.modify_eq_self (not_lt.mp inside)]
      rfl
  · rw [MonitorExecutor.requestStop, List.length_modify]
    exact sound.bounded
  · intro idle off
    rw [MonitorExecutor.requestStop, sound.stopped idle off, List.modify_nil]

/-- The owner begins to wait. -/
theorem wait (sound : Sound executor) {owner : OwnerPhase}
    (waits : owner ≠ .idle ∧ owner ≠ .spawning) : Sound { executor with owner } :=
  { sound with
    spawning := fun spawns => absurd spawns waits.2
    stopped := fun idle => absurd idle waits.1 }

/-- Joining leaves nobody who pumps or owes. -/
theorem join (sound : Sound executor) (joined : executor.Joined) {owner : OwnerPhase}
    {lastError : Bytes} (waits : owner ≠ .spawning) :
    Sound { executor with workers := [], isRunning := false, owner, lastError } where
  reachable := sound.reachable
  pumping index pump busy := by
    obtain ⟨report, ⟨worker, found, pumps⟩, -⟩ := sound.pumping index pump busy
    rw [joined worker (List.mem_of_getElem? found)] at pumps
    cases pumps
  manned index report := by
    rintro ⟨worker, found, -⟩
    cases found
  counting index report counter := by
    rintro ⟨worker, found, -⟩
    cases found
  ledger := by
    have accounts := sound.ledger
    have settled (amount : WorkerPhase → Nat) (ends : amount .ended = 0) :
        executor.owed amount = 0 := owed_eq_zero ends joined
    obtain ⟨updates, jobs, calls, failures, exceptions⟩ := accounts
    rw [settled _ rfl] at updates calls failures exceptions
    rw [settled _ rfl, settled _ rfl] at jobs
    exact ⟨updates, jobs, calls, failures, exceptions⟩
  bounded := Nat.zero_le _
  spawning spawns := absurd spawns waits
  stopped _ _ := rfl

/-- So does a step of the owner. -/
theorem owner (sound : Sound executor) (step : OwnerStep executor next) : Sound next := by
  have same : ∀ index phase, executor.At index phase →
      ∃ worker, executor.workers[index]? = some worker ∧ worker.phase = phase :=
    fun _ _ here => here
  have old : ∀ (index : Nat) (worker : Worker), executor.workers[index]? = some worker →
      worker.phase = .checking ∨ executor.At index worker.phase :=
    fun index worker found => Or.inr ⟨worker, found, rfl⟩
  cases step with
  | refuse idle error refused =>
      exact sound.ofWorkers same old (fun _ _ => rfl) sound.bounded sound.spawning
        sound.stopped
  | start idle accepted =>
      have unrefused : executor.isRunning = false ∧
          executor.options.workerCount ≤ maximumMonitorWorkerCount := by
        unfold refusal at accepted
        split at accepted
        · cases accepted
        next off =>
          split at accepted
          · cases accepted
          next count =>
            rw [not_or, not_lt] at count
            exact ⟨by simpa using off, count.2⟩
      have none := sound.stopped idle unrefused.1
      have nothing (amount : WorkerPhase → Nat) : executor.beginStart.owed amount = 0 := by
        rw [owed, beginStart, none]
        rfl
      exact ⟨sound.reachable, sound.pumping, sound.manned, sound.counting, .zero nothing,
        sound.bounded, fun _ => ⟨rfl, unrefused.2⟩, fun idle => by cases idle⟩
  | spawn spawning more =>
      have accepted := sound.spawning spawning
      refine sound.ofWorkers ?_ ?_ ?_ ?_ sound.spawning ?_
      · rintro index phase ⟨worker, found, there⟩
        have inside := (List.getElem?_eq_some_iff.mp found).1
        exact ⟨worker, by rw [List.getElem?_append_left inside, found], there⟩
      · intro index worker found
        rw [List.getElem?_append] at found
        split at found
        · exact Or.inr ⟨worker, found, rfl⟩
        · obtain rfl := List.mem_singleton.mp (List.mem_of_getElem? found)
          exact Or.inl rfl
      · intro amount checks
        rw [Pending.total_append]
        show owed executor amount + (amount .checking + 0) = executor.owed amount
        rw [checks, Nat.add_zero]
      · rw [List.length_append, List.length_singleton]
        exact Nat.le_min.mpr ⟨more, more.trans_le accepted.2⟩
      · intro idle
        rw [spawning] at idle
        cases idle
  | started spawning all =>
      have accepted := sound.spawning spawning
      refine sound.ofWorkers same old (fun _ _ => rfl) sound.bounded
        (fun again => by cases again) ?_
      intro _ off
      rw [accepted.1] at off
      cases off
  | spawnFails spawning what => exact sound.wait (by simp)
  | abandoned what abandoning asked joined => exact sound.join joined (by simp)
  | stop idle => exact sound.wait (by simp)
  | ask waits index => exact sound.requestStop index
  | stopped stopping asked joined => exact sound.join joined (by simp)

/-- So does a registration or a write from elsewhere. -/
theorem other (sound : Sound executor) (step : OtherStep executor next) : Sound next := by
  cases step with
  | register definition runner firstDue engine added =>
      exact { sound with
        reachable := sound.reachable.tail
          (.register executor.system definition runner firstDue engine added) }
  | write state =>
      exact { sound with reachable := sound.reachable.tail (.write executor.system state) }

/-- So does every step. -/
theorem step (sound : Sound executor) (step : Step executor next) : Sound next := by
  cases step with
  | owner step => exact sound.owner step
  | pool step =>
      cases step with
      | worker index step => exact sound.worker step
      | other step => exact sound.other step

end Sound

/-- Every reachable executor is sound. -/
theorem sound_of_reachable (reachable : Transition.Reachable Initial Step executor) :
    Sound executor :=
  reachable.induction (fun _ => sound_of_initial) fun _ _ _ sound step => sound.step step

/-! ## An executor over one monitor -/

/-- An executor with the options it has by default. -/
def singleExecutor : MonitorExecutor .linux Unit where
  options := {}
  system :=
    { engine := MonitorConcurrency.singleMonitor, store := .empty, pumps := fun _ => none }

theorem initial_singleExecutor : Initial singleExecutor where
  system :=
    { idle := fun _ => rfl
      clear := MonitorConcurrency.initial_singleMonitorSystem.clear
      unpublished := rfl }
  workers := rfl
  owner := rfl
  isRunning := rfl
  failed := rfl
  lastError := rfl
  stats := rfl
  publishedSinceStart := rfl

/-- It is being started and has its first worker. -/
def spawningExecutor : MonitorExecutor .linux Unit :=
  { singleExecutor.beginStart with workers := [{}] }

theorem reachable_spawningExecutor :
    Transition.Reachable Initial Step spawningExecutor :=
  ((Transition.Reachable.of_initial initial_singleExecutor).tail
    (.owner (.start singleExecutor rfl rfl))).tail
      (.owner (.spawn singleExecutor.beginStart rfl (by decide)))

/-! ## What every run keeps -/

/-- No step of the pool lowers a counter. -/
theorem load_mono (step : PoolStep executor next) (counter : Counter) :
    executor.stats.load counter ≤ next.stats.load counter := by
  cases step with
  | other step => cases step <;> exact le_rfl
  | worker index step =>
      cases step with
      | count report added counts =>
          cases added <;> cases counter <;>
            simp [MonitorExecutorStats.add, MonitorExecutorStats.load]
      | leave | enter | claim | claimThrows | beginRun | endRun | publish | throw | release
      | unwind | finish | wake | record | fail => exact le_rfl

/-- While the pool runs no counter falls. -/
theorem load_mono_run {last : MonitorExecutor platform Runner}
    (run : Relation.ReflTransGen PoolStep executor last) (counter : Counter) :
    executor.stats.load counter ≤ last.stats.load counter := by
  induction run with
  | refl => exact le_rfl
  | tail _ step ih => exact ih.trans (load_mono step counter)

/-- What a call of `stats()` returns for each counter lies between its values at
the beginning and at the end of the call. -/
theorem Loads.between {counters : List Counter} {values : List Nat}
    {last : MonitorExecutor platform Runner} (loads : Loads counters executor values last) :
    List.Forall₂ (fun counter value =>
      executor.stats.load counter ≤ value ∧ value ≤ last.stats.load counter) counters values ∧
    ∀ counter, executor.stats.load counter ≤ last.stats.load counter := by
  induction loads with
  | done meanwhile => exact ⟨List.Forall₂.nil, load_mono_run meanwhile⟩
  | @load first middle last counter counters values meanwhile rest ih =>
      have earlier := load_mono_run meanwhile
      refine ⟨.cons ⟨earlier counter, ih.2 counter⟩ (ih.1.imp ?_), fun other =>
        (earlier other).trans (ih.2 other)⟩
      exact fun other value bounds => ⟨(earlier other).trans bounds.1, bounds.2⟩

/-- A worker that makes a step has not ended. -/
theorem WorkerStep.lives (step : WorkerStep index executor next) :
    ∃ worker, executor.workers[index]? = some worker ∧ worker.phase ≠ .ended := by
  have elsewhere {phase : WorkerPhase} (here : executor.At index phase) (lives : phase ≠ .ended) :
      ∃ worker, executor.workers[index]? = some worker ∧ worker.phase ≠ .ended := by
    obtain ⟨worker, found, rfl⟩ := here
    exact ⟨worker, found, lives⟩
  cases step with
  | leave worker found checks => exact ⟨worker, found, by simp [checks]⟩
  | enter worker found checks => exact ⟨worker, found, by simp [checks]⟩
  | claim here | claimThrows here | wake here | fail here => exact elsewhere here (by simp)
  | beginRun _ here | endRun _ here | publish _ here | throw _ here | release _ here
  | unwind _ here | finish _ here | record _ here => exact elsewhere here (by simp)
  | count report counter here => exact elsewhere here (by simp)

/-- Behind the ends of the workers only others make steps, and they count nothing. -/
theorem joined_of_run {last : MonitorExecutor platform Runner} (joined : executor.Joined)
    (run : Relation.ReflTransGen PoolStep executor last) :
    last.Joined ∧ last.stats = executor.stats := by
  induction run with
  | refl => exact ⟨joined, rfl⟩
  | tail _ step ih =>
      obtain ⟨ended, same⟩ := ih
      cases step with
      | other step => cases step <;> exact ⟨ended, same⟩
      | worker index step =>
          obtain ⟨worker, found, lives⟩ := step.lives
          exact absurd (ended worker (List.mem_of_getElem? found)) lives

/-- Once the workers have ended every load is exact. -/
theorem Loads.of_joined {counters : List Counter} {values : List Nat}
    {last : MonitorExecutor platform Runner} (loads : Loads counters executor values last)
    (joined : executor.Joined) : values = counters.map executor.stats.load := by
  induction loads with
  | done => rfl
  | load meanwhile rest ih =>
      obtain ⟨ended, same⟩ := joined_of_run joined meanwhile
      rw [ih ended, same, List.map_cons]

/-- In every reachable state, whatever the workers, other writers and the owner
do in between, also across restarts, the atomic counters balance: an exception is
counted as a failure, a failure as an executed job, and an executed job as a
call; no more updates are counted than were published since the start; and once
the workers have ended, all of them are counted, as executed jobs and as updates.
A call of `stats()` sees each counter as it is at some moment of the call; when
the workers have ended before, it sees what balances. -/
theorem executor_accounting (reachable : Transition.Reachable Initial Step executor) :
    (executor.stats.runnerExceptions ≤ executor.stats.transportFailures ∧
      executor.stats.transportFailures ≤ executor.stats.jobsExecuted ∧
      executor.stats.jobsExecuted ≤ executor.stats.pumpCalls ∧
      executor.stats.stateUpdates ≤ executor.publishedSinceStart) ∧
    (executor.Joined → executor.stats.stateUpdates = executor.publishedSinceStart ∧
      executor.stats.jobsExecuted = executor.publishedSinceStart) ∧
    ∀ values last, Loads Counter.loaded executor values last →
      List.Forall₂ (fun counter value => executor.stats.load counter ≤ value ∧
        value ≤ last.stats.load counter) Counter.loaded values ∧
      (executor.Joined → values = Counter.loaded.map executor.stats.load) := by
  obtain ⟨updates, jobs, calls, failures, exceptions⟩ := (sound_of_reachable reachable).ledger
  refine ⟨⟨by omega, by omega, by omega, by omega⟩, ?_, ?_⟩
  · intro joined
    rw [owed_eq_zero rfl joined] at updates
    rw [owed_eq_zero rfl joined, owed_eq_zero rfl joined] at jobs
    exact ⟨by omega, by omega⟩
  · intro values last loads
    exact ⟨loads.between.1, loads.of_joined⟩

/-- One worker has looked and claimed the monitor. -/
def claimingExecutor : MonitorExecutor .linux Unit :=
  (spawningExecutor.advance 0 .calling).pump 0 { due := 1 }
    (spawningExecutor.system.claim 0 0 1)

theorem reachable_claimingExecutor :
    Transition.Reachable Initial Step claimingExecutor :=
  (reachable_spawningExecutor.tail
    (.pool (.worker 0 (.enter spawningExecutor {} rfl rfl rfl rfl)))).tail
      (.pool (.worker 0 (.claim (spawningExecutor.advance 0 .calling) ⟨_, rfl, rfl⟩ 0)))

/-- The worker is inside the monitor's runner. -/
def executingExecutor : MonitorExecutor .linux Unit :=
  claimingExecutor.pump 0 { due := 1, executed := 1 }
    (claimingExecutor.system.setPump 0 (some { now := 0, due := [⟨0, 0⟩], phase := .running }))

theorem reachable_executingExecutor : Transition.Reachable Initial Step executingExecutor :=
  reachable_claimingExecutor.tail (.pool (.worker 0
    (.beginRun claimingExecutor { due := 1 } ⟨_, rfl, rfl⟩ { now := 0, due := [⟨0, 0⟩] } rfl rfl
      ⟨0, 0⟩ rfl)))

/-- A call of the worker found nothing due, and it is about to count it. -/
def returnedExecutor : MonitorExecutor .linux Unit :=
  { spawningExecutor.advance 0 (.counting {} .pumpCalls) with
    system := (spawningExecutor.system.claim 0 (-1) 1).setPump 0 none }

theorem reachable_returnedExecutor : Transition.Reachable Initial Step returnedExecutor := by
  have entered := reachable_spawningExecutor.tail
    (.pool (.worker 0 (.enter spawningExecutor {} rfl rfl rfl rfl)))
  have claimed := entered.tail (.pool (.worker 0 (.claim _ ⟨_, rfl, rfl⟩ (-1))))
  exact claimed.tail (.pool (.worker 0 (.finish _ {} ⟨_, rfl, rfl⟩ { now := -1, due := [] }
    rfl rfl rfl)))

/-- The first load of `stats()` goes before the worker counts its call, the others
behind that: what is returned is no record that there ever was after the call. -/
theorem executor_accounting_returned :
    List.Forall₂ (fun counter value => returnedExecutor.stats.load counter ≤ value ∧
        value ≤ MonitorExecutorStats.load { pumpCalls := 1 } counter)
      Counter.loaded [0, 0, 0, 0, 0] := by
  have counts : PoolStep returnedExecutor
      { returnedExecutor.advance 0 (.counting {} .jobsExecuted) with
        stats := { pumpCalls := 1 } } :=
    .worker 0 (.count returnedExecutor {} .pumpCalls ⟨_, rfl, rfl⟩)
  have loads : Loads Counter.loaded returnedExecutor [0, 0, 0, 0, 0] _ :=
    .load .refl (.load (.single counts) (.load .refl (.load .refl (.load .refl (.done .refl)))))
  exact ((executor_accounting reachable_returnedExecutor).2.2 _ _ loads).1

/-! ## Failures -/

/-- A failure is announced behind its text. -/
def Recorded (executor : MonitorExecutor platform Runner) : Prop :=
  (executor.failed = true ∨ ∃ index, executor.At index .failing) → executor.lastError ≠ []

/-- A failure always has a text. -/
theorem failureText_ne_nil (what : Option Bytes) : failureText what ≠ [] := by
  cases what with
  | none => decide +kernel
  | some what => exact List.append_ne_nil_of_left_ne_nil (by decide +kernel) what

/-- So has a failed start. -/
theorem startErrorText_ne_nil (what : Option Bytes) : startErrorText what ≠ [] := by
  cases what with
  | none => decide +kernel
  | some what => exact List.append_ne_nil_of_left_ne_nil (by decide +kernel) what

/-- So has a refused one. -/
theorem refusal_ne_nil {error : Bytes} (refused : executor.refusal = some error) :
    error ≠ [] := by
  unfold refusal at refused
  split at refused
  · obtain rfl := Option.some.inj refused
    decide +kernel
  split at refused
  · obtain rfl := Option.some.inj refused
    exact List.append_ne_nil_of_left_ne_nil (by decide +kernel) _
  split at refused
  · obtain rfl := Option.some.inj refused
    decide +kernel
  · cases refused

/-- A worker that does not come to announce a failure leaves the record. -/
theorem Recorded.advance (recorded : Recorded executor)
    {system : MonitorConcurrency.System platform Runner Nat} {stats : MonitorExecutorStats}
    {published : Nat} (quiet : after ≠ .failing) :
    Recorded { executor.advance index after with
      system, stats, publishedSinceStart := published } := by
  rintro (failed | ⟨other, there⟩)
  · exact recorded (Or.inl failed)
  · rcases at_advance there with ⟨-, same⟩ | ⟨-, elsewhere⟩
    · exact absurd same.symm quiet
    · exact recorded (Or.inr ⟨other, elsewhere⟩)

/-- A worker that fails records its text. -/
theorem Recorded.worker (recorded : Recorded executor)
    (step : WorkerStep index executor next) : Recorded next := by
  cases step with
  | record what catches =>
      intro _ empty
      dsimp only at empty
      split at empty
      · exact failureText_ne_nil what empty
      next kept => exact kept empty
  | fail fails => exact fun _ => recorded (Or.inr ⟨index, fails⟩)
  | count report counter counts =>
      apply recorded.advance
      cases counter with
      | runnerExceptions =>
          rw [WorkerPhase.counted]
          split <;> simp
      | pumpCalls | jobsExecuted | stateUpdates | transportFailures => simp [WorkerPhase.counted]
  | leave | enter | claim | claimThrows | beginRun | endRun | publish | throw | release | unwind
  | finish | wake => exact recorded.advance (by simp)

/-- The owner's steps keep the record or start anew. -/
theorem Recorded.owner (recorded : Recorded executor) (sound : Sound executor)
    (step : OwnerStep executor next) : Recorded next := by
  cases step with
  | refuse idle error refused => exact fun _ => refusal_ne_nil refused
  | start idle accepted =>
      have off : executor.isRunning = false := by
        unfold refusal at accepted
        split at accepted
        · cases accepted
        next off => simpa using off
      rintro (failed | ⟨index, worker, found, there⟩)
      · cases failed
      · have none : executor.beginStart.workers = [] := sound.stopped idle off
        rw [none] at found
        cases found
  | spawn spawning more =>
      rintro (failed | ⟨index, worker, found, there⟩)
      · exact recorded (Or.inl failed)
      · rcases List.mem_append.mp (List.mem_of_getElem? found) with earlier | new
        · obtain ⟨place, holds⟩ := List.mem_iff_getElem?.mp earlier
          exact recorded (Or.inr ⟨place, worker, holds, there⟩)
        · obtain rfl := List.mem_singleton.mp new
          cases there
  | started | spawnFails | stop => exact recorded
  | ask waits asked =>
      rintro (failed | ⟨index, worker, found, there⟩)
      · exact recorded (Or.inl failed)
      · obtain ⟨before, holds, same⟩ := phase_of_requestStop found
        exact recorded (Or.inr ⟨index, before, holds, same.trans there⟩)
  | abandoned what => exact fun _ => startErrorText_ne_nil what
  | stopped =>
      rintro (failed | ⟨index, worker, found, there⟩)
      · exact recorded (Or.inl failed)
      · cases found

/-- In every reachable state a failure is on record. -/
theorem recorded_of_reachable (reachable : Transition.Reachable Initial Step executor) :
    Recorded executor := by
  apply reachable.induction
  · rintro executor initial (failed | ⟨index, worker, found, there⟩)
    · simp [initial.failed] at failed
    · simp [initial.workers] at found
  · intro executor next reachable recorded step
    cases step with
    | owner step => exact recorded.owner (sound_of_reachable reachable) step
    | pool step =>
        cases step with
        | worker index step => exact recorded.worker step
        | other step => cases step <;> exact recorded

/-- A step of the pool; a worker that enters `run_due` shows its index. -/
def Entering (executor : MonitorExecutor platform Runner) :
    Option Nat → MonitorExecutor platform Runner → Prop
  | none, next => PoolStep executor next
  | some index, next => ∃ now, executor.At index .calling ∧
      next = executor.pump index { due := (executor.system.engine.dueJobs now).length }
        (executor.system.claim index now 1)

/-- One for a worker that has looked and is about to call. -/
def aboutToCall : WorkerPhase → Nat
  | .calling => 1
  | _ => 0

/-- The calls that the worker with an index may still make without looking again. -/
def callsOf (executor : MonitorExecutor platform Runner) (index : Nat) : Nat :=
  executor.workers[index]?.elim 0 fun worker => aboutToCall worker.phase

/-- A worker is about to enter one call at most. -/
theorem callsOf_le_one (index : Nat) : executor.callsOf index ≤ 1 := by
  rw [callsOf]
  cases executor.workers[index]? with
  | none => exact Nat.zero_le 1
  | some worker =>
      rw [Option.elim_some]
      unfold aboutToCall
      split <;> decide

/-- Only a worker that has passed its check is. -/
theorem at_of_callsOf (calls : 0 < executor.callsOf index) : executor.At index .calling := by
  rw [callsOf] at calls
  cases found : executor.workers[index]? with
  | none =>
      rw [found] at calls
      cases calls
  | some worker =>
      rw [found, Option.elim_some] at calls
      unfold aboutToCall at calls
      split at calls
      next there => exact ⟨worker, found, there⟩
      next => cases calls

theorem callsOf_of_at (here : executor.At index phase) :
    executor.callsOf index = aboutToCall phase := by
  obtain ⟨worker, found, rfl⟩ := here
  rw [callsOf, found, Option.elim_some]

/-- A step of another worker does not change that. -/
theorem callsOf_advance_ne {other : Nat} (different : other ≠ index) :
    (executor.advance index after).callsOf other = executor.callsOf other := by
  rw [callsOf, callsOf, advance, List.getElem?_modify]
  simp [Ne.symm different]

/-- A worker that goes on to no call makes none possible. -/
theorem callsOf_advance_le (here : executor.At index phase) (quiet : aboutToCall after = 0)
    (other : Nat) : (executor.advance index after).callsOf other ≤ executor.callsOf other := by
  by_cases same : other = index
  · rw [same, callsOf_of_at (at_advance_self here), quiet]
    exact Nat.zero_le _
  · exact (callsOf_advance_ne same).le

/-- The failure and its text. -/
structure Failed (lastError : Bytes) (executor : MonitorExecutor platform Runner) : Prop where
  failed : executor.failed = true
  lastError : executor.lastError = lastError

/-- After a failure no worker comes to call that was not about to. -/
theorem Failed.pool {lastError : Bytes} (failed : Failed lastError executor)
    (recorded : lastError ≠ []) (step : PoolStep executor next) :
    Failed lastError next ∧ ∀ index, next.callsOf index ≤ executor.callsOf index := by
  cases step with
  | other step => cases step <;> exact ⟨⟨failed.failed, failed.lastError⟩, fun _ => le_rfl⟩
  | worker index step =>
      cases step with
      | enter worker found checks unasked healthy =>
          rw [failed.failed] at healthy
          cases healthy
      | leave worker found checks ends =>
          exact ⟨⟨failed.failed, failed.lastError⟩,
            callsOf_advance_le ⟨worker, found, checks⟩ rfl⟩
      | claim here | claimThrows here | wake here =>
          exact ⟨⟨failed.failed, failed.lastError⟩, callsOf_advance_le here rfl⟩
      | beginRun _ here | endRun _ here | publish _ here | throw _ here | release _ here
      | unwind _ here | finish _ here =>
          exact ⟨⟨failed.failed, failed.lastError⟩, callsOf_advance_le here rfl⟩
      | count report counter here =>
          refine ⟨⟨failed.failed, failed.lastError⟩, callsOf_advance_le here ?_⟩
          cases counter with
          | runnerExceptions =>
              rw [WorkerPhase.counted]
              split <;> rfl
          | pumpCalls | jobsExecuted | stateUpdates | transportFailures => rfl
      | record what here =>
          refine ⟨⟨failed.failed, ?_⟩, callsOf_advance_le here rfl⟩
          dsimp only
          rw [failed.lastError, if_neg recorded]
      | fail here => exact ⟨⟨rfl, failed.lastError⟩, callsOf_advance_le here rfl⟩

/-- After a failure every step leaves the executor failed. -/
theorem Failed.entering {lastError : Bytes} (failed : Failed lastError executor)
    (recorded : lastError ≠ []) {event : Option Nat} (step : executor.Entering event next) :
    Failed lastError next := by
  cases event with
  | none => exact (failed.pool recorded step).1
  | some index =>
      obtain ⟨now, here, rfl⟩ := step
      exact ⟨failed.failed, failed.lastError⟩

/-- Who enters `run_due` needs to look again before the next call. -/
theorem callsOf_entered (step : executor.Entering (some index) next) :
    next.callsOf index < executor.callsOf index ∧
      ∀ other, other ≠ index → next.callsOf other ≤ executor.callsOf other := by
  obtain ⟨now, here, rfl⟩ := step
  refine ⟨?_, fun other different => (callsOf_advance_ne different).le⟩
  have there : (executor.advance index
      (.pumping { due := (executor.system.engine.dueJobs now).length })).callsOf index = 0 :=
    callsOf_of_at (at_advance_self here)
  rw [callsOf_of_at here]
  exact there.trans_lt Nat.zero_lt_one

/-- Once a pump has thrown and the failure is announced, until the owner acts: the
executor does not run, the text of `error()` stays as it is, and only workers that
had already looked enter `run_due` again, each at most once, so no more than there
are workers, which are at most eight. -/
theorem executor_failure {last : MonitorExecutor platform Runner} {callers : List Nat}
    (reachable : Transition.Reachable Initial Step executor) (failed : executor.failed = true)
    (run : Trace Entering executor callers last) :
    last.running = false ∧ last.lastError = executor.lastError ∧ last.lastError ≠ [] ∧
      callers.Nodup ∧ (∀ index ∈ callers, executor.At index .calling) ∧
      callers.length ≤ maximumMonitorWorkerCount := by
  have recorded := recorded_of_reachable reachable (Or.inl failed)
  have start : Failed executor.lastError executor := ⟨failed, rfl⟩
  obtain ⟨still, text⟩ := run.keeps start fun _ _ _ holds step => holds.entering recorded step
  have counted := Trace.count_add_le callsOf run start
    (fun _ _ _ holds step => holds.entering recorded step)
    (fun _ _ holds step => (holds.pool recorded step).2)
    (fun _ _ _ _ step => callsOf_entered step)
  have once : callers.Nodup := by
    apply List.nodup_iff_count_le_one.mpr
    intro index
    have bound := counted index
    have most := @callsOf_le_one _ _ executor index
    omega
  have looked (index : Nat) (member : index ∈ callers) : executor.At index .calling := by
    have shown := List.count_pos_iff.mpr member
    have bound := counted index
    exact at_of_callsOf (by omega)
  have inside : callers ⊆ List.range executor.workers.length := by
    intro index member
    obtain ⟨worker, found, -⟩ := looked index member
    exact List.mem_range.mpr (List.getElem?_eq_some_iff.mp found).1
  have few := (List.subperm_of_subset once inside).length_le
  rw [List.length_range] at few
  have bounded := (sound_of_reachable reachable).bounded
  refine ⟨?_, text, text ▸ recorded, once, looked, by omega⟩
  rw [running, still, Bool.not_true, Bool.and_false]

/-- The first worker's call has thrown, while a second one is about to call. -/
def failedExecutor : MonitorExecutor .linux Unit :=
  { spawningExecutor with
    workers := [{}, { phase := .calling }]
    failed := true
    lastError := failureText none }

theorem reachable_failedExecutor : Transition.Reachable Initial Step failedExecutor := by
  have spawned : Transition.Reachable Initial Step
      { spawningExecutor with workers := [{}, {}] } :=
    reachable_spawningExecutor.tail (.owner (.spawn spawningExecutor rfl (by decide)))
  have entered := spawned.tail (.pool (.worker 1 (.enter _ {} rfl rfl rfl rfl)))
  have called := entered.tail (.pool (.worker 0 (.enter _ {} rfl rfl rfl rfl)))
  have threw := called.tail (.pool (.worker 0 (.claimThrows _ ⟨_, rfl, rfl⟩ none)))
  have recorded := threw.tail (.pool (.worker 0 (.record _ none ⟨_, rfl, rfl⟩)))
  exact recorded.tail (.pool (.worker 0 (.fail _ ⟨_, rfl, rfl⟩)))

/-- The second worker claims the monitor after the failure, and nobody else. -/
theorem executor_failure_failed :
    (failedExecutor.pump 1 { due := 1 } (failedExecutor.system.claim 1 0 1)).running = false ∧
    (failedExecutor.pump 1 { due := 1 } (failedExecutor.system.claim 1 0 1)).lastError =
      failureText none ∧ failedExecutor.At 1 .calling := by
  have enters : failedExecutor.Entering (some 1)
      (failedExecutor.pump 1 { due := 1 } (failedExecutor.system.claim 1 0 1)) :=
    ⟨0, ⟨_, rfl, rfl⟩, rfl⟩
  have failure := executor_failure reachable_failedExecutor rfl
    ((Trace.refl failedExecutor).tail enters)
  exact ⟨failure.1, failure.2.1, failure.2.2.2.2.1 1 List.mem_cons_self⟩

end MonitorExecutor

end PixelStatus.Host
