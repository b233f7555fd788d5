/-
# Stopping the monitor executor

A worker that has been asked to stop still finishes the call it is in, counts
what the call reports, and records a failure. The steps it may take until then
are numbered, so every run of the workers comes to an end: what remains falls
with every step of a worker, whatever the others do, and while some worker has
not ended some worker can go on. Behind the join the engine is at rest.
-/

import PixelStatus.Host.ExecutorRuns

namespace PixelStatus.Host.MonitorExecutor

open MonitorConcurrency (Pump)

variable {platform : Platform} {Runner : Type}
  {executor next last : MonitorExecutor platform Runner} {index : Nat}
  {phase after : WorkerPhase} {before report : MonitorPumpReport}

/-! ## What a worker may still do -/

/-- The steps until a pump is through with the job it works on. -/
def jobSteps : MonitorConcurrency.Phase → Nat
  | .ready => 4
  | .running => 3
  | .finished _ => 2
  | .published | .unwinding => 1

/-- The steps until a pump is through with all its jobs and ready to return. -/
def pumpSteps (pump : Pump) : Nat := 4 * (pump.due.length - pump.index) + jobSteps pump.phase

/-- The steps until a report is counted and the worker is back at its check. -/
def countSteps : Counter → Nat
  | .pumpCalls => 7
  | .jobsExecuted => 6
  | .stateUpdates => 5
  | .transportFailures => 4
  | .runnerExceptions => 3

/-- The steps until a worker that has been asked to stop has ended. -/
def workerSteps (pump : Option Pump) : WorkerPhase → Nat
  | .ended => 0
  | .checking => 1
  | .sleeping | .failing => 2
  | .catching _ => 3
  | .counting _ counter => countSteps counter
  | .pumping _ => 4 + pump.elim 0 pumpSteps
  | .calling => 13

/-- The same for the worker with an index. -/
def stepsOf (executor : MonitorExecutor platform Runner) (index : Nat) : Nat :=
  executor.workers[index]?.elim 0 fun worker =>
    workerSteps (executor.system.pumps index) worker.phase

/-- A step that is none of the owner's; a step of a worker shows its index. -/
def Turn (executor : MonitorExecutor platform Runner) :
    Option Nat → MonitorExecutor platform Runner → Prop
  | none, next => OtherStep executor next
  | some index, next => WorkerStep index executor next

/-- Some worker goes on. -/
def Works (executor next : MonitorExecutor platform Runner) : Prop :=
  ∃ index, WorkerStep index executor next

/-- The steps that are left to a worker depend on where it is. -/
theorem stepsOf_of_at (here : executor.At index phase) :
    executor.stepsOf index = workerSteps (executor.system.pumps index) phase := by
  obtain ⟨worker, found, rfl⟩ := here
  rw [stepsOf, found, Option.elim_some]

/-- A worker of an executor has at most thirteen steps left. -/
theorem stepsOf_le (sound : Sound executor) (index : Nat) : executor.stepsOf index ≤ 13 := by
  rw [stepsOf]
  cases found : executor.workers[index]? with
  | none => exact Nat.zero_le 13
  | some worker =>
      rw [Option.elim_some]
      cases there : worker.phase with
      | pumping report =>
          rw [workerSteps]
          cases busy : executor.system.pumps index with
          | none => decide
          | some pump =>
              have room := (sound.tallies ⟨worker, found, there⟩ busy).room
              have job : jobSteps pump.phase ≤ 4 := by
                cases pump.phase <;> simp [jobSteps]
              rw [Option.elim_some, pumpSteps]
              omega
      | counting report counter => cases counter <;> simp [workerSteps, countSteps]
      | checking | calling | sleeping | catching | failing | ended => simp [workerSteps]

/-- A worker has fewer steps left, and the others as many as before. -/
structure Nearer (index : Nat) (executor next : MonitorExecutor platform Runner) : Prop where
  own : next.stepsOf index < executor.stepsOf index
  others : ∀ other, other ≠ index → next.stepsOf other = executor.stepsOf other

/-- A worker goes on to a place from which it is nearer to its end. -/
theorem nearer (here : executor.At index phase)
    (workers : next.workers = (executor.advance index after).workers)
    (others : ∀ other, other ≠ index →
      next.system.pumps other = executor.system.pumps other)
    (fewer : workerSteps (next.system.pumps index) after <
      workerSteps (executor.system.pumps index) phase) : Nearer index executor next where
  own := by
    have there : next.At index after := by
      have moved : (executor.advance index after).At index after := at_advance_self here
      obtain ⟨worker, found, place⟩ := moved
      exact ⟨worker, by rw [workers, found], place⟩
    rwa [stepsOf_of_at there, stepsOf_of_at here]
  others other different := by
    rw [stepsOf, stepsOf, others other different, workers, advance, List.getElem?_modify]
    simp [Ne.symm different]

/-! ## Every step of a worker brings the end nearer -/

/-- Within a pump the numbers of the phases count down, and a release makes up
for the next phase with the job that is done. -/
theorem nearer_pump (here : executor.At index (.pumping before))
    (workers : next.workers = (executor.advance index (.pumping report)).workers)
    {pump later : Pump} (busy : executor.system.pumps index = some pump)
    (pumps : next.system.pumps = Function.update executor.system.pumps index (some later))
    (fewer : pumpSteps later < pumpSteps pump) : Nearer index executor next := by
  refine nearer here workers (fun other different => ?_) ?_
  · rw [pumps, Function.update_of_ne different]
  · rw [pumps, Function.update_self, busy]
    exact Nat.add_lt_add_left fewer 4

/-- Every step brings a worker that was asked to stop nearer to its end. -/
theorem nearer_worker (sound : Sound executor) (asked : executor.Asked)
    (step : WorkerStep index executor next) : Nearer index executor next := by
  have others {pump : Option Pump} (other : Nat) (different : other ≠ index) :
      Function.update executor.system.pumps index pump other = executor.system.pumps other :=
    Function.update_of_ne different _ _
  have within {pump : Pump} (busy : executor.system.pumps index = some pump)
      (works : pump.phase ≠ .ready) : pump.index < pump.due.length :=
    ((MonitorConcurrency.invariant_of_reachable sound.reachable).working index pump busy).2 works
  cases step with
  | leave worker found checks ends =>
      exact nearer ⟨worker, found, checks⟩ rfl (fun _ _ => rfl) Nat.zero_lt_one
  | enter worker found checks unasked healthy =>
      rw [asked worker (List.mem_of_getElem? found)] at unasked
      cases unasked
  | claim calls now =>
      refine nearer calls rfl others ?_
      have mine : (executor.system.claim index now 1).pumps index = some _ :=
        Function.update_self _ _ _
      have room : (MonitorConcurrency.issue executor.system.nextTicket
          (executor.system.engine.claimed now 1)).length ≤ 1 := length_issue_claimed
      rw [MonitorExecutor.pump, mine, workerSteps, workerSteps, Option.elim_some, pumpSteps,
        jobSteps]
      dsimp only
      omega
  | claimThrows calls what =>
      refine nearer calls rfl (fun _ _ => rfl) ?_
      simp [workerSteps]
  | beginRun report pumps pump busy ready claim current =>
      refine nearer_pump pumps rfl busy rfl ?_
      simp [pumpSteps, ready, jobSteps]
  | endRun report pumps pump busy runs outcome =>
      refine nearer_pump pumps rfl busy rfl ?_
      simp [pumpSteps, runs, jobSteps]
  | publish report pumps pump busy outcome finished claim current job registered =>
      refine nearer_pump pumps rfl busy rfl ?_
      simp [pumpSteps, finished, jobSteps]
  | throw report pumps pump busy outcome finished =>
      refine nearer_pump pumps rfl busy rfl ?_
      simp [pumpSteps, finished, jobSteps]
  | release report pumps pump busy published claim current =>
      refine nearer_pump pumps rfl busy rfl ?_
      have inside := within busy (by simp [published])
      simp only [pumpSteps, published, jobSteps]
      omega
  | unwind report pumps pump busy unwinding what =>
      refine nearer pumps rfl others ?_
      have inside := within busy (by simp [unwinding])
      rw [busy]
      simp only [workerSteps, Option.elim_some, pumpSteps, unwinding, jobSteps]
      omega
  | finish report pumps pump busy ready done =>
      refine nearer pumps rfl others ?_
      rw [busy]
      simp only [workerSteps, countSteps, Option.elim_some, pumpSteps, ready, jobSteps]
      omega
  | count report counter counts =>
      refine nearer counts rfl (fun _ _ => rfl) ?_
      cases counter with
      | runnerExceptions =>
          rw [WorkerPhase.counted]
          split <;> simp [workerSteps, countSteps]
      | pumpCalls | jobsExecuted | stateUpdates | transportFailures =>
          simp [WorkerPhase.counted, workerSteps, countSteps]
  | wake sleeps => exact nearer sleeps rfl (fun _ _ => rfl) Nat.one_lt_two
  | record what catches => exact nearer catches rfl (fun _ _ => rfl) (Nat.lt_succ_self 2)
  | fail fails => exact nearer fails rfl (fun _ _ => rfl) Nat.one_lt_two

/-- Who has been asked to stop stays asked. -/
theorem asked_of_worker (asked : executor.Asked) (step : WorkerStep index executor next) :
    next.Asked := by
  have goesOn {after : WorkerPhase}
      (workers : next.workers = (executor.advance index after).workers) : next.Asked := by
    intro worker member
    rw [workers, advance] at member
    obtain ⟨place, found⟩ := List.mem_iff_getElem?.mp member
    rw [List.getElem?_modify] at found
    obtain ⟨before, holds, rfl⟩ := Option.map_eq_some_iff.mp found
    have requested := asked before (List.mem_of_getElem? holds)
    split <;> exact requested
  cases step <;> exact goesOn rfl

/-- Nothing from elsewhere takes it further away. -/
theorem stepsOf_other (step : OtherStep executor next) :
    next.stepsOf index = executor.stepsOf index := by
  cases step <;> rfl

/-- Nothing from elsewhere takes the request back. -/
theorem asked_of_other (asked : executor.Asked) (step : OtherStep executor next) :
    next.Asked := by
  cases step <;> exact asked

/-! ## Nobody gets stuck -/

/-- A worker that pumps can go on with its pump; what a runner returned is
published. -/
theorem works_of_pumping (sound : Sound executor)
    (here : executor.At index (.pumping report)) : ∃ next, executor.Works next := by
  obtain ⟨pump, busy⟩ := sound.manned index report here
  have invariant := MonitorConcurrency.invariant_of_reachable sound.reachable
  obtain ⟨inside, working⟩ := invariant.working index pump busy
  cases there : pump.phase with
  | ready =>
      cases current : pump.current with
      | none =>
          have done : pump.due.length ≤ pump.index := List.getElem?_eq_none_iff.mp current
          exact ⟨_, index, .finish executor report here pump busy there
            (le_antisymm inside done)⟩
      | some claim =>
          exact ⟨_, index, .beginRun executor report here pump busy there claim current⟩
  | running => exact ⟨_, index, .endRun executor report here pump busy there (.threw none)⟩
  | finished outcome =>
      have indexed := working (by simp [there])
      have current : pump.current = some pump.due[pump.index] :=
        List.getElem?_eq_getElem indexed
      have held : pump.due[pump.index].job ∈ executor.system.held index := by
        rw [MonitorConcurrency.System.held_of_pump busy,
          MonitorConcurrency.System.unreleased_eq_cons current]
        exact List.mem_cons_self
      obtain ⟨job, registered, -⟩ := (invariant.lease.marked_iff _).mpr ⟨index, held⟩
      exact ⟨_, index, .publish executor report here pump busy outcome there _ current job
        registered⟩
  | published =>
      have current := List.getElem?_eq_getElem (working (by simp [there]))
      exact ⟨_, index, .release executor report here pump busy there _ current⟩
  | unwinding => exact ⟨_, index, .unwind executor report here pump busy there none⟩

/-- While a worker has not ended it can go on. -/
theorem works_of_at (sound : Sound executor) (here : executor.At index phase)
    (lives : phase ≠ .ended) : ∃ next, executor.Works next := by
  obtain ⟨worker, found, rfl⟩ := here
  cases there : worker.phase with
  | checking =>
      by_cases ends : worker.stopRequested = true ∨ executor.failed = true
      · exact ⟨_, index, .leave executor worker found there ends⟩
      · rw [not_or, Bool.not_eq_true, Bool.not_eq_true] at ends
        exact ⟨_, index, .enter executor worker found there ends.1 ends.2⟩
  | calling => exact ⟨_, index, .claim executor ⟨worker, found, there⟩ 0⟩
  | pumping report => exact works_of_pumping sound ⟨worker, found, there⟩
  | counting report counter =>
      exact ⟨_, index, .count executor report counter ⟨worker, found, there⟩⟩
  | sleeping => exact ⟨_, index, .wake executor ⟨worker, found, there⟩⟩
  | catching what => exact ⟨_, index, .record executor what ⟨worker, found, there⟩⟩
  | failing => exact ⟨_, index, .fail executor ⟨worker, found, there⟩⟩
  | ended => exact absurd there lives

/-- As long as a worker has not ended, one can take a step. -/
theorem works_of_not_joined (sound : Sound executor) (unjoined : ¬ executor.Joined) :
    ∃ next, executor.Works next := by
  obtain ⟨worker, unended⟩ := not_forall.mp unjoined
  obtain ⟨member, lives⟩ := Classical.not_imp.mp unended
  obtain ⟨index, found⟩ := List.mem_iff_getElem?.mp member
  exact works_of_at sound ⟨worker, found, rfl⟩ lives

/-! ## The end of every run -/

/-- A start was given up when its first worker was there, and the worker asked to
stop. -/
def askedExecutor : MonitorExecutor .linux Unit :=
  { spawningExecutor with workers := [{ stopRequested := true }], owner := .abandoning none }

theorem reachable_askedExecutor : Transition.Reachable Initial Step askedExecutor :=
  (reachable_spawningExecutor.tail (.owner (.spawnFails spawningExecutor rfl none))).tail
    (.owner (.ask _ (by simp) 0))

theorem asked_askedExecutor : askedExecutor.Asked := by
  intro worker member
  obtain rfl := List.mem_singleton.mp member
  rfl

/-- Once every worker has been asked to stop, no worker takes more than thirteen
steps, in whatever order and whatever registrations and other writers do in
between, and nobody but the workers, at most eight, takes any; and whenever none
of them can go on all of them have ended, so the join returns. -/
theorem stop_terminates {turns : List Nat}
    (reachable : Transition.Reachable Initial Step executor) (asked : executor.Asked)
    (run : Trace Turn executor turns last) :
    (∀ index, turns.count index ≤ 13) ∧
      (∀ index ∈ turns, index < executor.workers.length) ∧
      executor.workers.length ≤ maximumMonitorWorkerCount ∧
      (last.Joined ∨ ∃ next, last.Works next) := by
  have sound := sound_of_reachable reachable
  have start : executor.Sound ∧ executor.Asked := ⟨sound, asked⟩
  have kept (state : MonitorExecutor platform Runner) (event : Option Nat)
      (next : MonitorExecutor platform Runner) (holds : state.Sound ∧ state.Asked)
      (step : Turn state event next) : next.Sound ∧ next.Asked := by
    cases event with
    | none => exact ⟨holds.1.other step, asked_of_other holds.2 step⟩
    | some index => exact ⟨holds.1.worker step, asked_of_worker holds.2 step⟩
  have counted := Trace.count_add_le stepsOf run start kept
    (fun _ _ _ step _ => (stepsOf_other step).le)
    (fun _ _ _ holds step =>
      have toEnd := nearer_worker holds.1 holds.2 step
      ⟨toEnd.own, fun other different => (toEnd.others other different).le⟩)
  obtain ⟨soundLast, -⟩ := run.keeps start kept
  have bounded := sound.bounded
  refine ⟨?_, ?_, by omega, ?_⟩
  · intro index
    have few := counted index
    have most := stepsOf_le sound index
    omega
  · intro index member
    have shown := List.count_pos_iff.mpr member
    have few := counted index
    by_contra outside
    have absent : executor.stepsOf index = 0 := by
      rw [stepsOf, List.getElem?_eq_none (Nat.le_of_not_lt outside)]
      rfl
    omega
  · by_cases joined : last.Joined
    · exact Or.inl joined
    · exact Or.inr (works_of_not_joined soundLast joined)

/-- A worker asked to stop at its check has one step left, and it ends. -/
theorem stop_terminates_asked : [0].count 0 ≤ 13 ∧ 0 < 1 ∧ 1 ≤ maximumMonitorWorkerCount ∧
    ((askedExecutor.advance 0 .ended).Joined ∨
      ∃ next, (askedExecutor.advance 0 .ended).Works next) := by
  have leaves : Turn askedExecutor (some 0) (askedExecutor.advance 0 .ended) :=
    .leave askedExecutor { stopRequested := true } rfl rfl (Or.inl rfl)
  have stops := stop_terminates reachable_askedExecutor asked_askedExecutor
    ((Trace.refl askedExecutor).tail leaves)
  exact ⟨stops.1 0, stops.2.1 0 List.mem_cons_self, stops.2.2⟩

/-- In every reachable state the runner of a job is executed by at most one
worker, and by none but the executor's own, which are at most as many as its
options say and at most eight; and while the executor is stopped nothing is
executed, no job is marked in flight, and no worker can take a step. -/
theorem executor_exclusion (reachable : Transition.Reachable Initial Step executor) :
    (∀ place first second, executor.system.Executes first place →
      executor.system.Executes second place → first = second) ∧
    (∀ index place, executor.system.Executes index place → index < executor.workers.length) ∧
    executor.workers.length ≤ min executor.options.workerCount maximumMonitorWorkerCount ∧
    (executor.owner = .idle → executor.isRunning = false →
      (∀ place, ¬ executor.system.Marked place) ∧ ∀ next, ¬ executor.Works next) := by
  have sound := sound_of_reachable reachable
  have invariant := MonitorConcurrency.invariant_of_reachable sound.reachable
  refine ⟨?_, ?_, sound.bounded, ?_⟩
  · intro place first second runs again
    exact invariant.lease.unique (MonitorConcurrency.System.mem_held_of_executes runs)
      (MonitorConcurrency.System.mem_held_of_executes again)
  · rintro index place ⟨pump, claim, busy, -⟩
    obtain ⟨report, ⟨worker, found, -⟩, -⟩ := sound.pumping index pump busy
    exact (List.getElem?_eq_some_iff.mp found).1
  · intro idle off
    have none := sound.stopped idle off
    have nobody (index : Nat) (phase : WorkerPhase) : ¬ executor.At index phase := by
      rintro ⟨worker, found, -⟩
      rw [none] at found
      cases found
    refine ⟨?_, ?_⟩
    · intro place marked
      obtain ⟨index, held⟩ := (invariant.lease.marked_iff place).mp marked
      cases busy : executor.system.pumps index with
      | none =>
          rw [MonitorConcurrency.System.held_of_idle busy] at held
          cases held
      | some pump =>
          obtain ⟨report, here, -⟩ := sound.pumping index pump busy
          exact nobody index _ here
    · rintro next ⟨index, step⟩
      cases step with
      | leave worker found | enter worker found =>
          exact nobody index _ ⟨worker, found, rfl⟩
      | claim here | claimThrows here | wake here => exact nobody index _ here
      | beginRun _ here | endRun _ here | publish _ here | throw _ here | release _ here
      | unwind _ here | finish _ here | record _ here => exact nobody index _ here
      | count report counter here => exact nobody index _ here
      | fail here => exact nobody index _ here

/-- The one worker is inside the monitor's runner, and nobody else can be. -/
theorem executor_exclusion_executing :
    executingExecutor.system.Executes 0 0 ∧
    (∀ place first second, executingExecutor.system.Executes first place →
      executingExecutor.system.Executes second place → first = second) ∧
    (∀ index place, executingExecutor.system.Executes index place → index < 1) :=
  have exclusion := executor_exclusion reachable_executingExecutor
  ⟨⟨_, ⟨0, 0⟩, rfl, rfl, rfl, rfl⟩, exclusion.1, exclusion.2.1⟩

end PixelStatus.Host.MonitorExecutor
