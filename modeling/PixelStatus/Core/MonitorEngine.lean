/-
# The monitor engine

The engine owns the registered jobs. A pump first claims, under the engine's
lock, the due jobs that are not in flight, then runs, publishes and releases
them one by one. The pieces of `run_due` are separate definitions here, so that
the sequential pump below and the interleaved pumps of the concurrency model
are built from the same ones.
-/

import PixelStatus.Core.Evaluator
import PixelStatus.Core.State

namespace PixelStatus

def maximumMonitorCount : Nat := 256

structure MonitorDefinition where
  id : Bytes
  interval : Duration := 0
  ttl : Option Duration := none
  evaluation : EvaluationPolicy := {}
  deriving DecidableEq

/-- What `add` asks of a definition. -/
structure MonitorDefinition.Valid (platform : Platform) (definition : MonitorDefinition) :
    Prop where
  id : isValidIdentifier definition.id = true
  interval : 0 < definition.interval
  ttl : ∀ ttl ∈ definition.ttl, 0 < ttl
  evaluation : Evaluator.validate platform definition.evaluation = none

/-- A registered monitor. Its definition passed the checks of `add`. -/
structure Job (platform : Platform) (Runner : Type) where
  definition : MonitorDefinition
  valid : definition.Valid platform
  runner : Runner
  nextDue : TimePoint
  inFlight : Bool

/-- The jobs in registration order, under distinct ids. -/
structure MonitorEngine (platform : Platform) (Runner : Type) where
  jobs : List (Job platform Runner)
  distinct : (jobs.map fun job => job.definition.id).Nodup

structure MonitorPumpReport where
  due : Nat := 0
  executed : Nat := 0
  stateUpdates : Nat := 0
  transportFailures : Nat := 0
  runnerExceptions : Nat := 0
  deriving DecidableEq

/-- How a runner call ends: with a result, or with an exception that may carry
a text. -/
inductive RunnerOutcome
  | returned (result : MonitorResult)
  | threw (what : Option Bytes)
  deriving DecidableEq

/-- The result a pump works on, with the text its exception handlers build. -/
def RunnerOutcome.result : RunnerOutcome → MonitorResult
  | .returned result => result
  | .threw (some what) =>
      { error := .internal, detail := bytes "Monitor runner exception: " ++ what }
  | .threw none =>
      { error := .internal, detail := bytes "Monitor runner exception: unknown error" }

variable {platform : Platform} {Runner : Type}

namespace Job

/-- Claiming moves the job by whole intervals behind `now` and marks it. `add`
bounds neither the interval nor the first due time from above, so every count
that the source forms here may leave its word. -/
def claim (job : Job platform Runner) (now : TimePoint) : Job platform Runner :=
  let overdue := durationCast (toCount (now - job.nextDue))
  let periods := overdue.tdiv job.definition.interval + 1
  { job with
    nextDue := toCount
      (job.nextDue + toCount (nanoseconds (toCount (job.definition.interval * periods))))
    inFlight := true }

def release (job : Job platform Runner) : Job platform Runner :=
  { job with inFlight := false }

def isDue (job : Job platform Runner) (now : TimePoint) : Bool :=
  !job.inFlight && decide (job.nextDue ≤ now)

/-- The state a finished run publishes. -/
def publication (job : Job platform Runner) (outcome : RunnerOutcome) (now : TimePoint) :
    MonitorState :=
  let result := outcome.result
  let detail :=
    if !result.transportSuccess && result.detail.isEmpty then monitorErrorName result.error
    else result.detail
  let evaluated := Evaluator.evaluate platform result job.definition.evaluation
  let observedAt := result.observedAt.getD now
  { id := job.definition.id
    status := evaluated.status
    value := result.value
    message := detail
    observedAt := observedAt
    updatedAt := observedAt
    ttl := job.definition.ttl }

/-- A job's publications pass the store's own checks. -/
theorem acceptable_publication (job : Job platform Runner) (outcome : RunnerOutcome)
    (now : TimePoint) : (job.publication outcome now).Acceptable := by
  refine ⟨isValidIdentifier_ne_nil job.valid.id, ?_, fun ttl httl => ?_⟩
  · have hnames := Evaluator.namesValid_of_validate job.valid.evaluation
    exact isValidIdentifier_ne_nil
      (Evaluator.isValidIdentifier_evaluate hnames outcome.result)
  · exact (job.valid.ttl ttl httl).le

end Job

namespace MonitorEngine

def empty : MonitorEngine platform Runner where
  jobs := []
  distinct := List.nodup_nil

/-- Append a job whose id is new. -/
def push (engine : MonitorEngine platform Runner) (job : Job platform Runner)
    (fresh : job.definition.id ∉ engine.jobs.map fun job => job.definition.id) :
    MonitorEngine platform Runner where
  jobs := engine.jobs ++ [job]
  distinct := by
    rw [List.map_append, List.map_singleton, List.nodup_append_comm]
    exact List.nodup_cons.mpr ⟨fresh, engine.distinct⟩

def add (engine : MonitorEngine platform Runner) (definition : MonitorDefinition)
    (runner : Option Runner) (firstDue : TimePoint) :
    Except Bytes (MonitorEngine platform Runner) :=
  if hid : isValidIdentifier definition.id = false then
    .error (bytes "monitor id is invalid")
  else if hinterval : definition.interval ≤ 0 then
    .error (bytes "monitor interval must be greater than zero")
  else if httl : ∃ ttl ∈ definition.ttl, ttl ≤ 0 then
    .error (bytes "monitor TTL must be greater than zero")
  else match runner with
    | none => .error (bytes "monitor runner is required")
    | some runner =>
        match hevaluation : Evaluator.validate platform definition.evaluation with
        | some error => .error error
        | none =>
            if engine.jobs.length ≥ maximumMonitorCount then
              .error (bytes "monitor limit reached")
            else if hfresh : definition.id ∈ engine.jobs.map fun job => job.definition.id then
              .error (bytes "monitor id is already registered")
            else .ok (engine.push
              { definition, runner, nextDue := firstDue, inFlight := false,
                valid :=
                  { id := by simpa using hid
                    interval := not_le.mp hinterval
                    ttl := fun ttl hmem => not_le.mp fun hle => httl ⟨ttl, hmem, hle⟩
                    evaluation := hevaluation } } hfresh)

/-- `add` succeeds with a valid definition under a new id while there is room. -/
theorem add_of_valid {engine : MonitorEngine platform Runner} {definition : MonitorDefinition}
    {runner : Runner} {firstDue : TimePoint} (valid : definition.Valid platform)
    (room : engine.jobs.length < maximumMonitorCount)
    (fresh : definition.id ∉ engine.jobs.map fun job => job.definition.id) :
    engine.add definition (some runner) firstDue = .ok (engine.push
      { definition, valid, runner, nextDue := firstDue, inFlight := false } fresh) := by
  have id : ¬ isValidIdentifier definition.id = false := by simp [valid.id]
  have ttl : ¬ ∃ ttl ∈ definition.ttl, ttl ≤ 0 := by
    rintro ⟨ttl, member, low⟩
    exact absurd (valid.ttl ttl member) (not_lt.mpr low)
  rw [add, dif_neg id, dif_neg (not_le.mpr valid.interval), dif_neg ttl]
  dsimp only
  split
  next error refused => exact absurd refused (by simp [valid.evaluation])
  · rw [if_neg (Nat.not_le.mpr room), dif_neg fresh]

/-- Change jobs in place. Their definitions stay, so their ids do. -/
def modifyJobs (engine : MonitorEngine platform Runner)
    (change : Nat → Job platform Runner → Job platform Runner)
    (keeps : ∀ index job, (change index job).definition = job.definition) :
    MonitorEngine platform Runner where
  jobs := engine.jobs.mapIdx change
  distinct := by
    have hids : (engine.jobs.mapIdx change).map (fun job => job.definition.id) =
        engine.jobs.map fun job => job.definition.id := by
      apply List.ext_getElem <;> simp [keeps]
    rw [hids]
    exact engine.distinct

/-- The order in which due jobs are claimed: earliest slot first, then by id. -/
def claimOrder (left right : Job platform Runner × Nat) : Prop :=
  left.1.nextDue < right.1.nextDue ∨
    (left.1.nextDue = right.1.nextDue ∧ left.1.definition.id ≤ right.1.definition.id)

instance : DecidableRel (@claimOrder platform Runner) :=
  fun left right => inferInstanceAs (Decidable
    (left.1.nextDue < right.1.nextDue ∨
      (left.1.nextDue = right.1.nextDue ∧ left.1.definition.id ≤ right.1.definition.id)))

/-- The due jobs with their places in the registration order, sorted. -/
def dueJobs (engine : MonitorEngine platform Runner) (now : TimePoint) :
    List (Job platform Runner × Nat) :=
  (engine.jobs.zipIdx.filter fun item => item.1.isDue now).insertionSort claimOrder

/-- The places of the jobs that a pump claims. -/
def claimed (engine : MonitorEngine platform Runner) (now : TimePoint)
    (maximumRuns : Nat) : List Nat :=
  ((engine.dueJobs now).take maximumRuns).map Prod.snd

/-- The locked first part of `run_due`. -/
def claim (engine : MonitorEngine platform Runner) (now : TimePoint) (maximumRuns : Nat) :
    MonitorEngine platform Runner :=
  engine.modifyJobs
    (fun index job => if index ∈ engine.claimed now maximumRuns then job.claim now else job)
    (by
      intro index job
      split <;> rfl)

/-- Clear the marks of the jobs at the given places. -/
def release (engine : MonitorEngine platform Runner) (places : List Nat) :
    MonitorEngine platform Runner :=
  engine.modifyJobs (fun index job => if index ∈ places then job.release else job)
    (by
      intro index job
      split <;> rfl)

/-- The loop of `run_due` over the claimed places, when no publication throws.
`run` tells how the runner of the job at a place ends. -/
def execute (run : Nat → RunnerOutcome) (now : TimePoint) :
    List Nat → MonitorEngine platform Runner × StateStore × MonitorPumpReport →
      MonitorEngine platform Runner × StateStore × MonitorPumpReport
  | [], state => state
  | place :: places, (engine, store, report) =>
      match engine.jobs[place]? with
      | none => execute run now places (engine, store, report)
      | some job =>
          let outcome := run place
          let (updated, store) := store.upsert (job.publication outcome now)
          let report :=
            { report with
              executed := report.executed + 1
              runnerExceptions := report.runnerExceptions +
                (match outcome with | .threw _ => 1 | .returned _ => 0)
              transportFailures := report.transportFailures +
                (if outcome.result.transportSuccess then 0 else 1)
              stateUpdates := report.stateUpdates + (if updated then 1 else 0) }
          execute run now places (engine.release [place], store, report)

def runDue (engine : MonitorEngine platform Runner) (store : StateStore)
    (run : Nat → RunnerOutcome) (now : TimePoint) (maximumRuns : Nat) :
    MonitorEngine platform Runner × StateStore × MonitorPumpReport :=
  execute run now (engine.claimed now maximumRuns)
    (engine.claim now maximumRuns, store, { due := (engine.dueJobs now).length })

/-! ## What claiming and releasing change -/

variable {engine : MonitorEngine platform Runner} {now : TimePoint} {maximumRuns : Nat}

/-- A claim moves the jobs it takes and changes no other. -/
theorem getElem?_claim (index : Nat) :
    (engine.claim now maximumRuns).jobs[index]? =
      (engine.jobs[index]?).map fun job =>
        if index ∈ engine.claimed now maximumRuns then job.claim now else job :=
  List.getElem?_mapIdx

/-- A release changes the jobs it names and no other. -/
theorem getElem?_release (places : List Nat) (index : Nat) :
    (engine.release places).jobs[index]? =
      (engine.jobs[index]?).map fun job => if index ∈ places then job.release else job :=
  List.getElem?_mapIdx

/-- A successful registration appends one job that is not in flight. -/
theorem jobs_of_add {definition : MonitorDefinition} {runner : Option Runner}
    {firstDue : TimePoint} {added : MonitorEngine platform Runner}
    (hadd : engine.add definition runner firstDue = .ok added) :
    ∃ job, added.jobs = engine.jobs ++ [job] ∧ job.inFlight = false ∧
      job.definition = definition ∧ job.nextDue = firstDue := by
  unfold add at hadd
  split at hadd
  · simp at hadd
  split at hadd
  · simp at hadd
  split at hadd
  · simp at hadd
  split at hadd
  · simp at hadd
  split at hadd
  · simp at hadd
  split at hadd
  · simp at hadd
  split at hadd
  · simp at hadd
  obtain rfl := Except.ok.inj hadd
  exact ⟨_, rfl, rfl, rfl, rfl⟩

/-- The due jobs are those whose time has come, with their places. -/
theorem mem_dueJobs {job : Job platform Runner} {place : Nat} :
    (job, place) ∈ engine.dueJobs now ↔
      engine.jobs[place]? = some job ∧ job.isDue now = true := by
  rw [dueJobs, (List.perm_insertionSort claimOrder _).mem_iff, List.mem_filter,
    List.mem_zipIdx_iff_getElem?]

/-- A claimed place holds a job that was due and not in flight. -/
theorem isDue_of_mem_claimed {index : Nat} (hclaimed : index ∈ engine.claimed now maximumRuns) :
    ∃ job, engine.jobs[index]? = some job ∧ job.isDue now = true := by
  obtain ⟨⟨job, place⟩, hitem, rfl⟩ := List.mem_map.mp hclaimed
  exact ⟨job, mem_dueJobs.mp (List.mem_of_mem_take hitem)⟩

/-- No place is listed twice. -/
theorem nodup_dueJobs : ((engine.dueJobs now).map Prod.snd).Nodup := by
  have all : (engine.jobs.zipIdx.map Prod.snd).Nodup := by
    rw [List.zipIdx_map_snd]
    exact List.nodup_range' ..
  apply ((List.perm_insertionSort claimOrder _).map Prod.snd).nodup_iff.mpr
  exact all.sublist (List.filter_sublist.map Prod.snd)

/-- No place is claimed twice by one pump. -/
theorem nodup_claimed : (engine.claimed now maximumRuns).Nodup :=
  nodup_dueJobs.sublist ((List.take_sublist _ _).map Prod.snd)

end MonitorEngine

end PixelStatus
