/-
# Concurrent pumps over one engine

Any number of threads call `run_due` on one engine. The atomic steps are the
locked claim block, the start and the end of a runner call, the publication to
the store, and the locked releases: of one job, or of all remaining jobs when
the evaluate-and-publish block throws. Other writers of the store and further
registrations may step in anywhere.

Each claim carries a ticket from a counter that only the proofs read; tickets
record the order in which runs were claimed. Marks and claim lists form a lease
discipline, from which exclusion follows.
-/

import PixelStatus.Core.MonitorEngine
import PixelStatus.Logic.Lease
import PixelStatus.Logic.Transition

namespace PixelStatus.MonitorConcurrency

/-- A claimed run: the place of its job, and its number in the order of claims. -/
structure Claim where
  job : Nat
  ticket : Nat
  deriving DecidableEq

/-- How far a pump is with the job at its index. -/
inductive Phase
  | ready
  | running
  | finished (outcome : RunnerOutcome)
  | published
  | unwinding

/-- A thread inside `run_due`. -/
structure Pump where
  now : TimePoint
  due : List Claim
  index : Nat := 0
  phase : Phase := .ready

/-- The claims whose jobs this pump has not released. -/
def Pump.unreleased (pump : Pump) : List Claim := pump.due.drop pump.index

/-- The claim whose job this pump works on. -/
def Pump.current (pump : Pump) : Option Claim := pump.due[pump.index]?

/-- The claims that this pump has not published. -/
def Pump.unpublished (pump : Pump) : List Claim :=
  match pump.phase with
  | .published => pump.due.drop (pump.index + 1)
  | _ => pump.unreleased

/-- The unreleased claims of a thread, which may be outside `run_due`. -/
def unreleasedOf (pump : Option Pump) : List Claim := pump.elim [] Pump.unreleased

/-- Number the claimed places from the counter on. -/
def issue (ticket : Nat) (places : List Nat) : List Claim :=
  (places.zipIdx ticket).map fun item => ⟨item.1, item.2⟩

/-- The engine, the store and the pumps under way, with what they have published. -/
structure System (platform : Platform) (Runner Thread : Type) where
  engine : MonitorEngine platform Runner
  store : StateStore
  pumps : Thread → Option Pump
  nextTicket : Nat := 0
  upserts : List Claim := []

variable {platform : Platform} {Runner Thread : Type} [DecidableEq Thread]

namespace System

/-- Replace what one thread is doing. -/
def setPump (system : System platform Runner Thread) (thread : Thread)
    (pump : Option Pump) : System platform Runner Thread :=
  { system with pumps := Function.update system.pumps thread pump }

/-- The locked claim block, run by `thread`. -/
def claim (system : System platform Runner Thread) (thread : Thread) (now : TimePoint)
    (maximumRuns : Nat) : System platform Runner Thread :=
  let places := system.engine.claimed now maximumRuns
  { system.setPump thread (some { now, due := issue system.nextTicket places }) with
    engine := system.engine.claim now maximumRuns
    nextTicket := system.nextTicket + places.length }

/-- Upsert the state of a finished run. -/
def publish (system : System platform Runner Thread) (thread : Thread) (pump : Pump)
    (claim : Claim) (job : Job platform Runner) (outcome : RunnerOutcome) :
    System platform Runner Thread :=
  { system.setPump thread (some { pump with phase := .published }) with
    store := (system.store.upsert (job.publication outcome pump.now)).2
    upserts := system.upserts ++ [claim] }

/-- Clear the marks of the given claims under the engine's lock. -/
def release (system : System platform Runner Thread) (claims : List Claim) :
    System platform Runner Thread :=
  { system with engine := system.engine.release (claims.map Claim.job) }

end System

/-- One atomic step of one thread, or of the surroundings. -/
inductive Step : System platform Runner Thread → System platform Runner Thread → Prop
  | claim (system : System platform Runner Thread) (thread : Thread)
      (idle : system.pumps thread = none) (now : TimePoint) (maximumRuns : Nat) :
      Step system (system.claim thread now maximumRuns)
  | beginRun (system : System platform Runner Thread) (thread : Thread) (pump : Pump)
      (busy : system.pumps thread = some pump) (ready : pump.phase = .ready)
      (claim : Claim) (current : pump.current = some claim) :
      Step system (system.setPump thread (some { pump with phase := .running }))
  | endRun (system : System platform Runner Thread) (thread : Thread) (pump : Pump)
      (busy : system.pumps thread = some pump) (running : pump.phase = .running)
      (outcome : RunnerOutcome) :
      Step system (system.setPump thread (some { pump with phase := .finished outcome }))
  | publish (system : System platform Runner Thread) (thread : Thread) (pump : Pump)
      (busy : system.pumps thread = some pump) (outcome : RunnerOutcome)
      (finished : pump.phase = .finished outcome) (claim : Claim)
      (current : pump.current = some claim) (job : Job platform Runner)
      (registered : system.engine.jobs[claim.job]? = some job) :
      Step system (system.publish thread pump claim job outcome)
  | throw (system : System platform Runner Thread) (thread : Thread) (pump : Pump)
      (busy : system.pumps thread = some pump) (outcome : RunnerOutcome)
      (finished : pump.phase = .finished outcome) :
      Step system (system.setPump thread (some { pump with phase := .unwinding }))
  | release (system : System platform Runner Thread) (thread : Thread) (pump : Pump)
      (busy : system.pumps thread = some pump) (published : pump.phase = .published)
      (claim : Claim) (current : pump.current = some claim) :
      Step system ((system.release [claim]).setPump thread
        (some { pump with index := pump.index + 1, phase := .ready }))
  | unwind (system : System platform Runner Thread) (thread : Thread) (pump : Pump)
      (busy : system.pumps thread = some pump) (unwinding : pump.phase = .unwinding) :
      Step system ((system.release pump.unreleased).setPump thread none)
  | finish (system : System platform Runner Thread) (thread : Thread) (pump : Pump)
      (busy : system.pumps thread = some pump) (ready : pump.phase = .ready)
      (done : pump.index = pump.due.length) :
      Step system (system.setPump thread none)
  | register (system : System platform Runner Thread) (definition : MonitorDefinition)
      (runner : Option Runner) (firstDue : TimePoint) (engine : MonitorEngine platform Runner)
      (added : system.engine.add definition runner firstDue = .ok engine) :
      Step system { system with engine }
  | write (system : System platform Runner Thread) (state : MonitorState) :
      Step system { system with store := (system.store.upsert state).2 }

/-- Nobody pumps yet and no job is in flight. -/
structure Initial (system : System platform Runner Thread) : Prop where
  idle : ∀ thread, system.pumps thread = none
  clear : ∀ job ∈ system.engine.jobs, job.inFlight = false
  unpublished : system.upserts = []

/-! ## The lease discipline of a system -/

namespace System

variable (system : System platform Runner Thread)

/-- The jobs that sit unreleased in a thread's claim list. -/
def held (thread : Thread) : List Nat :=
  (unreleasedOf (system.pumps thread)).map Claim.job

/-- The job at a place is marked in flight. -/
def Marked (place : Nat) : Prop :=
  ∃ job, system.engine.jobs[place]? = some job ∧ job.inFlight = true

/-- A thread is inside the runner of the job at a place. -/
def Executes (thread : Thread) (place : Nat) : Prop :=
  ∃ pump claim, system.pumps thread = some pump ∧ pump.phase = .running ∧
    pump.current = some claim ∧ claim.job = place

variable {system}

omit [DecidableEq Thread] in
/-- A thread in a pump holds the jobs it has not released. -/
theorem held_of_pump {thread : Thread} {pump : Pump}
    (busy : system.pumps thread = some pump) :
    system.held thread = pump.unreleased.map Claim.job := by
  rw [held, busy]
  rfl

omit [DecidableEq Thread] in
/-- A thread outside of a pump holds nothing. -/
theorem held_of_idle {thread : Thread} (idle : system.pumps thread = none) :
    system.held thread = [] := by
  rw [held, idle]
  rfl

/-- Replacing one thread's pump changes what that thread holds and no more. -/
theorem held_setPump (thread : Thread) (pump : Option Pump) :
    (system.setPump thread pump).held =
      Function.update system.held thread ((unreleasedOf pump).map Claim.job) := by
  funext other
  by_cases h : other = thread
  · subst h
    simp [held, setPump]
  · simp [held, setPump, h]

/-- A pump that still has the same claims to release leaves everybody's holdings. -/
theorem held_setPump_of_same {thread : Thread} {pump : Pump} {replacement : Option Pump}
    (busy : system.pumps thread = some pump)
    (same : unreleasedOf replacement = pump.unreleased) :
    (system.setPump thread replacement).held = system.held := by
  rw [held_setPump, same, ← held_of_pump busy, Function.update_eq_self]

/-- The current claim is the first that is not released. -/
theorem unreleased_eq_cons {pump : Pump} {claim : Claim} (current : pump.current = some claim) :
    pump.unreleased = claim :: pump.due.drop (pump.index + 1) := by
  obtain ⟨hindex, rfl⟩ := List.getElem?_eq_some_iff.mp current
  exact List.drop_eq_getElem_cons hindex

omit [DecidableEq Thread] in
/-- A thread holds the job that it executes. -/
theorem mem_held_of_executes {thread : Thread} {place : Nat}
    (executes : system.Executes thread place) : place ∈ system.held thread := by
  obtain ⟨pump, claim, busy, _, current, rfl⟩ := executes
  rw [held_of_pump busy, unreleased_eq_cons current]
  exact List.mem_cons_self

omit [DecidableEq Thread] in
/-- A release unmarks its jobs and no others. -/
theorem marked_release (claims : List Claim) (place : Nat) :
    (system.release claims).Marked place ↔
      system.Marked place ∧ place ∉ claims.map Claim.job := by
  unfold Marked release
  simp only [MonitorEngine.getElem?_release]
  cases system.engine.jobs[place]? with
  | none => simp
  | some job =>
      by_cases h : place ∈ claims.map Claim.job
      · simp [h, Job.release]
      · simp [h]

/-- A claim marks its jobs and no others. -/
theorem marked_claim (thread : Thread) (now : TimePoint) (maximumRuns : Nat) (place : Nat) :
    (system.claim thread now maximumRuns).Marked place ↔
      system.Marked place ∨ place ∈ system.engine.claimed now maximumRuns := by
  unfold Marked claim
  simp only [MonitorEngine.getElem?_claim]
  by_cases h : place ∈ system.engine.claimed now maximumRuns
  · obtain ⟨job, hjob, _⟩ := MonitorEngine.isDue_of_mem_claimed h
    simp [h, hjob, Job.claim]
  · cases system.engine.jobs[place]? with
    | none => simp [h]
    | some job => simp [h]

omit [DecidableEq Thread] in
/-- No claim takes a job that is marked. -/
theorem not_marked_of_mem_claimed {now : TimePoint} {maximumRuns place : Nat}
    (hclaimed : place ∈ system.engine.claimed now maximumRuns) : ¬ system.Marked place := by
  obtain ⟨job, hjob, hdue⟩ := MonitorEngine.isDue_of_mem_claimed hclaimed
  rintro ⟨other, hother, hmark⟩
  obtain rfl : job = other := Option.some.inj (hjob.symm.trans hother)
  simp [Job.isDue, hmark] at hdue

end System

@[simp]
theorem issue_jobs (ticket : Nat) (places : List Nat) :
    (issue ticket places).map Claim.job = places := by
  rw [issue, List.map_map]
  exact List.zipIdx_map_fst ticket places

/-- The tickets of one claim follow one another. -/
theorem ticket_bounds_of_mem_issue {ticket : Nat} {places : List Nat} {claim : Claim}
    (hclaim : claim ∈ issue ticket places) :
    ticket ≤ claim.ticket ∧ claim.ticket < ticket + places.length := by
  obtain ⟨item, hitem, rfl⟩ := List.mem_map.mp hclaim
  have h := List.mem_zipIdx hitem
  exact ⟨h.1, h.2.1⟩

/-! ## The invariant -/

/-- What holds between any two steps. -/
structure Invariant (system : System platform Runner Thread) : Prop where
  lease : Lease.Exclusive system.held system.Marked
  ticketed : ∀ thread pump, system.pumps thread = some pump →
    ∀ claim ∈ pump.unreleased, claim.ticket < system.nextTicket
  /-- Outside its ready phase a pump works on a claimed job. -/
  working : ∀ thread pump, system.pumps thread = some pump →
    pump.index ≤ pump.due.length ∧ (pump.phase ≠ .ready → pump.index < pump.due.length)
  recorded : ∀ claim ∈ system.upserts, claim.ticket < system.nextTicket
  /-- A run still to be published was claimed after every published run of its job. -/
  later : ∀ thread pump, system.pumps thread = some pump →
    ∀ claim ∈ pump.unpublished, ∀ earlier ∈ system.upserts,
      earlier.job = claim.job → earlier.ticket < claim.ticket
  ordered : system.upserts.Pairwise fun earlier later =>
    earlier.job = later.job → earlier.ticket < later.ticket

/-- A pump with a current claim has not come to its end. -/
theorem index_lt_of_current {pump : Pump} {claim : Claim}
    (current : pump.current = some claim) : pump.index < pump.due.length :=
  (List.getElem?_eq_some_iff.mp current).1

/-- What is not published is not released either. -/
theorem mem_unreleased_of_mem_unpublished {pump : Pump} {claim : Claim}
    (hclaim : claim ∈ pump.unpublished) : claim ∈ pump.unreleased := by
  unfold Pump.unpublished at hclaim
  split at hclaim
  · rw [← List.drop_drop] at hclaim
    exact List.mem_of_mem_drop hclaim
  · exact hclaim

omit [DecidableEq Thread] in
/-- The invariant holds before anything happens. -/
theorem invariant_of_initial {system : System platform Runner Thread}
    (initial : Initial system) : Invariant system where
  lease := Lease.Exclusive.nobody
    (fun thread => System.held_of_idle (initial.idle thread))
    fun place ⟨job, hjob, hmark⟩ => by
      simp [initial.clear job (List.mem_of_getElem? hjob)] at hmark
  ticketed thread pump busy := by simp [initial.idle thread] at busy
  working thread pump busy := by simp [initial.idle thread] at busy
  recorded := by simp [initial.unpublished]
  later thread pump busy := by simp [initial.idle thread] at busy
  ordered := by simp [initial.unpublished]

namespace Invariant

variable {system : System platform Runner Thread} {thread : Thread} {pump : Pump}

/-- The facts about pumps survive a change of one thread, given them for its
new pump. -/
theorem setPump_pumps {motive : Pump → Prop} {replacement : Option Pump}
    (others : ∀ thread pump, system.pumps thread = some pump → motive pump)
    (new : ∀ pump ∈ replacement, motive pump) :
    ∀ other pump, (system.setPump thread replacement).pumps other = some pump →
      motive pump := by
  intro other pump hpump
  by_cases h : other = thread
  · subst h
    exact new pump (by simpa [System.setPump] using hpump)
  · exact others other pump (by simpa [System.setPump, h] using hpump)

/-- A thread moves on within its current job. -/
theorem advance (invariant : Invariant system) (busy : system.pumps thread = some pump)
    {phase : Phase} (working : pump.index < pump.due.length)
    (before : pump.unpublished = pump.unreleased)
    (after : ({ pump with phase } : Pump).unpublished = pump.unreleased) :
    Invariant (system.setPump thread (some { pump with phase })) where
  lease := by
    have same : (system.setPump thread (some { pump with phase })).held = system.held :=
      System.held_setPump_of_same busy rfl
    exact invariant.lease.congr (congrFun same) fun place => Iff.rfl
  ticketed := setPump_pumps invariant.ticketed (by
    intro moved hmoved
    obtain rfl := Option.mem_some_iff.mp hmoved
    exact invariant.ticketed thread pump busy)
  working := setPump_pumps invariant.working (by
    intro moved hmoved
    obtain rfl := Option.mem_some_iff.mp hmoved
    exact ⟨working.le, fun _ => working⟩)
  recorded := invariant.recorded
  later := setPump_pumps invariant.later (by
    intro moved hmoved
    obtain rfl := Option.mem_some_iff.mp hmoved
    rw [after, ← before]
    exact invariant.later thread pump busy)
  ordered := invariant.ordered

/-- An idle thread claims: the claimed jobs were unmarked, and their tickets are
beyond every ticket seen before. -/
theorem claim (invariant : Invariant system) (idle : system.pumps thread = none)
    (now : TimePoint) (maximumRuns : Nat) :
    Invariant (system.claim thread now maximumRuns) where
  lease := by
    have hnodup : (system.engine.claimed now maximumRuns).Nodup :=
      MonitorEngine.nodup_claimed
    refine (invariant.lease.take (System.held_of_idle idle) hnodup
      fun _ => System.not_marked_of_mem_claimed).congr (fun other => ?_)
        (System.marked_claim thread now maximumRuns)
    exact congrFun ((System.held_setPump thread _).trans
      (by simp [unreleasedOf, Pump.unreleased])) other
  ticketed := setPump_pumps
    (fun other pump busy claim hclaim =>
      Nat.lt_add_right _ (invariant.ticketed other pump busy claim hclaim)) (by
    intro started hstarted claim hclaim
    obtain rfl := Option.mem_some_iff.mp hstarted
    exact (ticket_bounds_of_mem_issue (by simpa [Pump.unreleased] using hclaim)).2)
  working := setPump_pumps invariant.working (by simp)
  recorded claim hclaim := Nat.lt_add_right _ (invariant.recorded claim hclaim)
  later := setPump_pumps invariant.later (by
    intro started hstarted claim hclaim earlier hearlier _
    obtain rfl := Option.mem_some_iff.mp hstarted
    have hissued := ticket_bounds_of_mem_issue
      (by simpa [Pump.unpublished, Pump.unreleased] using hclaim)
    exact (invariant.recorded earlier hearlier).trans_le hissued.1)
  ordered := invariant.ordered

omit [DecidableEq Thread] in
/-- The rest of a claim list holds other jobs than the current one. -/
theorem job_ne_of_rest (invariant : Invariant system) (busy : system.pumps thread = some pump)
    {claim later : Claim} (current : pump.current = some claim)
    (hlater : later ∈ pump.due.drop (pump.index + 1)) : later.job ≠ claim.job := by
  have hnodup := invariant.lease.nodup thread
  rw [System.held_of_pump busy, System.unreleased_eq_cons current, List.map_cons] at hnodup
  intro same
  exact (List.nodup_cons.mp hnodup).1 (same ▸ List.mem_map_of_mem hlater)

omit [DecidableEq Thread] in
/-- What another thread has to publish is of other jobs than the current one. -/
theorem job_ne_of_other (invariant : Invariant system) (busy : system.pumps thread = some pump)
    {claim later : Claim} (current : pump.current = some claim) {other : Thread}
    {elsewhere : Pump} (hother : system.pumps other = some elsewhere) (distinct : other ≠ thread)
    (hlater : later ∈ elsewhere.unpublished) : later.job ≠ claim.job := by
  have hheld : claim.job ∈ system.held thread := by
    rw [System.held_of_pump busy, System.unreleased_eq_cons current]
    exact List.mem_cons_self
  have hheld' : later.job ∈ system.held other := by
    rw [System.held_of_pump hother]
    exact List.mem_map_of_mem (mem_unreleased_of_mem_unpublished hlater)
  intro same
  exact distinct (invariant.lease.unique (same ▸ hheld') hheld)

/-- A finished run is published: nobody else holds its job, so no other
unpublished claim is of the same job. -/
theorem publish (invariant : Invariant system) (busy : system.pumps thread = some pump)
    {outcome : RunnerOutcome} (finished : pump.phase = .finished outcome)
    {claim : Claim} (current : pump.current = some claim) (job : Job platform Runner) :
    Invariant (system.publish thread pump claim job outcome) where
  lease := by
    have same : (system.setPump thread (some { pump with phase := .published })).held =
        system.held := System.held_setPump_of_same busy rfl
    exact invariant.lease.congr (congrFun same) fun place => Iff.rfl
  ticketed := setPump_pumps invariant.ticketed (by
    intro moved hmoved
    obtain rfl := Option.mem_some_iff.mp hmoved
    exact invariant.ticketed thread pump busy)
  working := setPump_pumps invariant.working (by
    intro moved hmoved
    obtain rfl := Option.mem_some_iff.mp hmoved
    have hworking := index_lt_of_current current
    exact ⟨hworking.le, fun _ => hworking⟩)
  recorded recorded hrecorded := by
    rcases List.mem_append.mp hrecorded with hold | hnew
    · exact invariant.recorded recorded hold
    · obtain rfl := List.mem_singleton.mp hnew
      exact invariant.ticketed thread pump busy recorded
        (System.unreleased_eq_cons current ▸ List.mem_cons_self)
  later other moved hmoved later hlater earlier hearlier hjob := by
    by_cases h : other = thread
    · subst h
      obtain rfl : { pump with phase := .published } = moved := by
        simpa [System.publish, System.setPump] using hmoved
      have htail : later ∈ pump.due.drop (pump.index + 1) := hlater
      rcases List.mem_append.mp hearlier with hold | hnew
      · refine invariant.later other pump busy later ?_ earlier hold hjob
        rw [Pump.unpublished, finished, System.unreleased_eq_cons current]
        exact List.mem_cons_of_mem claim htail
      · obtain rfl := List.mem_singleton.mp hnew
        exact absurd hjob.symm (invariant.job_ne_of_rest busy current htail)
    · have hbusy : system.pumps other = some moved := by
        simpa [System.publish, System.setPump, h] using hmoved
      rcases List.mem_append.mp hearlier with hold | hnew
      · exact invariant.later other moved hbusy later hlater earlier hold hjob
      · obtain rfl := List.mem_singleton.mp hnew
        exact absurd hjob.symm (invariant.job_ne_of_other busy current hbusy h hlater)
  ordered := by
    refine List.pairwise_append.mpr ⟨invariant.ordered, List.pairwise_singleton _ _, ?_⟩
    intro earlier hearlier later hlater hjob
    obtain rfl := List.mem_singleton.mp hlater
    refine invariant.later thread pump busy later ?_ earlier hearlier hjob
    rw [Pump.unpublished, finished, System.unreleased_eq_cons current]
    exact List.mem_cons_self

/-- A thread releases the first claims it holds and keeps the rest, or ends. -/
theorem release (invariant : Invariant system) (busy : system.pumps thread = some pump)
    {released : List Claim} {replacement : Option Pump}
    (split : pump.unreleased = released ++ unreleasedOf replacement)
    (unpublished : ∀ kept ∈ replacement,
      ∀ claim ∈ kept.unpublished, claim ∈ pump.unpublished)
    (working : ∀ kept ∈ replacement,
      kept.index ≤ kept.due.length ∧ (kept.phase ≠ .ready → kept.index < kept.due.length)) :
    Invariant ((system.release released).setPump thread replacement) where
  lease := by
    have hheld : system.held thread =
        released.map Claim.job ++ (unreleasedOf replacement).map Claim.job := by
      rw [System.held_of_pump busy, split, List.map_append]
    refine (invariant.lease.drop hheld).congr (fun other => ?_)
      (System.marked_release released)
    have hheld' : ((system.release released).setPump thread replacement).held = _ :=
      System.held_setPump thread replacement
    exact congrFun hheld' other
  ticketed := setPump_pumps invariant.ticketed (by
    intro kept hkept claim hclaim
    obtain rfl := Option.mem_def.mp hkept
    exact invariant.ticketed thread pump busy claim
      (split ▸ List.mem_append_right released hclaim))
  working := setPump_pumps invariant.working working
  recorded := invariant.recorded
  later := setPump_pumps invariant.later (by
    intro kept hkept claim hclaim
    exact invariant.later thread pump busy claim (unpublished kept hkept claim hclaim))
  ordered := invariant.ordered

/-- A thread with nothing left to release ends. -/
theorem leave (invariant : Invariant system) (busy : system.pumps thread = some pump)
    (hnone : pump.unreleased = []) : Invariant (system.setPump thread none) where
  lease := by
    have same : (system.setPump thread none).held = system.held :=
      System.held_setPump_of_same busy hnone.symm
    exact invariant.lease.congr (congrFun same) fun place => Iff.rfl
  ticketed := setPump_pumps invariant.ticketed (by simp)
  working := setPump_pumps invariant.working (by simp)
  recorded := invariant.recorded
  later := setPump_pumps invariant.later (by simp)
  ordered := invariant.ordered

omit [DecidableEq Thread] in
/-- A registration appends an unmarked job. -/
theorem register (invariant : Invariant system) {definition : MonitorDefinition}
    {runner : Option Runner} {firstDue : TimePoint} {engine : MonitorEngine platform Runner}
    (added : system.engine.add definition runner firstDue = .ok engine) :
    Invariant { system with engine } where
  lease := by
    obtain ⟨job, hjobs, hclear, _⟩ := MonitorEngine.jobs_of_add added
    refine invariant.lease.congr (fun other => rfl) fun place => ?_
    unfold System.Marked
    rw [hjobs, List.getElem?_append]
    split
    · rfl
    · rename_i hplace
      rw [List.getElem?_eq_none (not_lt.mp hplace)]
      simp only [reduceCtorEq, false_and, exists_false, iff_false]
      rintro ⟨other, hother, hmark⟩
      obtain rfl := List.mem_singleton.mp (List.mem_of_getElem? hother)
      simp [hclear] at hmark
  ticketed := invariant.ticketed
  working := invariant.working
  recorded := invariant.recorded
  later := invariant.later
  ordered := invariant.ordered

/-- Every step keeps the invariant. -/
theorem step {next : System platform Runner Thread} (invariant : Invariant system)
    (hstep : Step system next) : Invariant next := by
  cases hstep with
  | claim thread idle now maximumRuns => exact invariant.claim idle now maximumRuns
  | beginRun thread pump busy ready claim current =>
      exact invariant.advance busy (index_lt_of_current current)
        (by rw [Pump.unpublished, ready]) rfl
  | endRun thread pump busy running outcome =>
      exact invariant.advance busy
        ((invariant.working thread pump busy).2 (by simp [running]))
        (by rw [Pump.unpublished, running]) rfl
  | publish thread pump busy outcome finished claim current job registered =>
      exact invariant.publish busy finished current job
  | throw thread pump busy outcome finished =>
      exact invariant.advance busy
        ((invariant.working thread pump busy).2 (by simp [finished]))
        (by rw [Pump.unpublished, finished]) rfl
  | release thread pump busy published claim current =>
      refine invariant.release busy (System.unreleased_eq_cons current) ?_ ?_
      · intro kept hkept other hother
        obtain rfl := Option.mem_some_iff.mp hkept
        rw [Pump.unpublished, published]
        exact hother
      · intro kept hkept
        obtain rfl := Option.mem_some_iff.mp hkept
        exact ⟨index_lt_of_current current, by simp⟩
  | unwind thread pump busy unwinding =>
      exact invariant.release busy (List.append_nil _).symm (by simp) (by simp)
  | finish thread pump busy ready done =>
      have hnone : pump.unreleased = [] := by
        rw [Pump.unreleased, done, List.drop_length]
      exact invariant.leave busy hnone
  | register definition runner firstDue engine added => exact invariant.register added
  | write state => exact { invariant with }

end Invariant

/-- It holds in every interleaving. -/
theorem invariant_of_reachable {system : System platform Runner Thread}
    (reachable : Transition.Reachable Initial Step system) : Invariant system :=
  reachable.induction (fun _ => invariant_of_initial)
    fun _ _ _ invariant hstep => invariant.step hstep

/-- No pump gets stuck: whatever its phase it has a next step, and a finished
run can be published. -/
theorem exists_step_of_busy {system : System platform Runner Thread}
    (reachable : Transition.Reachable Initial Step system) {thread : Thread} {pump : Pump}
    (busy : system.pumps thread = some pump) :
    ∃ next : System platform Runner Thread, Step system next ∧
      (∀ outcome claim, pump.phase = .finished outcome → pump.current = some claim →
        next.upserts = system.upserts ++ [claim]) := by
  have hinvariant := invariant_of_reachable reachable
  obtain ⟨hwithin, hworking⟩ := hinvariant.working thread pump busy
  cases hphase : pump.phase with
  | ready =>
      cases hcurrent : pump.current with
      | none =>
          have hdone : pump.due.length ≤ pump.index := List.getElem?_eq_none_iff.mp hcurrent
          exact ⟨_, .finish system thread pump busy hphase (le_antisymm hwithin hdone),
            by simp⟩
      | some claim => exact ⟨_, .beginRun system thread pump busy hphase claim hcurrent, by simp⟩
  | running => exact ⟨_, .endRun system thread pump busy hphase (.threw none), by simp⟩
  | finished outcome =>
      have hindex := hworking (by simp [hphase])
      have hcurrent : pump.current = some pump.due[pump.index] :=
        List.getElem?_eq_getElem hindex
      have hheld : pump.due[pump.index].job ∈ system.held thread := by
        rw [System.held_of_pump busy, System.unreleased_eq_cons hcurrent]
        exact List.mem_cons_self
      obtain ⟨job, hjob, _⟩ := (hinvariant.lease.marked_iff _).mpr ⟨thread, hheld⟩
      refine ⟨_, .publish system thread pump busy outcome hphase _ hcurrent job hjob, ?_⟩
      intro _ claim _ hclaim
      rw [← Option.some.inj (hcurrent.symm.trans hclaim)]
      rfl
  | published =>
      have hindex := hworking (by simp [hphase])
      exact ⟨_, .release system thread pump busy hphase _ (List.getElem?_eq_getElem hindex),
        by simp⟩
  | unwinding => exact ⟨_, .unwind system thread pump busy hphase, by simp⟩

/-- In every reachable state of any interleaving: no runner is executed by two
threads at once; a job is marked in flight exactly while it sits unreleased in
the claim list of exactly one thread, once; when no thread is inside `run_due`
no job is marked; and the published runs of one job appear in the order in
which they were claimed. -/
theorem in_flight_exclusion {system : System platform Runner Thread}
    (reachable : Transition.Reachable Initial Step system) :
    (∀ place first second, system.Executes first place → system.Executes second place →
      first = second) ∧
    (∀ place, system.Marked place ↔ ∃! thread, place ∈ system.held thread) ∧
    (∀ thread, (system.held thread).Nodup) ∧
    ((∀ thread, system.pumps thread = none) → ∀ place, ¬ system.Marked place) ∧
    (system.upserts.Pairwise fun earlier later =>
      earlier.job = later.job → earlier.ticket < later.ticket) := by
  have hinvariant := invariant_of_reachable reachable
  refine ⟨?_, hinvariant.lease.marked_iff_existsUnique, hinvariant.lease.nodup, ?_,
    hinvariant.ordered⟩
  · intro place first second hfirst hsecond
    exact hinvariant.lease.unique (System.mem_held_of_executes hfirst)
      (System.mem_held_of_executes hsecond)
  · intro idle place hmarked
    obtain ⟨thread, hheld⟩ := (hinvariant.lease.marked_iff place).mp hmarked
    simp [System.held_of_idle (idle thread)] at hheld

/-- One registered monitor, due at once. -/
def singleMonitor : MonitorEngine .linux Unit where
  jobs :=
    [{ definition := { id := bytes "gateway", interval := 1000 }
       valid := ⟨by decide, by decide, by simp, by decide⟩
       runner := ()
       nextDue := 0
       inFlight := false }]
  distinct := List.nodup_singleton _

def singleMonitorSystem : System .linux Unit Bool where
  engine := singleMonitor
  store := .empty
  pumps _ := none

/-- The system with one monitor is a fresh one. -/
theorem initial_singleMonitorSystem : Initial singleMonitorSystem where
  idle _ := rfl
  clear job hjob := by
    obtain rfl := List.mem_singleton.mp hjob
    rfl
  unpublished := rfl

/-- After one thread has claimed the monitor, its mark has exactly one holder. -/
theorem in_flight_exclusion_claimed :
    (singleMonitorSystem.claim false 0 1).Marked 0 ↔
      ∃! thread, 0 ∈ (singleMonitorSystem.claim false 0 1).held thread :=
  (in_flight_exclusion ((Transition.Reachable.of_initial initial_singleMonitorSystem).tail
    (.claim singleMonitorSystem false rfl 0 1))).2.1 0

end PixelStatus.MonitorConcurrency
