/-
# A due monitor is not passed over for ever

Pumps of any number of threads claim jobs in the order of their slots, and a job
that was claimed goes behind the time of its claim. So every other job is
claimed before a waiting one at most once: whatever the interleaving, no more
jobs are claimed before a due job than were ahead of it or are registered
meanwhile. The counts of the clock have to cover the claims of such a run.
-/

import Mathlib.Data.Finset.Card
import PixelStatus.Core.BoundedPumps
import PixelStatus.Core.MonitorConcurrency
import PixelStatus.Logic.Counted

namespace PixelStatus

variable {platform : Platform} {Runner : Type}

namespace MonitorEngine

variable {engine : MonitorEngine platform Runner} {now : TimePoint} {maximumRuns place : Nat}

open Classical in
/-- The places whose jobs go before the job at a place. -/
noncomputable def ahead (engine : MonitorEngine platform Runner) (place : Nat) : Finset Nat :=
  (Finset.range engine.jobs.length).filter fun other => engine.Before other place

open Classical in
/-- The places ahead are those whose jobs go before. -/
theorem mem_ahead {other : Nat} : other ∈ engine.ahead place ↔ engine.Before other place := by
  rw [ahead, Finset.mem_filter, Finset.mem_range, and_iff_right_iff_imp]
  rintro ⟨left, right, atOther, atPlace, precedes⟩
  exact (List.getElem?_eq_some_iff.mp atOther).1

/-- Releasing jobs changes nothing about their order. -/
theorem ahead_release (places : List Nat) : (engine.release places).ahead place =
    engine.ahead place := by
  ext other
  rw [mem_ahead, mem_ahead]
  have released (place : Nat) (job : Job platform Runner) :
      (if place ∈ places then job.release else job).nextDue = job.nextDue ∧
        (if place ∈ places then job.release else job).definition = job.definition := by
    split <;> exact ⟨rfl, rfl⟩
  simp only [Before, getElem?_release, Option.map_eq_some_iff]
  refine ⟨?_, ?_⟩
  · rintro ⟨_, _, ⟨left, atOther, rfl⟩, ⟨right, atPlace, rfl⟩, precedes⟩
    refine ⟨left, right, atOther, atPlace, ?_⟩
    rwa [Job.Precedes, (released other left).1, (released other left).2,
      (released place right).1, (released place right).2] at precedes
  · rintro ⟨left, right, atOther, atPlace, precedes⟩
    refine ⟨_, _, ⟨left, atOther, rfl⟩, ⟨right, atPlace, rfl⟩, ?_⟩
    rwa [Job.Precedes, (released other left).1, (released other left).2,
      (released place right).1, (released place right).2]

/-- A claim moves a job that was due behind the claim. -/
theorem lt_nextDue_claim (covers : engine.Covers now) {other : Nat} {job : Job platform Runner}
    (claims : other ∈ engine.claimed now maximumRuns) (found : engine.jobs[other]? = some job) :
    job.nextDue ≤ now ∧ now < (job.claim now).nextDue := by
  obtain ⟨same, atOther, due⟩ := isDue_of_mem_claimed claims
  obtain rfl : job = same := Option.some.inj (found.symm.trans atOther)
  obtain ⟨clock, covered⟩ := covers job (List.mem_of_getElem? found) due
  have late : job.nextDue ≤ now := Job.late_of_isDue due
  exact ⟨late, (Job.claim_bounds clock late covered).1⟩

/-- Claims of other jobs bring nobody ahead of a job. -/
theorem ahead_claim_subset (covers : engine.Covers now)
    (unclaimed : place ∉ engine.claimed now maximumRuns) :
    (engine.claim now maximumRuns).ahead place ⊆ engine.ahead place := by
  intro other member
  rw [mem_ahead] at member ⊢
  obtain ⟨left, right, atOther, atPlace, precedes⟩ := member
  rw [getElem?_claim, Option.map_eq_some_iff] at atOther atPlace
  obtain ⟨right, found, rfl⟩ := atPlace
  obtain ⟨left, holds, rfl⟩ := atOther
  rw [if_neg unclaimed] at precedes
  refine ⟨left, right, holds, found, ?_⟩
  by_cases claims : other ∈ engine.claimed now maximumRuns
  · rw [if_pos claims] at precedes
    obtain ⟨late, behind⟩ := lt_nextDue_claim covers claims holds
    have later := lt_of_le_of_lt late behind
    rcases precedes with less | ⟨same, _⟩
    · exact Or.inl (later.trans less)
    · exact Or.inl (same ▸ later)
  · rwa [if_neg claims] at precedes

/-- A job that was claimed late is ahead of no job that was due then. -/
theorem not_mem_ahead_claim (covers : engine.Covers now) {other : Nat}
    (claims : other ∈ engine.claimed now maximumRuns)
    (unclaimed : place ∉ engine.claimed now maximumRuns) (due : engine.DueAt now place) :
    other ∉ (engine.claim now maximumRuns).ahead place := by
  rw [mem_ahead]
  rintro ⟨left, right, atOther, atPlace, precedes⟩
  rw [getElem?_claim, Option.map_eq_some_iff] at atOther atPlace
  obtain ⟨right, found, rfl⟩ := atPlace
  obtain ⟨left, holds, rfl⟩ := atOther
  rw [if_neg unclaimed, if_pos claims] at precedes
  obtain ⟨waiting, atWaiting, late⟩ := due
  obtain rfl : right = waiting := Option.some.inj (found.symm.trans atWaiting)
  have behind := (lt_nextDue_claim covers claims holds).2
  have before : right.nextDue ≤ now := Job.late_of_isDue late
  rcases precedes with less | ⟨same, _⟩
  · exact absurd (less.trans_le before) behind.asymm
  · exact absurd (same.trans_le before) (not_le.mpr behind)

open Classical in
/-- A claim that passes a due job over takes jobs ahead of it, and all it takes
are ahead of it no longer. -/
theorem card_ahead_claim (covers : engine.Covers now) (due : engine.DueAt now place)
    (unclaimed : place ∉ engine.claimed now maximumRuns) :
    (engine.claimed now maximumRuns).length +
        ((engine.claim now maximumRuns).ahead place).card ≤ (engine.ahead place).card := by
  have least := @leastDue_claimed platform Runner engine now maximumRuns
  have apart : Disjoint (engine.claimed now maximumRuns).toFinset
      ((engine.claim now maximumRuns).ahead place) := by
    apply Finset.disjoint_left.mpr
    intro other claims
    exact not_mem_ahead_claim covers (List.mem_toFinset.mp claims) unclaimed due
  have inside : (engine.claimed now maximumRuns).toFinset ∪
      (engine.claim now maximumRuns).ahead place ⊆ engine.ahead place := by
    apply Finset.union_subset _ (ahead_claim_subset covers unclaimed)
    intro other claims
    exact mem_ahead.mpr (least.least other (List.mem_toFinset.mp claims) place due unclaimed)
  calc (engine.claimed now maximumRuns).length +
        ((engine.claim now maximumRuns).ahead place).card
      = (engine.claimed now maximumRuns).toFinset.card +
          ((engine.claim now maximumRuns).ahead place).card := by
        rw [List.toFinset_card_of_nodup nodup_claimed]
    _ = ((engine.claimed now maximumRuns).toFinset ∪
          (engine.claim now maximumRuns).ahead place).card :=
        (Finset.card_union_of_disjoint apart).symm
    _ ≤ (engine.ahead place).card := Finset.card_le_card inside

/-- There are never more jobs than `add` allows. -/
theorem length_add_le {definition : MonitorDefinition} {runner : Option Runner}
    {firstDue : TimePoint} {added : MonitorEngine platform Runner}
    (hadd : engine.add definition runner firstDue = .ok added) :
    added.jobs.length ≤ maximumMonitorCount := by
  obtain ⟨job, jobs, -⟩ := jobs_of_add hadd
  rw [jobs, List.length_append, List.length_singleton]
  unfold add at hadd
  split at hadd
  · cases hadd
  split at hadd
  · cases hadd
  split at hadd
  · cases hadd
  split at hadd
  · cases hadd
  split at hadd
  · cases hadd
  split at hadd
  · cases hadd
  next room => exact Nat.lt_of_not_le room

/-- A registration brings at most one job ahead. -/
theorem ahead_add {definition : MonitorDefinition} {runner : Option Runner}
    {firstDue : TimePoint} {added : MonitorEngine platform Runner}
    (hadd : engine.add definition runner firstDue = .ok added)
    (inside : place < engine.jobs.length) :
    added.ahead place ⊆ insert engine.jobs.length (engine.ahead place) := by
  obtain ⟨job, jobs, -⟩ := jobs_of_add hadd
  intro other member
  rw [mem_ahead] at member
  obtain ⟨left, right, atOther, atPlace, precedes⟩ := member
  rw [jobs] at atOther atPlace
  rw [List.getElem?_append_left inside] at atPlace
  by_cases earlier : other < engine.jobs.length
  · rw [List.getElem?_append_left earlier] at atOther
    exact Finset.mem_insert_of_mem (mem_ahead.mpr ⟨left, right, atOther, atPlace, precedes⟩)
  · have last := (List.getElem?_eq_some_iff.mp atOther).1
    rw [List.length_append, List.length_singleton] at last
    obtain rfl : other = engine.jobs.length := by omega
    exact Finset.mem_insert_self _ _

end MonitorEngine

namespace MonitorConcurrency

variable {Thread : Type} [DecidableEq Thread] {system next : System platform Runner Thread}
  {place : Nat} {due : TimePoint}

/-- The job at a place is not in flight and has its slot at the given time. -/
def Waits (place : Nat) (due : TimePoint) (system : System platform Runner Thread) : Prop :=
  ∃ job, system.engine.jobs[place]? = some job ∧ job.inFlight = false ∧ job.nextDue = due

/-- A step after which the job at a place is still not in flight, and whose claims,
if it makes some, are covered. -/
structure Passes (place : Nat) (system next : System platform Runner Thread) : Prop where
  step : Step system next
  unmarked : ¬ next.Marked place
  covers : ∀ thread now maximumRuns, system.pumps thread = none →
    next = system.claim thread now maximumRuns → system.engine.Covers now

/-- A covered claim with room for a job, at or after a slot, that takes so many
other ones. -/
structure PassesOver (place : Nat) (due : TimePoint)
    (system next : System platform Runner Thread) (taken : Nat) : Prop where
  claims : ∃ thread now maximumRuns, system.pumps thread = none ∧ due ≤ now ∧
    0 < maximumRuns ∧ system.engine.Covers now ∧
    next = system.claim thread now maximumRuns ∧
    taken = (system.engine.claimed now maximumRuns).length
  unmarked : ¬ next.Marked place

omit [DecidableEq Thread] in
/-- A job that waits is due whenever the clock has passed its time. -/
theorem Waits.dueAt (waits : Waits place due system) {now : TimePoint} (late : due ≤ now) :
    system.engine.DueAt now place := by
  obtain ⟨job, found, idle, rfl⟩ := waits
  refine ⟨job, found, ?_⟩
  rw [Job.isDue, idle, decide_eq_true late]
  rfl

omit [DecidableEq Thread] in
/-- A job that waits is registered. -/
theorem Waits.inside (waits : Waits place due system) :
    place < system.engine.jobs.length := by
  obtain ⟨job, found, -⟩ := waits
  exact (List.getElem?_eq_some_iff.mp found).1

/-- A claim of other jobs leaves a waiting one as it is. -/
theorem Waits.claim (waits : Waits place due system) {thread : Thread} {now : TimePoint}
    {maximumRuns : Nat} (unclaimed : place ∉ system.engine.claimed now maximumRuns) :
    Waits place due (system.claim thread now maximumRuns) := by
  obtain ⟨job, found, idle, slot⟩ := waits
  refine ⟨job, ?_, idle, slot⟩
  show (system.engine.claim now maximumRuns).jobs[place]? = some job
  rw [MonitorEngine.getElem?_claim, found, Option.map_some, if_neg unclaimed]

omit [DecidableEq Thread] in
/-- A job goes on waiting when others are released. -/
theorem Waits.release (waits : Waits place due system) (claims : List Claim) :
    Waits place due (system.release claims) := by
  obtain ⟨job, found, idle, slot⟩ := waits
  refine ⟨if place ∈ claims.map Claim.job then job.release else job, ?_, ?_, ?_⟩
  · show (system.engine.release (claims.map Claim.job)).jobs[place]? = _
    rw [MonitorEngine.getElem?_release, found, Option.map_some]
  · split
    · rfl
    · exact idle
  · split <;> exact slot

/-- A job that no claim marks has not been claimed. -/
theorem unclaimed_of_not_marked {thread : Thread} {now : TimePoint} {maximumRuns : Nat}
    (unmarked : ¬ (system.claim thread now maximumRuns).Marked place) :
    place ∉ system.engine.claimed now maximumRuns := by
  intro claims
  exact unmarked ((System.marked_claim thread now maximumRuns place).mpr (Or.inr claims))

/-- A step that leaves the job waiting brings at most as many jobs ahead of it as
it registers. -/
theorem Waits.passes (waits : Waits place due system) (passes : Passes place system next) :
    Waits place due next ∧
      (next.engine.ahead place).card + system.engine.jobs.length ≤
        (system.engine.ahead place).card + next.engine.jobs.length := by
  obtain ⟨step, unmarked, covers⟩ := passes
  have jobs (change : Nat → Job platform Runner → Job platform Runner) :
      (system.engine.jobs.mapIdx change).length = system.engine.jobs.length := by simp
  cases step with
  | claim thread idle now maximumRuns =>
      have unclaimed := unclaimed_of_not_marked unmarked
      refine ⟨waits.claim unclaimed, ?_⟩
      have fewer := Finset.card_le_card
        (MonitorEngine.ahead_claim_subset (covers thread now maximumRuns idle rfl) unclaimed)
      exact Nat.add_le_add fewer (jobs _).ge
  | release thread pump busy published claim current =>
      refine ⟨waits.release [claim], ?_⟩
      have same := @MonitorEngine.ahead_release _ _ system.engine place [claim.job]
      exact Nat.add_le_add (congrArg Finset.card same).le (jobs _).ge
  | unwind thread pump busy unwinding =>
      refine ⟨waits.release pump.unreleased, ?_⟩
      have same := @MonitorEngine.ahead_release _ _ system.engine place
        (pump.unreleased.map Claim.job)
      exact Nat.add_le_add (congrArg Finset.card same).le (jobs _).ge
  | register definition runner firstDue engine added =>
      have inside := waits.inside
      obtain ⟨job, found, idle, slot⟩ := waits
      obtain ⟨new, appended, -⟩ := MonitorEngine.jobs_of_add added
      refine ⟨⟨job, ?_, idle, slot⟩, ?_⟩
      · show engine.jobs[place]? = some job
        rw [appended, List.getElem?_append_left inside, found]
      · have more := (Finset.card_le_card (MonitorEngine.ahead_add added inside)).trans
          (Finset.card_insert_le _ _)
        have longer : engine.jobs.length = system.engine.jobs.length + 1 := by
          rw [appended, List.length_append, List.length_singleton]
        show (engine.ahead place).card + _ ≤ _ + engine.jobs.length
        omega
  | beginRun | endRun | publish | throw | finish | write => exact ⟨waits, le_rfl⟩

/-- A claim that passes the job over takes all it claims from those ahead of it. -/
theorem Waits.passesOver {taken : Nat} (waits : Waits place due system)
    (passed : PassesOver place due system next taken) :
    Waits place due next ∧
      taken + (next.engine.ahead place).card + system.engine.jobs.length ≤
        (system.engine.ahead place).card + next.engine.jobs.length := by
  obtain ⟨⟨thread, now, maximumRuns, idle, late, room, covers, rfl, rfl⟩, unmarked⟩ := passed
  have unclaimed := unclaimed_of_not_marked unmarked
  refine ⟨waits.claim unclaimed, ?_⟩
  have fewer := MonitorEngine.card_ahead_claim covers (waits.dueAt late) unclaimed
  have jobs : (system.engine.claim now maximumRuns).jobs.length = system.engine.jobs.length := by
    simp [MonitorEngine.claim, MonitorEngine.modifyJobs]
  exact Nat.add_le_add fewer jobs.ge

/-- No step unregisters a job. -/
theorem length_jobs_mono (step : Step system next) :
    system.engine.jobs.length ≤ next.engine.jobs.length := by
  have jobs (change : Nat → Job platform Runner → Job platform Runner) :
      system.engine.jobs.length ≤ (system.engine.jobs.mapIdx change).length := by simp
  cases step with
  | claim => exact jobs _
  | release => exact jobs _
  | unwind => exact jobs _
  | register definition runner firstDue engine added =>
      obtain ⟨job, appended, -⟩ := MonitorEngine.jobs_of_add added
      show system.engine.jobs.length ≤ engine.jobs.length
      rw [appended, List.length_append]
      exact Nat.le_add_right _ _
  | beginRun | endRun | publish | throw | finish | write => exact le_rfl

/-- No run registers more jobs than the engine allows. -/
theorem length_jobs_le (room : system.engine.jobs.length ≤ maximumMonitorCount)
    (step : Step system next) : next.engine.jobs.length ≤ maximumMonitorCount := by
  have jobs (change : Nat → Job platform Runner → Job platform Runner) :
      (system.engine.jobs.mapIdx change).length ≤ maximumMonitorCount := by simpa using room
  cases step with
  | claim => exact jobs _
  | release => exact jobs _
  | unwind => exact jobs _
  | register definition runner firstDue engine added => exact MonitorEngine.length_add_le added
  | beginRun | endRun | publish | throw | finish | write => exact room

/-- In every interleaving of covered claims, from any state in which a job waits
for its slot: as long as the job is not claimed, the jobs that are claimed at or
after its slot, together with those that are still ahead of it, are no more than
those that were ahead of it and those registered since. -/
theorem bounded_bypass {last : System platform Runner Thread} {claimed : Nat}
    (waits : Waits place due system)
    (run : Counted.Run (Passes place) (PassesOver place due) system last claimed) :
    ∃ registered, last.engine.jobs.length = system.engine.jobs.length + registered ∧
      claimed + (last.engine.ahead place).card ≤
        (system.engine.ahead place).card + registered ∧
      (system.engine.jobs.length ≤ maximumMonitorCount →
        last.engine.jobs.length ≤ maximumMonitorCount) := by
  have bound := run.bound (fun system => (system.engine.ahead place).card)
    (fun system => system.engine.jobs.length) waits
    (fun _ _ => Waits.passes) (fun _ _ _ => Waits.passesOver)
  have grows : system.engine.jobs.length ≤ last.engine.jobs.length := by
    apply run.keeps (motive := fun later => system.engine.jobs.length ≤ later.engine.jobs.length)
      le_rfl
    · intro middle next before passes
      exact before.trans (length_jobs_mono passes.step)
    · rintro middle next taken before ⟨⟨thread, now, maximumRuns, idle, -, -, -, rfl, -⟩, -⟩
      exact before.trans (length_jobs_mono (.claim middle thread idle now maximumRuns))
  refine ⟨last.engine.jobs.length - system.engine.jobs.length, by omega, by omega, ?_⟩
  intro room
  apply run.keeps room
  · intro system next room passes
    exact length_jobs_le room passes.step
  · rintro system next taken room ⟨⟨thread, now, maximumRuns, idle, -, -, -, rfl, -⟩, -⟩
    exact length_jobs_le room (.claim system thread idle now maximumRuns)

/-- Four monitors, of which the first is the last of the three that are due. -/
def fourMonitorsSystem : System .linux Unit Bool where
  engine := MonitorEngine.fourMonitors
  store := .empty
  pumps _ := none

/-- Two claims with room for one, at the service's slot, take the router and the
gateway; nobody is ahead of the service any more. -/
theorem bounded_bypass_fourMonitors :
    ∃ registered,
      ((fourMonitorsSystem.claim false 5 1).claim true 6 1).engine.jobs.length =
        fourMonitorsSystem.engine.jobs.length + registered ∧
      2 + (((fourMonitorsSystem.claim false 5 1).claim true 6 1).engine.ahead 0).card ≤
        (fourMonitorsSystem.engine.ahead 0).card + registered := by
  have waits : Waits 0 5 fourMonitorsSystem := ⟨_, rfl, rfl, rfl⟩
  have unmarked (system : System .linux Unit Bool)
      (idle : (system.engine.jobs[0]?).map Job.inFlight = some false) : ¬ system.Marked 0 := by
    rintro ⟨job, found, marked⟩
    rw [found, Option.map_some, marked] at idle
    cases idle
  have first : PassesOver 0 5 fourMonitorsSystem (fourMonitorsSystem.claim false 5 1) 1 :=
    { claims := ⟨false, 5, 1, rfl, le_rfl, Nat.one_pos,
        MonitorEngine.covers_of_room (by decide) (by decide), rfl, by decide⟩
      unmarked := unmarked _ (by decide) }
  have second : PassesOver 0 5 (fourMonitorsSystem.claim false 5 1)
      ((fourMonitorsSystem.claim false 5 1).claim true 6 1) 1 :=
    { claims := ⟨true, 6, 1, rfl, by decide, Nat.one_pos,
        MonitorEngine.covers_of_room (by decide) (by decide), rfl, by decide⟩
      unmarked := unmarked _ (by decide) }
  obtain ⟨registered, jobs, bound, -⟩ :=
    bounded_bypass waits (((Counted.Run.refl _).count first).count second)
  exact ⟨registered, jobs, bound⟩

end MonitorConcurrency

end PixelStatus
