/-
# Bounded pumps

A pump claims the least due jobs, as many as its limit allows, and moves them
behind its time; the others it leaves. So what a second pump at the same time
finds due is what the first one left, in the same order, and pumps whose limits
suffice run every due job once, in the order in which one unbounded pump would.
They do so exactly when no claim wraps a job's next due time back to the pump's.
-/

import PixelStatus.Core.MonitorSchedule

namespace PixelStatus

variable {platform : Platform} {Runner : Type}

/-- The order of execution: by due time, then by id. -/
def Job.Precedes (left right : Job platform Runner) : Prop :=
  left.nextDue < right.nextDue ∨
    (left.nextDue = right.nextDue ∧ left.definition.id < right.definition.id)

/-- What a pump leaves of a job that it ran. -/
def Job.ran (job : Job platform Runner) (now : TimePoint) : Job platform Runner :=
  (job.claim now).release

/-- A job that ran is due again at the time of its pump unless its claim moved it
behind. -/
theorem Job.isDue_ran {job : Job platform Runner} {now : TimePoint} :
    (job.ran now).isDue now = true ↔ ¬ now < (job.claim now).nextDue := by
  rw [Job.isDue, Bool.and_eq_true_iff, decide_eq_true_eq, not_lt]
  exact and_iff_right rfl

namespace MonitorEngine

/-! ## The due jobs are in strict order -/

instance : Std.Total (@claimOrder platform Runner) where
  total left right := by
    rcases lt_trichotomy left.1.nextDue right.1.nextDue with less | same | greater
    · exact Or.inl (Or.inl less)
    · rcases List.le_total left.1.definition.id right.1.definition.id with le | ge
      · exact Or.inl (Or.inr ⟨same, le⟩)
      · exact Or.inr (Or.inr ⟨same.symm, ge⟩)
    · exact Or.inr (Or.inl greater)

instance : IsTrans (Job platform Runner × Nat) claimOrder where
  trans first second third := by
    rintro (early | ⟨same, le⟩) (later | ⟨same', le'⟩)
    · exact Or.inl (early.trans later)
    · exact Or.inl (same' ▸ early)
    · exact Or.inl (same ▸ later)
    · exact Or.inr ⟨same.trans same', List.le_trans le le'⟩

variable {engine : MonitorEngine platform Runner} {now : TimePoint} {maximumRuns : Nat}

/-- Jobs with one id are at one place. -/
theorem place_of_id {left right : Job platform Runner} {first second : Nat}
    (atFirst : engine.jobs[first]? = some left) (atSecond : engine.jobs[second]? = some right)
    (same : left.definition.id = right.definition.id) : first = second := by
  have inside : first < (engine.jobs.map fun job => job.definition.id).length := by
    rw [List.length_map]
    exact (List.getElem?_eq_some_iff.mp atFirst).1
  apply (List.getElem?_inj inside engine.distinct).mp
  rw [List.getElem?_map, List.getElem?_map, atFirst, atSecond, Option.map_some,
    Option.map_some, same]

/-- Between due jobs the claim order is strict. -/
theorem precedes_of_claimOrder {left right : Job platform Runner × Nat}
    (hleft : left ∈ engine.dueJobs now) (hright : right ∈ engine.dueJobs now)
    (ordered : claimOrder left right) (different : left ≠ right) :
    left.1.Precedes right.1 := by
  have atLeft := (mem_dueJobs.mp hleft).1
  have atRight := (mem_dueJobs.mp hright).1
  rcases ordered with less | ⟨same, le⟩
  · exact Or.inl less
  · refine Or.inr ⟨same, Std.lt_of_le_of_ne le fun sameId => different ?_⟩
    have samePlace : left.2 = right.2 := place_of_id atLeft atRight sameId
    rw [samePlace, atRight, Option.some.injEq] at atLeft
    exact Prod.ext atLeft.symm samePlace

/-- The order of a claim is that of the due times. -/
theorem not_claimOrder_of_precedes {left right : Job platform Runner × Nat}
    (precedes : left.1.Precedes right.1) : ¬ claimOrder right left := by
  rintro (less | ⟨same, le⟩)
  · rcases precedes with greater | ⟨same, _⟩
    · exact absurd less greater.asymm
    · exact absurd same less.ne'
  · rcases precedes with less | ⟨_, lt⟩
    · exact absurd same less.ne'
    · exact absurd lt (List.not_lt.mpr le)

/-- Two lists of due jobs in claim order are equal when they have the same members. -/
theorem eq_of_claimOrder {due : List (Job platform Runner × Nat)}
    {other : List (Job platform Runner × Nat)}
    (members : ∀ item ∈ due, item ∈ engine.dueJobs now) (sorted : due.Pairwise claimOrder)
    (otherSorted : other.Pairwise claimOrder) (perm : other.Perm due) : other = due := by
  apply perm.eq_of_pairwise _ otherSorted sorted
  intro left right hleft hright le ge
  have dueLeft := members left (perm.mem_iff.mp hleft)
  by_contra different
  exact not_claimOrder_of_precedes
    (precedes_of_claimOrder dueLeft (members right hright) le different) ge

/-- The due jobs are listed in their order. -/
theorem pairwise_dueJobs : (engine.dueJobs now).Pairwise fun left right =>
    left.1.Precedes right.1 := by
  have sorted : (engine.dueJobs now).Pairwise claimOrder := List.pairwise_insertionSort _ _
  have nodup : (engine.dueJobs now).Nodup := nodup_dueJobs.of_map
  apply (sorted.and nodup).imp_of_mem
  intro left right hleft hright both
  exact precedes_of_claimOrder hleft hright both.1 both.2

/-! ## What a pump changes -/

/-- A claim takes the first of the due jobs. -/
theorem mem_claimed {place : Nat} : place ∈ engine.claimed now maximumRuns ↔
    ∃ job, (job, place) ∈ (engine.dueJobs now).take maximumRuns := by
  rw [claimed, List.mem_map]
  refine ⟨?_, ?_⟩
  · rintro ⟨⟨job, _⟩, member, rfl⟩
    exact ⟨job, member⟩
  · rintro ⟨job, member⟩
    exact ⟨(job, place), member, rfl⟩

/-- Running jobs releases them and changes no other. -/
theorem getElem?_execute {run : Nat → RunnerOutcome} {places : List Nat}
    {store : StateStore} {report : MonitorPumpReport} (place : Nat) :
    (execute run now places (engine, store, report)).1.jobs[place]? =
      (engine.jobs[place]?).map fun job => if place ∈ places then job.release else job := by
  induction places generalizing engine store report with
  | nil => simp [execute]
  | cons first places ih =>
      rw [execute]
      split
      next absent =>
        rw [ih]
        by_cases same : place = first
        · rw [same, absent, Option.map_none, Option.map_none]
        · simp only [List.mem_cons, same, false_or]
      next job found =>
        rw [ih, getElem?_release, Option.map_map]
        congr 1
        funext job
        by_cases same : place = first
        · simp [same, Job.release]
        · simp [same]

/-- A pump moves the claimed jobs on and changes no other. -/
theorem getElem?_runDue {run : Nat → RunnerOutcome} {store : StateStore} (place : Nat) :
    (engine.runDue store run now maximumRuns).1.jobs[place]? = (engine.jobs[place]?).map fun job =>
      if place ∈ engine.claimed now maximumRuns then Job.ran job now else job := by
  rw [runDue, getElem?_execute, getElem?_claim, Option.map_map]
  congr 1
  funext job
  by_cases claims : place ∈ engine.claimed now maximumRuns <;> simp [claims, Job.ran]

/-- The due jobs behind the limit are those that are not claimed. -/
theorem mem_drop_dueJobs {job : Job platform Runner} {place : Nat} :
    (job, place) ∈ (engine.dueJobs now).drop maximumRuns ↔
      (job, place) ∈ engine.dueJobs now ∧ place ∉ engine.claimed now maximumRuns := by
  have parts := List.take_append_drop maximumRuns (engine.dueJobs now)
  have apart := @nodup_dueJobs _ _ engine now
  rw [← parts, List.map_append, List.nodup_append] at apart
  refine ⟨?_, ?_⟩
  · intro left
    refine ⟨List.mem_of_mem_drop left, fun claims => ?_⟩
    exact apart.2.2 place claims place (List.mem_map_of_mem left) rfl
  · rintro ⟨due, unclaimed⟩
    rw [← parts, List.mem_append] at due
    exact due.resolve_left fun taken => unclaimed (mem_claimed.mpr ⟨job, taken⟩)

/-- A claim of any due job at an instant leaves it due later. -/
def MovesOn (engine : MonitorEngine platform Runner) (now : TimePoint) : Prop :=
  ∀ job ∈ engine.jobs, job.isDue now = true → now < (job.claim now).nextDue

/-- A pump leaves no job behind that a claim would not move on. -/
theorem MovesOn.runDue (moves : engine.MovesOn now) {run : Nat → RunnerOutcome}
    {store : StateStore} : (engine.runDue store run now maximumRuns).1.MovesOn now := by
  intro job member due
  obtain ⟨place, found⟩ := List.mem_iff_getElem?.mp member
  rw [getElem?_runDue, Option.map_eq_some_iff] at found
  obtain ⟨before, atPlace, rfl⟩ := found
  have present := List.mem_of_getElem? atPlace
  by_cases claims : place ∈ engine.claimed now maximumRuns
  · obtain ⟨other, same, wasDue⟩ := isDue_of_mem_claimed claims
    obtain rfl : before = other := Option.some.inj (atPlace.symm.trans same)
    rw [if_pos claims, Job.isDue_ran] at due
    exact absurd (moves before present wasDue) due
  · rw [if_neg claims] at due ⊢
    exact moves before present due

/-- What is due after a pump is what the pump left. -/
theorem dueJobs_runDue (moves : engine.MovesOn now) {run : Nat → RunnerOutcome}
    {store : StateStore} :
    (engine.runDue store run now maximumRuns).1.dueJobs now =
      (engine.dueJobs now).drop maximumRuns := by
  have nodup : (engine.dueJobs now).Nodup := nodup_dueJobs.of_map
  have sorted : (engine.dueJobs now).Pairwise claimOrder := List.pairwise_insertionSort _ _
  apply @eq_of_claimOrder _ _ engine now _ _ (fun _ => List.mem_of_mem_drop) sorted.drop
  · exact List.pairwise_insertionSort _ _
  · apply (List.perm_ext_iff_of_nodup nodup_dueJobs.of_map nodup.drop).mpr
    rintro ⟨job, place⟩
    rw [mem_drop_dueJobs, mem_dueJobs, mem_dueJobs, getElem?_runDue]
    by_cases claims : place ∈ engine.claimed now maximumRuns
    · obtain ⟨before, found, due⟩ := isDue_of_mem_claimed claims
      have later := moves before (List.mem_of_getElem? found) due
      rw [found, Option.map_some, if_pos claims]
      refine ⟨?_, ?_⟩
      · rintro ⟨same, again⟩
        rw [← Option.some.inj same, Job.isDue_ran] at again
        exact absurd later again
      · exact fun left => absurd claims left.2
    · simp [claims]

/-! ## What is published -/

/-- The jobs at each place have one definition in both engines. -/
def SameDefinitions (left right : MonitorEngine platform Runner) : Prop :=
  ∀ place : Nat, (left.jobs[place]?).map Job.definition = (right.jobs[place]?).map Job.definition

theorem sameDefinitions_release (places : List Nat) :
    (engine.release places).SameDefinitions engine := by
  intro place
  rw [getElem?_release, Option.map_map]
  congr 1
  funext job
  by_cases member : place ∈ places <;> simp [member, Job.release]

theorem sameDefinitions_claim : (engine.claim now maximumRuns).SameDefinitions engine := by
  intro place
  rw [getElem?_claim, Option.map_map]
  congr 1
  funext job
  by_cases member : place ∈ engine.claimed now maximumRuns <;> simp [member, Job.claim]

/-- Publish the outcomes of runs in their order. -/
def publishAll (engine : MonitorEngine platform Runner) (now : TimePoint)
    (runs : List (Nat × RunnerOutcome)) (store : StateStore) : StateStore :=
  runs.foldl (fun store item =>
    (engine.jobs[item.1]?).elim store fun job =>
      (store.upsert (job.publication item.2 now)).2) store

/-- What is published depends on the definitions alone. -/
theorem publishAll_congr {other : MonitorEngine platform Runner}
    (same : engine.SameDefinitions other) (runs : List (Nat × RunnerOutcome))
    (store : StateStore) : engine.publishAll now runs store = other.publishAll now runs store := by
  unfold publishAll
  congr 1
  funext store item
  have definitions := same item.1
  cases hleft : engine.jobs[item.1]? with
  | none =>
      rw [hleft, Option.map_none, eq_comm, Option.map_eq_none_iff] at definitions
      rw [definitions]
  | some left =>
      rw [hleft, Option.map_some, eq_comm, Option.map_eq_some_iff] at definitions
      obtain ⟨right, hright, agree⟩ := definitions
      rw [hright, Option.elim_some, Option.elim_some, Job.publication, Job.publication, agree]

/-- Running jobs publishes their outcomes, one after the other. -/
theorem store_execute {run : Nat → RunnerOutcome} {places : List Nat} {store : StateStore}
    {report : MonitorPumpReport} :
    (execute run now places (engine, store, report)).2.1 =
      engine.publishAll now (places.map fun place => (place, run place)) store := by
  induction places generalizing engine store report with
  | nil => rfl
  | cons place places ih =>
      rw [execute]
      split
      next absent =>
        rw [ih, publishAll, publishAll, List.map_cons, List.foldl_cons, absent, Option.elim_none]
      next job found =>
        rw [ih, publishAll_congr (sameDefinitions_release [place]), publishAll, publishAll,
          List.map_cons, List.foldl_cons, found, Option.elim_some]

/-- A pump publishes the outcomes of the claimed jobs in the order of the claims. -/
theorem store_runDue {run : Nat → RunnerOutcome} {store : StateStore} :
    (engine.runDue store run now maximumRuns).2.1 =
      engine.publishAll now
        ((engine.claimed now maximumRuns).map fun place => (place, run place)) store := by
  rw [runDue, store_execute, publishAll_congr sameDefinitions_claim]

/-- A pump changes no definition. -/
theorem sameDefinitions_runDue {run : Nat → RunnerOutcome} {store : StateStore} :
    (engine.runDue store run now maximumRuns).1.SameDefinitions engine := by
  intro place
  rw [getElem?_runDue, Option.map_map]
  congr 1
  funext job
  by_cases member : place ∈ engine.claimed now maximumRuns <;>
    simp [member, Job.ran, Job.claim, Job.release]

/-! ## Pumps at one time -/

/-- A call of `run_due`: its limit, and how each runner would end. -/
structure PumpCall where
  maximumRuns : Nat
  run : Nat → RunnerOutcome

/-- Pumps one after the other: what they leave, and the runs in their order. -/
def pumpAll (now : TimePoint) (engine : MonitorEngine platform Runner) (store : StateStore) :
    List PumpCall → MonitorEngine platform Runner × StateStore × List (Nat × RunnerOutcome)
  | [] => (engine, store, [])
  | call :: calls =>
      let after := engine.runDue store call.run now call.maximumRuns
      let rest := pumpAll now after.1 after.2.1 calls
      (rest.1, rest.2.1,
        (engine.claimed now call.maximumRuns).map (fun place => (place, call.run place)) ++
          rest.2.2)

/-- The runs of the pumps are the first due jobs, as many as the limits allow. -/
theorem places_pumpAll (moves : engine.MovesOn now) {store : StateStore}
    {calls : List PumpCall} :
    (pumpAll now engine store calls).2.2.map Prod.fst =
      ((engine.dueJobs now).take (calls.map PumpCall.maximumRuns).sum).map Prod.snd := by
  induction calls generalizing engine store with
  | nil => rfl
  | cons call calls ih =>
      rw [pumpAll, List.map_append, ih moves.runDue, dueJobs_runDue moves, List.map_map,
        List.map_cons, List.sum_cons, List.take_add, List.map_append]
      congr 1
      rw [Function.comp_def, List.map_id', claimed]

/-- Several pumps publish the outcomes of all their runs. -/
theorem store_pumpAll {store : StateStore} {calls : List PumpCall} :
    (pumpAll now engine store calls).2.1 =
      engine.publishAll now (pumpAll now engine store calls).2.2 store := by
  induction calls generalizing engine store with
  | nil => rfl
  | cons call calls ih =>
      rw [pumpAll, ih, publishAll_congr sameDefinitions_runDue, store_runDue, publishAll,
        publishAll, publishAll, List.foldl_append]

/-! ## The contract -/

variable (engine now)

/-- The job at a place is due and not in flight. -/
def DueAt (place : Nat) : Prop :=
  ∃ job, engine.jobs[place]? = some job ∧ job.isDue now = true

/-- The job at one place precedes the job at another. -/
def Before (first second : Nat) : Prop :=
  ∃ left right, engine.jobs[first]? = some left ∧ engine.jobs[second]? = some right ∧
    left.Precedes right

/-- So many places of due jobs in order, no due job elsewhere preceding them. -/
structure LeastDue (maximumRuns : Nat) (places : List Nat) : Prop where
  due : ∀ place ∈ places, engine.DueAt now place
  count : places.length = min maximumRuns (engine.jobs.countP fun job => job.isDue now)
  ordered : places.Pairwise engine.Before
  least : ∀ place ∈ places, ∀ other, engine.DueAt now other → other ∉ places →
    engine.Before place other

variable {engine now}

/-- As many jobs are due as have passed their time. -/
theorem length_dueJobs :
    (engine.dueJobs now).length = engine.jobs.countP fun job => job.isDue now := by
  rw [dueJobs, List.length_insertionSort, ← List.countP_eq_length_filter]
  conv_rhs => rw [← List.zipIdx_map_fst 0 engine.jobs, List.countP_map]
  rfl

/-- No due job goes before one that is listed earlier. -/
theorem before_dueJobs : (engine.dueJobs now).Pairwise fun left right =>
    engine.Before left.2 right.2 := by
  apply pairwise_dueJobs.imp_of_mem
  intro left right hleft hright precedes
  exact ⟨left.1, right.1, (mem_dueJobs.mp hleft).1, (mem_dueJobs.mp hright).1, precedes⟩

/-- A claim takes the due jobs that go before all others. -/
theorem leastDue_claimed : engine.LeastDue now maximumRuns (engine.claimed now maximumRuns) where
  due place claims := isDue_of_mem_claimed claims
  count := by rw [claimed, List.length_map, List.length_take, length_dueJobs]
  ordered := by
    rw [claimed, List.pairwise_map]
    exact before_dueJobs.sublist (List.take_sublist _ _)
  least place claims other due unclaimed := by
    obtain ⟨job, taken⟩ := mem_claimed.mp claims
    obtain ⟨otherJob, found, isDue⟩ := due
    have left := mem_drop_dueJobs.mpr ⟨mem_dueJobs.mpr ⟨found, isDue⟩, unclaimed⟩
    have sorted := @before_dueJobs _ _ engine now
    rw [← List.take_append_drop maximumRuns (engine.dueJobs now), List.pairwise_append] at sorted
    exact sorted.2.2 _ taken _ left

/-- A due job is claimed by a pump with room for every job. -/
theorem mem_claimed_of_dueAt {place : Nat} (due : engine.DueAt now place) :
    place ∈ engine.claimed now engine.jobs.length := by
  obtain ⟨job, found, isDue⟩ := due
  have enough : (engine.dueJobs now).length ≤ engine.jobs.length := by
    rw [length_dueJobs]
    exact List.countP_le_length
  rw [mem_claimed, List.take_of_length_le enough]
  exact ⟨job, mem_dueJobs.mpr ⟨found, isDue⟩⟩

/-- A job that its claim does not move on is run by each of two pumps with room for it. -/
theorem not_nodup_of_stays {place : Nat} {job : Job platform Runner}
    (found : engine.jobs[place]? = some job) (due : job.isDue now = true)
    (stays : ¬ now < (job.claim now).nextDue) (run : Nat → RunnerOutcome) (store : StateStore) :
    ∃ room, ¬ ((pumpAll now engine store
      [⟨engine.jobs.length, run⟩, ⟨room, run⟩]).2.2.map Prod.fst).Nodup := by
  have first := mem_claimed_of_dueAt ⟨job, found, due⟩
  refine ⟨(engine.runDue store run now engine.jobs.length).1.jobs.length, fun nodup => ?_⟩
  have again : place ∈ (engine.runDue store run now engine.jobs.length).1.claimed now
      (engine.runDue store run now engine.jobs.length).1.jobs.length := by
    apply mem_claimed_of_dueAt
    refine ⟨job.ran now, ?_, Job.isDue_ran.mpr stays⟩
    rw [getElem?_runDue, found, Option.map_some, if_pos first]
  rw [pumpAll, pumpAll, pumpAll, List.append_nil, List.map_append, List.nodup_append] at nodup
  simp only [List.map_map, Function.comp_def, List.map_id'] at nodup
  exact nodup.2.2 place first place again rfl

/-- On the clock, the claims move the due jobs on exactly when they are requeued. -/
theorem movesOn_iff (clock : ∀ job ∈ engine.jobs, job.OnClock now) : engine.MovesOn now ↔
    ∀ job ∈ engine.jobs, job.isDue now = true → job.Requeued now := by
  apply forall₂_congr
  intro job member
  apply imp_congr_right
  intro due
  exact (Job.requeued_iff (clock job member) (Job.late_of_isDue due)).symm

/-- A bounded pump runs the least due jobs and moves no other. Pumps at one time
whose limits suffice run every due job once, in the order of all of them, and
publish in this order, however the limits are split, if and only if each due job's
next slot, brought back into the clock's count, is still behind the pumps. -/
theorem bounded_pumps (engine : MonitorEngine platform Runner) (now : TimePoint) :
    (∀ (store : StateStore) (run : Nat → RunnerOutcome) (maximumRuns : Nat),
      engine.LeastDue now maximumRuns (engine.claimed now maximumRuns) ∧
      (engine.runDue store run now maximumRuns).2.1 = engine.publishAll now
        ((engine.claimed now maximumRuns).map fun place => (place, run place)) store ∧
      ∀ place, place ∉ engine.claimed now maximumRuns →
        (engine.claim now maximumRuns).jobs[place]? = engine.jobs[place]? ∧
        (engine.runDue store run now maximumRuns).1.jobs[place]? = engine.jobs[place]?) ∧
    ((∀ job ∈ engine.jobs, job.OnClock now) →
      ((∀ (store : StateStore) (calls : List PumpCall),
        (engine.jobs.countP fun job => job.isDue now) ≤ (calls.map PumpCall.maximumRuns).sum →
          ((pumpAll now engine store calls).2.2.map Prod.fst).Pairwise engine.Before ∧
          ((pumpAll now engine store calls).2.2.map Prod.fst).Nodup ∧
          (∀ place, place ∈ (pumpAll now engine store calls).2.2.map Prod.fst ↔
            engine.DueAt now place) ∧
          (pumpAll now engine store calls).2.1 =
            engine.publishAll now (pumpAll now engine store calls).2.2 store) ↔
      ∀ job ∈ engine.jobs, job.isDue now = true → job.Requeued now)) := by
  refine ⟨?_, fun clock => ?_⟩
  · intro store run maximumRuns
    refine ⟨leastDue_claimed, store_runDue, fun place unclaimed => ?_⟩
    rw [getElem?_claim, getElem?_runDue]
    simp [unclaimed]
  rw [← movesOn_iff clock]
  refine ⟨?_, ?_⟩
  · intro once job member due
    by_contra stays
    obtain ⟨place, found⟩ := List.mem_iff_getElem?.mp member
    obtain ⟨room, twice⟩ := not_nodup_of_stays found due stays (fun _ => .threw none) .empty
    apply twice
    refine (once .empty _ ?_).2.1
    rw [List.map_cons, List.sum_cons]
    exact List.countP_le_length.trans (Nat.le_add_right _ _)
  · intro moves store calls enough
    rw [← length_dueJobs] at enough
    rw [places_pumpAll moves, List.take_of_length_le enough]
    refine ⟨List.pairwise_map.mpr before_dueJobs, nodup_dueJobs, fun place => ?_, store_pumpAll⟩
    rw [List.mem_map]
    refine ⟨?_, ?_⟩
    · rintro ⟨⟨job, _⟩, member, rfl⟩
      exact ⟨job, mem_dueJobs.mp member⟩
    · rintro ⟨job, found, due⟩
      exact ⟨(job, place), mem_dueJobs.mpr ⟨found, due⟩, rfl⟩

/-- The claims of the due jobs at an instant are covered. -/
def Covers (engine : MonitorEngine platform Runner) (now : TimePoint) : Prop :=
  ∀ job ∈ engine.jobs, job.isDue now = true → job.OnClock now ∧ job.Covered now

/-- A clock with room for every interval covers every claim. -/
theorem covers_of_room (begun : ∀ job ∈ engine.jobs, 0 ≤ job.nextDue)
    (room : ∀ job ∈ engine.jobs, FitsCount (now + job.slot)) : engine.Covers now := by
  intro job member due
  exact Job.covered_of_room (begun job member) (Job.late_of_isDue due) (room job member)

/-- Covered claims requeue their jobs. -/
theorem Covers.requeued (covers : engine.Covers now) :
    ∀ job ∈ engine.jobs, job.isDue now = true → job.Requeued now := by
  intro job member due
  obtain ⟨clock, covered⟩ := covers job member due
  have late := Job.late_of_isDue due
  exact (Job.requeued_iff clock late).mpr (Job.claim_bounds clock late covered).1

/-- A monitor that runs every second. -/
def steadyMonitor (id : Bytes) : MonitorDefinition := { id, interval := 1000 }

/-- The monitor with a short interval is valid. -/
theorem steadyMonitor_valid {id : Bytes} (valid : isValidIdentifier id = true) :
    (steadyMonitor id).Valid .linux :=
  ⟨valid, by simp [steadyMonitor], by simp [steadyMonitor], by simp only [steadyMonitor]; decide⟩

/-- A registered monitor that runs every second. -/
def steadyJob (id : Bytes) (valid : isValidIdentifier id = true) (nextDue : TimePoint) :
    Job .linux Unit where
  definition := steadyMonitor id
  valid := steadyMonitor_valid valid
  runner := ()
  nextDue := nextDue
  inFlight := false

/-- Four monitors: at seven nanoseconds all but the last are due. -/
def fourMonitors : MonitorEngine .linux Unit where
  jobs :=
    [steadyJob (bytes "service") (by decide) 5, steadyJob (bytes "router") (by decide) 0,
     steadyJob (bytes "gateway") (by decide) 5, steadyJob (bytes "backup") (by decide) 9]
  distinct := by decide

/-- A pump with room for one takes the monitor that is due first; the next one
takes the two of the next slot by their ids, and leaves the last. -/
theorem bounded_pumps_fourMonitors :
    ((pumpAll 7 fourMonitors .empty
        [⟨1, fun _ => .threw none⟩, ⟨4, fun _ => .threw none⟩]).2.2.map Prod.fst).Pairwise
      fourMonitors.Before ∧
    (pumpAll 7 fourMonitors .empty
      [⟨1, fun _ => .threw none⟩, ⟨4, fun _ => .threw none⟩]).2.2.map Prod.fst = [1, 2, 0] := by
  have covers : fourMonitors.Covers 7 := covers_of_room (by decide) (by decide)
  have clock : ∀ job ∈ fourMonitors.jobs, job.OnClock 7 := by
    have counted : ∀ job ∈ fourMonitors.jobs, FitsCount job.nextDue := by decide
    exact fun job member => ⟨counted job member, by decide⟩
  have runs := ((bounded_pumps fourMonitors 7).2 clock).mpr covers.requeued .empty
    [⟨1, fun _ => .threw none⟩, ⟨4, fun _ => .threw none⟩] (by decide)
  exact ⟨runs.1, by decide⟩

/-- The monitor of 292 years is run by both of two pumps at the time it is due. -/
theorem bounded_pumps_rareMonitor : ∃ registered : MonitorEngine .linux Unit,
    MonitorEngine.empty.add rareMonitor (some ()) 0 = .ok registered ∧
    (registered.jobs.countP fun job => job.isDue 0) = 1 ∧
    ¬ ((pumpAll 0 registered .empty
        [⟨1, fun _ => .threw none⟩, ⟨1, fun _ => .threw none⟩]).2.2.map Prod.fst).Nodup :=
  ⟨_, add_of_valid rareMonitor_valid (by decide) List.not_mem_nil, by decide, by decide⟩

end MonitorEngine

end PixelStatus
