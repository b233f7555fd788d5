/-
# The slots of a monitor

The slots of a job begin at its first due time and are one interval long. A
claim moves the job to the first slot that begins after the claim, so the job
keeps to the slots it was registered with, however late a claim comes and
whichever way the clocks of the threads differ. This is so exactly as long as
the counts of the clock hold the slot behind each claim and the time by which
the job is late: no check of the source keeps an interval short enough for that.
-/

import PixelStatus.Core.MonitorConcurrency

namespace PixelStatus

variable {platform : Platform} {Runner : Type}

namespace Job

/-- The length of a slot. -/
def slot (job : Job platform Runner) : Int := nanoseconds job.definition.interval

/-- Every slot is longer than nothing. -/
theorem slot_pos (job : Job platform Runner) : 0 < job.slot :=
  Int.mul_pos job.valid.interval (by decide)

/-- A due job is late. -/
theorem late_of_isDue {job : Job platform Runner} {now : TimePoint}
    (due : job.isDue now = true) : job.nextDue ≤ now :=
  of_decide_eq_true (Bool.and_eq_true_iff.mp due).2

/-- The time by which a job is late. -/
def lateBy (job : Job platform Runner) (now : TimePoint) : Int := now - job.nextDue

/-- A job that is due is late by no negative time. -/
theorem lateBy_nonneg {job : Job platform Runner} {now : TimePoint} (late : job.nextDue ≤ now) :
    0 ≤ job.lateBy now := Int.sub_nonneg.mpr late

/-- The beginning of the first slot behind an instant at which the job is due. -/
def slotAfter (job : Job platform Runner) (now : TimePoint) : Int :=
  job.nextDue + (job.lateBy now / job.slot + 1) * job.slot

/-- It is later, by one slot at most. -/
theorem slotAfter_bounds (job : Job platform Runner) (now : TimePoint) :
    now < job.slotAfter now ∧ job.slotAfter now ≤ now + job.slot := by
  have below := Int.lt_ediv_add_one_mul_self (job.lateBy now) job.slot_pos
  have above := Int.ediv_mul_le (job.lateBy now) job.slot_pos.ne'
  have gap : job.lateBy now = now - job.nextDue := rfl
  rw [slotAfter]
  rw [Int.add_mul, Int.one_mul] at *
  constructor <;> linarith

/-- Truncating to milliseconds first does not change how many whole intervals
a time has. -/
theorem durationCast_tdiv (time interval : Int) :
    (durationCast time).tdiv interval = time.tdiv (nanoseconds interval) := by
  have forward {time : Int} (positive : 0 ≤ time) :
      (durationCast time).tdiv interval = time.tdiv (nanoseconds interval) := by
    have whole : durationCast time = time / 1000000 := Int.tdiv_eq_ediv_of_nonneg positive
    have rounded : 0 ≤ time / 1000000 := Int.ediv_nonneg positive (by decide)
    rw [whole, Int.tdiv_eq_ediv_of_nonneg rounded, Int.tdiv_eq_ediv_of_nonneg positive,
      nanoseconds, Int.mul_comm, Int.ediv_ediv_of_nonneg (by decide)]
  rcases Int.le_total 0 time with positive | negative
  · exact forward positive
  · have mirrored := forward (Int.neg_nonneg_of_nonpos negative)
    rw [durationCast, Int.neg_tdiv, Int.neg_tdiv, Int.neg_tdiv] at mirrored
    exact Int.neg_inj.mp mirrored

/-- However the parts of the new due time are wrapped, the whole is. -/
theorem claim_nextDue (job : Job platform Runner) (now : TimePoint) :
    (job.claim now).nextDue =
      toCount (job.nextDue + ((toCount (job.lateBy now)).tdiv job.slot + 1) * job.slot) := by
  have periods := durationCast_tdiv (toCount (job.lateBy now)) job.definition.interval
  rw [← slot] at periods
  show toCount (job.nextDue + toCount (nanoseconds (toCount (job.definition.interval *
    ((durationCast (toCount (job.lateBy now))).tdiv job.definition.interval + 1))))) = _
  rw [periods, toCount, SignedWord.wrap_add_wrap, nanoseconds, ← SignedWord.wrap_add_wrap,
    SignedWord.wrap_wrap_mul, SignedWord.wrap_add_wrap, slot, nanoseconds]
  congr 2
  ring

/-- The job's due time and the time of a claim are instants of the clock's count. -/
structure OnClock (job : Job platform Runner) (now : TimePoint) : Prop where
  due : FitsCount job.nextDue
  now : FitsCount now

/-- The slot behind the claim begins at an instant of the clock, and the time by
which the job is late fits as well, or is less than a slot. -/
def Covered (job : Job platform Runner) (now : TimePoint) : Prop :=
  FitsCount (job.slotAfter now) ∧ (FitsCount (job.lateBy now) ∨ job.lateBy now < job.slot)

instance (job : Job platform Runner) (now : TimePoint) : Decidable (job.Covered now) :=
  inferInstanceAs (Decidable (_ ∧ (_ ∨ _)))

/-- A time by which a job is late that leaves the word is counted as negative. -/
theorem toCount_lateBy {job : Job platform Runner} {now : TimePoint} (clock : job.OnClock now)
    (late : job.nextDue ≤ now) (outside : ¬ FitsCount (job.lateBy now)) :
    2 ^ 63 ≤ job.lateBy now ∧ toCount (job.lateBy now) = -(2 ^ 64 - job.lateBy now) ∧
      0 < 2 ^ 64 - job.lateBy now := by
  have due := clock.due
  have time := clock.now
  have gap := lateBy_nonneg late
  unfold FitsCount SignedWord.Fits at due time outside
  push_cast at due time outside
  have below : job.lateBy now < 2 ^ 64 := by
    rw [lateBy]
    linarith [due.1, time.2]
  have wrapped : toCount (job.lateBy now) = toCount (-(2 ^ 64 - job.lateBy now)) := by
    apply SignedWord.wrap_eq_wrap_iff.mpr
    refine ⟨1, ?_⟩
    push_cast
    ring
  have inside : FitsCount (-(2 ^ 64 - job.lateBy now)) := by
    constructor <;> push_cast <;> omega
  refine ⟨by omega, wrapped.trans (SignedWord.wrap_of_fits inside), by omega⟩

/-- Whole slots never make a whole round of the word: a slot has a factor that no
power of two has. -/
theorem not_round_of_slots (job : Job platform Runner) (count : Int) :
    count * job.slot ≠ 2 ^ 64 := by
  intro same
  have divides : (5 : Int) ∣ 2 ^ 64 := by
    refine ⟨count * (job.definition.interval * 200000), ?_⟩
    rw [← same, slot, nanoseconds]
    ring
  omega

/-- The slot that the counted lateness leads to: the one behind the claim, or one that
the job has passed where the time by which it is late leaves the word. -/
def countedSlot (job : Job platform Runner) (now : TimePoint) : Int :=
  if FitsCount (job.lateBy now) then job.slotAfter now
  else job.nextDue + (1 - (2 ^ 64 - job.lateBy now) / job.slot) * job.slot

/-- A claim moves the job there, as far as the clock can count it. -/
theorem claim_countedSlot {job : Job platform Runner} {now : TimePoint} (clock : job.OnClock now)
    (late : job.nextDue ≤ now) : (job.claim now).nextDue = toCount (job.countedSlot now) := by
  rw [claim_nextDue, countedSlot]
  split
  next fits =>
    have counted : toCount (job.lateBy now) = job.lateBy now := SignedWord.wrap_of_fits fits
    rw [counted, Int.tdiv_eq_ediv_of_nonneg (lateBy_nonneg late), slotAfter]
  next outside =>
    obtain ⟨_, counted, positive⟩ := toCount_lateBy clock late outside
    rw [counted, Int.neg_tdiv, Int.tdiv_eq_ediv_of_nonneg positive.le]
    congr 2
    ring

/-- A covered claim moves the job to the slot behind the clock. -/
theorem claim_of_covered {job : Job platform Runner} {now : TimePoint} (clock : job.OnClock now)
    (late : job.nextDue ≤ now) (covered : job.Covered now) :
    (job.claim now).nextDue = job.slotAfter now := by
  have gap := lateBy_nonneg late
  have leads : job.countedSlot now = job.slotAfter now := by
    rw [countedSlot, ite_eq_left_iff]
    intro outside
    have short := covered.2.resolve_left outside
    obtain ⟨low, _, positive⟩ := toCount_lateBy clock late outside
    have behind : 2 ^ 64 - job.lateBy now < job.slot := by linarith
    rw [Int.ediv_eq_zero_of_lt positive.le behind, slotAfter, Int.ediv_eq_zero_of_lt gap short]
    ring
  rw [claim_countedSlot clock late, leads]
  exact SignedWord.wrap_of_fits covered.1

/-- A claim that moves the job to the slot behind it is a covered one. -/
theorem covered_of_claim {job : Job platform Runner} {now : TimePoint} (clock : job.OnClock now)
    (late : job.nextDue ≤ now) (moves : (job.claim now).nextDue = job.slotAfter now) :
    job.Covered now := by
  have counted := claim_countedSlot clock late
  have fits : FitsCount (job.slotAfter now) := by
    rw [← moves, counted]
    exact fitsCount_toCount _
  refine ⟨fits, ?_⟩
  by_contra neither
  obtain ⟨outside, long⟩ := not_or.mp neither
  rw [not_lt] at long
  obtain ⟨_, _, positive⟩ := toCount_lateBy clock late outside
  rw [countedSlot, if_neg outside, moves] at counted
  -- The slots by which the code and the schedule differ would make one round of the word.
  have same : toCount (job.slotAfter now) = toCount (job.nextDue +
      (1 - (2 ^ 64 - job.lateBy now) / job.slot) * job.slot) := by
    rw [← counted]
    exact SignedWord.wrap_of_fits fits
  obtain ⟨rounds, differs⟩ := SignedWord.wrap_eq_wrap_iff.mp same
  have round : ((2 * 2 ^ 63 : Nat) : Int) = 2 ^ 64 := by norm_num
  have total : (job.lateBy now / job.slot + (2 ^ 64 - job.lateBy now) / job.slot) * job.slot =
      2 ^ 64 * rounds := by
    rw [slotAfter, round] at differs
    rw [← differs]
    ring
  have whole := Int.ediv_mul_le (job.lateBy now) job.slot_pos.ne'
  have rest := Int.ediv_mul_le (2 ^ 64 - job.lateBy now) job.slot_pos.ne'
  have some : 1 ≤ job.lateBy now / job.slot :=
    Int.le_ediv_of_mul_le job.slot_pos (by rwa [Int.one_mul])
  have none : 0 ≤ (2 ^ 64 - job.lateBy now) / job.slot :=
    Int.ediv_nonneg positive.le job.slot_pos.le
  have least : 0 < 2 ^ 64 * rounds := total ▸ Int.mul_pos (by omega) job.slot_pos
  have most : 2 ^ 64 * rounds ≤ 2 ^ 64 := by
    rw [← total, Int.add_mul]
    linarith
  obtain rfl : rounds = 1 := by omega
  exact not_round_of_slots job _ total

/-- After a covered claim the job is due later, by one slot at most. -/
theorem claim_bounds {job : Job platform Runner} {now : TimePoint} (clock : job.OnClock now)
    (late : job.nextDue ≤ now) (covered : job.Covered now) :
    now < (job.claim now).nextDue ∧ (job.claim now).nextDue ≤ now + job.slot := by
  rw [claim_of_covered clock late covered]
  exact job.slotAfter_bounds now

/-- Whole rounds of the word take the job's new slot to an instant of the clock behind
the claim. -/
def Requeued (job : Job platform Runner) (now : TimePoint) : Prop :=
  ∃ rounds : Int, now < job.countedSlot now + 2 ^ 64 * rounds ∧
    FitsCount (job.countedSlot now + 2 ^ 64 * rounds)

/-- Exactly then a claim leaves the job due later. -/
theorem requeued_iff {job : Job platform Runner} {now : TimePoint} (clock : job.OnClock now)
    (late : job.nextDue ≤ now) : job.Requeued now ↔ now < (job.claim now).nextDue := by
  have round : ((2 * 2 ^ 63 : Nat) : Int) = 2 ^ 64 := by norm_num
  rw [claim_countedSlot clock late]
  refine ⟨?_, ?_⟩
  · rintro ⟨rounds, later, fits⟩
    have same : toCount (job.countedSlot now) =
        toCount (job.countedSlot now + 2 ^ 64 * rounds) := by
      apply SignedWord.wrap_eq_wrap_iff.mpr
      refine ⟨-rounds, ?_⟩
      rw [round]
      ring
    have counted : toCount (job.countedSlot now + 2 ^ 64 * rounds) =
        job.countedSlot now + 2 ^ 64 * rounds := SignedWord.wrap_of_fits fits
    rwa [same, counted]
  · intro later
    have fits := fitsCount_toCount (job.countedSlot now)
    obtain ⟨rounds, differs⟩ := SignedWord.wrap_eq_wrap_iff.mp (SignedWord.wrap_of_fits fits)
    rw [round, ← toCount] at differs
    refine ⟨rounds, ?_⟩
    have reached : job.countedSlot now + 2 ^ 64 * rounds = toCount (job.countedSlot now) := by
      linarith
    rw [reached]
    exact ⟨later, fits⟩

/-- From the origin of the clock on, a claim is covered as long as one more slot
fits behind it. -/
theorem covered_of_room {job : Job platform Runner} {now : TimePoint} (begun : 0 ≤ job.nextDue)
    (late : job.nextDue ≤ now) (room : FitsCount (now + job.slot)) :
    job.OnClock now ∧ job.Covered now := by
  obtain ⟨after, within⟩ := job.slotAfter_bounds now
  have high := room.2
  have positive := job.slot_pos
  push_cast at high
  have started : 0 ≤ now := begun.trans late
  have gap := lateBy_nonneg late
  have most : job.lateBy now ≤ now := Int.sub_le_self now begun
  refine ⟨⟨⟨?_, ?_⟩, ?_, ?_⟩, ⟨?_, ?_⟩, Or.inl ⟨?_, ?_⟩⟩ <;> push_cast <;> linarith

/-- What a schedule keeps: the due time is the beginning of a slot. -/
def OnSlot (firstDue : TimePoint) (job : Job platform Runner) : Prop :=
  ∃ count : Nat, job.nextDue = firstDue + count * job.slot

/-- The first slot behind an instant begins where a slot does that begins behind
it, by one slot at most. -/
theorem eq_slotAfter {firstDue now : TimePoint} {job : Job platform Runner}
    (onSlot : job.OnSlot firstDue) {count : Nat} {due : Int}
    (begins : due = firstDue + count * job.slot) (later : now < due)
    (soon : due ≤ now + job.slot) : due = job.slotAfter now := by
  obtain ⟨current, same⟩ := onSlot
  obtain ⟨after, within⟩ := job.slotAfter_bounds now
  rw [slotAfter, same] at after within
  rw [slotAfter, same]
  generalize job.lateBy now / job.slot = periods at after within ⊢
  have less : (count - current - periods - 1 : Int) * job.slot < 1 * job.slot := by linarith
  have more : (-1 : Int) * job.slot < (count - current - periods - 1) * job.slot := by linarith
  have above : (count - current - periods - 1 : Int) < 1 :=
    lt_of_mul_lt_mul_right less job.slot_pos.le
  have below : (-1 : Int) < count - current - periods - 1 :=
    lt_of_mul_lt_mul_right more job.slot_pos.le
  obtain rfl : periods = count - current - 1 := by omega
  rw [begins]
  ring

/-- The slot behind the clock is one of the job's slots. -/
theorem onSlot_slotAfter {firstDue now : TimePoint} {job : Job platform Runner}
    (onSlot : job.OnSlot firstDue) (late : job.nextDue ≤ now) :
    ∃ count : Nat, job.slotAfter now = firstDue + count * job.slot := by
  obtain ⟨count, begins⟩ := onSlot
  have passed : 0 ≤ job.lateBy now / job.slot :=
    Int.ediv_nonneg (lateBy_nonneg late) job.slot_pos.le
  refine ⟨count + (job.lateBy now / job.slot).toNat + 1, ?_⟩
  rw [slotAfter]
  push_cast
  rw [Int.toNat_of_nonneg passed, begins]
  ring

/-- What a claim at an instant owes to a schedule: the job's new due time is the
beginning of a slot, behind the instant by one slot at most. -/
def KeepsSlots (firstDue : TimePoint) (slot : Int) (job : Job platform Runner)
    (now : TimePoint) : Prop :=
  (∃ count : Nat, (job.claim now).nextDue = firstDue + count * slot) ∧
    now < (job.claim now).nextDue ∧ (job.claim now).nextDue ≤ now + slot

/-- The slots are kept exactly while the clock covers the claim. -/
theorem keepsSlots_iff_covered {firstDue now : TimePoint} {job : Job platform Runner}
    (clock : job.OnClock now) (onSlot : job.OnSlot firstDue) (late : job.nextDue ≤ now) :
    job.KeepsSlots firstDue job.slot now ↔ job.Covered now := by
  refine ⟨?_, ?_⟩
  · rintro ⟨⟨count, begins⟩, later, soon⟩
    exact covered_of_claim clock late (eq_slotAfter onSlot begins later soon)
  · intro covered
    refine ⟨?_, claim_bounds clock late covered⟩
    obtain ⟨count, begins⟩ := onSlot_slotAfter onSlot late
    exact ⟨count, (claim_of_covered clock late covered).trans begins⟩

end Job

/-! ## Runs of an engine -/

/-- What is done to an engine under its lock. A registration that fails leaves
the engine as it is. -/
inductive EngineCall (Runner : Type)
  | claim (now : TimePoint) (maximumRuns : Nat)
  | release (places : List Nat)
  | register (definition : MonitorDefinition) (runner : Option Runner) (firstDue : TimePoint)

namespace MonitorEngine

def perform (engine : MonitorEngine platform Runner) :
    EngineCall Runner → MonitorEngine platform Runner
  | .claim now maximumRuns => engine.claim now maximumRuns
  | .release places => engine.release places
  | .register definition runner firstDue =>
      match engine.add definition runner firstDue with
      | .ok added => added
      | .error _ => engine

def run (engine : MonitorEngine platform Runner) (calls : List (EngineCall Runner)) :
    MonitorEngine platform Runner :=
  calls.foldl perform engine

/-- The time of a call that claims the job at a place. -/
def claimTime (engine : MonitorEngine platform Runner) (place : Nat) :
    EngineCall Runner → Option TimePoint
  | .claim now maximumRuns => if place ∈ engine.claimed now maximumRuns then some now else none
  | _ => none

/-- Only a claim of its place claims a job. -/
theorem claim_of_claimTime {engine : MonitorEngine platform Runner} {place : Nat}
    {call : EngineCall Runner} {time : TimePoint}
    (claims : engine.claimTime place call = some time) :
    ∃ maximumRuns, call = .claim time maximumRuns ∧ place ∈ engine.claimed time maximumRuns := by
  cases call with
  | claim now maximumRuns =>
      rw [claimTime, Option.ite_none_right_eq_some, Option.some.injEq] at claims
      exact ⟨maximumRuns, by rw [claims.2], claims.2 ▸ claims.1⟩
  | release places => cases claims
  | register definition runner firstDue => cases claims

/-- The job at a place as a call that claims it finds it, with the time of the call. -/
def claimOf (engine : MonitorEngine platform Runner) (place : Nat) (call : EngineCall Runner) :
    Option (Job platform Runner × TimePoint) :=
  (engine.claimTime place call).bind fun now => engine.jobs[place]?.map fun job => (job, now)

/-- The claims of the job at a place in a run. -/
def claims (place : Nat) : MonitorEngine platform Runner → List (EngineCall Runner) →
    List (Job platform Runner × TimePoint)
  | _, [] => []
  | engine, call :: calls =>
      (engine.claimOf place call).toList ++ claims place (engine.perform call) calls

/-- The calls of a run read an instant of the clock's count. -/
def OnClock (calls : List (EngineCall Runner)) : Prop :=
  ∀ now maximumRuns, .claim now maximumRuns ∈ calls → FitsCount now

/-- Whatever step the threads of a system take, it does to the engine nothing or
one of the calls. -/
theorem perform_of_step {Thread : Type} [DecidableEq Thread]
    {system next : MonitorConcurrency.System platform Runner Thread}
    (step : MonitorConcurrency.Step system next) :
    next.engine = system.engine ∨ ∃ call, next.engine = system.engine.perform call := by
  cases step with
  | claim thread idle now maximumRuns => exact Or.inr ⟨.claim now maximumRuns, rfl⟩
  | release thread pump busy published claim current =>
      exact Or.inr ⟨.release [claim.job], rfl⟩
  | unwind thread pump busy unwinding =>
      exact Or.inr ⟨.release (pump.unreleased.map MonitorConcurrency.Claim.job), rfl⟩
  | register definition runner firstDue engine added =>
      refine Or.inr ⟨.register definition runner firstDue, ?_⟩
      rw [perform, added]
  | beginRun | endRun | publish | throw | finish | write => exact Or.inl rfl

/-- The job at a place is the one that was registered with a definition and a
first due time, and its due time is the beginning of one of its slots. -/
structure Keeps (definition : MonitorDefinition) (firstDue : TimePoint) (place : Nat)
    (engine : MonitorEngine platform Runner) (job : Job platform Runner) : Prop where
  found : engine.jobs[place]? = some job
  definition : job.definition = definition
  counted : FitsCount job.nextDue
  onSlot : job.OnSlot firstDue

variable {definition : MonitorDefinition} {firstDue now : TimePoint} {place : Nat}
  {engine : MonitorEngine platform Runner} {job : Job platform Runner}

/-- A job that is claimed has passed its time. -/
theorem isDue_of_claimed (keeps : engine.Keeps definition firstDue place job)
    {maximumRuns : Nat} (hclaimed : place ∈ engine.claimed now maximumRuns) :
    job.nextDue ≤ now := by
  obtain ⟨other, found, due⟩ := isDue_of_mem_claimed hclaimed
  rw [keeps.found, Option.some.injEq] at found
  rw [← found] at due
  exact Job.late_of_isDue due

/-- The law of one claim, at the job's own definition. -/
theorem Keeps.keepsSlots_iff (keeps : engine.Keeps definition firstDue place job)
    (clock : FitsCount now) {maximumRuns : Nat}
    (hclaimed : place ∈ engine.claimed now maximumRuns) :
    job.KeepsSlots firstDue (nanoseconds definition.interval) now ↔ job.Covered now := by
  rw [← keeps.definition, ← Job.slot]
  exact Job.keepsSlots_iff_covered ⟨keeps.counted, clock⟩ keeps.onSlot
    (isDue_of_claimed keeps hclaimed)

/-- A covered claim keeps the job on its slots. -/
theorem Keeps.claim (keeps : engine.Keeps definition firstDue place job) (clock : FitsCount now)
    {maximumRuns : Nat} (hclaimed : place ∈ engine.claimed now maximumRuns)
    (covered : job.Covered now) :
    (engine.claim now maximumRuns).Keeps definition firstDue place (job.claim now) where
  found := by rw [getElem?_claim, keeps.found, Option.map_some, if_pos hclaimed]
  definition := keeps.definition
  counted := fitsCount_toCount _
  onSlot := by
    have law := (keeps.keepsSlots_iff clock hclaimed).mpr covered
    rw [← keeps.definition] at law
    exact law.1

/-- A call that does not claim the job leaves its due time. -/
theorem Keeps.perform_unclaimed (keeps : engine.Keeps definition firstDue place job)
    {call : EngineCall Runner} (unclaimed : engine.claimTime place call = none) :
    ∃ after, (engine.perform call).Keeps definition firstDue place after ∧
      after.nextDue = job.nextDue := by
  cases call with
  | claim now maximumRuns =>
      have left : place ∉ engine.claimed now maximumRuns := by
        intro hclaimed
        rw [claimTime, if_pos hclaimed] at unclaimed
        cases unclaimed
      refine ⟨job, ⟨?_, keeps.definition, keeps.counted, keeps.onSlot⟩, rfl⟩
      rw [perform, getElem?_claim, keeps.found, Option.map_some, if_neg left]
  | release places =>
      refine ⟨if place ∈ places then job.release else job, ⟨?_, ?_, ?_, ?_⟩, ?_⟩
      · rw [perform, getElem?_release, keeps.found, Option.map_some]
      · split <;> exact keeps.definition
      · split <;> exact keeps.counted
      · split <;> exact keeps.onSlot
      · split <;> rfl
  | register other runner otherDue =>
      cases hadd : engine.add other runner otherDue with
      | error message =>
          refine ⟨job, ?_, rfl⟩
          rw [perform, hadd]
          exact keeps
      | ok added =>
          obtain ⟨_, hjobs, _⟩ := jobs_of_add hadd
          have inside : place < engine.jobs.length :=
            (List.getElem?_eq_some_iff.mp keeps.found).1
          refine ⟨job, ⟨?_, keeps.definition, keeps.counted, keeps.onSlot⟩, rfl⟩
          rw [perform, hadd]
          exact hjobs ▸ (List.getElem?_append_left inside).trans keeps.found

/-- A registration puts the job behind the others, due at its first due time. -/
theorem keeps_of_add {runner : Option Runner} {registered : MonitorEngine platform Runner}
    (added : engine.add definition runner firstDue = .ok registered)
    (clock : FitsCount firstDue) :
    ∃ job, registered.Keeps definition firstDue engine.jobs.length job := by
  obtain ⟨job, hjobs, _, same, first⟩ := jobs_of_add added
  refine ⟨job, ?_, same, first ▸ clock, 0, ?_⟩
  · rw [hjobs, List.getElem?_concat_length]
  · rw [first, Nat.cast_zero, Int.zero_mul, Int.add_zero]

/-- The claims of a run begin with those of its first call: none, or one of the
job as it stands. -/
theorem Keeps.claims_cons (keeps : engine.Keeps definition firstDue place job)
    (call : EngineCall Runner) (calls : List (EngineCall Runner)) :
    (engine.claimTime place call = none ∧
      claims place engine (call :: calls) = claims place (engine.perform call) calls) ∨
    ∃ now maximumRuns, call = .claim now maximumRuns ∧
      place ∈ engine.claimed now maximumRuns ∧
      claims place engine (call :: calls) =
        (job, now) :: claims place (engine.claim now maximumRuns) calls := by
  cases hclaim : engine.claimTime place call with
  | none =>
      refine Or.inl ⟨rfl, ?_⟩
      rw [claims, claimOf, hclaim]
      rfl
  | some now =>
      obtain ⟨maximumRuns, rfl, hclaimed⟩ := claim_of_claimTime hclaim
      refine Or.inr ⟨now, maximumRuns, rfl, hclaimed, ?_⟩
      rw [claims, claimOf, hclaim, keeps.found]
      rfl

/-- Over a whole run the claims of the job keep to its slots if and only if they
are covered. -/
theorem Keeps.claims_iff (keeps : engine.Keeps definition firstDue place job)
    {calls : List (EngineCall Runner)} (clock : OnClock calls) :
    (∀ item ∈ claims place engine calls,
      item.1.KeepsSlots firstDue (nanoseconds definition.interval) item.2) ↔
    ∀ item ∈ claims place engine calls, item.1.Covered item.2 := by
  induction calls generalizing engine job with
  | nil => exact iff_of_true (List.forall_mem_nil _) (List.forall_mem_nil _)
  | cons call calls ih =>
      have later : OnClock calls := fun now maximumRuns member =>
        clock now maximumRuns (List.mem_cons_of_mem call member)
      rcases keeps.claims_cons call calls with ⟨unclaimed, same⟩ | ⟨now, limit, rfl, hclaimed, same⟩
      · obtain ⟨after, kept, _⟩ := keeps.perform_unclaimed unclaimed
        rw [same]
        exact ih kept later
      · have instant := clock now limit List.mem_cons_self
        rw [same, List.forall_mem_cons, List.forall_mem_cons,
          keeps.keepsSlots_iff instant hclaimed]
        exact and_congr_right fun covered => ih (keeps.claim instant hclaimed covered) later

/-- A job is claimed at no time before it is due. -/
theorem Keeps.nextDue_le (keeps : engine.Keeps definition firstDue place job)
    {calls : List (EngineCall Runner)} (clock : OnClock calls)
    (covered : ∀ item ∈ claims place engine calls, item.1.Covered item.2) :
    ∀ item ∈ claims place engine calls, job.nextDue ≤ item.2 := by
  induction calls generalizing engine job with
  | nil => exact List.forall_mem_nil _
  | cons call calls ih =>
      have later : OnClock calls := fun now maximumRuns member =>
        clock now maximumRuns (List.mem_cons_of_mem call member)
      rcases keeps.claims_cons call calls with ⟨unclaimed, same⟩ | ⟨now, limit, rfl, hclaimed, same⟩
      · obtain ⟨after, kept, unmoved⟩ := keeps.perform_unclaimed unclaimed
        rw [same] at covered ⊢
        rw [← unmoved]
        exact ih kept later covered
      · have instant := clock now limit List.mem_cons_self
        rw [same, List.forall_mem_cons] at covered
        have late := isDue_of_claimed keeps hclaimed
        have moved := Job.claim_bounds ⟨keeps.counted, instant⟩ late covered.1
        rw [same, List.forall_mem_cons]
        refine ⟨late, fun item member => ?_⟩
        have bound := ih (keeps.claim instant hclaimed covered.1) later covered.2 item member
        exact late.trans (moved.1.le.trans bound)

/-- Two times are in order, with the beginning of a slot between them. -/
def SlotsApart (firstDue : TimePoint) (slot : Int) (earlier later : TimePoint) : Prop :=
  ∃ count : Nat, earlier < firstDue + count * slot ∧ firstDue + count * slot ≤ later

/-- Covered claims of one job are in different slots. -/
theorem Keeps.slotsApart (keeps : engine.Keeps definition firstDue place job)
    {calls : List (EngineCall Runner)} (clock : OnClock calls)
    (covered : ∀ item ∈ claims place engine calls, item.1.Covered item.2) :
    (claims place engine calls).Pairwise fun earlier later =>
      SlotsApart firstDue (nanoseconds definition.interval) earlier.2 later.2 := by
  induction calls generalizing engine job with
  | nil => exact List.Pairwise.nil
  | cons call calls ih =>
      have later : OnClock calls := fun now maximumRuns member =>
        clock now maximumRuns (List.mem_cons_of_mem call member)
      rcases keeps.claims_cons call calls with ⟨unclaimed, same⟩ | ⟨now, limit, rfl, hclaimed, same⟩
      · obtain ⟨after, kept, _⟩ := keeps.perform_unclaimed unclaimed
        rw [same] at covered ⊢
        exact ih kept later covered
      · have instant := clock now limit List.mem_cons_self
        rw [same, List.forall_mem_cons] at covered
        have moved := keeps.claim instant hclaimed covered.1
        obtain ⟨⟨count, begins⟩, behind, _⟩ :=
          (keeps.keepsSlots_iff instant hclaimed).mpr covered.1
        rw [same]
        apply List.Pairwise.cons _ (ih moved later covered.2)
        intro item member
        have due := moved.nextDue_le later covered.2 item member
        exact ⟨count, begins ▸ behind, begins ▸ due⟩

/-- Two times with the beginning of a slot between them are in no slot together. -/
theorem SlotsApart.lt_and_not_both {slot : Int} (positive : 0 < slot)
    {earlier later : TimePoint} (apart : SlotsApart firstDue slot earlier later) :
    earlier < later ∧ ∀ count : Int,
      ¬ ((firstDue + count * slot ≤ earlier ∧ earlier < firstDue + (count + 1) * slot) ∧
        firstDue + count * slot ≤ later ∧ later < firstDue + (count + 1) * slot) := by
  obtain ⟨between, before, behind⟩ := apart
  refine ⟨before.trans_le behind, ?_⟩
  rintro count ⟨⟨first, _⟩, _, last⟩
  have low : count * slot < between * slot := by linarith
  have high : between * slot < (count + 1) * slot := by linarith
  have above := lt_of_mul_lt_mul_right low positive.le
  have below := lt_of_mul_lt_mul_right high positive.le
  omega

/-- A monitor that was registered keeps to its slots (a claim moves it to the
beginning of the first slot after the claim, and no two claims of a run, which
come in the order of their times, are in one slot) if and only if every claim of
it is covered: the first slot after the claim begins at an instant of the clock,
and the time by which the monitor is late fits in a count, or in a slot. -/
theorem schedule_slots {runner : Option Runner}
    {registered : MonitorEngine platform Runner}
    (added : engine.add definition runner firstDue = .ok registered)
    (first : FitsCount firstDue) (calls : List (EngineCall Runner)) (clock : OnClock calls) :
    ((∀ item ∈ claims engine.jobs.length registered calls,
        item.1.KeepsSlots firstDue (nanoseconds definition.interval) item.2) ∧
      (claims engine.jobs.length registered calls).Pairwise fun earlier later =>
        earlier.2 < later.2 ∧ ∀ count : Int,
          ¬ ((firstDue + count * nanoseconds definition.interval ≤ earlier.2 ∧
              earlier.2 < firstDue + (count + 1) * nanoseconds definition.interval) ∧
            firstDue + count * nanoseconds definition.interval ≤ later.2 ∧
            later.2 < firstDue + (count + 1) * nanoseconds definition.interval)) ↔
    ∀ item ∈ claims engine.jobs.length registered calls, item.1.Covered item.2 := by
  obtain ⟨job, keeps⟩ := keeps_of_add added first
  have positive : 0 < nanoseconds definition.interval := by
    rw [← keeps.definition]
    exact job.slot_pos
  rw [keeps.claims_iff clock]
  refine ⟨And.left, fun covered => ⟨covered, ?_⟩⟩
  exact (keeps.slotsApart clock covered).imp fun apart => apart.lt_and_not_both positive

/-- One monitor, claimed late for the second time. -/
theorem schedule_slots_singleMonitor :
    (∀ item ∈ claims 0 MonitorConcurrency.singleMonitor
        [.claim 5 1, .release [0], .claim 2500000001 1],
      item.1.KeepsSlots 0 (nanoseconds 1000) item.2) ∧
    (claims 0 MonitorConcurrency.singleMonitor
      [.claim 5 1, .release [0], .claim 2500000001 1]).length = 2 := by
  have valid : MonitorDefinition.Valid .linux { id := bytes "gateway", interval := 1000 } :=
    ⟨by decide, by decide, by simp, by decide⟩
  have added : MonitorEngine.empty.add { id := bytes "gateway", interval := 1000 } (some ()) 0 =
      .ok MonitorConcurrency.singleMonitor :=
    add_of_valid valid (by decide) List.not_mem_nil
  have clock : @OnClock Unit [.claim 5 1, .release [0], .claim 2500000001 1] := by
    intro now maximumRuns member
    simp only [List.mem_cons, EngineCall.claim.injEq, reduceCtorEq, false_or, List.not_mem_nil,
      or_false] at member
    rcases member with ⟨rfl, -⟩ | ⟨rfl, -⟩ <;> decide
  have law := schedule_slots added (by decide) [.claim 5 1, .release [0], .claim 2500000001 1]
    clock
  exact ⟨(law.mpr (by decide)).1, by decide⟩

/-- A monitor that is to run every 292 years or so. -/
def rareMonitor : MonitorDefinition where
  id := bytes "gateway"
  interval := 9223372036855

/-- The monitor with the huge interval is valid. -/
theorem rareMonitor_valid : rareMonitor.Valid .linux :=
  ⟨by decide, by decide, by decide, by decide⟩

/-- It is registered, and its first claim makes it due long before. -/
theorem schedule_slots_rareMonitor : ∃ registered : MonitorEngine .linux Unit,
    MonitorEngine.empty.add rareMonitor (some ()) 0 = .ok registered ∧
    ¬ ∀ item ∈ claims 0 registered [.claim 0 1],
      item.1.KeepsSlots 0 (nanoseconds rareMonitor.interval) item.2 := by
  refine ⟨_, add_of_valid rareMonitor_valid (by decide) List.not_mem_nil, ?_⟩
  intro law
  have behind := (law _ (List.mem_append_left _ (Option.mem_toList.mpr rfl))).2.1
  exact absurd behind (by decide)

end MonitorEngine

end PixelStatus
