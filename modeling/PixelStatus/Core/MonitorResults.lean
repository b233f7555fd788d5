/-
# Monitor results

Every claimed run ends with one update that the store takes, whether its runner
returned or threw. The update's status is the one that the monitor's policy
assigns, and it is a valid identifier.
-/

import PixelStatus.Core.BoundedPumps
import Mathlib.Data.List.Forall2

namespace PixelStatus

/-! ## The status of a result -/

namespace Evaluator

variable {platform : Platform} {value : StateValue}

variable (platform value) in
/-- The rule is unconditional or its condition matches the value. -/
def appliesTo (rule : EvaluationRule) : Bool :=
  rule.when.all (conditionMatches platform value)

/-- The first rule is tried before the others. -/
theorem firstMatch_cons {index : Nat} {rule : EvaluationRule} {rest : List EvaluationRule} :
    firstMatch platform value index (rule :: rest) =
      if appliesTo platform value rule then some (rule, index)
      else firstMatch platform value (index + 1) rest := by
  rw [firstMatch, appliesTo]
  cases rule.when <;> rfl

/-- The rule loop finds the first rule that applies. -/
theorem firstMatch_map_fst {index : Nat} {rules : List EvaluationRule} :
    (firstMatch platform value index rules).map Prod.fst =
      rules.find? (appliesTo platform value) := by
  induction rules generalizing index with
  | nil => rfl
  | cons rule rest ih =>
      rw [firstMatch_cons, List.find?_cons]
      cases appliesTo platform value rule with
      | true => rfl
      | false => exact ih

/-- The number of the rule is that of the first one that applies. -/
theorem firstMatch_map_snd {index : Nat} {rules : List EvaluationRule} :
    (firstMatch platform value index rules).map Prod.snd =
      (rules.findIdx? (appliesTo platform value)).map (index + ·) := by
  induction rules generalizing index with
  | nil => rfl
  | cons rule rest ih =>
      rw [firstMatch_cons, List.findIdx?_cons]
      cases appliesTo platform value rule with
      | true => rfl
      | false =>
          simp only [Bool.false_eq_true, if_false, Option.map_map, ih]
          congr 1
          funext place
          exact Nat.add_right_comm index 1 place

/-- The status is that of the first rule that applies, or of the policy. -/
theorem status_evaluate {result : MonitorResult} {policy : EvaluationPolicy} :
    (evaluate platform result policy).status =
      if result.transportSuccess then
        ((policy.rules.find? (appliesTo platform result.value)).map EvaluationRule.status).getD
          policy.noMatchStatus
      else policy.transportFailureStatus := by
  rw [evaluate, ← @firstMatch_map_fst platform result.value 0]
  cases result.transportSuccess with
  | false => rfl
  | true => cases firstMatch platform result.value 0 policy.rules <;> rfl

/-- The rule is reported if the transport succeeded. -/
theorem matchedRule_evaluate {result : MonitorResult} {policy : EvaluationPolicy} :
    (evaluate platform result policy).matchedRule =
      if result.transportSuccess then policy.rules.findIdx? (appliesTo platform result.value)
      else none := by
  have found := @firstMatch_map_snd platform result.value 0 policy.rules
  simp only [Nat.zero_add, Option.map_id'] at found
  rw [evaluate, ← found]
  cases result.transportSuccess with
  | false => rfl
  | true => cases firstMatch platform result.value 0 policy.rules <;> rfl

end Evaluator

open Evaluator (appliesTo)

/-- The status that a policy assigns to a result: one status when the run failed,
otherwise that of the first rule that applies, or the one for no match. -/
structure EvaluationPolicy.Assigns (platform : Platform) (policy : EvaluationPolicy)
    (result : MonitorResult) (status : Bytes) : Prop where
  failure : result.transportSuccess = false → status = policy.transportFailureStatus
  first : result.transportSuccess = true → ∀ earlier rule later,
    policy.rules = earlier ++ rule :: later →
    (∀ other ∈ earlier, appliesTo platform result.value other = false) →
    appliesTo platform result.value rule = true → status = rule.status
  unmatched : result.transportSuccess = true →
    (∀ rule ∈ policy.rules, appliesTo platform result.value rule = false) →
    status = policy.noMatchStatus

/-- The last rule of the policy is unconditional. -/
def EvaluationPolicy.EndsUnconditional (policy : EvaluationPolicy) : Prop :=
  ∃ rule ∈ policy.rules.getLast?, rule.when = none

namespace Evaluator

variable {platform : Platform} {result : MonitorResult} {policy : EvaluationPolicy}

/-- The evaluation obeys the policy. -/
theorem assigns_evaluate : policy.Assigns platform result (evaluate platform result policy).status := by
  rw [status_evaluate]
  refine ⟨?_, ?_, ?_⟩
  · intro failed
    rw [failed, if_neg Bool.false_ne_true]
  · intro succeeded earlier rule later rules skipped applies
    have found : policy.rules.find? (appliesTo platform result.value) = some rule := by
      apply List.find?_eq_some_iff_append.mpr
      refine ⟨applies, earlier, later, rules, fun other member => ?_⟩
      rw [skipped other member, Bool.not_false]
    rw [if_pos succeeded, found, Option.map_some, Option.getD_some]
  · intro succeeded skipped
    have absent : policy.rules.find? (appliesTo platform result.value) = none := by
      apply List.find?_eq_none.mpr
      intro rule member
      rw [skipped rule member]
      exact Bool.false_ne_true
    rw [if_pos succeeded, absent, Option.map_none, Option.getD_none]

/-- A policy that ends with an unconditional rule takes the status of a rule. -/
theorem matchedRule_of_endsUnconditional (succeeded : result.transportSuccess = true)
    (ends : policy.EndsUnconditional) :
    ∃ index rule, (evaluate platform result policy).matchedRule = some index ∧
      policy.rules[index]? = some rule ∧
      (evaluate platform result policy).status = rule.status := by
  obtain ⟨last, final, unconditional⟩ := ends
  have member : last ∈ policy.rules := List.mem_of_mem_getLast? final
  have applies : appliesTo platform result.value last = true := by
    rw [appliesTo, unconditional, Option.all_none]
  have found : policy.rules.findIdx? (appliesTo platform result.value) =
      some (policy.rules.findIdx (appliesTo platform result.value)) :=
    List.findIdx?_eq_some_of_exists ⟨last, member, applies⟩
  have inside : policy.rules.findIdx (appliesTo platform result.value) < policy.rules.length :=
    List.findIdx_lt_length_of_exists ⟨last, member, applies⟩
  rw [matchedRule_evaluate, status_evaluate, if_pos succeeded, if_pos succeeded,
    List.find?_eq_bind_findIdx?_getElem?, found, Option.bind_some,
    List.getElem?_eq_getElem inside]
  exact ⟨_, _, rfl, List.getElem?_eq_getElem inside, rfl⟩

end Evaluator

/-! ## The updates of a pump -/

/-- An exception is a failed transport. -/
theorem RunnerOutcome.transportSuccess_threw {what : Option Bytes} :
    (RunnerOutcome.threw what).result.transportSuccess = false := by
  cases what <;> rfl

/-- Whether the runner ended with an exception. -/
def RunnerOutcome.isThrow : RunnerOutcome → Bool
  | .returned _ => false
  | .threw _ => true

/-- So an outcome that is one has failed. -/
theorem RunnerOutcome.failed_of_isThrow {outcome : RunnerOutcome}
    (thrown : outcome.isThrow = true) : outcome.result.transportSuccess = false := by
  cases outcome with
  | returned result => cases thrown
  | threw what => exact transportSuccess_threw

namespace MonitorEngine

variable {platform : Platform} {Runner : Type} {engine : MonitorEngine platform Runner}
  {now : TimePoint} {maximumRuns : Nat} {run : Nat → RunnerOutcome}

variable (engine now) in
/-- The updates for runs of the jobs at some places, in the order of the runs. -/
def updates (runs : List (Nat × RunnerOutcome)) : List MonitorState :=
  runs.filterMap fun item => (engine.jobs[item.1]?).map fun job => job.publication item.2 now

/-- Publishing outcomes is writing their states one after the other. -/
theorem publishAll_eq_foldl {runs : List (Nat × RunnerOutcome)} {store : StateStore} :
    engine.publishAll now runs store =
      (engine.updates now runs).foldl (fun store state => (store.upsert state).2) store := by
  rw [publishAll, updates, List.foldl_filterMap]
  congr 1
  funext store item
  cases engine.jobs[item.1]? <;> rfl

/-- The states are the publications of the jobs that ran. -/
theorem mem_updates {places : List Nat} {state : MonitorState} :
    state ∈ engine.updates now (places.map fun place => (place, run place)) ↔
      ∃ place ∈ places, ∃ job, engine.jobs[place]? = some job ∧
        job.publication (run place) now = state := by
  simp [updates]

/-- Updates for different places go to different ids. -/
theorem nodup_ids_updates {places : List Nat} (distinct : places.Nodup) :
    ((engine.updates now (places.map fun place => (place, run place))).map
      MonitorState.id).Nodup := by
  induction places with
  | nil => exact List.nodup_nil
  | cons place places ih =>
      obtain ⟨fresh, rest⟩ := List.nodup_cons.mp distinct
      cases found : engine.jobs[place]? with
      | none =>
          rw [updates, List.map_cons, List.filterMap_cons_none (by rw [found, Option.map_none])]
          exact ih rest
      | some job =>
          rw [updates, List.map_cons, List.filterMap_cons_some (by rw [found, Option.map_some]),
            List.map_cons, List.nodup_cons]
          refine ⟨fun twice => ?_, ih rest⟩
          obtain ⟨state, member, same⟩ := List.mem_map.mp twice
          obtain ⟨other, inside, otherJob, otherFound, rfl⟩ := mem_updates.mp member
          have places_eq : other = place := place_of_id otherFound found same
          exact fresh (places_eq ▸ inside)

/-- Each run of a registered job has its own update. -/
theorem forall₂_updates {places : List Nat}
    (registered : ∀ place ∈ places, ∃ job, engine.jobs[place]? = some job) :
    List.Forall₂ (fun place state => ∃ job, engine.jobs[place]? = some job ∧
        state = job.publication (run place) now)
      places (engine.updates now (places.map fun place => (place, run place))) := by
  induction places with
  | nil => exact List.Forall₂.nil
  | cons place places ih =>
      obtain ⟨job, found⟩ := registered place List.mem_cons_self
      rw [updates, List.map_cons, List.filterMap_cons_some (by rw [found, Option.map_some])]
      exact List.Forall₂.cons ⟨job, found, rfl⟩
        (ih fun other member => registered other (List.mem_cons_of_mem place member))

/-- The loop counts each run of a registered job, and takes its update. -/
theorem report_execute {places : List Nat} {store : StateStore} {report : MonitorPumpReport}
    (registered : ∀ place ∈ places, ∃ job, engine.jobs[place]? = some job) :
    (execute run now places (engine, store, report)).2.2 =
      { report with
        executed := report.executed + places.length
        stateUpdates := report.stateUpdates + places.length
        transportFailures := report.transportFailures +
          places.countP fun place => !(run place).result.transportSuccess
        runnerExceptions := report.runnerExceptions +
          places.countP fun place => (run place).isThrow } := by
  induction places generalizing engine store report with
  | nil => rfl
  | cons place places ih =>
      obtain ⟨job, found⟩ := registered place List.mem_cons_self
      have rest : ∀ other ∈ places, ∃ job, (engine.release [place]).jobs[other]? = some job := by
        intro other member
        obtain ⟨job, found⟩ := registered other (List.mem_cons_of_mem place member)
        rw [getElem?_release, found]
        exact ⟨_, rfl⟩
      rw [execute, found]
      dsimp only
      rw [StateStore.upsert_of_acceptable (job.acceptable_publication (run place) now), ih rest,
        List.countP_cons, List.countP_cons, List.length_cons]
      cases run place with
      | returned result =>
          cases success : (RunnerOutcome.returned result).result.transportSuccess <;>
            simp [RunnerOutcome.isThrow] <;> omega
      | threw what =>
          simp [RunnerOutcome.transportSuccess_threw, RunnerOutcome.isThrow]
          omega

/-- A claimed place holds a job. -/
theorem registered_of_claimed {place : Nat} (claims : place ∈ engine.claimed now maximumRuns) :
    ∃ job, (engine.claim now maximumRuns).jobs[place]? = some job := by
  obtain ⟨job, found, -⟩ := isDue_of_mem_claimed claims
  rw [getElem?_claim, found]
  exact ⟨_, rfl⟩

/-- The report of a pump counts its claims. -/
theorem report_runDue {store : StateStore} :
    (engine.runDue store run now maximumRuns).2.2 =
      { due := (engine.dueJobs now).length
        executed := (engine.claimed now maximumRuns).length
        stateUpdates := (engine.claimed now maximumRuns).length
        transportFailures := (engine.claimed now maximumRuns).countP fun place =>
          !(run place).result.transportSuccess
        runnerExceptions := (engine.claimed now maximumRuns).countP fun place =>
          (run place).isThrow } := by
  rw [runDue, report_execute fun place claims => registered_of_claimed claims]
  simp

/-- What a run leaves in the store: an update under the monitor's id, with the
status that its policy assigns. -/
structure Publishes (job : Job platform Runner) (outcome : RunnerOutcome) (state : MonitorState) :
    Prop where
  id : state.id = job.definition.id
  assigned : job.definition.evaluation.Assigns platform outcome.result state.status
  threw : outcome.isThrow = true →
    state.status = job.definition.evaluation.transportFailureStatus
  valid : isValidIdentifier state.status = true
  matched : job.definition.evaluation.EndsUnconditional →
    outcome.result.transportSuccess = true →
    ∃ index rule,
      (Evaluator.evaluate platform outcome.result job.definition.evaluation).matchedRule =
        some index ∧
      job.definition.evaluation.rules[index]? = some rule ∧ state.status = rule.status

/-- A publication says what its outcome does. -/
theorem publishes_publication (job : Job platform Runner) (outcome : RunnerOutcome)
    (now : TimePoint) : Publishes job outcome (job.publication outcome now) where
  id := rfl
  assigned := Evaluator.assigns_evaluate
  threw thrown := Evaluator.assigns_evaluate.failure (RunnerOutcome.failed_of_isThrow thrown)
  valid := Evaluator.isValidIdentifier_evaluate
    (Evaluator.namesValid_of_validate job.valid.evaluation) outcome.result
  matched ends succeeded := Evaluator.matchedRule_of_endsUnconditional succeeded ends

/-- No monitor result is lost. A pump publishes one update for each run that it
claims, in their order and under distinct ids, and every store takes it. -/
theorem no_result_lost (engine : MonitorEngine platform Runner) (store : StateStore)
    (run : Nat → RunnerOutcome) (now : TimePoint) (maximumRuns : Nat) :
    let places := engine.claimed now maximumRuns
    let updates := engine.updates now (places.map fun place => (place, run place))
    let after := engine.runDue store run now maximumRuns
    List.Forall₂ (fun place state => ∃ job, engine.jobs[place]? = some job ∧
      Publishes job (run place) state) places updates ∧
    (updates.map MonitorState.id).Nodup ∧
    after.2.1 = updates.foldl (fun store state => (store.upsert state).2) store ∧
    (∀ state ∈ updates, ∀ current : StateStore, (current.upsert state).1 = true) ∧
    after.2.2.executed = places.length ∧
    after.2.2.stateUpdates = after.2.2.executed ∧
    (after.2.2.runnerExceptions = places.countP fun place => (run place).isThrow) ∧
    (after.2.2.transportFailures = places.countP fun place =>
      !(run place).result.transportSuccess) ∧
    after.2.2.runnerExceptions ≤ after.2.2.transportFailures ∧
    after.2.2.transportFailures ≤ after.2.2.executed := by
  intro places updates after
  have registered : ∀ place ∈ places, ∃ job, engine.jobs[place]? = some job := by
    intro place claims
    obtain ⟨job, found, -⟩ := isDue_of_mem_claimed claims
    exact ⟨job, found⟩
  have published := @forall₂_updates _ _ engine now run places registered
  have report : after.2.2 = _ := report_runDue
  rw [report]
  refine ⟨?_, ?_, ?_, ?_, rfl, rfl, rfl, rfl, ?_, List.countP_le_length⟩
  · refine published.imp fun place state => ?_
    rintro ⟨job, found, rfl⟩
    exact ⟨job, found, publishes_publication job (run place) now⟩
  · exact nodup_ids_updates nodup_claimed
  · rw [← publishAll_eq_foldl]
    exact store_runDue
  · intro state member current
    obtain ⟨place, -, job, -, rfl⟩ := mem_updates.mp member
    rw [StateStore.upsert_of_acceptable (job.acceptable_publication (run place) now)]
  · refine List.countP_mono_left fun place _ => ?_
    intro thrown
    rw [RunnerOutcome.failed_of_isThrow thrown, Bool.not_false]

end MonitorEngine

end PixelStatus
