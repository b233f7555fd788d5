/-
# Reading evaluation policies

The policy of a monitor is checked by the evaluator itself. Beyond that the
loader asks that every status it names is configured.
-/

import PixelStatus.Core.Config.Fields

namespace PixelStatus

open Logged

def scalarStateValue (value : Json) (path : Bytes) : Loading (Option StateValue) :=
  match value with
  | .null => return some .monostate
  | .boolean value => return some (.boolean value)
  | .unsigned number =>
      if number.toNat > 2 ^ 63 - 1 then reject (path ++ bytes " integer is out of range")
      else return some (.integer (Int64.ofNat number.toNat))
  | .integer number => return some (.integer number)
  | .float number =>
      if number.isFinite then return some (.real number)
      else reject (path ++ bytes " number must be finite")
  | .string text => return some (.text text)
  | _ => reject (path ++ bytes " must be a scalar JSON value")

/-- The comparisons by the names a configuration uses. -/
def comparisonNames : List (String × ComparisonOperation) :=
  [("exists", .exists_), ("not_exists", .notExists), ("equals", .equals),
    ("not_equals", .notEquals), ("contains", .contains), ("not_contains", .notContains),
    ("greater_than", .greaterThan), ("greater_or_equal", .greaterOrEqual),
    ("less_than", .lessThan), ("less_or_equal", .lessOrEqual), ("between", .between)]

def comparisonOperation (name : Bytes) : Option ComparisonOperation :=
  (comparisonNames.find? fun entry => bytes entry.1 = name).map Prod.snd

/-- The operands of a comparison. -/
def parseOperands (operation : ComparisonOperation) (operand : Json) (path : Bytes) :
    Loading (Option EvaluationCondition) := do
  match operation, operand with
  | .exists_, .boolean true => return some { operation }
  | .notExists, .boolean true => return some { operation }
  | .exists_, _ => reject (path ++ bytes " must be true")
  | .notExists, _ => reject (path ++ bytes " must be true")
  | .between, .array [lower, upper] =>
      let lower ← scalarStateValue lower (itemPath path 0)
      let upper ← scalarStateValue upper (itemPath path 1)
      match lower, upper with
      | some lower, some upper =>
          return some { operation, expected := lower, upperBound := some upper }
      | _, _ => return none
  | .between, _ => reject (path ++ bytes " must contain two numeric bounds")
  | _, _ =>
      match ← scalarStateValue operand path with
      | none => return none
      | some expected => return some { operation, expected }

def parseEvaluationCondition (condition : Json) (path : Bytes) :
    Loading (Option EvaluationCondition) :=
  let wrongShape := path ++ bytes " must contain exactly one value comparison"
  match condition with
  | .object [(key, .object [(name, operand)])] =>
      if key = bytes "value" then
        match comparisonOperation name with
        | none => reject (path ++ bytes ".value contains an unknown comparison")
        | some operation => parseOperands operation operand (path ++ bytes ".value." ++ name)
      else reject wrongShape
  | _ => reject wrongShape

/-- The configured statuses. -/
abbrev Statuses := UnorderedMap Bytes TimelineAppearance

def statusIsDefined (status : Bytes) (statuses : Statuses) : Bool := decide (status ∈ statuses)

/-- A rule under a condition. -/
def parseWhenRule (rule : Members) (condition : Json) (path : Bytes) :
    Loading (Option EvaluationRule) := do
  rejectUnknownFields rule ["when", "status"] path
  let status ← requiredIdentifier rule "status" path
  let condition ← parseEvaluationCondition condition (fieldPath path "when")
  match status, condition with
  | some status, some condition => return some { when := some condition, status }
  | _, _ => return none

/-- The rule for whatever no condition matched. -/
def parseOtherwiseRule (rule : Members) (otherwise : Json) (path : Bytes) :
    Loading (Option EvaluationRule) := do
  rejectUnknownFields rule ["otherwise"] path
  let otherwisePath := fieldPath path "otherwise"
  match otherwise with
  | .object otherwise =>
      rejectUnknownFields otherwise ["status"] otherwisePath
      let status ← requiredIdentifier otherwise "status" otherwisePath
      return status.map fun status => { status }
  | _ => reject (otherwisePath ++ bytes " must be an object")

def parseEvaluationRule (rule : Json) (path : Bytes) : Loading (Option EvaluationRule) :=
  match rule with
  | .object rule =>
      match Members.field rule "when", Members.field rule "otherwise" with
      | some condition, _ => parseWhenRule rule condition path
      | none, some otherwise => parseOtherwiseRule rule otherwise path
      | none, none => reject (path ++ bytes " must define when or otherwise")
  | _ => reject (path ++ bytes " must be an object")

/-- The rules that can be read; one that cannot is left out. -/
def parseEvaluationRules (rules : List Json) (path : Bytes) : Loading (List EvaluationRule) :=
  rules.zipIdx.foldlM (fun parsed item => do
    let rule ← parseEvaluationRule item.1 (itemPath path item.2)
    return parsed ++ rule.toList) []

/-- An error for a status that is not configured. -/
def requireStatus (status : Bytes) (statuses : Statuses) (message : Bytes) : Loading Unit :=
  if statusIsDefined status statuses then return () else addError message

/-- The errors for the statuses that the policy names and the configuration
does not define. -/
def requireStatuses (policy : EvaluationPolicy) (statuses : Statuses) (path : Bytes) :
    Loading Unit := do
  requireStatus policy.transportFailureStatus statuses
    (path ++ bytes ".transport_failure_status is not defined in statuses")
  requireStatus policy.noMatchStatus statuses
    (path ++ bytes ".no_match_status is not defined in statuses")
  policy.rules.zipIdx.forM fun item =>
    requireStatus item.1.status statuses
      (itemPath (fieldPath path "evaluate") item.2 ++ bytes " refers to an undefined status")

variable (platform : Platform)

def parseEvaluationPolicy (monitor : Members) (path : Bytes) (statuses : Statuses) :
    Loading (Option EvaluationPolicy) := do
  let failure ← optionalIdentifier monitor "transport_failure_status" path
  let noMatch ← optionalIdentifier monitor "no_match_status" path
  let wrongCount := path ++ bytes ".evaluate must contain between 1 and 32 rules"
  match monitor.field "evaluate" with
  | some (.array rules) =>
      if rules = [] ∨ rules.length > maximumMonitorRules then reject wrongCount
      else
        let defaults : EvaluationPolicy := {}
        let policy : EvaluationPolicy :=
          { transportFailureStatus := failure.getD defaults.transportFailureStatus
            noMatchStatus := noMatch.getD defaults.noMatchStatus
            rules := ← parseEvaluationRules rules (fieldPath path "evaluate") }
        match Evaluator.validate platform policy with
        | some error => reject (path ++ bytes ".evaluate: " ++ error)
        | none =>
            requireStatuses policy statuses path
            return some policy
  | _ => reject wrongCount

/-! ## What a policy that was read satisfies -/

variable {platform}

/-- The evaluator accepts the policy, and its statuses are configured. -/
structure PolicyAccepted (platform : Platform) (statuses : Statuses)
    (policy : EvaluationPolicy) : Prop where
  valid : Evaluator.validate platform policy = none
  transportFailure : policy.transportFailureStatus ∈ statuses
  noMatch : policy.noMatchStatus ∈ statuses
  rules : ∀ rule ∈ policy.rules, rule.status ∈ statuses

/-- The check is silent only for a defined status. -/
theorem requireStatus_ensures {status : Bytes} {statuses : Statuses} {message : Bytes} :
    Ensures (fun _ => status ∈ statuses) (requireStatus status statuses message) := by
  unfold requireStatus
  split
  next defined => exact Ensures.pure (of_decide_eq_true defined)
  · exact ensures_addError

/-- A valid policy whose statuses are all defined is accepted. -/
theorem requireStatuses_ensures {policy : EvaluationPolicy} {statuses : Statuses}
    {path : Bytes} (valid : Evaluator.validate platform policy = none) :
    Ensures (fun _ => PolicyAccepted platform statuses policy)
      (requireStatuses policy statuses path) := by
  apply requireStatus_ensures.bind
  intro _ transportFailure
  apply requireStatus_ensures.bind
  intro _ noMatch
  apply (Ensures.forM fun item _ => requireStatus_ensures).mono
  intro _ rules
  refine ⟨?_, ?_, ?_, ?_⟩
  · exact valid
  · exact transportFailure
  · exact noMatch
  · intro rule member
    obtain ⟨index, listed⟩ := List.mem_iff_getElem?.mp member
    exact rules (rule, index) (List.mk_mem_zipIdx_iff_getElem?.mpr listed)

/-- A policy that is read is accepted. -/
theorem parseEvaluationPolicy_ensures {monitor : Members} {path : Bytes} {statuses : Statuses} :
    Ensures (OfSome (PolicyAccepted platform statuses))
      (parseEvaluationPolicy platform monitor path statuses) := by
  apply Ensures.step
  intro failure
  apply Ensures.step
  intro noMatch
  dsimp only
  split
  · split
    · exact ensures_reject
    · apply Ensures.step
      intro rules
      split
      · exact ensures_reject
      next valid =>
        apply (requireStatuses_ensures valid).bind
        intro _ accepted
        exact Ensures.pure (OfSome.some accepted)
  · exact ensures_reject

end PixelStatus
