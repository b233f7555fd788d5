/-
# Evaluation policies

A policy turns a monitor's result into a status: the transport-failure status
when the run failed, otherwise the status of the first rule that is
unconditional or whose condition matches, otherwise the no-match status.
Numbers are compared as `long double`; the hosts differ in its precision.
-/

import PixelStatus.Core.Basic
import Mathlib.Data.List.Infix
import Mathlib.Data.Nat.Log

namespace PixelStatus

/-- The platforms the program is built for. -/
inductive Platform
  | linux
  | windows
  deriving DecidableEq

/-- Bits of the `long double` significand. -/
def Platform.longDoublePrecision : Platform → Nat
  | .linux => 64
  | .windows => 53

/-- An integer rounded to the given number of significant bits, to nearest with
ties to even. -/
def roundSignificand (precision : Nat) (number : Int) : Int :=
  let magnitude := number.natAbs
  let excess := Nat.log2 magnitude + 1 - precision
  let scale := 2 ^ excess
  let quotient := magnitude / scale
  let remainder := magnitude % scale
  let rounded :=
    if 2 * remainder > scale ∨ (2 * remainder = scale ∧ quotient % 2 = 1)
    then quotient + 1 else quotient
  number.sign * (rounded * scale : Nat)

inductive ComparisonOperation
  | exists_
  | notExists
  | equals
  | notEquals
  | contains
  | notContains
  | greaterThan
  | greaterOrEqual
  | lessThan
  | lessOrEqual
  | between
  deriving DecidableEq

structure EvaluationCondition where
  operation : ComparisonOperation := .exists_
  expected : StateValue := .monostate
  upperBound : Option StateValue := none
  deriving DecidableEq

structure EvaluationRule where
  when : Option EvaluationCondition := none
  status : Bytes
  deriving DecidableEq

structure EvaluationPolicy where
  transportFailureStatus : Bytes := bytes "communication_failure"
  noMatchStatus : Bytes := bytes "unknown"
  rules : List EvaluationRule := []
  deriving DecidableEq

structure EvaluationOutcome where
  status : Bytes
  transportFailure : Bool := false
  matchedRule : Option Nat := none
  deriving DecidableEq

inductive MonitorError
  | none
  | timeout
  | nameResolution
  | connection
  | tls
  | protocol
  | responseTooLarge
  | invalidResponse
  | internal
  deriving DecidableEq

def monitorErrorName : MonitorError → Bytes
  | .none => bytes "none"
  | .timeout => bytes "timeout"
  | .nameResolution => bytes "name_resolution"
  | .connection => bytes "connection"
  | .tls => bytes "tls"
  | .protocol => bytes "protocol"
  | .responseTooLarge => bytes "response_too_large"
  | .invalidResponse => bytes "invalid_response"
  | .internal => bytes "internal"

structure MonitorResult where
  transportSuccess : Bool := false
  value : StateValue := .monostate
  latency : Duration := 0
  error : MonitorError := .none
  detail : Bytes := []
  observedAt : Option TimePoint := none
  deriving DecidableEq

namespace Evaluator

variable (platform : Platform)

/-- The `long double` of a numeric value, exact as a rational. -/
def numberValue : StateValue → Option ℚ
  | .integer value => some (roundSignificand platform.longDoublePrecision value.toInt)
  | .real (.finite value) => some value
  | _ => none

def isNumber (value : StateValue) : Bool := (numberValue platform value).isSome

/-- The `==` of two variants. -/
def sameValue : StateValue → StateValue → Bool
  | .real left, .real right => left.equal right
  | left, right => left = right

def valuesEqual (actual expected : StateValue) : Bool :=
  match numberValue platform actual, numberValue platform expected with
  | some left, some right => left = right
  | _, _ => sameValue actual expected

/-- The relation on two numbers, false when either operand is none. -/
def ordered (holds : ℚ → ℚ → Bool) (actual expected : StateValue) : Bool :=
  match numberValue platform actual, numberValue platform expected with
  | some left, some right => holds left right
  | _, _ => false

/-- Whether a value meets a condition. -/
def conditionMatches (actual : StateValue) (condition : EvaluationCondition) : Bool :=
  match condition.operation with
  | .exists_ => actual != .monostate
  | .notExists => actual == .monostate
  | .equals => valuesEqual platform actual condition.expected
  | .notEquals => !valuesEqual platform actual condition.expected
  | .contains =>
      match actual, condition.expected with
      | .text text, .text expected => decide (expected <:+: text)
      | _, _ => false
  | .notContains =>
      match actual, condition.expected with
      | .text text, .text expected => !decide (expected <:+: text)
      | _, _ => false
  | .greaterThan =>
      ordered platform (fun left right => left > right) actual condition.expected
  | .greaterOrEqual =>
      ordered platform (fun left right => left ≥ right) actual condition.expected
  | .lessThan =>
      ordered platform (fun left right => left < right) actual condition.expected
  | .lessOrEqual =>
      ordered platform (fun left right => left ≤ right) actual condition.expected
  | .between =>
      match condition.upperBound with
      | none => false
      | some upperBound =>
          ordered platform (fun left right => left ≥ right) actual condition.expected
            && ordered platform (fun left right => left ≤ right) actual upperBound

def validateCondition (condition : EvaluationCondition) : Option Bytes :=
  match condition.operation with
  | .exists_ | .notExists =>
      if condition.expected ≠ .monostate ∨ condition.upperBound.isSome then
        some (bytes "exists comparisons do not accept operands")
      else none
  | .equals | .notEquals =>
      if condition.upperBound.isSome then
        some (bytes "equality comparisons accept one operand")
      else none
  | .contains | .notContains =>
      match condition.expected, condition.upperBound with
      | .text _, none => none
      | _, _ => some (bytes "contains comparisons require one string operand")
  | .greaterThan | .greaterOrEqual | .lessThan | .lessOrEqual =>
      if !isNumber platform condition.expected || condition.upperBound.isSome then
        some (bytes "ordered comparisons require one numeric operand")
      else none
  | .between =>
      match numberValue platform condition.expected,
          condition.upperBound.bind (numberValue platform) with
      | some lower, some upper =>
          if lower > upper then
            some (bytes "between lower bound must not exceed its upper bound")
          else none
      | _, _ => some (bytes "between requires numeric lower and upper bounds")

/-- The rule loop of `validate`: `index` counts the rules already seen and
`foundOtherwise` tells whether one of them was unconditional. -/
def validateRules (index : Nat) (foundOtherwise : Bool) : List EvaluationRule → Option Bytes
  | [] => none
  | rule :: rest =>
      if !isValidIdentifier rule.status then
        some (bytes "evaluation rule " ++ decimal index ++ bytes " has an invalid status")
      else match rule.when with
        | none =>
            if foundOtherwise || rest ≠ [] then
              some (bytes "otherwise must be the final and only unconditional rule")
            else validateRules (index + 1) true rest
        | some condition =>
            match validateCondition platform condition with
            | some error =>
                some (bytes "evaluation rule " ++ decimal index ++ bytes ": " ++ error)
            | none => validateRules (index + 1) foundOtherwise rest

def validate (policy : EvaluationPolicy) : Option Bytes :=
  if !isValidIdentifier policy.transportFailureStatus then
    some (bytes "transport failure status is invalid")
  else if !isValidIdentifier policy.noMatchStatus then
    some (bytes "no-match status is invalid")
  else validateRules platform 0 false policy.rules

/-- The rule loop of `evaluate`: `index` counts the rules before `rules`. -/
def firstMatch (value : StateValue) (index : Nat) :
    List EvaluationRule → Option (EvaluationRule × Nat)
  | [] => none
  | rule :: rest =>
      match rule.when with
      | none => some (rule, index)
      | some condition =>
          if conditionMatches platform value condition then some (rule, index)
          else firstMatch value (index + 1) rest

/-- A failed transport has its own status; else the first rule that matches decides. -/
def evaluate (result : MonitorResult) (policy : EvaluationPolicy) : EvaluationOutcome :=
  if !result.transportSuccess then
    { status := policy.transportFailureStatus, transportFailure := true }
  else match firstMatch platform result.value 0 policy.rules with
    | some (rule, index) => { status := rule.status, matchedRule := some index }
    | none => { status := policy.noMatchStatus }

/-! ## Valid policies yield valid statuses -/

variable {platform}

/-- The first rule that matches is one of the rules. -/
theorem firstMatch_mem {value : StateValue} {index found : Nat}
    {rules : List EvaluationRule} {rule : EvaluationRule}
    (hmatch : firstMatch platform value index rules = some (rule, found)) :
    rule ∈ rules := by
  induction rules generalizing index with
  | nil => simp [firstMatch] at hmatch
  | cons head rest ih =>
      unfold firstMatch at hmatch
      split at hmatch
      · obtain ⟨rfl, -⟩ := Prod.mk.inj (Option.some.inj hmatch)
        exact List.mem_cons_self
      · split at hmatch
        · obtain ⟨rfl, -⟩ := Prod.mk.inj (Option.some.inj hmatch)
          exact List.mem_cons_self
        · exact List.mem_cons_of_mem head (ih hmatch)

/-- Valid rules name valid statuses. -/
theorem isValidIdentifier_of_validateRules {index : Nat} {foundOtherwise : Bool}
    {rules : List EvaluationRule}
    (valid : validateRules platform index foundOtherwise rules = none) :
    ∀ rule ∈ rules, isValidIdentifier rule.status = true := by
  induction rules generalizing index foundOtherwise with
  | nil => simp
  | cons head rest ih =>
      unfold validateRules at valid
      split at valid
      · simp at valid
      · rename_i hhead
        have hrest : ∀ rule ∈ rest, isValidIdentifier rule.status = true := by
          split at valid
          · split at valid
            · simp at valid
            · exact ih valid
          · split at valid
            · simp at valid
            · exact ih valid
        intro rule hrule
        rcases List.mem_cons.mp hrule with rfl | hmem
        · simpa using hhead
        · exact hrest rule hmem

/-- What `validate` accepts names only valid statuses. -/
structure NamesValid (policy : EvaluationPolicy) : Prop where
  transportFailure : isValidIdentifier policy.transportFailureStatus = true
  noMatch : isValidIdentifier policy.noMatchStatus = true
  rules : ∀ rule ∈ policy.rules, isValidIdentifier rule.status = true

/-- So does a valid policy. -/
theorem namesValid_of_validate {policy : EvaluationPolicy}
    (valid : validate platform policy = none) : NamesValid policy := by
  unfold validate at valid
  split at valid
  · simp at valid
  · rename_i htransport
    split at valid
    · simp at valid
    · rename_i hnoMatch
      exact ⟨by simpa using htransport, by simpa using hnoMatch,
        isValidIdentifier_of_validateRules valid⟩

/-- Every outcome of a valid policy carries a valid identifier. -/
theorem isValidIdentifier_evaluate {policy : EvaluationPolicy} (names : NamesValid policy)
    (result : MonitorResult) :
    isValidIdentifier (evaluate platform result policy).status = true := by
  unfold evaluate
  split
  · exact names.transportFailure
  · split
    · rename_i rule index hmatch
      exact names.rules rule (firstMatch_mem hmatch)
    · exact names.noMatch

end Evaluator

end PixelStatus
