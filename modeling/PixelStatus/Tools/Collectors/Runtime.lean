/-
# What the collectors ask of Python

The library functions that read upstream data are a parameter. Each may raise
what its documentation says it raises; an exception of a collector's own class
is the only one its refresh catches.
-/

import PixelStatus.Logic.Outcome
import PixelStatus.Tools.Python

namespace PixelStatus.Collectors

abbrev PyDict := List (PyText × PyValue)

/-- What ends a Python call early. `collector` is the collector's own class,
`UsageError`, `OpenWrtError` or `UnifiError`, with its text. -/
inductive PyException
  | collector (message : PyText)
  | valueError
  | recursionError
  | overflowError
  | osError
  | httpException
  | unicodeEncodeError
  | zeroDivisionError
  | typeError
  | unhandled

/-- The exceptions that a refresh turns into a reported failure. -/
def PyException.Own (exception : PyException) : Prop :=
  ∃ message, exception = .collector message

/-- What a transport raises: an `OSError` or an `HTTPException`, with the name of
its class, or anything else, as the `ValueError` of a malformed redirect and the
`UnicodeError` of a host name that has no encoding. -/
inductive TransportError
  | osError (name : PyText)
  | httpException (name : PyText)
  | unhandled

/-- What `json.loads` raises: `JSONDecodeError` is a `ValueError`, and an integer
literal over the digit limit raises a plain one. -/
inductive LoadError
  | jsonDecodeError
  | valueError
  | recursionError

/-- What `int(datetime.fromisoformat(value).timestamp())` raises. -/
inductive TimestampError
  | typeError
  | valueError
  | overflowError
  | osError

/-- The library functions on upstream data. The two limits are the nesting that
`copy.deepcopy` still follows in the refresh thread and in the server's. -/
structure Runtime where
  decodeUtf8 : Bytes → Option PyText
  loads : PyText → Except LoadError PyValue
  timestamp : PyValue → Except TimestampError Int
  /-- `str(value).lower()` -/
  loweredStr : PyValue → PyText
  round : Rounding
  /-- `round(value, digits)` -/
  roundTo : Double → Nat → Double
  refreshDepth : Nat
  serverDepth : Nat

/-- An integer other than zero does not round to zero, and the recursion limit
leaves room for the documents' own nesting. -/
structure Runtime.Lawful (runtime : Runtime) : Prop where
  round_ne_zero : ∀ value : Int, value ≠ 0 → runtime.round value ≠ .finite 0
  refreshDepth : 4 ≤ runtime.refreshDepth
  serverDepth : 4 ≤ runtime.serverDepth

namespace Runtime

/-- `decode("utf-8-sig")` drops a leading byte order mark. -/
def decodeUtf8Sig (runtime : Runtime) (content : Bytes) : Option PyText :=
  runtime.decodeUtf8
    (if [0xEF, 0xBB, 0xBF].isPrefixOf content then content.drop 3 else content)

end Runtime

/-- `raise` of the collector's own class. -/
def fail {α : Type} (message : PyText) : Except PyException α := .error (.collector message)

/-- The script's own error is one of the handled ones. -/
theorem fail_failsWith {α : Type} (message : PyText) :
    Outcome.FailsWith PyException.Own (fail message : Except PyException α) :=
  Outcome.FailsWith.error ⟨message, rfl⟩

/-- An exception of another class is no failure of the collector's own. -/
theorem not_failsWith_foreign {α : Type} {exception : PyException}
    (foreign : ∀ message, exception ≠ .collector message) :
    ¬ Outcome.FailsWith PyException.Own (.error exception : Except PyException α) := by
  rw [Outcome.FailsWith.error_iff]
  exact fun ⟨message, same⟩ => foreign message same

/-- The least magnitude that rounds beyond the largest double. -/
def floatLimit : Nat := 2 ^ 1024 - 2 ^ 970

/-- An integer that `float` takes. -/
def InFloatRange (value : Int) : Prop := value.natAbs < floatLimit

instance (value : Int) : Decidable (InFloatRange value) :=
  inferInstanceAs (Decidable (_ < _))

/-- A number of a document, `int` or `float`. -/
inductive PyNumber
  | integer (value : Int)
  | real (value : Double)

namespace PyNumber

/-- `isinstance(value, (int, float))`, without the Booleans. -/
def ofValue : PyValue → Option PyNumber
  | .integer value => some (.integer value)
  | .real value => some (.real value)
  | _ => none

def toValue : PyNumber → PyValue
  | .integer value => .integer value
  | .real value => .real value

/-- `number == 0`. -/
def isZero : PyNumber → Bool
  | .integer value => value = 0
  | .real value => value = .finite 0

/-- Whether `float(number)` is defined. -/
def FloatDefined : PyNumber → Prop
  | .integer value => InFloatRange value
  | .real _ => True

/-- `float(number)`. -/
def toFloat (runtime : Runtime) : PyNumber → Except PyException Double
  | .integer value =>
      if InFloatRange value then .ok (runtime.round value) else .error .overflowError
  | .real value => .ok value

/-- A number that a double can hold is converted. -/
theorem exists_toFloat (runtime : Runtime) {number : PyNumber}
    (defined : number.FloatDefined) : ∃ value, number.toFloat runtime = .ok value := by
  cases number with
  | integer value =>
      apply Exists.intro (runtime.round value)
      rw [toFloat, if_pos (show InFloatRange value from defined)]
  | real value => exact ⟨value, rfl⟩

/-- Only such a number is. -/
theorem toFloat_failsWith_iff (runtime : Runtime) (number : PyNumber) :
    Outcome.FailsWith PyException.Own (number.toFloat runtime) ↔ number.FloatDefined := by
  cases number with
  | integer value =>
      by_cases inside : InFloatRange value
      · exact iff_of_true (by rw [toFloat, if_pos inside]; exact Outcome.FailsWith.ok _) inside
      · apply iff_of_false
        · rw [toFloat, if_neg inside]
          exact not_failsWith_foreign nofun
        · exact inside
  | real value => exact iff_of_true (Outcome.FailsWith.ok value) trivial

end PyNumber

end PixelStatus.Collectors
