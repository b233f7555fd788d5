/-
# What an HTTP monitor observes

Behind the transport, `run` reads the configured observation out of the response:
the status code, the raw body, or a scalar, an array's length or a ratio of a
JSON document. JSON pointers are the library's, which may throw while it
evaluates one; the exception becomes a result. The ratio is computed in `long
double`, whose rounding and the rounding to a double are arguments.
-/

import PixelStatus.Core.Json
import PixelStatus.Host.HttpBodies

namespace PixelStatus.Host

/-- The JSON library's pointers: the constructor, `contains` and `at` for a text,
which yield no value or one, or throw with a text. -/
structure JsonPointers where
  select : Json → Bytes → Except Bytes (Option Json)

/-- A selected value is part of its document, and an exception quotes the pointer. -/
structure JsonPointers.Lawful (pointers : JsonPointers) : Prop where
  part : ∀ document pointer value, document.Utf8 →
    pointers.select document pointer = .ok (some value) → value.Utf8
  quotes : ∀ document pointer what, document.Utf8 → ValidUtf8 pointer →
    pointers.select document pointer = .error what → ValidUtf8 what

/-- How a host computes with `long double`: the rounding of its operations, and
that of the conversion to a double. -/
structure LongDouble where
  platform : Platform
  round : Rounding
  toDouble : Rounding

def jsonScalar : Json → Option StateValue
  | .null => some .monostate
  | .boolean value => some (.boolean value)
  | .unsigned number =>
      if number.toNat > 2 ^ 63 - 1 then none else some (.integer (Int64.ofInt number.toNat))
  | .integer number => some (.integer number)
  | .float number => if !number.isFinite then none else some (.real number)
  | .string text => some (.text text)
  | .array _ => none
  | .object _ => none

namespace LongDouble

variable (arithmetic : LongDouble)

def jsonNumber : Json → Option Double
  | .unsigned number => some (.finite
      (roundSignificand arithmetic.platform.longDoublePrecision number.toNat))
  | .integer number => some (.finite
      (roundSignificand arithmetic.platform.longDoublePrecision number.toInt))
  | .float number => if number.isFinite then some number else none
  | _ => none

/-- `static_cast<double>` of a `long double`. -/
def narrow : Double → Double
  | .finite value => arithmetic.toDouble value
  | value => value

/-- The ratio of two numbers times the configured scale. -/
def ratio (numerator denominator scale : Double) : Double :=
  arithmetic.narrow (Double.mul arithmetic.round
    (Double.div arithmetic.round numerator denominator) scale)

end LongDouble

variable (library : JsonLibrary) (pointers : JsonPointers) (arithmetic : LongDouble)
  (config : HttpMonitorConfig)

/-- A result turned into a failure that says why. -/
def invalidResponse (result : MonitorResult) (reason : Bytes) : MonitorResult :=
  { result with
    transportSuccess := false, error := .invalidResponse, detail := result.detail ++ reason }

/-- The result for a value that is not there. -/
def notFound (result : MonitorResult) (reason : Bytes) : MonitorResult :=
  { result with value := .monostate, detail := result.detail ++ reason }

/-- What the selected value says as a ratio to the denominator. -/
def observeRatio (result : MonitorResult) (document selected : Json) :
    Except Bytes MonitorResult := do
  match ← pointers.select document config.jsonDenominatorPointer with
  | none => return notFound result (bytes "; JSON denominator pointer was not found")
  | some denominatorJson =>
      match arithmetic.jsonNumber selected, arithmetic.jsonNumber denominatorJson with
      | some numerator, some denominator =>
          if denominator = .finite 0 then
            return invalidResponse result
              (bytes "; JSON ratio requires numeric values and a nonzero denominator")
          else
            let value := arithmetic.ratio numerator denominator config.jsonScale
            if !value.isFinite then
              return invalidResponse result (bytes "; JSON ratio result is not finite")
            else return { result with value := .real value }
      | _, _ =>
          return invalidResponse result
            (bytes "; JSON ratio requires numeric values and a nonzero denominator")

/-- What is observed of a selected value. -/
def observeSelected (result : MonitorResult) (document selected : Json) :
    Except Bytes MonitorResult :=
  match config.observation with
  | .jsonArrayLength =>
      match selected with
      | .array items => .ok { result with value := .integer (Int64.ofInt items.length) }
      | _ => .ok (invalidResponse result (bytes "; selected JSON value is not an array"))
  | .jsonRatio => observeRatio pointers arithmetic config result document selected
  | _ =>
      match jsonScalar selected with
      | some value => .ok { result with value }
      | none =>
          .ok (invalidResponse result
            (bytes "; selected JSON value is not a supported scalar"))

/-- The `try` block over a parsed document. -/
def observeDocument (result : MonitorResult) (document : Json) : Except Bytes MonitorResult := do
  match ← pointers.select document config.jsonPointer with
  | none => return notFound result (bytes "; JSON pointer was not found")
  | some selected => observeSelected pointers arithmetic config result document selected

/-- The result before anything is observed. -/
def answered (transport : HttpTransportResponse) (latency : Duration)
    (observedAt : Option TimePoint) : MonitorResult where
  latency := latency
  observedAt := observedAt
  transportSuccess := true
  detail := bytes "HTTP " ++ decimal transport.statusCode.toNat

/-- `HttpMonitorRunner::run` behind the transport, with the latency and the time
that the transport reports. -/
def runHttp (transport : HttpTransportResponse) (latency : Duration)
    (observedAt : Option TimePoint) : MonitorResult :=
  if !transport.success then
    { latency, observedAt, error := transport.error, detail := transport.detail }
  else
    let result := answered transport latency observedAt
    match config.observation with
    | .statusCode => { result with value := .integer (Int64.ofInt transport.statusCode.toNat) }
    | .body => { result with value := .text transport.body }
    | _ =>
        match library.parse transport.body with
        | none => invalidResponse result (bytes "; response body is not valid JSON")
        | some document =>
            match observeDocument pointers arithmetic config result document with
            | .ok result => result
            | .error what =>
                invalidResponse result (bytes "; JSON pointer evaluation failed: " ++ what)

/-! ## The results of a run -/

variable {library} {pointers} {arithmetic} {config} {transport : HttpTransportResponse}
  {document selected : Json} {base result : MonitorResult}

/-- Where a value comes from: a text is the raw body of a monitor that observes it,
or a string of the document; a double is finite. -/
def Observable (library : JsonLibrary) (pointers : JsonPointers) (config : HttpMonitorConfig)
    (transport : HttpTransportResponse) : StateValue → Prop
  | .text text =>
      (config.observation = .body ∧ text = transport.body) ∨
        ∃ document, library.parse transport.body = some document ∧
          pointers.select document config.jsonPointer = .ok (some (.string text))
  | .real value => value.isFinite = true
  | _ => True

/-- The results of a run that was answered: a value, the lack of one, or a failure;
the last two with a reason. -/
inductive HttpReport (library : JsonLibrary) (pointers : JsonPointers)
    (config : HttpMonitorConfig) (transport : HttpTransportResponse) (base : MonitorResult) :
    MonitorResult → Prop
  | value (value : StateValue) (observed : Observable library pointers config transport value) :
      HttpReport library pointers config transport base { base with value }
  | missing (reason : Bytes) (text : ValidUtf8 reason) :
      HttpReport library pointers config transport base (notFound base reason)
  | invalid (reason : Bytes) (text : ValidUtf8 reason) :
      HttpReport library pointers config transport base (invalidResponse base reason)

/-- A ratio is reported of a parsed document. -/
theorem observeRatio_report
    (observed : observeRatio pointers arithmetic config base document selected = .ok result) :
    HttpReport library pointers config transport base result := by
  unfold observeRatio at observed
  cases denominator : pointers.select document config.jsonDenominatorPointer with
  | error what =>
      rw [denominator] at observed
      cases observed
  | ok found =>
      rw [denominator] at observed
      cases found with
      | none =>
          cases observed
          exact .missing _ (validUtf8_bytes _)
      | some denominatorJson =>
          dsimp only [bind, Except.bind] at observed
          split at observed
          · split at observed
            · cases observed
              exact .invalid _ (validUtf8_bytes _)
            · split at observed
              · cases observed
                exact .invalid _ (validUtf8_bytes _)
              next finite =>
                cases observed
                exact .value _ (by simpa [Observable] using finite)
          · cases observed
            exact .invalid _ (validUtf8_bytes _)

/-- A scalar that is a text is the string it was read from. -/
theorem jsonScalar_observable {value : StateValue} (scalar : jsonScalar selected = some value)
    (parsed : library.parse transport.body = some document)
    (found : pointers.select document config.jsonPointer = .ok (some selected)) :
    Observable library pointers config transport value := by
  cases selected with
  | null | boolean | integer =>
      cases scalar
      exact True.intro
  | unsigned number =>
      rw [jsonScalar] at scalar
      split at scalar
      · cases scalar
      · cases scalar
        exact True.intro
  | float number =>
      rw [jsonScalar] at scalar
      split at scalar
      · cases scalar
      next finite =>
        cases scalar
        simpa [Observable] using finite
  | string text =>
      cases scalar
      exact Or.inr ⟨document, parsed, found⟩
  | array | object => cases scalar

/-- So is what a pointer selects. -/
theorem observeSelected_report (parsed : library.parse transport.body = some document)
    (found : pointers.select document config.jsonPointer = .ok (some selected))
    (observed : observeSelected pointers arithmetic config base document selected = .ok result) :
    HttpReport library pointers config transport base result := by
  unfold observeSelected at observed
  split at observed
  · split at observed
    · cases observed
      exact .value _ True.intro
    · cases observed
      exact .invalid _ (validUtf8_bytes _)
  · exact observeRatio_report observed
  · split at observed
    next value scalar =>
      cases observed
      exact .value _ (jsonScalar_observable scalar parsed found)
    · cases observed
      exact .invalid _ (validUtf8_bytes _)

/-- So is every observation of a document. -/
theorem observeDocument_report (parsed : library.parse transport.body = some document)
    (observed : observeDocument pointers arithmetic config base document = .ok result) :
    HttpReport library pointers config transport base result := by
  unfold observeDocument at observed
  cases found : pointers.select document config.jsonPointer with
  | error what =>
      rw [found] at observed
      cases observed
  | ok selected =>
      rw [found] at observed
      cases selected with
      | none =>
          cases observed
          exact .missing _ (validUtf8_bytes _)
      | some selected => exact observeSelected_report parsed found observed

/-- What the evaluation of the pointers throws is text. -/
theorem observeDocument_throws (lawful : pointers.Lawful) (valid : document.Utf8)
    (pointer : ValidUtf8 config.jsonPointer) (denominator : ValidUtf8 config.jsonDenominatorPointer)
    {what : Bytes}
    (threw : observeDocument pointers arithmetic config base document = .error what) :
    ValidUtf8 what := by
  unfold observeDocument at threw
  cases found : pointers.select document config.jsonPointer with
  | error thrown =>
      rw [found] at threw
      cases threw
      exact lawful.quotes document _ _ valid pointer found
  | ok selected =>
      rw [found] at threw
      cases selected with
      | none => cases threw
      | some selected =>
          dsimp only [bind, Except.bind] at threw
          unfold observeSelected at threw
          split at threw
          · split at threw <;> cases threw
          · unfold observeRatio at threw
            cases other : pointers.select document config.jsonDenominatorPointer with
            | error thrown =>
                rw [other] at threw
                cases threw
                exact lawful.quotes document _ _ valid denominator other
            | ok found =>
                rw [other] at threw
                cases found with
                | none => cases threw
                | some denominatorJson =>
                    dsimp only [bind, Except.bind] at threw
                    split at threw
                    · split at threw
                      · cases threw
                      · split at threw <;> cases threw
                    · cases threw
          · split at threw <;> cases threw

/-- What a monitor configured for it may ask of the pointers is text. -/
structure PointersUtf8 (config : HttpMonitorConfig) : Prop where
  pointer : ValidUtf8 config.jsonPointer
  denominator : ValidUtf8 config.jsonDenominatorPointer

/-- A response that came is reported in one of three ways. -/
theorem runHttp_report {latency : Duration} {observedAt : Option TimePoint}
    (lawful : library.Lawful) (lawfulPointers : pointers.Lawful) (texts : PointersUtf8 config)
    (success : transport.success = true) :
    HttpReport library pointers config transport (answered transport latency observedAt)
      (runHttp library pointers arithmetic config transport latency observedAt) := by
  unfold runHttp
  simp only [success, Bool.not_true, Bool.false_eq_true, if_false]
  split
  · exact .value _ True.intro
  next body => exact .value _ (.inl ⟨body, rfl⟩)
  · cases parsed : library.parse transport.body with
    | none => exact .invalid _ (validUtf8_bytes _)
    | some document =>
        dsimp only
        cases observed : observeDocument pointers arithmetic config
            (answered transport latency observedAt) document with
        | ok result => exact observeDocument_report parsed observed
        | error what =>
            have text := observeDocument_throws lawfulPointers (lawful.parse_utf8 _ _ parsed)
              texts.pointer texts.denominator observed
            exact .invalid _ ((validUtf8_bytes _).append text)

end PixelStatus.Host
