/-
# The values of the status API

The value parser and the value encoder agree on the scalar that a JSON value
denotes. A state's JSON form can be dumped exactly when its texts are valid
UTF-8, and every error the API reports can be.
-/

import Mathlib.Data.Nat.Bitwise
import PixelStatus.Core.StatusApi
import PixelStatus.Logic.Outcome

namespace PixelStatus

/-- What a JSON scalar says, whichever integer type holds it. -/
inductive Scalar
  | null
  | boolean (value : Bool)
  | integer (value : Int)
  | floating (value : Double)
  | string (value : Bytes)
  deriving DecidableEq

def Json.scalar : Json → Option Scalar
  | .null => some .null
  | .boolean value => some (.boolean value)
  | .integer value => some (.integer value.toInt)
  | .unsigned value => some (.integer value.toNat)
  | .float value => some (.floating value)
  | .string value => some (.string value)
  | _ => none

def StateValue.scalar : StateValue → Scalar
  | .monostate => .null
  | .boolean value => .boolean value
  | .integer value => .integer value.toInt
  | .real value => .floating value
  | .text value => .string value

/-- A value survives the way through its document. -/
theorem scalar_stateValueJson (value : StateValue) :
    (stateValueJson value).scalar = some value.scalar := by
  cases value <;> rfl

/-- A parsed value denotes the scalar it was parsed from. -/
theorem scalar_of_parseStateValue {limits : StatusApiLimits} {json : Json} {value : StateValue}
    (parsed : parseStateValue limits json = .ok value) : json.scalar = some value.scalar := by
  cases json with
  | null =>
      cases parsed
      rfl
  | boolean flag =>
      cases parsed
      rfl
  | integer number =>
      cases parsed
      rfl
  | unsigned number =>
      simp only [parseStateValue] at parsed
      split at parsed
      next => cases parsed
      next inside =>
        cases parsed
        have exact : (Int64.ofInt number.toNat).toInt = number.toNat := by
          apply Int64.toInt_ofInt_of_le <;> omega
        rw [StateValue.scalar, exact, Json.scalar]
  | float number =>
      simp only [parseStateValue] at parsed
      split at parsed
      next => cases parsed
      next =>
        cases parsed
        rfl
  | string text =>
      simp only [parseStateValue] at parsed
      split at parsed
      next => cases parsed
      next =>
        cases parsed
        rfl
  | array items => cases parsed
  | object members => cases parsed

/-- Every text of a state is valid UTF-8. -/
structure MonitorState.Utf8 (state : MonitorState) : Prop where
  id : ValidUtf8 state.id
  status : ValidUtf8 state.status
  message : ValidUtf8 state.message
  value : (stateValueJson state.value).Utf8

/-- A value that a document of texts holds is one of texts. -/
theorem utf8_of_scalar {json : Json} {value : StateValue} (valid : json.Utf8)
    (same : json.scalar = some value.scalar) : (stateValueJson value).Utf8 := by
  cases value with
  | text text =>
      cases json with
      | string other =>
          cases same
          exact valid
      | _ => cases same
  | _ => exact True.intro

/-- A resolved state can be dumped exactly when the state's texts are valid. -/
theorem utf8_resolvedStateJson (state : MonitorState) (enteredAt now : TimePoint) :
    (resolvedStateJson (resolveEntry state enteredAt now) now).Utf8 ↔ state.Utf8 := by
  have effective : (resolveEntry state enteredAt now).effectiveStatus = state.status ∨
      (resolveEntry state enteredAt now).effectiveStatus = staleStatus := by
    rw [resolveEntry_effectiveStatus]
    exact (ite_eq_or_eq _ _ _).symm
  simp only [resolvedStateJson, Json.Utf8, Json.Utf8Members, validUtf8_bytes,
    StateStore.resolveEntry_state, true_and, and_true]
  refine ⟨?_, ?_⟩
  · rintro ⟨hid, hmessage, hstatus, _, _, hvalue⟩
    exact ⟨hid, hstatus, hmessage, hvalue⟩
  · intro valid
    refine ⟨valid.id, valid.message, valid.status, ?_, ?_, valid.value⟩
    · cases effective with
      | inl fresh => exact fresh ▸ valid.status
      | inr stale => exact stale ▸ validUtf8_bytes "stale"
    · cases state.ttl <;> exact True.intro

/-- Words that differ nowhere are equal. -/
theorem xor_eq_zero_iff {left right : Nat} : left ^^^ right = 0 ↔ left = right := by
  rw [← Nat.xor_self left, Nat.xor_right_inj, eq_comm]

/-- Two words have no bit together when neither has one. -/
theorem or_eq_zero_iff {left right : Nat} : left ||| right = 0 ↔ left = 0 ∧ right = 0 := by
  refine ⟨?_, ?_⟩
  · intro zero
    have hleft := Nat.left_le_or (n := left) (m := right)
    have hright := Nat.right_le_or (n := left) (m := right)
    omega
  · rintro ⟨rfl, rfl⟩
    rfl

/-- The comparison that takes constant time is equality. -/
theorem constantTimeEqual_iff {left right : Bytes} :
    constantTimeEqual left right = true ↔ left = right := by
  have folded (indices : List Nat) (start : Nat) :
      indices.foldl (fun difference index =>
          difference ||| (byteAt left index ^^^ byteAt right index)) start = 0 ↔
        start = 0 ∧ ∀ index ∈ indices, byteAt left index = byteAt right index := by
    induction indices generalizing start with
    | nil => simp
    | cons index indices ih =>
        rw [List.foldl_cons, ih, or_eq_zero_iff, xor_eq_zero_iff, List.forall_mem_cons, and_assoc]
  simp only [constantTimeEqual, decide_eq_true_eq]
  rw [folded, xor_eq_zero_iff]
  refine ⟨?_, ?_⟩
  · rintro ⟨hlength, hbytes⟩
    apply List.ext_getElem hlength
    intro index hleft hright
    have same := hbytes index (by simp; omega)
    rw [byteAt, byteAt, List.getElem?_eq_getElem hleft, List.getElem?_eq_getElem hright] at same
    exact UInt8.toNat_inj.mp same
  · rintro rfl
    exact ⟨rfl, fun _ _ => rfl⟩

namespace StatusApi

open Outcome

variable {api : StatusApi} {members : List (Bytes × Json)} {error : ApiError}

/-- An error that the API can report: a failure status and a valid text. -/
def Reportable (error : ApiError) : Prop := 400 ≤ error.1 ∧ ValidUtf8 error.2

/-- A literal text can be reported. -/
theorem reportable_bytes {status : Nat} (text : String) (failure : 400 ≤ status) :
    Reportable (status, bytes text) :=
  ⟨failure, validUtf8_bytes text⟩

/-- What is wrong with an id can be reported. -/
theorem reportable_of_parseId {route : Route} (failed : parseId members route = .error error) :
    Reportable error := by
  cases route with
  | item id =>
      simp only [parseId] at failed
      repeat' split at failed
      all_goals
        cases failed
        try exact reportable_bytes _ (by decide)
  | collection =>
      simp only [parseId] at failed
      split at failed
      all_goals
        cases failed
        try exact reportable_bytes _ (by decide)

/-- So can what is wrong with a status. -/
theorem reportable_of_parseStatus (failed : api.parseStatus members = .error error) :
    Reportable error := by
  unfold parseStatus at failed
  repeat' split at failed
  all_goals
    cases failed
    try exact reportable_bytes _ (by decide)

/-- So can what is wrong with a message. -/
theorem reportable_of_parseMessage (failed : api.parseMessage members = .error error) :
    Reportable error := by
  unfold parseMessage at failed
  repeat' split at failed
  all_goals
    cases failed
    try exact reportable_bytes _ (by decide)

/-- What is wrong with a value is said in text. -/
theorem utf8_of_parseStateValue {limits : StatusApiLimits} {json : Json} {message : Bytes}
    (failed : parseStateValue limits json = .error message) : ValidUtf8 message := by
  unfold parseStateValue at failed
  repeat' split at failed
  all_goals
    cases failed
    try exact validUtf8_bytes _

/-- So it can be reported. -/
theorem reportable_of_parseValue (failed : api.parseValue members = .error error) :
    Reportable error := by
  unfold parseValue at failed
  split at failed
  next => cases failed
  next json present =>
    cases hvalue : parseStateValue api.limits json with
    | ok value =>
        rw [hvalue] at failed
        cases failed
    | error message =>
        rw [hvalue] at failed
        cases failed
        exact ⟨Nat.le_refl 400, utf8_of_parseStateValue hvalue⟩

/-- What is wrong with a number of seconds can be reported. -/
theorem reportable_of_parseSeconds {seconds : UInt64}
    (failed : api.parseSeconds seconds = .error error) : Reportable error := by
  simp only [parseSeconds] at failed
  split at failed
  all_goals
    cases failed
    try exact reportable_bytes _ (by decide)

/-- So can what is wrong with a lifetime. -/
theorem reportable_of_parseTtl (failed : api.parseTtl members = .error error) :
    Reportable error := by
  unfold parseTtl at failed
  repeat' split at failed
  · cases failed
  · exact reportable_of_parseSeconds failed
  · cases failed
    exact reportable_bytes _ (by decide)
  · exact reportable_of_parseSeconds failed
  · cases failed
    exact reportable_bytes _ (by decide)

/-- Whatever is wrong with the fields can be reported. -/
theorem reportable_of_parseFields {route : Route} {now : TimePoint}
    (valid : Json.Utf8Members members)
    (failed : api.parseFields members route now = .error error) : Reportable error := by
  unfold parseFields at failed
  split at failed
  next member unknown =>
    cases failed
    have key := (Json.utf8Members_iff.mp valid member (List.mem_of_find?_eq_some unknown)).1
    exact ⟨Nat.le_refl 400, (validUtf8_bytes _).append key⟩
  next =>
    cases bind_eq_error.mp failed with
    | inl hid => exact reportable_of_parseId hid
    | inr rest =>
        obtain ⟨id, _, failed⟩ := rest
        split at failed
        next =>
          cases failed
          exact reportable_bytes _ (by decide)
        next =>
          rcases bind_eq_error.mp failed with hstatus | ⟨status, _, failed⟩
          · exact reportable_of_parseStatus hstatus
          rcases bind_eq_error.mp failed with hmessage | ⟨message, _, failed⟩
          · exact reportable_of_parseMessage hmessage
          rcases bind_eq_error.mp failed with hvalue | ⟨value, _, failed⟩
          · exact reportable_of_parseValue hvalue
          rcases bind_eq_error.mp failed with httl | ⟨ttl, _, impossible⟩
          · exact reportable_of_parseTtl httl
          · cases impossible

/-- Whatever a POST is refused for can be reported. -/
theorem reportable_of_parseUpdate (lawful : api.library.Lawful) {request : ApiRequest}
    {route : Route} {now : TimePoint}
    (failed : api.parseUpdate request route now = .error error) : Reportable error := by
  unfold parseUpdate at failed
  split at failed
  next =>
    cases failed
    exact reportable_bytes _ (by decide)
  next =>
    split at failed
    next =>
      cases failed
      exact reportable_bytes _ (by decide)
    next =>
      split at failed
      next members parsed =>
        exact reportable_of_parseFields (lawful.parse_utf8 _ _ parsed) failed
      next =>
        cases failed
        exact reportable_bytes _ (by decide)

/-- A response is built of its status and the printed body. -/
theorem jsonResponse_eq_some {status : Nat} {body : Json} {headers : List (Bytes × Bytes)}
    {response : ApiResponse} (built : api.jsonResponse status body headers = some response) :
    response.status = status ∧ api.library.dump body = some response.body := by
  obtain ⟨text, hdump, rfl⟩ := Option.map_eq_some_iff.mp built
  exact ⟨rfl, hdump⟩

/-- A response is built exactly when its body has only valid texts. -/
theorem jsonResponse_isSome (lawful : api.library.Lawful) {status : Nat} {body : Json}
    {headers : List (Bytes × Bytes)} :
    (api.jsonResponse status body headers).isSome = true ↔ body.Utf8 := by
  rw [jsonResponse, Option.isSome_map, lawful.dump_isSome]

/-- An error that can be reported is. -/
theorem errorResponse_isSome (lawful : api.library.Lawful) (reportable : Reportable error)
    (headers : List (Bytes × Bytes)) : (api.errorResponse error headers).isSome = true := by
  rw [errorResponse, jsonResponse_isSome lawful]
  exact ⟨validUtf8_bytes "error", reportable.2, True.intro⟩

/-- It is answered with its own status. -/
theorem errorResponse_status {headers : List (Bytes × Bytes)} {response : ApiResponse}
    (built : api.errorResponse error headers = some response) : response.status = error.1 :=
  (jsonResponse_eq_some built).1

end StatusApi

end PixelStatus
