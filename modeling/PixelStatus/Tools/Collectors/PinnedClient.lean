/-
# HTTPS behind a pinned certificate

The OpenWrt and UniFi clients exchange one request and one JSON body over a
connection of its own. `OSError`, `HTTPException` and `JSONDecodeError` become
the client's own error; nothing else does.
-/

import PixelStatus.Tools.Collectors.Runtime

namespace PixelStatus.Collectors

open Outcome

/-- What comes back once the request is sent, or an exception of sending it. -/
inductive Reply
  | failed (error : TransportError)
  | responded (status : Nat) (body : Bytes)

/-- How an exchange goes: it does not connect, the peer shows no certificate or
not the pinned one, or it takes the request. -/
inductive Exchange
  | connectFailed (error : TransportError)
  | noCertificate
  | wrongCertificate
  | pinned (reply : Reply)

/-- A program over the exchanges of one iteration, in the order of its requests. -/
abbrev Rpc := StateT (List Exchange) (Except PyException)

/-- The texts in which the two clients differ. -/
structure ClientTexts where
  noCertificate : PyText
  wrongPin : PyText
  tooLarge : PyText
  httpStatus : PyText
  invalidJson : PyText
  transportFailed : PyText

/-- The texts, the response limit, and the header values that the configuration
decides. -/
structure PinnedClient where
  texts : ClientTexts
  maximumResponseBytes : Nat
  headerValues : List PyText := []

/-- A character that a request target may not contain. -/
def isDisallowed (character : Nat) : Bool := character ≤ 0x20 || character = 0x7F

namespace PinnedClient

variable (client : PinnedClient) (runtime : Runtime)

/-- The handler of `OSError` and `HTTPException`; another exception passes it. -/
def transportFailed {α : Type} : TransportError → Except PyException α
  | .osError name => fail (client.texts.transportFailed ++ name)
  | .httpException name => fail (client.texts.transportFailed ++ name)
  | .unhandled => .error .unhandled

/-- The JSON value of a body, decoded and loaded. -/
def readBody (status : Nat) (body : Bytes) : Except PyException PyValue :=
  if client.maximumResponseBytes < body.length then fail client.texts.tooLarge
  else if status < 200 ∨ 300 ≤ status then
    fail (client.texts.httpStatus ++ pyText (toString status))
  else
    match runtime.decodeUtf8Sig body with
    | none => fail client.texts.invalidJson
    | some text =>
        match runtime.loads text with
        | .ok document => .ok document
        | .error .jsonDecodeError => fail client.texts.invalidJson
        | .error .valueError => .error .valueError
        | .error .recursionError => .error .recursionError

/-- Sending the request and reading what comes back. A target with a control
character is refused as an `InvalidURL`; any other is sent as ASCII, and header
values as Latin-1. -/
def request (target : PyText) (reply : Reply) : Except PyException PyValue :=
  if target.any isDisallowed then client.transportFailed (.httpException (pyText "InvalidURL"))
  else if target.any (127 < ·) ∨ client.headerValues.any (·.any (255 < ·)) then
    .error .unicodeEncodeError
  else
    match reply with
    | .failed error => client.transportFailed error
    | .responded status body => client.readBody runtime status body

/-- One exchange, from the connection to the loaded body. -/
def converse (target : PyText) : Exchange → Except PyException PyValue
  | .connectFailed error => client.transportFailed error
  | .noCertificate => fail client.texts.noCertificate
  | .wrongCertificate => fail client.texts.wrongPin
  | .pinned reply => client.request runtime target reply

/-- The next exchange; the list holds those that took place, and a further one
finds nobody to connect to. -/
def nextExchange : Rpc Exchange
  | [] => .ok (.connectFailed (.osError (pyText "ConnectionRefusedError")), [])
  | exchange :: exchanges => .ok (exchange, exchanges)

def fetch (target : PyText) : Rpc PyValue := do
  let exchange ← nextExchange
  client.converse runtime target exchange

/-- `json.loads` either loads the body or raises a `JSONDecodeError`. -/
def BodyLoads (body : Bytes) : Prop :=
  ∀ text, runtime.decodeUtf8Sig body = some text →
    runtime.loads text ≠ .error .valueError ∧ runtime.loads text ≠ .error .recursionError

/-- What the exchange raises is handled, and a body that is read at all is loaded
or rejected. -/
def Handled : Exchange → Prop
  | .connectFailed .unhandled => False
  | .pinned (.failed .unhandled) => False
  | .pinned (.responded status body) =>
      body.length ≤ client.maximumResponseBytes → 200 ≤ status ∧ status < 300 →
        BodyLoads runtime body
  | _ => True

/-- A target that is sent as ASCII, or refused before. -/
def Sendable (target : PyText) : Prop :=
  target.any isDisallowed = true ∨ target.any (127 < ·) = false

/-- Texts that can be sent can be sent one after the other. -/
theorem Sendable.append {first second : PyText} (hfirst : Sendable first)
    (hsecond : Sendable second) : Sendable (first ++ second) := by
  rw [Sendable, List.any_append, List.any_append, Bool.or_eq_true, Bool.or_eq_false_iff]
  rcases hfirst with refused | ascii
  · exact Or.inl (Or.inl refused)
  · exact hsecond.imp Or.inr fun hsecond => ⟨ascii, hsecond⟩

/-- The configured header values are sent as Latin-1. -/
def HeadersSendable : Prop := client.headerValues.any (·.any (255 < ·)) = false

/-- A handled body is read or refused by the client's own error. -/
theorem readBody_failsWith {status : Nat} {body : Bytes}
    (handled : client.Handled runtime (.pinned (.responded status body))) :
    FailsWith PyException.Own (client.readBody runtime status body) := by
  unfold readBody
  split
  · exact fail_failsWith _
  next short =>
    split
    · exact fail_failsWith _
    next successful =>
      have hloads := handled (by omega) (by omega)
      split
      · exact fail_failsWith _
      next text decoded =>
        split
        next document _ => exact FailsWith.ok document
        next => exact fail_failsWith _
        next loaded => exact absurd loaded (hloads text decoded).1
        next loaded => exact absurd loaded (hloads text decoded).2

/-- So is the reply to a request that can be sent. -/
theorem request_failsWith {target : PyText} {reply : Reply} (sendable : Sendable target)
    (headers : client.HeadersSendable)
    (handled : client.Handled runtime (.pinned reply)) :
    FailsWith PyException.Own (client.request runtime target reply) := by
  unfold request
  split
  · exact fail_failsWith _
  next allowed =>
    have ascii := sendable.resolve_left allowed
    have encodes : ¬ (target.any (127 < ·) ∨ client.headerValues.any (·.any (255 < ·))) := by
      rw [ascii, headers]
      simp
    rw [if_neg encodes]
    cases reply with
    | failed error =>
        cases error with
        | osError name => exact fail_failsWith _
        | httpException name => exact fail_failsWith _
        | unhandled => exact handled.elim
    | responded status body => exact readBody_failsWith client runtime handled

/-- The next request finds the pinned peer. -/
def NextPinned : List Exchange → Prop
  | .pinned _ :: _ => True
  | _ => False

/-- What a request writes can be sent. -/
def CanSend (target : PyText) : Prop := Sendable target ∧ client.HeadersSendable

/-- The exchange is read to its end, for some target. -/
def BringsDocument (exchange : Exchange) : Prop :=
  ∃ target document, client.converse runtime target exchange = .ok document

/-- The exchanges are handled, up to the first that brings no document; none
follows that one. -/
def AllHandled : List Exchange → Prop
  | [] => True
  | exchange :: rest =>
      client.Handled runtime exchange ∧
        (client.BringsDocument runtime exchange → AllHandled rest)

/-- Exchanges are handled when each of them is. -/
theorem allHandled_of_forall {exchanges : List Exchange}
    (handled : ∀ exchange ∈ exchanges, client.Handled runtime exchange) :
    client.AllHandled runtime exchanges := by
  induction exchanges with
  | nil => trivial
  | cons exchange rest ih =>
      refine ⟨handled exchange List.mem_cons_self, fun _ => ih ?_⟩
      exact fun other hother => handled other (List.mem_cons_of_mem _ hother)

/-- A handled exchange brings a value or the client's own error. -/
theorem converse_failsWith {target : PyText} {exchange : Exchange} {rest : List Exchange}
    (sendable : NextPinned (exchange :: rest) → client.CanSend target)
    (handled : client.Handled runtime exchange) :
    FailsWith PyException.Own (client.converse runtime target exchange) := by
  cases exchange with
  | connectFailed error =>
      cases error with
      | osError name => exact fail_failsWith _
      | httpException name => exact fail_failsWith _
      | unhandled => exact handled.elim
  | noCertificate => exact fail_failsWith _
  | wrongCertificate => exact fail_failsWith _
  | pinned reply =>
      have h := sendable trivial
      exact request_failsWith client runtime h.1 h.2 handled

/-- A request that can be sent, if its exchange gets that far, is contained. -/
theorem fetch_keepsFrom {target : PyText} {exchanges : List Exchange}
    (handled : client.AllHandled runtime exchanges)
    (sendable : NextPinned exchanges → client.CanSend target) :
    KeepsFrom PyException.Own (client.AllHandled runtime) (fun _ => True)
      (client.fetch runtime target) exchanges := by
  cases exchanges with
  | nil =>
      have refused : FailsWith PyException.Own
          (client.converse runtime target (.connectFailed (.osError
            (pyText "ConnectionRefusedError")))) := fail_failsWith _
      exact Keeps.lift refused (fun _ _ => trivial) [] handled
  | cons exchange rest =>
      have runs : (client.fetch runtime target).run (exchange :: rest) =
          (client.converse runtime target exchange >>= fun document => .ok (document, rest)) := rfl
      rw [KeepsFrom, runs]
      refine ⟨(client.converse_failsWith runtime sendable handled.1).bind ?_, ?_⟩
      · exact fun document _ => FailsWith.ok (document, rest)
      · intro value next ends
        obtain ⟨document, read, same⟩ := bind_eq_ok.mp ends
        cases same
        exact ⟨handled.2 ⟨target, value, read⟩, trivial⟩

/-- An exchange that is not pinned ends the program with the client's own error. -/
theorem fetch_of_not_nextPinned {target : PyText} {exchanges : List Exchange}
    (unpinned : ¬ NextPinned exchanges) (handled : client.AllHandled runtime exchanges) :
    ∃ message, (client.fetch runtime target).run exchanges = fail message := by
  cases exchanges with
  | nil => exact ⟨_, rfl⟩
  | cons exchange rest =>
      cases exchange with
      | connectFailed error =>
          cases error with
          | osError name => exact ⟨_, rfl⟩
          | httpException name => exact ⟨_, rfl⟩
          | unhandled => exact handled.1.elim
      | noCertificate => exact ⟨_, rfl⟩
      | wrongCertificate => exact ⟨_, rfl⟩
      | pinned reply => exact absurd trivial unpinned

end PinnedClient

/-- `_number`: no Boolean, and no float that is not finite. -/
def number (value : PyValue) : Option PyNumber :=
  match PyNumber.ofValue value with
  | some (.real value) => if value.isFinite then some (.real value) else none
  | other => other

/-- An optional number as the document shows it. -/
def ofNumber : Option PyNumber → PyValue
  | some number => number.toValue
  | none => .none

def numberField (document : PyDict) (name : String) : PyValue :=
  ofNumber (number (PyValue.get document (pyText name)))

/-- An optional float as the document shows it. -/
def ofDouble : Option Double → PyValue
  | some value => .real value
  | none => .none

theorem depth_ofNumber (value : Option PyNumber) : (ofNumber value).depth = 1 := by
  cases value with
  | none => rfl
  | some number =>
      cases number with
      | integer value => rfl
      | real value => rfl

theorem depth_ofDouble (value : Option Double) : (ofDouble value).depth = 1 := by
  cases value with
  | none => rfl
  | some value => rfl

end PixelStatus.Collectors
