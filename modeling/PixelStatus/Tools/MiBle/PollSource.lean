/-
# The input side of the bridge

A display request ends with an exception of the transport or with a body, and
`json.loads` reads the body or raises. `_fetch_sync` turns some of these
exceptions into its own class, which is the only one that `poll_source`
catches; any other reaches `asyncio.gather` and ends the bridge. The functions
of Python are a parameter, each with the exceptions it may raise.
-/

import PixelStatus.Logic.Outcome
import PixelStatus.Logic.RefreshLoop
import PixelStatus.Tools.MiBle.NewestFrame

namespace PixelStatus.MiBle

open Outcome

/-- What `urlopen` and `read` raise. A `URLError` or a `TimeoutError` is an
`OSError`; an `HTTPError` is a `URLError` with a clause of its own. A class that
is both an `OSError` and an `HTTPException` is the former here. -/
inductive RequestError
  | httpError (code : Nat)
  | osError (text : String)
  | httpException (text : String)

/-- What `json.loads` raises on bytes. The first two are subclasses of the third. -/
inductive LoadsError
  | unicodeDecodeError
  | jsonDecodeError
  | valueError
  | recursionError

/-- How a fetch ends without a frame. -/
inductive FetchException
  | frameSource (message : FrameSourceError)
  | request (error : RequestError)
  | loads (error : LoadsError)

/-- The class that a fetch promises to raise. -/
def FetchException.Own (exception : FetchException) : Prop :=
  ∃ message, exception = .frameSource message

/-- What comes of a request. The body is what the server sends, which may be
more than the source reads. -/
inductive RequestOutcome
  | raised (error : RequestError)
  | responded (body : Bytes) (etag : Option Bytes)

section Fetch

variable (loads : Bytes → Except LoadsError PyValue)

/-- `parse_display_document`, from the bytes on. An integer that was read from
digits is within the digit limit when a message shows it. -/
def parsePayload (payload : Bytes) : Except FetchException DisplayFrame :=
  if maximumDocumentBytes < payload.length then
    .error (.frameSource "display frame response exceeds the 128 KiB limit")
  else
    match loads payload with
    | .error .unicodeDecodeError | .error .jsonDecodeError =>
        .error (.frameSource "display frame response is not valid UTF-8 JSON")
    | .error error => .error (.loads error)
    | .ok document => (parseDisplayDocument document).mapError .frameSource

/-- The body of the `with` statement. -/
def readResponse (body : Bytes) : Except FetchException DisplayFrame :=
  let payload := body.take (maximumDocumentBytes + 1)
  if maximumDocumentBytes < payload.length then
    .error (.frameSource "display frame response exceeds the 128 KiB limit")
  else parsePayload loads payload

/-- What the two `except` clauses make of an exception. -/
def translate : FetchException → Except FetchException (Option DisplayFrame)
  | .request (.httpError code) =>
      if code = 304 then .ok none
      else .error (.frameSource s!"display frame endpoint returned HTTP {code}")
  | .request (.osError text) => .error (.frameSource s!"display frame request failed: {text}")
  | exception => .error exception

/-- `_fetch_sync`; the tag is assigned once the frame has been parsed. -/
def HttpFrameSource.fetchSync (source : HttpFrameSource) :
    RequestOutcome → Except FetchException (Option DisplayFrame) × HttpFrameSource
  | .raised error => (translate (.request error), source)
  | .responded body etag =>
      match readResponse loads body with
      | .ok frame => (.ok (some frame), { etag })
      | .error exception => (translate exception, source)

/-- `poll_source` between two fetches, with the rest of the bridge. -/
structure Polling where
  source : HttpFrameSource := {}
  lastError : Option FrameSourceError := none
  bridge : Bridge := {}

/-- The new frame, if there is one, goes into the mailbox. -/
def Bridge.offer (bridge : Bridge) : Option DisplayFrame → Bridge
  | some frame => bridge.put frame
  | none => bridge

/-- One iteration of `poll_source`; `none` when an exception leaves it. -/
def Polling.turn (polling : Polling) (outcome : RequestOutcome) : Option Polling :=
  match polling.source.fetchSync loads outcome with
  | (.ok frame, source) => some { source, bridge := polling.bridge.offer frame }
  | (.error (.frameSource message), source) =>
      some { polling with source, lastError := some message }
  | (.error _, _) => none

/-- `run_bridge` when these requests have been answered. The output task and its
connection step in between, in any order; only the polling task changes the
mailbox. `gather` raises, which `none` stands for, as soon as a task has, and
the output task catches what its connection raises. -/
inductive RunBridge (options : TransformOptions) : List RequestOutcome → Option Polling → Prop
  | created : RunBridge options [] (some {})
  | output {outcomes : List RequestOutcome} {polling : Polling} {next : Bridge}
      (before : RunBridge options outcomes (some polling))
      (step : Step options polling.bridge next) (mailbox : next.slot = polling.bridge.slot) :
      RunBridge options outcomes (some { polling with bridge := next })
  | poll {outcomes : List RequestOutcome} {polling : Polling}
      (before : RunBridge options outcomes (some polling)) (outcome : RequestOutcome) :
      RunBridge options (outcomes ++ [outcome]) (polling.turn loads outcome)

/-- The request raises an exception that some clause names, and so does
`json.loads` on a body that it is given. -/
def Caught : RequestOutcome → Prop
  | .raised (.httpException _) => False
  | .raised _ => True
  | .responded body _ => body.length ≤ maximumDocumentBytes →
      loads body ≠ .error .valueError ∧ loads body ≠ .error .recursionError

/-! ### What a fetch does -/

variable {loads}

/-- A response over the limit is refused. -/
theorem readResponse_of_gt {body : Bytes} (long : maximumDocumentBytes < body.length) :
    readResponse loads body
      = .error (.frameSource "display frame response exceeds the 128 KiB limit") := by
  have read : maximumDocumentBytes < (body.take (maximumDocumentBytes + 1)).length := by
    rw [List.length_take]
    omega
  exact if_pos read

/-- A body within the limit is read to its end. -/
theorem readResponse_of_le {body : Bytes} (short : body.length ≤ maximumDocumentBytes) :
    readResponse loads body =
      match loads body with
      | .error .unicodeDecodeError | .error .jsonDecodeError =>
          .error (.frameSource "display frame response is not valid UTF-8 JSON")
      | .error error => .error (.loads error)
      | .ok document => (parseDisplayDocument document).mapError .frameSource := by
  have read : body.take (maximumDocumentBytes + 1) = body := List.take_of_length_le (by omega)
  simp only [readResponse, read, parsePayload, if_neg (Nat.not_lt.mpr short)]

/-- A document is read or refused by the source's own error. -/
theorem parseDisplayDocument_failsWith (document : PyValue) :
    FailsWith FetchException.Own
      ((parseDisplayDocument document).mapError FetchException.frameSource) := by
  cases parseDisplayDocument document with
  | ok frame => exact FailsWith.ok frame
  | error message => exact FailsWith.error ⟨message, rfl⟩

/-- Reading a body only raises the source's own class exactly when the body is
too long or `json.loads` takes it or rejects it as malformed. -/
theorem readResponse_failsWith_iff (body : Bytes) :
    FailsWith FetchException.Own (readResponse loads body) ↔
      (body.length ≤ maximumDocumentBytes →
        loads body ≠ .error .valueError ∧ loads body ≠ .error .recursionError) := by
  rcases Nat.lt_or_ge maximumDocumentBytes body.length with long | short
  · rw [readResponse_of_gt long, FailsWith.error_iff]
    refine ⟨?_, ?_⟩
    · exact fun _ short => absurd short (by omega)
    · exact fun _ => ⟨_, rfl⟩
  · rw [readResponse_of_le short, forall_prop_of_true short]
    cases loads body with
    | ok document => simp [parseDisplayDocument_failsWith]
    | error error =>
        cases error with
        | unicodeDecodeError => simp [FailsWith.error_iff, FetchException.Own]
        | jsonDecodeError => simp [FailsWith.error_iff, FetchException.Own]
        | valueError => simp [FailsWith.error_iff, FetchException.Own]
        | recursionError => simp [FailsWith.error_iff, FetchException.Own]

/-- Nothing that reading a body raises is an `OSError`. -/
theorem translate_of_readResponse {body : Bytes} {exception : FetchException}
    (raises : readResponse loads body = .error exception) :
    translate exception = .error exception := by
  rcases Nat.lt_or_ge maximumDocumentBytes body.length with long | short
  · rw [readResponse_of_gt long] at raises
    cases raises
    rfl
  · rw [readResponse_of_le short] at raises
    split at raises
    · cases raises
      rfl
    · cases raises
      rfl
    · cases raises
      rfl
    next document _ =>
      cases parsed : parseDisplayDocument document with
      | ok frame =>
          rw [parsed] at raises
          cases raises
      | error message =>
          rw [parsed] at raises
          cases raises
          rfl

/-- A fetch keeps its promise exactly on the outcomes that are caught. -/
theorem fetchSync_failsWith_iff (source : HttpFrameSource) (outcome : RequestOutcome) :
    FailsWith FetchException.Own (source.fetchSync loads outcome).1 ↔ Caught loads outcome := by
  cases outcome with
  | raised error =>
      cases error with
      | httpError code =>
          have caught : FailsWith FetchException.Own (translate (.request (.httpError code))) := by
            rw [translate]
            split
            · exact FailsWith.ok none
            · exact FailsWith.error ⟨_, rfl⟩
          exact iff_of_true caught trivial
      | osError text => exact iff_of_true (FailsWith.error ⟨_, rfl⟩) trivial
      | httpException text =>
          apply iff_of_false _ id
          intro promised
          obtain ⟨message, same⟩ := promised _ rfl
          cases same
  | responded body etag =>
      rw [Caught, ← readResponse_failsWith_iff, HttpFrameSource.fetchSync]
      cases read : readResponse loads body with
      | ok frame => exact iff_of_true (FailsWith.ok _) (FailsWith.ok _)
      | error exception =>
          dsimp only
          rw [translate_of_readResponse read, FailsWith.error_iff, FailsWith.error_iff]

/-- A fetch that returns no frame remembers the tag it had. -/
theorem fetchSync_source_of_no_frame {source : HttpFrameSource} {outcome : RequestOutcome}
    (fails : ∀ frame, (source.fetchSync loads outcome).1 ≠ .ok (some frame)) :
    (source.fetchSync loads outcome).2 = source := by
  cases outcome with
  | raised error => rfl
  | responded body etag =>
      rw [HttpFrameSource.fetchSync] at fails ⊢
      cases read : readResponse loads body with
      | ok frame =>
          rw [read] at fails
          exact absurd rfl (fails frame)
      | error exception => rfl

/-- A display server's answer, as the source gets it. -/
def RequestOutcome.ofResponse (response : DisplayResponse) : RequestOutcome :=
  match response.status, response.body with
  | 200, some document => .responded document.text (some response.etag)
  | status, _ => .raised (.httpError status)

/-- A served document, which `json.loads` reads back, is received as it is. -/
theorem fetchSync_served (source : HttpFrameSource) {document : DisplayDocument} {etag : Bytes}
    (reads : loads document.text = .ok document.loaded) :
    source.fetchSync loads (.responded document.text (some etag))
      = ((source.receive ⟨200, etag, some document⟩).1.mapError .frameSource,
          (source.receive ⟨200, etag, some document⟩).2) := by
  rw [HttpFrameSource.fetchSync]
  rcases Nat.lt_or_ge maximumDocumentBytes document.text.length with long | short
  · have received : source.receive ⟨200, etag, some document⟩
        = (.error "display frame response exceeds the 128 KiB limit", source) := by
      simp only [HttpFrameSource.receive, gt_iff_lt, if_pos long]
    rw [readResponse_of_gt long, received]
    rfl
  · rw [readResponse_of_le short, reads]
    dsimp only
    cases parsed : parseDisplayDocument document.loaded with
    | ok frame =>
        have received : source.receive ⟨200, etag, some document⟩
            = (.ok (some frame), { etag := some etag }) := by
          simp only [HttpFrameSource.receive, gt_iff_lt, if_neg (Nat.not_lt.mpr short), parsed]
        rw [received]
        rfl
    | error message =>
        have received : source.receive ⟨200, etag, some document⟩
            = (.error message, source) := by
          simp only [HttpFrameSource.receive, gt_iff_lt, if_neg (Nat.not_lt.mpr short), parsed]
        rw [received]
        rfl

/-- Any other answer is an `HTTPError` with its status. -/
theorem fetchSync_unserved (source : HttpFrameSource) {response : DisplayResponse}
    (unserved : ∀ document, response.status = 200 → response.body = some document → False) :
    source.fetchSync loads (.raised (.httpError response.status))
      = ((source.receive response).1.mapError .frameSource, (source.receive response).2) := by
  have received : source.receive response
      = if response.status = 304 then (.ok none, source)
        else (.error s!"display frame endpoint returned HTTP {response.status}", source) := by
    unfold HttpFrameSource.receive
    split
    next document status200 content => exact absurd content (unserved document status200)
    next status304 => exact (if_pos status304).symm
    next unchanged _ => exact (if_neg unchanged).symm
  rw [HttpFrameSource.fetchSync, translate, received]
  split
  · rfl
  · rfl

/-- On the answers of a display server a fetch receives what the server gave. -/
theorem fetchSync_ofResponse (source : HttpFrameSource) {response : DisplayResponse}
    (reads : ∀ document, response.body = some document →
      loads document.text = .ok document.loaded) :
    source.fetchSync loads (.ofResponse response)
      = ((source.receive response).1.mapError .frameSource, (source.receive response).2) := by
  obtain ⟨status, etag, body⟩ := response
  unfold RequestOutcome.ofResponse
  dsimp only
  split
  next document => exact fetchSync_served source (reads document rfl)
  next unserved => exact @fetchSync_unserved _ source ⟨status, etag, body⟩ unserved

/-! ### What a run does -/

variable {options : TransformOptions}

/-- The bridge of a run is one that the polling task may reach. -/
theorem RunBridge.reachable {outcomes : List RequestOutcome} {state : Option Polling}
    (run : RunBridge loads options outcomes state) :
    ∀ polling, state = some polling →
      Transition.Reachable Initial (Step options) polling.bridge := by
  induction run with
  | created =>
      intro polling same
      cases same
      exact .of_initial rfl
  | output _ step _ ih =>
      intro polling same
      cases same
      exact (ih _ rfl).tail step
  | @poll _ polling _ outcome ih =>
      intro next same
      have before := ih polling rfl
      rw [Polling.turn] at same
      split at same
      next frame source _ =>
        cases same
        cases frame with
        | none => exact before
        | some frame => exact before.tail (.put _ frame)
      · cases same
        exact before
      · cases same

/-- An iteration stays in the loop exactly when the fetch keeps its promise. -/
theorem Polling.turn_ne_none_iff (polling : Polling) (outcome : RequestOutcome) :
    polling.turn loads outcome ≠ none ↔ Caught loads outcome := by
  rw [← fetchSync_failsWith_iff polling.source, Polling.turn]
  split
  next frame source fetched =>
    rw [fetched]
    exact iff_of_true (Option.some_ne_none _) (FailsWith.ok frame)
  next message source fetched =>
    rw [fetched]
    exact iff_of_true (Option.some_ne_none _) (FailsWith.error ⟨message, rfl⟩)
  next exception source foreign fetched =>
    rw [fetched, FailsWith.error_iff]
    apply iff_of_false (not_not.mpr rfl)
    exact fun ⟨message, same⟩ => foreign message same

/-- Caught outcomes keep every run going. -/
theorem RunBridge.ne_none {outcomes : List RequestOutcome} {state : Option Polling}
    (run : RunBridge loads options outcomes state)
    (caught : ∀ outcome ∈ outcomes, Caught loads outcome) : state ≠ none := by
  induction run with
  | created => exact Option.some_ne_none _
  | output _ _ _ _ => exact Option.some_ne_none _
  | poll _ outcome _ =>
      exact (Polling.turn_ne_none_iff _ outcome).mpr (caught outcome (by simp))

/-- They are answered in some run. -/
theorem RunBridge.exists_of_caught {outcomes : List RequestOutcome}
    (caught : ∀ outcome ∈ outcomes, Caught loads outcome) :
    ∃ polling, RunBridge loads options outcomes (some polling) := by
  induction outcomes using List.reverseRecOn with
  | nil => exact ⟨_, .created⟩
  | append_singleton earlier outcome ih =>
      obtain ⟨polling, run⟩ := ih fun other hother => caught other (List.mem_append_left _ hother)
      have goesOn : polling.turn loads outcome ≠ none :=
        (Polling.turn_ne_none_iff polling outcome).mpr (caught outcome (by simp))
      obtain ⟨next, turned⟩ := Option.ne_none_iff_exists'.mp goesOn
      exact ⟨next, turned ▸ run.poll outcome⟩

/-- Nothing stops the bridge while these requests are answered. -/
def Survives (loads : Bytes → Except LoadsError PyValue) (options : TransformOptions)
    (outcomes : List RequestOutcome) : Prop :=
  ∀ earlier, earlier <+: outcomes →
    ∀ state, RunBridge loads options earlier state → state ≠ none

/-- The source survives the fetches whose exceptions are all caught. -/
theorem survives_iff (outcomes : List RequestOutcome) :
    Survives loads options outcomes ↔ ∀ outcome ∈ outcomes, Caught loads outcome := by
  apply RefreshLoop.forall_prefix_iff
  · exact fun state run => run.ne_none fun _ impossible => absurd impossible List.not_mem_nil
  · intro earlier outcome before
    refine ⟨?_, ?_⟩
    · intro survives
      obtain ⟨polling, run⟩ : ∃ polling, RunBridge loads options earlier (some polling) :=
        RunBridge.exists_of_caught before
      exact (Polling.turn_ne_none_iff polling outcome).mp (survives _ (run.poll outcome))
    · intro caught state run
      apply run.ne_none
      intro other hother
      rcases List.mem_append.mp hother with hbefore | hlast
      · exact before other hbefore
      · rw [List.mem_singleton.mp hlast]
        exact caught

end Fetch

/-- A `BadStatusLine`: the server's first line is no status line. -/
def garbage : RequestOutcome := .raised (.httpException "garbage")

end PixelStatus.MiBle
