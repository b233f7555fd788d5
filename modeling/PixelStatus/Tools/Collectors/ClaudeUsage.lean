/-
# The Claude usage collector

One refresh reads the access token from the credentials file, fetches the usage
document, and publishes the two windows of it. `refresh_once` catches
`UsageError` only.
-/

import PixelStatus.Tools.Collectors.SnapshotStore

namespace PixelStatus.ClaudeUsage

open Collectors

def maximumResponseBytes : Nat := 256 * 1024

def windows : List PyText := [pyText "five_hour", pyText "seven_day"]

/-- `expires_at <= now_ms`, for an `int`, a `bool` or a `float`. -/
def isExpired (expiresAt : PyValue) (now : Int) : Bool :=
  match expiresAt with
  | .integer value => value ≤ now
  | .boolean value => (if value then 1 else 0) ≤ now
  | .real value => value.le (.finite now)
  | _ => false

/-- The object under `claudeAiOauth`, which has an `accessToken`. `none` stands
for a file that cannot be read. -/
def loadOauth (runtime : Runtime) (content : Option Bytes) :
    Except PyException (PyValue × PyValue) :=
  match content.bind runtime.decodeUtf8 with
  | none => fail (pyText "Claude Code OAuth credentials are unavailable")
  | some text =>
      match runtime.loads text with
      | .error .recursionError => .error .recursionError
      | .error _ => fail (pyText "Claude Code OAuth credentials are unavailable")
      | .ok document =>
          match PyValue.subscript document (pyText "claudeAiOauth") with
          | none => fail (pyText "Claude Code OAuth credentials are unavailable")
          | some oauth =>
              match PyValue.subscript oauth (pyText "accessToken") with
              | none => fail (pyText "Claude Code OAuth credentials are unavailable")
              | some token => .ok (oauth, token)

/-- `oauth.get("expiresAt")`. -/
def expiresAt : PyValue → PyValue
  | .dict items => PyValue.get items (pyText "expiresAt")
  | _ => .none

def readAccessToken (runtime : Runtime) (content : Option Bytes) (now : Int) :
    Except PyException PyText := do
  let (oauth, token) ← loadOauth runtime content
  match token with
  | .text token =>
      if token = [] ∨ 0x0D ∈ token ∨ 0x0A ∈ token then
        fail (pyText "Claude Code OAuth access token is invalid")
      else if isExpired (expiresAt oauth) now then
        fail (pyText "Claude Code OAuth token expired; run Claude Code to refresh it")
      else .ok token
  | _ => fail (pyText "Claude Code OAuth access token is invalid")

/-- What comes of the request: an HTTP error status, an exception of the
transport, or a body. -/
inductive Answer
  | httpError (code : Nat)
  | raised (error : TransportError)
  | responded (body : Bytes)

/-- The body of the answer. A header value is sent as Latin-1; of the transport's
exceptions only `OSError` and its subclasses are caught. -/
def receive (token : PyText) (answer : Answer) : Except PyException Bytes :=
  if token.any (255 < ·) then .error .unicodeEncodeError
  else
    match answer with
    | .httpError code =>
        fail (pyText "Claude usage endpoint returned HTTP " ++ pyText (toString code))
    | .raised (.osError name) => fail (pyText "Claude usage request failed: " ++ name)
    | .raised (.httpException _) => .error .httpException
    | .raised .unhandled => .error .unhandled
    | .responded body =>
        if maximumResponseBytes < body.length then
          fail (pyText "Claude usage response exceeded the byte limit")
        else .ok body

/-- The object in the body. -/
def decodeUsage (runtime : Runtime) (body : Bytes) : Except PyException PyDict :=
  match runtime.decodeUtf8 body with
  | none => fail (pyText "Claude usage response is not valid JSON")
  | some text =>
      match runtime.loads text with
      | .error .recursionError => .error .recursionError
      | .error _ => fail (pyText "Claude usage response is not valid JSON")
      | .ok (.dict document) => .ok document
      | .ok _ => fail (pyText "Claude usage response is not an object")

def fetchUsage (runtime : Runtime) (token : PyText) (answer : Answer) :
    Except PyException PyDict :=
  receive token answer >>= decodeUsage runtime

/-- The reset time of a window; an idle window has none yet. -/
def resetsAtEpoch (runtime : Runtime) (resetsAt : PyValue) : Except PyException PyValue :=
  match runtime.timestamp resetsAt with
  | .ok epoch => .ok (.integer epoch)
  | .error .typeError | .error .valueError => .ok .none
  | .error .overflowError => .error .overflowError
  | .error .osError => .error .osError

/-- The entry of one window. -/
def buildWindow (runtime : Runtime) (usage : PyDict) (name : PyText) :
    Except PyException PyValue :=
  match PyValue.get usage name with
  | .dict window =>
      match PyNumber.ofValue (PyValue.get window (pyText "utilization")) with
      | none => fail (pyText "Claude usage " ++ name ++ pyText " utilization is not numeric")
      | some utilization => do
          let epoch ← resetsAtEpoch runtime (PyValue.get window (pyText "resets_at"))
          let utilization ← utilization.toFloat runtime
          .ok (.dict [(pyText "utilization", .real utilization),
            (pyText "resets_at_epoch", epoch)])
  | _ => fail (pyText "Claude usage response has no " ++ name ++ pyText " window")

/-- The fields of every document. -/
def header : PyDict :=
  [(pyText "schema_version", .integer 1), (pyText "source", .text (pyText "claude-usage"))]

/-- Add the windows to the snapshot, one after the other. -/
def addWindows (runtime : Runtime) (usage : PyDict) :
    List PyText → PyDict → Except PyException PyDict
  | [], snapshot => .ok snapshot
  | name :: names, snapshot => do
      let window ← buildWindow runtime usage name
      addWindows runtime usage names (PyValue.setItem snapshot name window)

def buildSnapshot (runtime : Runtime) (usage : PyDict) : Except PyException PyDict :=
  addWindows runtime usage windows header

/-- `SnapshotStore.update`. -/
def update (store : SnapshotStore) (snapshot : Option PyDict) (error : Option PyText)
    (timestamp : PyText) : SnapshotStore :=
  match error with
  | none =>
      { document := snapshot, error := none, lastAttemptAt := some timestamp,
        lastSuccessAt := some timestamp }
  | some message => store.recordError message timestamp

/-- The document without the collector's part: failed refreshes drop the values. -/
def values (store : SnapshotStore) : PyDict :=
  match store.error, store.document with
  | none, some snapshot => snapshot
  | _, _ => header

/-- `SnapshotStore.response`. -/
def response (store : SnapshotStore) : PyDict := store.withCollector (values store)

/-- The response says that the collector failed and shows no usage. -/
def ReportsFailure (store : SnapshotStore) : Prop :=
  SnapshotStore.HasStatus (response store) "collector" "error" ∧
    ∀ name ∈ windows, (response store).lookup name = none

/-- A store with an error reports it, and no window. -/
theorem reportsFailure {store : SnapshotStore} {message : PyText}
    (failed : store.error = some message) : ReportsFailure store := by
  have absent : ∀ name ∈ windows, name ≠ pyText "collector" ∧ (header.lookup name).isNone := by
    decide
  refine ⟨?_, ?_⟩
  · exact SnapshotStore.hasStatus_withCollector failed _
  · intro name hname
    have shown : values store = header := by rw [values, failed]
    rw [response, SnapshotStore.lookup_withCollector (absent name hname).1, shown]
    exact Option.isNone_iff_eq_none.mp (absent name hname).2

/-- What the outside does in one iteration: the credentials file, the clock, and
the answer to the request when there is one. -/
structure Iteration where
  credentials : Option Bytes
  now : Int
  answer : Answer
  timestamp : PyText

/-- The body of `refresh_once`'s `try`. -/
def refresh (runtime : Runtime) (iteration : Iteration) : Except PyException PyDict := do
  let token ← readAccessToken runtime iteration.credentials iteration.now
  let usage ← fetchUsage runtime token iteration.answer
  buildSnapshot runtime usage

def refreshOnce (runtime : Runtime) (iteration : Iteration) (store : SnapshotStore) :
    RefreshLoop.Attempt SnapshotStore :=
  match refresh runtime iteration with
  | .ok snapshot => .fresh (update store (some snapshot) none iteration.timestamp)
  | .error (.collector message) => .failed (update store none (some message) iteration.timestamp)
  | .error _ => .escaped

/-! ### When every exception is the collector's own -/

open Outcome

/-- `json.loads` does not run out of the recursion limit on this content. -/
def Shallow (runtime : Runtime) (content : Bytes) : Prop :=
  ∀ text, runtime.decodeUtf8 content = some text →
    runtime.loads text ≠ .error .recursionError

/-- A reset time that `timestamp()` computes, or rejects as no time. -/
def Datable (runtime : Runtime) (resetsAt : PyValue) : Prop :=
  runtime.timestamp resetsAt ≠ .error .overflowError ∧
    runtime.timestamp resetsAt ≠ .error .osError

/-- An object with a numeric utilization; nothing else is converted at all. -/
def IsWindow (usage : PyDict) (name : PyText) (window : PyDict) (utilization : PyNumber) :
    Prop :=
  PyValue.get usage name = .dict window ∧
    PyNumber.ofValue (PyValue.get window (pyText "utilization")) = some utilization

/-- The numbers of a window convert. -/
def WindowSafe (runtime : Runtime) (usage : PyDict) (name : PyText) : Prop :=
  ∀ window utilization, IsWindow usage name window utilization →
    Datable runtime (PyValue.get window (pyText "resets_at")) ∧ utilization.FloatDefined

/-- The windows convert, up to the first that is none. -/
def WindowsSafe (runtime : Runtime) (usage : PyDict) : List PyText → Prop
  | [] => True
  | name :: names =>
      WindowSafe runtime usage name ∧
        ((∃ window utilization, IsWindow usage name window utilization) →
          WindowsSafe runtime usage names)

/-- A body that is over the limit, or no deep document, and whose windows convert. -/
def BodySafe (runtime : Runtime) (body : Bytes) : Prop :=
  body.length ≤ maximumResponseBytes →
    Shallow runtime body ∧
      ∀ text usage, runtime.decodeUtf8 body = some text →
        runtime.loads text = .ok (.dict usage) → WindowsSafe runtime usage windows

/-- An answer that a refresh can handle. -/
def AnswerSafe (runtime : Runtime) : Answer → Prop
  | .httpError _ => True
  | .raised (.osError _) => True
  | .raised (.httpException _) => False
  | .raised .unhandled => False
  | .responded body => BodySafe runtime body

/-- The credentials are no deep document, and the token they hold can be sent
and brings a safe answer. -/
def Safe (runtime : Runtime) (iteration : Iteration) : Prop :=
  (∀ content, iteration.credentials = some content → Shallow runtime content) ∧
    ∀ token, readAccessToken runtime iteration.credentials iteration.now = .ok token →
      token.any (255 < ·) = false ∧ AnswerSafe runtime iteration.answer

/-- Reading a reset time raises nothing exactly when `timestamp()` computes it or rejects it. -/
theorem resetsAtEpoch_failsWith_iff (runtime : Runtime) (resetsAt : PyValue) :
    FailsWith PyException.Own (resetsAtEpoch runtime resetsAt) ↔ Datable runtime resetsAt := by
  unfold resetsAtEpoch Datable
  split
  next epoch dated => exact iff_of_true (FailsWith.ok _) (by simp [dated])
  next rejected => exact iff_of_true (FailsWith.ok _) (by simp [rejected])
  next rejected => exact iff_of_true (FailsWith.ok _) (by simp [rejected])
  next overflow =>
    apply iff_of_false
    · exact not_failsWith_foreign nofun
    · exact fun ⟨dated, _⟩ => dated overflow
  next failed =>
    apply iff_of_false
    · exact not_failsWith_foreign nofun
    · exact fun ⟨_, dated⟩ => dated failed

/-- A reset time with a timestamp is read. -/
theorem exists_resetsAtEpoch {runtime : Runtime} {resetsAt : PyValue}
    (dated : Datable runtime resetsAt) :
    ∃ epoch, resetsAtEpoch runtime resetsAt = .ok epoch := by
  unfold resetsAtEpoch
  split
  next epoch _ => exact ⟨.integer epoch, rfl⟩
  next => exact ⟨.none, rfl⟩
  next => exact ⟨.none, rfl⟩
  next overflow => exact absurd overflow dated.1
  next failed => exact absurd failed dated.2

/-- A window that is one is read without a foreign exception when it converts. -/
theorem buildWindow_of_isWindow {runtime : Runtime} {usage window : PyDict} {name : PyText}
    {utilization : PyNumber} (isWindow : IsWindow usage name window utilization) :
    buildWindow runtime usage name
      = (resetsAtEpoch runtime (PyValue.get window (pyText "resets_at")) >>= fun epoch =>
          utilization.toFloat runtime >>= fun utilization =>
            .ok (.dict [(pyText "utilization", .real utilization),
              (pyText "resets_at_epoch", epoch)])) := by
  rw [buildWindow, isWindow.1]
  simp only [isWindow.2]

/-- What is no window ends the refresh with the collector's own exception. -/
theorem buildWindow_of_not_isWindow (runtime : Runtime) {usage : PyDict} {name : PyText}
    (noWindow : ∀ window utilization, ¬ IsWindow usage name window utilization) :
    ∃ message, buildWindow runtime usage name = fail message := by
  unfold buildWindow
  split
  next window hwindow =>
    split
    next => exact ⟨_, rfl⟩
    next utilization numeric => exact absurd ⟨hwindow, numeric⟩ (noWindow window utilization)
  next => exact ⟨_, rfl⟩

/-- A window is built, or refused by the script's own error, exactly when its values are safe. -/
theorem buildWindow_failsWith_iff (runtime : Runtime) (usage : PyDict) (name : PyText) :
    FailsWith PyException.Own (buildWindow runtime usage name) ↔
      WindowSafe runtime usage name := by
  refine ⟨?_, ?_⟩
  · intro contained window utilization isWindow
    rw [buildWindow_of_isWindow isWindow, FailsWith.bind_iff] at contained
    have dated := (resetsAtEpoch_failsWith_iff runtime _).mp contained.1
    obtain ⟨epoch, hepoch⟩ := exists_resetsAtEpoch dated
    have converts := (FailsWith.bind_iff.mp (contained.2 epoch hepoch)).1
    exact ⟨dated, (utilization.toFloat_failsWith_iff runtime).mp converts⟩
  · intro safe
    by_cases hwindow : ∃ window utilization, IsWindow usage name window utilization
    · obtain ⟨window, utilization, isWindow⟩ := hwindow
      have numbers := safe window utilization isWindow
      rw [buildWindow_of_isWindow isWindow]
      apply ((resetsAtEpoch_failsWith_iff runtime _).mpr numbers.1).bind
      intro epoch _
      apply ((utilization.toFloat_failsWith_iff runtime).mpr numbers.2).bind
      exact fun value _ => FailsWith.ok _
    · obtain ⟨message, fails⟩ := buildWindow_of_not_isWindow runtime
        fun window utilization isWindow => hwindow ⟨window, utilization, isWindow⟩
      rw [fails]
      exact fail_failsWith message

/-- A safe window is read, exactly when it is one. -/
theorem exists_buildWindow_iff {runtime : Runtime} {usage : PyDict} {name : PyText}
    (safe : WindowSafe runtime usage name) :
    (∃ entry, buildWindow runtime usage name = .ok entry) ↔
      ∃ window utilization, IsWindow usage name window utilization := by
  refine ⟨?_, ?_⟩
  · intro ⟨entry, read⟩
    by_contra noWindow
    obtain ⟨message, fails⟩ := buildWindow_of_not_isWindow runtime
      fun window utilization isWindow => noWindow ⟨window, utilization, isWindow⟩
    exact nomatch fails.symm.trans read
  · intro ⟨window, utilization, isWindow⟩
    have numbers := safe window utilization isWindow
    obtain ⟨epoch, hepoch⟩ := exists_resetsAtEpoch numbers.1
    obtain ⟨value, hvalue⟩ := utilization.exists_toFloat runtime numbers.2
    rw [buildWindow_of_isWindow isWindow]
    exact ⟨_, bind_eq_ok.mpr ⟨epoch, hepoch, bind_eq_ok.mpr ⟨value, hvalue, rfl⟩⟩⟩

/-- So are the windows of a document, one after the other. -/
theorem addWindows_failsWith_iff (runtime : Runtime) (usage : PyDict) (names : List PyText)
    (snapshot : PyDict) :
    FailsWith PyException.Own (addWindows runtime usage names snapshot) ↔
      WindowsSafe runtime usage names := by
  induction names generalizing snapshot with
  | nil => exact iff_of_true (FailsWith.ok snapshot) trivial
  | cons name names ih =>
      rw [addWindows, FailsWith.bind_iff, WindowsSafe, buildWindow_failsWith_iff]
      apply and_congr_right
      intro safe
      rw [← exists_buildWindow_iff safe]
      refine ⟨?_, ?_⟩
      · intro contained ⟨entry, read⟩
        exact (ih _).mp (contained entry read)
      · intro later entry read
        exact (ih _).mpr (later ⟨entry, read⟩)

/-- Decoding fails by the script's own error exactly when the body is not nested too deep. -/
theorem decodeUsage_failsWith_iff (runtime : Runtime) (body : Bytes) :
    FailsWith PyException.Own (decodeUsage runtime body) ↔ Shallow runtime body := by
  unfold decodeUsage Shallow
  split
  next undecodable =>
    apply iff_of_true (fail_failsWith _)
    exact fun text decoded => nomatch undecodable.symm.trans decoded
  next text decoded =>
    have reads : (∀ other, runtime.decodeUtf8 body = some other →
        runtime.loads other ≠ .error .recursionError) ↔
          runtime.loads text ≠ .error .recursionError := by
      refine ⟨?_, ?_⟩
      · exact fun shallow => shallow text decoded
      · intro shallow other hother
        cases decoded.symm.trans hother
        exact shallow
    rw [reads]
    split
    next deep => exact iff_of_false (not_failsWith_foreign nofun) (not_not.mpr deep)
    next error notDeep loaded =>
      apply iff_of_true (fail_failsWith _)
      intro deep
      exact notDeep (Except.error.inj (loaded.symm.trans deep))
    next document loaded => exact iff_of_true (FailsWith.ok document) (by rw [loaded]; nofun)
    next loaded => exact iff_of_true (fail_failsWith _) (by rw [loaded]; nofun)

/-- What a body decodes to. -/
theorem decodeUsage_eq_ok_iff {runtime : Runtime} {body : Bytes} {usage : PyDict} :
    decodeUsage runtime body = .ok usage ↔
      ∃ text, runtime.decodeUtf8 body = some text ∧
        runtime.loads text = .ok (.dict usage) := by
  unfold decodeUsage
  split
  next undecodable => simp [undecodable, fail]
  next text decoded =>
    have reads : (∃ other, some text = some other ∧
        runtime.loads other = .ok (.dict usage)) ↔ runtime.loads text = .ok (.dict usage) := by
      simp
    rw [decoded, reads]
    split
    next deep => simp [deep]
    next loaded => simp [loaded, fail]
    next document loaded => simp [loaded]
    next other notDict loaded =>
      rw [loaded]
      refine ⟨?_, ?_⟩
      · exact fun impossible => nomatch impossible
      · exact fun same => absurd (Except.ok.inj same) (notDict usage)

/-- The request fails by the script's own error exactly when the token can be sent and
nothing but an `OSError` is raised. -/
theorem receive_failsWith_iff (token : PyText) (answer : Answer) :
    FailsWith PyException.Own (receive token answer) ↔
      token.any (255 < ·) = false ∧
        ∀ error, answer = .raised error → ∃ name, error = .osError name := by
  unfold receive
  split
  next unsendable =>
    exact iff_of_false (not_failsWith_foreign nofun) fun ⟨sendable, _⟩ =>
      nomatch unsendable.symm.trans sendable
  next sendable =>
    have hsendable := Bool.eq_false_of_not_eq_true sendable
    split
    next => exact iff_of_true (fail_failsWith _) ⟨hsendable, nofun⟩
    next name =>
      refine iff_of_true (fail_failsWith _) ⟨hsendable, ?_⟩
      intro error same
      cases same
      exact ⟨name, rfl⟩
    next name =>
      exact iff_of_false (not_failsWith_foreign nofun) fun ⟨_, caught⟩ =>
        nomatch caught (.httpException name) rfl
    next =>
      exact iff_of_false (not_failsWith_foreign nofun) fun ⟨_, caught⟩ =>
        nomatch caught .unhandled rfl
    next body =>
      split
      next => exact iff_of_true (fail_failsWith _) ⟨hsendable, nofun⟩
      next => exact iff_of_true (FailsWith.ok body) ⟨hsendable, nofun⟩

/-- A body arrives from a sendable token and an answer with a body in the limit. -/
theorem receive_eq_ok_iff {token : PyText} {answer : Answer} {body : Bytes} :
    receive token answer = .ok body ↔
      token.any (255 < ·) = false ∧ answer = .responded body ∧
        body.length ≤ maximumResponseBytes := by
  unfold receive
  split
  next unsendable => simp [unsendable]
  next sendable =>
    rw [and_iff_right (Bool.eq_false_of_not_eq_true sendable)]
    split
    next => simp [fail]
    next => simp [fail]
    next => simp
    next => simp
    next other =>
      split
      next long =>
        refine ⟨?_, ?_⟩
        · exact fun impossible => nomatch impossible
        · intro ⟨same, short⟩
          cases same
          exact absurd short (Nat.not_le.mpr long)
      next short =>
        refine ⟨?_, ?_⟩
        · intro same
          cases same
          exact ⟨rfl, Nat.not_lt.mp short⟩
        · intro ⟨same, _⟩
          cases same
          rfl

/-- What the refresh does with an answer. -/
theorem answered_failsWith_iff (runtime : Runtime) (token : PyText) (answer : Answer) :
    FailsWith PyException.Own (fetchUsage runtime token answer >>= buildSnapshot runtime) ↔
      token.any (255 < ·) = false ∧ AnswerSafe runtime answer := by
  have fetched : ∀ body, receive token answer = .ok body →
      (FailsWith PyException.Own (decodeUsage runtime body >>= buildSnapshot runtime) ↔
        Shallow runtime body ∧
          ∀ text usage, runtime.decodeUtf8 body = some text →
            runtime.loads text = .ok (.dict usage) → WindowsSafe runtime usage windows) := by
    intro body _
    rw [FailsWith.bind_iff, decodeUsage_failsWith_iff]
    apply and_congr_right
    intro _
    refine ⟨?_, ?_⟩
    · intro contained text usage decoded loaded
      exact (addWindows_failsWith_iff runtime usage windows header).mp
        (contained usage (decodeUsage_eq_ok_iff.mpr ⟨text, decoded, loaded⟩))
    · intro safe usage decoded
      obtain ⟨text, decoded, loaded⟩ := decodeUsage_eq_ok_iff.mp decoded
      exact (addWindows_failsWith_iff runtime usage windows header).mpr
        (safe text usage decoded loaded)
  rw [fetchUsage, bind_assoc, FailsWith.bind_iff, receive_failsWith_iff, and_assoc]
  apply and_congr_right
  intro sendable
  cases answer with
  | httpError code =>
      refine iff_of_true ⟨nofun, fun body received => ?_⟩ trivial
      exact nomatch (receive_eq_ok_iff.mp received).2.1
  | raised error =>
      cases error with
      | osError name =>
          refine iff_of_true ⟨?_, fun body received => ?_⟩ trivial
          · intro error same
            cases same
            exact ⟨name, rfl⟩
          · exact nomatch (receive_eq_ok_iff.mp received).2.1
      | httpException name =>
          exact iff_of_false (fun ⟨caught, _⟩ => nomatch caught (.httpException name) rfl) id
      | unhandled => exact iff_of_false (fun ⟨caught, _⟩ => nomatch caught .unhandled rfl) id
  | responded body =>
      refine ⟨?_, ?_⟩
      · intro ⟨_, contained⟩ short
        have received := receive_eq_ok_iff.mpr ⟨sendable, rfl, short⟩
        exact (fetched body received).mp (contained body received)
      · intro safe
        refine ⟨nofun, fun other received => ?_⟩
        obtain ⟨_, same, short⟩ := receive_eq_ok_iff.mp received
        cases same
        exact (fetched body received).mpr (safe short)

/-- Taking the members out of the loaded document only fails with the
collector's own exception. -/
theorem loadOauth_failsWith_iff (runtime : Runtime) (credentials : Option Bytes) :
    FailsWith PyException.Own (loadOauth runtime credentials) ↔
      ∀ content, credentials = some content → Shallow runtime content := by
  have reads : (∀ content, credentials = some content → Shallow runtime content) ↔
      ∀ text, credentials.bind runtime.decodeUtf8 = some text →
        runtime.loads text ≠ .error .recursionError := by
    cases credentials with
    | none => exact iff_of_true nofun nofun
    | some content =>
        refine ⟨?_, ?_⟩
        · exact fun shallow text decoded => shallow content rfl text decoded
        · intro shallow other same
          cases same
          exact shallow
  rw [reads]
  unfold loadOauth
  split
  next unreadable =>
    exact iff_of_true (fail_failsWith _) fun text read =>
      nomatch unreadable.symm.trans read
  next text read =>
    have here : (∀ other, credentials.bind runtime.decodeUtf8 = some other →
        runtime.loads other ≠ .error .recursionError) ↔
          runtime.loads text ≠ .error .recursionError := by
      simp [read]
    rw [here]
    split
    next deep => exact iff_of_false (not_failsWith_foreign nofun) (not_not.mpr deep)
    next error notDeep loaded =>
      apply iff_of_true (fail_failsWith _)
      intro deep
      exact notDeep (Except.error.inj (loaded.symm.trans deep))
    next document loaded =>
      rw [loaded]
      apply iff_of_true ?_ nofun
      split
      next => exact fail_failsWith _
      next oauth _ =>
        split
        next => exact fail_failsWith _
        next token _ => exact FailsWith.ok (oauth, token)

/-- The credentials may only fail by being nested too deep. -/
theorem readAccessToken_failsWith_iff (runtime : Runtime) (credentials : Option Bytes)
    (now : Int) :
    FailsWith PyException.Own (readAccessToken runtime credentials now) ↔
      ∀ content, credentials = some content → Shallow runtime content := by
  rw [readAccessToken, FailsWith.bind_iff, loadOauth_failsWith_iff, and_iff_left_iff_imp]
  intro _ (oauth, token) _
  dsimp only
  split
  · split
    · exact fail_failsWith _
    · split
      · exact fail_failsWith _
      · exact FailsWith.ok _
  · exact fail_failsWith _

/-- The refresh only raises the collector's own class exactly on safe input. -/
theorem refresh_failsWith_iff (runtime : Runtime) (iteration : Iteration) :
    FailsWith PyException.Own (refresh runtime iteration) ↔ Safe runtime iteration := by
  rw [refresh, FailsWith.bind_iff, readAccessToken_failsWith_iff, Safe]
  apply and_congr_right
  intro _
  exact forall₂_congr fun token _ => answered_failsWith_iff runtime token iteration.answer

/-- A safe iteration stores its document or reports its failure. -/
theorem refreshOnce_contained {runtime : Runtime} {iteration : Iteration}
    (safe : Safe runtime iteration) :
    RefreshLoop.Contained (refreshOnce runtime) (fun _ => True)
      ReportsFailure iteration := by
  intro store _
  unfold refreshOnce
  rcases ((refresh_failsWith_iff runtime iteration).mpr safe).ok_or_error with
    ⟨snapshot, ends⟩ | ⟨_, ends, message, rfl⟩
  · rw [ends]
    exact Or.inl ⟨_, rfl, trivial⟩
  · rw [ends]
    exact Or.inr ⟨_, rfl, trivial, reportsFailure rfl⟩

/-- An iteration that is not safe raises out of the loop. -/
theorem refreshOnce_escapes {runtime : Runtime} {iteration : Iteration}
    (violated : ¬ Safe runtime iteration) (store : SnapshotStore) :
    refreshOnce runtime iteration store = .escaped := by
  rw [← refresh_failsWith_iff] at violated
  unfold refreshOnce
  split
  next snapshot ends => exact absurd (ends ▸ FailsWith.ok snapshot) violated
  next message ends => exact absurd (ends ▸ fail_failsWith message) violated
  next => rfl

/-- A run is honest exactly when each of its iterations has safe input. -/
theorem honest_iff (runtime : Runtime) (iterations : List Iteration) :
    RefreshLoop.Honest (refreshOnce runtime) ReportsFailure {} iterations ↔
      ∀ iteration ∈ iterations, Safe runtime iteration := by
  apply @RefreshLoop.honest_iff _ _ _ (fun _ => True) _ _ _ _ trivial (reportsFailure rfl)
  · exact fun iteration safe => refreshOnce_contained safe
  · exact fun iteration violated store _ => refreshOnce_escapes violated store

end PixelStatus.ClaudeUsage
