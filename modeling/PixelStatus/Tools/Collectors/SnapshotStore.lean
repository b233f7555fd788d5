/-
# The snapshot store

Each collector keeps its last document, the error of the last attempt and two
times. What it serves in the end always carries the collector's own status.
-/

import PixelStatus.Logic.RefreshLoop
import PixelStatus.Tools.Collectors.Runtime

namespace PixelStatus.Collectors

def statusSection (status : String) : PyValue :=
  .dict [(pyText "status", .text (pyText status))]

/-- What a monitor's section says while nothing is known. -/
def communicationFailure : PyValue := statusSection "communication_failure"

/-- The fields of `SnapshotStore`; Claude's calls the document `snapshot`. -/
structure SnapshotStore where
  document : Option PyDict := none
  error : Option PyText := some (pyText "collector has not completed its first refresh")
  lastAttemptAt : Option PyText := none
  lastSuccessAt : Option PyText := none

namespace SnapshotStore

variable (store : SnapshotStore)

/-- A successful attempt. -/
def recordSuccess (document : PyDict) (timestamp : PyText) : SnapshotStore :=
  { document := some document, error := none, lastAttemptAt := some timestamp,
    lastSuccessAt := some timestamp }

/-- A failed attempt keeps the document and the time of the last success. -/
def recordError (message timestamp : PyText) : SnapshotStore :=
  { store with error := some message, lastAttemptAt := some timestamp }

/-- The value of `document["collector"]`. -/
def collector : PyDict :=
  [(pyText "status", .text (pyText (if store.error.isNone then "healthy" else "error"))),
    (pyText "last_attempt_at", PyValue.ofText store.lastAttemptAt),
    (pyText "last_success_at", PyValue.ofText store.lastSuccessAt),
    (pyText "error", PyValue.ofText store.error)]

/-- The last line of every `response`. -/
def withCollector (document : PyDict) : PyDict :=
  PyValue.setItem document (pyText "collector") (.dict store.collector)

/-- A served document whose section `name` has this status. -/
def HasStatus (document : PyDict) (name status : String) : Prop :=
  ∃ section', PyValue.get document (pyText name) = .dict section' ∧
    PyValue.get section' (pyText "status") = .text (pyText status)

variable {store}

/-- After a failed attempt the collector's status is an error. -/
theorem hasStatus_withCollector {message : PyText} (failed : store.error = some message)
    (document : PyDict) : HasStatus (store.withCollector document) "collector" "error" := by
  have status : store.collector.lookup (pyText "status") = some (.text (pyText "error")) := by
    simp only [collector, failed, List.lookup_cons_self, Option.isNone_some,
      Bool.false_eq_true, if_false]
  apply Exists.intro store.collector
  refine ⟨?_, ?_⟩
  · rw [withCollector, PyValue.get_setItem, if_pos rfl]
  · rw [PyValue.get, status, Option.getD_some]

/-- The other sections are those of the document. -/
theorem lookup_withCollector {name : PyText} (other : name ≠ pyText "collector")
    (document : PyDict) : (store.withCollector document).lookup name = document.lookup name := by
  rw [withCollector, PyValue.lookup_setItem, if_neg other]

/-- A monitor section that says so is still there when the collector's is added. -/
theorem hasStatus_of_get {document : PyDict}
    (monitor : PyValue.get document (pyText "monitor") = communicationFailure) :
    HasStatus (store.withCollector document) "monitor" "communication_failure" := by
  refine ⟨[(pyText "status", .text (pyText "communication_failure"))], ?_, rfl⟩
  rw [PyValue.get, lookup_withCollector (by decide)]
  exact monitor

/-! ### Documents that are copied -/

/-- `copy.deepcopy`, which follows a bounded nesting. -/
def deepcopy (limit : Nat) (document : PyDict) : Except PyException PyDict :=
  if (PyValue.dict document).depth ≤ limit then .ok document else .error .recursionError

/-- `SnapshotStore.update_success` of the OpenWrt and UniFi collectors. -/
def updateSuccess (runtime : Runtime) (document : PyDict) (timestamp : PyText) :
    Except PyException SnapshotStore := do
  let copy ← deepcopy runtime.refreshDepth document
  .ok (recordSuccess copy timestamp)

/-- `refresh_once` of the OpenWrt and UniFi collectors, around what
`build_snapshot` returned or raised. -/
def refreshOnce (runtime : Runtime) (built : Except PyException PyDict) (timestamp : PyText)
    (store : SnapshotStore) : RefreshLoop.Attempt SnapshotStore :=
  match built >>= fun document => updateSuccess runtime document timestamp with
  | .ok store => .fresh store
  | .error (.collector message) => .failed (store.recordError message timestamp)
  | .error _ => .escaped

/-- The copy that `response` starts from. -/
def copyDocument (store : SnapshotStore) (runtime : Runtime) (empty : PyDict) :
    Except PyException PyDict :=
  match store.document with
  | some document => deepcopy runtime.serverDepth document
  | none => .ok empty

/-- The stored document can be copied by the server, and has the property. -/
def DocumentsSatisfy (store : SnapshotStore) (runtime : Runtime) (property : PyDict → Prop) :
    Prop :=
  ∀ document, store.document = some document →
    (PyValue.dict document).depth ≤ runtime.serverDepth ∧ property document

/-- Copying a stored document succeeds and keeps what is known of it. -/
theorem exists_copyDocument {runtime : Runtime} {property : PyDict → Prop} {empty : PyDict}
    (invariant : store.DocumentsSatisfy runtime property) (hempty : property empty) :
    ∃ document, store.copyDocument runtime empty = .ok document ∧ property document := by
  unfold copyDocument
  split
  next document stored =>
    have h := invariant document stored
    exact ⟨document, if_pos h.1, h.2⟩
  next => exact ⟨empty, rfl, hempty⟩

/-- A snapshot that both threads can copy and that has the property. -/
structure Publishable (runtime : Runtime) (property : PyDict → Prop) (document : PyDict) :
    Prop where
  depth : (PyValue.dict document).depth ≤ min runtime.refreshDepth runtime.serverDepth
  property : property document

/-- A refresh that builds a publishable snapshot, or fails with the collector's
own exception, is contained. -/
theorem refreshOnce_contained {runtime : Runtime} {property : PyDict → Prop}
    {Reports : SnapshotStore → Prop} {built : Except PyException PyDict} {timestamp : PyText}
    (fails : Outcome.FailsWith PyException.Own built)
    (publishable : ∀ document, built = .ok document → Publishable runtime property document)
    (reports : ∀ store message, store.DocumentsSatisfy runtime property →
      store.error = some message → Reports store)
    (invariant : store.DocumentsSatisfy runtime property) :
    (∃ next, store.refreshOnce runtime built timestamp = .fresh next ∧
        next.DocumentsSatisfy runtime property) ∨
      ∃ next, store.refreshOnce runtime built timestamp = .failed next ∧
        next.DocumentsSatisfy runtime property ∧ Reports next := by
  rcases fails.ok_or_error with ⟨document, rfl⟩ | ⟨_, rfl, message, rfl⟩
  · left
    have h := publishable document rfl
    have copied : updateSuccess runtime document timestamp
        = .ok (recordSuccess document timestamp) := by
      rw [updateSuccess, deepcopy, if_pos (le_min_iff.mp h.depth).1]
      rfl
    refine ⟨recordSuccess document timestamp, ?_, ?_⟩
    · show (match updateSuccess runtime document timestamp with
        | .ok store => RefreshLoop.Attempt.fresh store
        | .error (.collector message) => .failed (store.recordError message timestamp)
        | .error _ => .escaped) = _
      rw [copied]
    · intro other stored
      cases stored
      exact ⟨(le_min_iff.mp h.depth).2, h.property⟩
  · right
    have kept : (store.recordError message timestamp).DocumentsSatisfy runtime property :=
      fun document stored => invariant document stored
    exact ⟨_, rfl, kept, reports _ message kept rfl⟩

end SnapshotStore

end PixelStatus.Collectors
