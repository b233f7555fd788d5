/-
# Every stored state can be read back, unless a monitor stored bytes that are no text

The API itself stores only texts that its JSON library parsed. A monitor
publishes whatever bytes its runner observed, and the store takes them; the
strict dump of a later GET throws on them. So the store stays readable along a
run exactly when every publication of the run carries valid UTF-8.
-/

import PixelStatus.Core.MonitorEngine
import PixelStatus.Core.StatusApiAtomicity

namespace PixelStatus

/-- The result of a runner carries only valid texts. -/
structure RunnerOutcome.Utf8 (outcome : RunnerOutcome) : Prop where
  value : (stateValueJson outcome.result.value).Utf8
  detail : ValidUtf8 outcome.result.detail

/-- The name of an error is text. -/
theorem validUtf8_monitorErrorName (error : MonitorError) : ValidUtf8 (monitorErrorName error) := by
  cases error <;> exact validUtf8_bytes _

/-- A publication has valid texts exactly when the runner's result has. -/
theorem Job.utf8_publication {platform : Platform} {Runner : Type} (job : Job platform Runner)
    (outcome : RunnerOutcome) (now : TimePoint) :
    (job.publication outcome now).Utf8 ↔ outcome.Utf8 := by
  have names := Evaluator.namesValid_of_validate job.valid.evaluation
  refine ⟨?_, ?_⟩
  · intro valid
    refine ⟨valid.value, ?_⟩
    have message := valid.message
    simp only [Job.publication] at message
    split at message
    next unnamed =>
      have silent : outcome.result.detail = [] := by
        simpa using (Bool.and_eq_true_iff.mp unnamed).2
      rw [silent]
      exact validUtf8_bytes ""
    next => exact message
  · intro valid
    constructor
    case id => exact validUtf8_of_isValidIdentifier job.valid.id
    case status =>
      exact validUtf8_of_isValidIdentifier (Evaluator.isValidIdentifier_evaluate names _)
    case message =>
      simp only [Job.publication]
      split
      · exact validUtf8_monitorErrorName _
      · exact valid.detail
    case value => exact valid.value

namespace StatusApi

variable {platform : Platform} {Runner : Type}

/-- One write to the store: a request, or a monitor's publication. -/
inductive Write (platform : Platform) (Runner : Type)
  | post (request : ApiRequest) (now : TimePoint)
  | publish (job : Job platform Runner) (outcome : RunnerOutcome) (now : TimePoint)

/-- The condition on a write: what a monitor publishes is text. -/
def Write.Utf8 : Write platform Runner → Prop
  | .post _ _ => True
  | .publish _ outcome _ => outcome.Utf8

variable (api : StatusApi)

/-- The store after one write. -/
def perform (store : StateStore) : Write platform Runner → StateStore
  | .post request now => (api.handle store request now).2
  | .publish job outcome now => (store.upsert (job.publication outcome now)).2

/-- The store after some writes. -/
def run (writes : List (Write platform Runner)) : StateStore := writes.foldl api.perform .empty

/-- The document of all resolved states. -/
def statusesJson (store : StateStore) (now : TimePoint) : Json :=
  .object [(bytes "statuses",
    .array ((store.snapshot now).map fun resolved => resolvedStateJson resolved now))]

/-- A request answered with status 200 and a JSON document. -/
def Answers (store : StateStore) (request : ApiRequest) (now : TimePoint) (json : Json) : Prop :=
  ∃ response, api.handle store request now = (some response, store) ∧ response.status = 200 ∧
    api.library.dump json = some response.body

/-- Every authenticated GET of the collection or of a stored, valid id answers with
the resolved states, and no request makes the handler throw. -/
structure Readable (store : StateStore) : Prop where
  collection : ∀ request now, api.authorized request = true →
    asciiLower request.method = bytes "get" → request.target = statusPath →
      api.Answers store request now (statusesJson store now)
  item : ∀ request id now resolved, Gets api request id →
    isValidIdentifier id api.limits.maximumIdBytes = true →
    store.resolve id now = some resolved →
      api.Answers store request now (resolvedStateJson resolved now)
  total : ∀ request now, (api.handle store request now).1 ≠ none

/-- Every stored state has valid texts. -/
def StoreUtf8 (store : StateStore) : Prop :=
  ∀ id, ∀ entry ∈ store.states.lookup id, entry.state.Utf8

variable {api} {store : StateStore}

/-- The document of all states is text exactly when the states are. -/
theorem utf8_statusesJson (now : TimePoint) :
    (statusesJson store now).Utf8 ↔ StoreUtf8 store := by
  have members : (statusesJson store now).Utf8 ↔
      ∀ resolved ∈ store.snapshot now, (resolvedStateJson resolved now).Utf8 := by
    simp only [statusesJson, Json.Utf8, Json.Utf8Members, validUtf8_bytes, true_and, and_true,
      Json.utf8Items_iff, List.forall_mem_map]
  rw [members]
  refine ⟨?_, ?_⟩
  · intro valid id entry stored
    have resolves : store.resolve id now
        = some (resolveEntry entry.state entry.statusEnteredAt now) := by
      rw [StateStore.resolve, Option.mem_def.mp stored, Option.map_some]
    exact (utf8_resolvedStateJson entry.state entry.statusEnteredAt now).mp
      (valid _ (StateStore.mem_snapshot.mpr ⟨id, resolves⟩))
  · intro valid resolved listed
    obtain ⟨id, resolves⟩ := StateStore.mem_snapshot.mp listed
    obtain ⟨entry, stored, rfl⟩ := Option.map_eq_some_iff.mp resolves
    exact (utf8_resolvedStateJson entry.state entry.statusEnteredAt now).mpr
      (valid id entry stored)

/-- The collection is answered with all states. -/
theorem handle_get_collection {request : ApiRequest} {now : TimePoint}
    (authorized : api.authorized request = true) (isGet : asciiLower request.method = bytes "get")
    (target : request.target = statusPath) :
    api.handle store request now = (api.jsonResponse 200 (statusesJson store now), store) := by
  have hroute : route statusPath = some .collection := if_pos rfl
  unfold handle
  rw [authorized, target, hroute]
  simp only [Bool.not_true, Bool.false_eq_true, if_false, isGet, if_true]
  rfl

/-- A response with valid texts is an answer. -/
theorem answers_of_utf8 (lawful : api.library.Lawful) {request : ApiRequest} {now : TimePoint}
    {json : Json} (valid : json.Utf8)
    (handled : api.handle store request now = (api.jsonResponse 200 json, store)) :
    api.Answers store request now json := by
  have isSome : (api.jsonResponse 200 json).isSome = true := (jsonResponse_isSome lawful).mpr valid
  obtain ⟨response, built⟩ := Option.isSome_iff_exists.mp isSome
  obtain ⟨status, body⟩ := jsonResponse_eq_some built
  exact ⟨response, handled.trans (by rw [built]), status, body⟩

/-- No request throws over a store with valid texts. -/
theorem handle_ne_none (lawful : api.library.Lawful) (valid : StoreUtf8 store)
    (request : ApiRequest) (now : TimePoint) : (api.handle store request now).1 ≠ none := by
  have dumps {json : Json} {status : Nat} (hjson : json.Utf8) :
      api.jsonResponse status json ≠ none :=
    Option.isSome_iff_ne_none.mp ((jsonResponse_isSome lawful).mpr hjson)
  have reports {error : ApiError} {headers : List (Bytes × Bytes)}
      (reportable : Reportable error) : api.errorResponse error headers ≠ none :=
    Option.isSome_iff_ne_none.mp (errorResponse_isSome lawful reportable headers)
  rcases handle_cases lawful store request now with
    ⟨_, error, headers, reportable, fails⟩ | ⟨target, _, _, reads⟩ | ⟨target, state, _, _, parsed,
      updates⟩
  · rw [fails]
    exact reports reportable
  · rw [reads]
    cases target with
    | collection => exact dumps ((utf8_statusesJson now).mpr valid)
    | item id =>
        simp only [get]
        split
        · exact reports (reportable_bytes _ (by decide))
        · split
          next => exact reports (reportable_bytes _ (by decide))
          next resolved resolves =>
            obtain ⟨entry, stored, rfl⟩ := Option.map_eq_some_iff.mp resolves
            exact dumps ((utf8_resolvedStateJson _ _ now).mpr (valid id entry stored))
  · rw [updates]
    obtain ⟨members, hparse, hfields⟩ := parseFields_of_parseUpdate parsed
    rcases update_cases store state now with ⟨_, error, reportable, fails⟩ | ⟨_, _, _, answers⟩
    · rw [fails]
      exact reports reportable
    · rw [answers]
      exact dumps ((utf8_resolvedStateJson state _ now).mpr
        (utf8_of_parseFields (lawful.parse_utf8 _ _ hparse) hfields))

/-- A store of texts can be read back. -/
theorem readable_of_storeUtf8 (lawful : api.library.Lawful) (valid : StoreUtf8 store) :
    Readable api store where
  collection _ now authorized isGet target :=
    answers_of_utf8 lawful ((utf8_statusesJson now).mpr valid)
      (handle_get_collection authorized isGet target)
  item _ id now resolved gets identifier resolves := by
    apply answers_of_utf8 lawful _ (handle_get_item gets identifier resolves)
    obtain ⟨entry, stored, rfl⟩ := Option.map_eq_some_iff.mp resolves
    exact (utf8_resolvedStateJson _ _ now).mpr (valid id entry stored)
  total := handle_ne_none lawful valid

/-- The GET of the collection that the holder of the token sends. -/
def collectionRequest (api : StatusApi) : ApiRequest where
  method := bytes "GET"
  target := statusPath
  headers := [(bytes "authorization", bytes "Bearer " ++ api.bearerToken)]

/-- The request carries the token. -/
theorem authorized_collectionRequest (token : api.bearerToken ≠ []) :
    api.authorized api.collectionRequest = true := by
  have header : headerValue api.collectionRequest (bytes "authorization")
      = some (bytes "Bearer " ++ api.bearerToken) := rfl
  have nonempty : api.bearerToken.isEmpty = false := by
    simpa using token
  rw [authorized, header]
  simp only [nonempty, Bool.not_false, Bool.true_and, constantTimeEqual_iff]

/-- Only a store of texts can be read back. -/
theorem storeUtf8_of_readable (lawful : api.library.Lawful) (token : api.bearerToken ≠ [])
    (readable : Readable api store) : StoreUtf8 store := by
  obtain ⟨response, _, _, body⟩ := readable.collection api.collectionRequest 0
    (authorized_collectionRequest token) rfl rfl
  have dumps : (api.library.dump (statusesJson store 0)).isSome = true := by
    rw [body]
    rfl
  exact (utf8_statusesJson 0).mp ((lawful.dump_isSome _).mp dumps)

/-- A state of texts keeps the store one of texts. -/
theorem storeUtf8_accept {state : MonitorState} (valid : StoreUtf8 store) (hstate : state.Utf8)
    (acceptable : state.Acceptable) : StoreUtf8 (store.accept state acceptable) := by
  intro id entry stored
  by_cases same : id = state.id
  · subst same
    rw [StateStore.lookup_accept_self] at stored
    obtain rfl := Option.mem_some_iff.mp stored
    exact hstate
  · rw [StateStore.lookup_accept_ne acceptable same] at stored
    exact valid id entry stored

/-- Each write that meets the condition keeps every stored text valid. -/
theorem storeUtf8_perform (lawful : api.library.Lawful) (valid : StoreUtf8 store)
    {write : Write platform Runner} (text : write.Utf8) : StoreUtf8 (api.perform store write) := by
  cases write with
  | post request now =>
      show StoreUtf8 (api.handle store request now).2
      rcases handle_cases lawful store request now with
        ⟨kept, _⟩ | ⟨target, _, _, reads⟩ | ⟨target, state, _, _, parsed, updates⟩
      · rw [kept]
        exact valid
      · rw [reads]
        exact valid
      · rw [updates]
        obtain ⟨members, hparse, hfields⟩ := parseFields_of_parseUpdate parsed
        have hstate := utf8_of_parseFields (lawful.parse_utf8 _ _ hparse) hfields
        rcases update_cases store state now with ⟨kept, _⟩ | ⟨enteredAt, filed, stored, _⟩
        · rw [kept]
          exact valid
        · intro id entry hentry
          by_cases same : id = state.id
          · subst same
            rw [stored] at hentry
            obtain rfl := Option.mem_some_iff.mp hentry
            exact hstate
          · rw [filed.only id same] at hentry
            exact valid id entry hentry
  | publish job outcome now =>
      show StoreUtf8 (store.upsert (job.publication outcome now)).2
      rw [StateStore.upsert_of_acceptable (job.acceptable_publication outcome now)]
      exact storeUtf8_accept valid ((job.utf8_publication outcome now).mpr text)
        (job.acceptable_publication outcome now)

/-- One more write comes last. -/
theorem run_concat (writes : List (Write platform Runner)) (write : Write platform Runner) :
    api.run (writes ++ [write]) = api.perform (api.run writes) write :=
  List.foldl_concat ..

/-- Writes of texts leave a store of texts. -/
theorem storeUtf8_run (lawful : api.library.Lawful) {writes : List (Write platform Runner)}
    (text : ∀ write ∈ writes, write.Utf8) : StoreUtf8 (api.run writes) := by
  induction writes using List.reverseRecOn with
  | nil =>
      intro id entry stored
      cases stored
  | append_singleton writes write ih =>
      rw [run_concat]
      apply storeUtf8_perform lawful (ih fun other member => text other (by simp [member]))
      exact text write (by simp)

/-- Right after a publication the store holds what was published. -/
theorem utf8_of_storeUtf8_publish {job : Job platform Runner} {outcome : RunnerOutcome}
    {now : TimePoint}
    (valid : StoreUtf8 (api.perform store (.publish job outcome now))) : outcome.Utf8 := by
  have stored : (api.perform store (.publish job outcome now)).states.lookup
      (job.publication outcome now).id = some
        { state := job.publication outcome now
          statusEnteredAt := StateStore.enteredAt
            (store.states.lookup (job.publication outcome now).id)
            (job.publication outcome now) } := by
    show (store.upsert (job.publication outcome now)).2.states.lookup _ = _
    rw [StateStore.upsert_of_acceptable (job.acceptable_publication outcome now)]
    exact StateStore.lookup_accept_self (job.acceptable_publication outcome now)
  exact (job.utf8_publication outcome now).mp (valid _ _ (Option.mem_def.mpr stored))

/-- The store is readable after every write of a run exactly when every
publication of the run carries valid UTF-8. -/
theorem readable_iff (lawful : api.library.Lawful) (token : api.bearerToken ≠ [])
    (writes : List (Write platform Runner)) :
    (∀ earlier, earlier <+: writes → Readable api (api.run earlier)) ↔
      ∀ write ∈ writes, write.Utf8 := by
  refine ⟨?_, ?_⟩
  · intro readable write member
    cases write with
    | post request now => exact True.intro
    | publish job outcome now =>
        obtain ⟨before, after, rfl⟩ := List.append_of_mem member
        have reached := readable (before ++ [.publish job outcome now])
          ⟨after, by rw [List.append_assoc, List.singleton_append]⟩
        rw [run_concat] at reached
        exact utf8_of_storeUtf8_publish (storeUtf8_of_readable lawful token reached)
  · intro text earlier initial
    apply readable_of_storeUtf8 lawful
    exact storeUtf8_run lawful fun write member => text write (initial.subset member)

/-- A monitor whose runner passes on what it receives. -/
def feedJob : Job .linux Unit where
  definition := { id := bytes "feed", interval := 1000 }
  valid :=
    { id := by decide
      interval := by decide
      ttl := fun _ impossible => nomatch impossible
      evaluation := by decide }
  runner := ()
  nextDue := 0
  inFlight := false

/-- The run in which that monitor receives the given bytes. -/
def feedRun (received : Bytes) : List (Write .linux Unit) :=
  [.publish feedJob (.returned { transportSuccess := true, value := .text received }) 0]

/-- A feed that publishes text stays readable. -/
theorem readable_iff_feedRun : Readable exampleApi (exampleApi.run (feedRun (bytes "ok"))) := by
  apply (readable_iff (Json.lawful_tableLibrary utf8_exampleDocument) (by decide)
    (feedRun (bytes "ok"))).mpr _ _ (List.prefix_refl _)
  intro write member
  rw [List.mem_singleton.mp member]
  exact ⟨validUtf8_bytes "ok", validUtf8_bytes ""⟩

/-- One byte that no UTF-8 text contains makes the collection unreadable. -/
theorem not_readable_feedRun :
    ¬ ∀ earlier, earlier <+: feedRun [0xFF] → Readable exampleApi (exampleApi.run earlier) := by
  intro readable
  have stored : StoreUtf8 (exampleApi.perform .empty (.publish feedJob
      (.returned { transportSuccess := true, value := .text [0xFF] }) 0)) :=
    storeUtf8_of_readable (Json.lawful_tableLibrary utf8_exampleDocument) (by decide)
      (readable _ (List.prefix_refl _))
  have invalid : ¬ ValidUtf8 [0xFF] := by decide
  exact invalid (utf8_of_storeUtf8_publish stored).value

end StatusApi

end PixelStatus
