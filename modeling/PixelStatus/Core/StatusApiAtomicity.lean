/-
# Status API requests are atomic and read their own writes

Every request either leaves the store as it was or files exactly the posted
state under exactly the addressed id, and a GET at the same instant returns what
was posted.
-/

import PixelStatus.Core.JsonText
import PixelStatus.Core.StatusApiValues

namespace PixelStatus

namespace StatusApi

open Outcome

/-- The id that the path or the body of a POST names. -/
def Addresses (members : List (Bytes × Json)) (id : Bytes) : Route → Prop
  | .item pathId => id = pathId ∧
      ∀ json, Json.find members (bytes "id") = some json → json = .string id
  | .collection => Json.find members (bytes "id") = some (.string id)

/-- The TTL in milliseconds that a number of seconds asks for. -/
def PostedTtl (ttl : Option Duration) : Option Json → Prop
  | none => ttl = none
  | some json => ∃ seconds : Int, json.scalar = some (.integer seconds) ∧ 0 < seconds ∧
      seconds ≤ 604800 ∧ ttl = some (seconds * 1000)

/-- The state that the members of a POST body ask for. -/
structure Posted (members : List (Bytes × Json)) (route : Route) (now : TimePoint)
    (state : MonitorState) : Prop where
  addressed : Addresses members state.id route
  validId : isValidIdentifier state.id = true
  status : Json.find members (bytes "status") = some (.string state.status)
  validStatus : isValidIdentifier state.status = true
  message : Json.find members (bytes "message") = some (.string state.message) ∨
    Json.find members (bytes "message") = none ∧ state.message = []
  value : ((Json.find members (bytes "value")).getD .null).scalar = some state.value.scalar
  ttl : PostedTtl state.ttl (Json.find members (bytes "ttl"))
  observed : state.observedAt = now
  updated : state.updatedAt = now

variable {api : StatusApi} {members : List (Bytes × Json)}

/-- The id that is read is the one of the route or of the body. -/
theorem addresses_of_parseId {route : Route} {id : Bytes}
    (parsed : parseId members route = .ok id) : Addresses members id route := by
  cases route with
  | item pathId =>
      simp only [parseId] at parsed
      split at parsed
      next absent =>
        cases parsed
        refine ⟨rfl, fun json present => ?_⟩
        cases absent.symm.trans present
      next bodyId present =>
        split at parsed
        next => cases parsed
        next same =>
          cases parsed
          rw [not_not] at same
          refine ⟨rfl, fun json found => ?_⟩
          rw [present, same] at found
          exact (Option.some.inj found).symm
      next => cases parsed
  | collection =>
      simp only [parseId] at parsed
      split at parsed
      next id' present =>
        cases parsed
        exact present
      next => cases parsed

/-- A status that is read is the valid one of its field. -/
theorem status_of_parseStatus {status : Bytes}
    (parsed : api.parseStatus members = .ok status) :
    Json.find members (bytes "status") = some (.string status) ∧
      isValidIdentifier status api.limits.maximumStatusBytes = true := by
  unfold parseStatus at parsed
  split at parsed
  next present =>
    split at parsed
    next => cases parsed
    next valid =>
      cases parsed
      rw [Bool.not_eq_true', Bool.not_eq_false] at valid
      exact ⟨present, valid⟩
  next => cases parsed

/-- A message that is read is the one of its field, or empty. -/
theorem message_of_parseMessage {message : Bytes}
    (parsed : api.parseMessage members = .ok message) :
    Json.find members (bytes "message") = some (.string message) ∨
      Json.find members (bytes "message") = none ∧ message = [] := by
  unfold parseMessage at parsed
  split at parsed
  next absent =>
    cases parsed
    exact Or.inr ⟨absent, rfl⟩
  next present =>
    split at parsed
    next => cases parsed
    next =>
      cases parsed
      exact Or.inl present
  next => cases parsed

/-- A value that is read is the one of its field. -/
theorem value_of_parseValue {value : StateValue} (parsed : api.parseValue members = .ok value) :
    ((Json.find members (bytes "value")).getD .null).scalar = some value.scalar := by
  unfold parseValue at parsed
  split at parsed
  next absent =>
    cases parsed
    rw [absent]
    rfl
  next json present =>
    rw [present]
    cases hvalue : parseStateValue api.limits json with
    | error message =>
        rw [hvalue] at parsed
        cases parsed
    | ok other =>
        rw [hvalue] at parsed
        cases parsed
        exact scalar_of_parseStateValue hvalue

/-- Accepted seconds are at most a week. -/
theorem ttl_of_parseSeconds (limits : api.limits = {}) {seconds : UInt64}
    {ttl : Option Duration} (parsed : api.parseSeconds seconds = .ok ttl) :
    0 < (seconds.toNat : Int) ∧ (seconds.toNat : Int) ≤ 604800 ∧
      ttl = some (seconds.toNat * 1000) := by
  have maximum : UInt64.ofInt (Int.tdiv ({} : StatusApiLimits).maximumTtl 1000) = 604800 := by
    decide
  simp only [parseSeconds, limits, maximum] at parsed
  split at parsed
  next => cases parsed
  next inside =>
    cases parsed
    obtain ⟨nonzero, bounded⟩ := not_or.mp inside
    have positive : seconds.toNat ≠ 0 := fun zero => nonzero (UInt64.toNat_inj.mp zero)
    have small : seconds.toNat ≤ 604800 := UInt64.not_lt.mp bounded
    exact ⟨by omega, by omega, rfl⟩

/-- A lifetime that is read is the one of its field. -/
theorem ttl_of_parseTtl (limits : api.limits = {}) {ttl : Option Duration}
    (parsed : api.parseTtl members = .ok ttl) :
    PostedTtl ttl (Json.find members (bytes "ttl")) := by
  unfold parseTtl at parsed
  split at parsed
  next absent =>
    cases parsed
    rw [absent]
    rfl
  next seconds present =>
    rw [present]
    exact ⟨seconds.toNat, rfl, ttl_of_parseSeconds limits parsed⟩
  next seconds present =>
    rw [present]
    split at parsed
    next => cases parsed
    next positive =>
      have nonnegative : 0 ≤ seconds := by
        rw [Int64.not_le] at positive
        exact Int64.le_of_lt positive
      have same : (seconds.toUInt64.toNat : Int) = seconds.toInt := by
        rw [Int64.toNat_toUInt64_of_le nonnegative]
        exact Int.toNat_of_nonneg (Int64.le_iff_toInt_le.mp nonnegative)
      refine ⟨seconds.toUInt64.toNat, ?_, ttl_of_parseSeconds limits parsed⟩
      rw [same]
      rfl
  next => cases parsed

/-- What each field of a state that passed the checks comes from. -/
theorem parts_of_parseFields {route : Route} {now : TimePoint} {state : MonitorState}
    (parsed : api.parseFields members route now = .ok state) :
    parseId members route = .ok state.id ∧
      isValidIdentifier state.id api.limits.maximumIdBytes = true ∧
      api.parseStatus members = .ok state.status ∧
      api.parseMessage members = .ok state.message ∧
      api.parseValue members = .ok state.value ∧ api.parseTtl members = .ok state.ttl ∧
      state.observedAt = now ∧ state.updatedAt = now := by
  unfold parseFields at parsed
  split at parsed
  next => cases parsed
  next =>
    obtain ⟨id, hid, parsed⟩ := bind_eq_ok.mp parsed
    split at parsed
    next => cases parsed
    next validId =>
      obtain ⟨status, hstatus, parsed⟩ := bind_eq_ok.mp parsed
      obtain ⟨message, hmessage, parsed⟩ := bind_eq_ok.mp parsed
      obtain ⟨value, hvalue, parsed⟩ := bind_eq_ok.mp parsed
      obtain ⟨ttl, httl, parsed⟩ := bind_eq_ok.mp parsed
      cases parsed
      rw [Bool.not_eq_true', Bool.not_eq_false] at validId
      exact ⟨hid, validId, hstatus, hmessage, hvalue, httl, rfl, rfl⟩

/-- What passes all checks is what the body asks for. -/
theorem posted_of_parseFields (limits : api.limits = {}) {route : Route} {now : TimePoint}
    {state : MonitorState} (parsed : api.parseFields members route now = .ok state) :
    Posted members route now state := by
  obtain ⟨hid, validId, hstatus, hmessage, hvalue, httl, observed, updated⟩ :=
    parts_of_parseFields parsed
  obtain ⟨presentStatus, validStatus⟩ := status_of_parseStatus hstatus
  rw [limits] at validId validStatus
  exact {
    addressed := addresses_of_parseId hid
    validId := validId
    status := presentStatus
    validStatus := validStatus
    message := message_of_parseMessage hmessage
    value := value_of_parseValue hvalue
    ttl := ttl_of_parseTtl limits httl
    observed := observed
    updated := updated }

/-- A state that passed the checks has valid texts, since the parsed body has. -/
theorem utf8_of_parseFields {route : Route} {now : TimePoint} {state : MonitorState}
    (valid : Json.Utf8Members members)
    (parsed : api.parseFields members route now = .ok state) : state.Utf8 := by
  obtain ⟨_, validId, hstatus, hmessage, hvalue, _⟩ := parts_of_parseFields parsed
  constructor
  case id => exact validUtf8_of_isValidIdentifier validId
  case status => exact validUtf8_of_isValidIdentifier (status_of_parseStatus hstatus).2
  case message =>
    cases message_of_parseMessage hmessage with
    | inl present =>
        have message : (Json.string state.message).Utf8 := Json.utf8_of_find valid present
        exact message
    | inr absent =>
        rw [absent.2]
        exact validUtf8_bytes ""
  case value =>
    apply utf8_of_scalar _ (value_of_parseValue hvalue)
    cases hjson : Json.find members (bytes "value") with
    | none => exact True.intro
    | some json => exact Json.utf8_of_find valid hjson

/-- An update that is read is the fields of its body. -/
theorem parseFields_of_parseUpdate {request : ApiRequest} {route : Route} {now : TimePoint}
    {state : MonitorState} (parsed : api.parseUpdate request route now = .ok state) :
    ∃ members, api.library.parse request.body = some (.object members) ∧
      api.parseFields members route now = .ok state := by
  unfold parseUpdate at parsed
  split at parsed
  next => cases parsed
  next =>
    split at parsed
    next => cases parsed
    next =>
      split at parsed
      next members hparse => exact ⟨members, hparse, parsed⟩
      next => cases parsed

/-- A state posted while a longest TTL still ends within the clock's count
expires at no wrapped instant. -/
theorem Posted.timely (limits : api.limits = {}) {route : Route} {now : TimePoint}
    {state : MonitorState} (posted : Posted members route now state) (starts : FitsCount now)
    (ends : FitsCount (now + nanoseconds api.limits.maximumTtl)) : state.Timely := by
  intro ttl httl
  have asked := posted.ttl
  cases hjson : Json.find members (bytes "ttl") with
  | none =>
      rw [hjson, PostedTtl, Option.mem_def.mp httl] at asked
      cases asked
  | some json =>
      rw [hjson] at asked
      obtain ⟨seconds, _, positive, bounded, same⟩ := asked
      rw [Option.mem_def.mp httl] at same
      cases same
      have low := starts.1
      have high := ends.2
      have longest : ({} : StatusApiLimits).maximumTtl = 604800000 := by decide
      rw [limits, longest, nanoseconds] at high
      rw [MonitorState.expiry, posted.updated, nanoseconds]
      constructor <;> omega

/-- A posted state is not stale at the instant it is dated. -/
theorem Posted.resolve_fresh {route : Route} {now : TimePoint} {state : MonitorState}
    (posted : Posted members route now state) (timely : state.Timely) (enteredAt : TimePoint) :
    (resolveEntry state enteredAt now).effectiveStatus = state.status := by
  have fresh : ∀ ttl, state.ttl = some ttl → ¬ now ≥ state.expiresAt ttl := by
    intro ttl httl
    have asked := posted.ttl
    cases hjson : Json.find members (bytes "ttl") with
    | none =>
        rw [hjson, PostedTtl, httl] at asked
        cases asked
    | some json =>
        rw [hjson] at asked
        obtain ⟨seconds, _, positive, _, same⟩ := asked
        rw [timely.expiresAt_eq httl, MonitorState.expiry, posted.updated, nanoseconds]
        rw [httl] at same
        cases same
        have later : ∀ instant : Int, ¬ instant ≥ instant + seconds * 1000 * 1000000 := by
          omega
        exact later now
  unfold resolveEntry
  split
  · rfl
  next ttl httl => rw [if_neg (fresh ttl httl)]

/-- The store after `state` was filed in it. -/
structure Filed (store after : StateStore) (state : MonitorState) : Prop where
  only : ∀ other, other ≠ state.id → after.states.lookup other = store.states.lookup other
  lookup : ∃ enteredAt, after.states.lookup state.id = some { state, statusEnteredAt := enteredAt }

/-- An accepted state is filed under its id and touches no other. -/
theorem filed_accept (store : StateStore) {state : MonitorState}
    (acceptable : state.Acceptable) : Filed store (store.accept state acceptable) state where
  only _ different := StateStore.lookup_accept_ne acceptable different
  lookup := ⟨_, StateStore.lookup_accept_self acceptable⟩

/-- The locked part either reports a failure and changes nothing, or files the state. -/
theorem update_cases (store : StateStore) (state : MonitorState) (now : TimePoint) :
    ((api.update store state now).2 = store ∧
        ∃ error, Reportable error ∧ (api.update store state now).1 = api.errorResponse error) ∨
      ∃ enteredAt, Filed store (api.update store state now).2 state ∧
        (api.update store state now).2.states.lookup state.id
          = some { state, statusEnteredAt := enteredAt } ∧
        (api.update store state now).1 = api.jsonResponse
          (if (store.find state.id).isSome then 200 else 201)
          (resolvedStateJson (resolveEntry state enteredAt now) now) := by
  simp only [update]
  split
  · exact Or.inl ⟨rfl, _, reportable_bytes _ (by decide), rfl⟩
  · by_cases acceptable : state.Acceptable
    · rw [StateStore.upsert_of_acceptable acceptable]
      obtain ⟨enteredAt, hlookup⟩ := (filed_accept store acceptable).lookup
      refine Or.inr ⟨enteredAt, filed_accept store acceptable, hlookup, ?_⟩
      show ((store.accept state acceptable).resolve state.id now).bind _ = _
      rw [StateStore.resolve, hlookup]
      rfl
    · rw [StateStore.upsert_of_not_acceptable acceptable]
      exact Or.inl ⟨rfl, _, reportable_bytes _ (by decide), rfl⟩

/-- What a request can do: a failure or a GET leaves the store alone; otherwise it
is a POST that passed every check, and the state it asks for is filed. -/
theorem handle_cases (lawful : api.library.Lawful) (store : StateStore) (request : ApiRequest)
    (now : TimePoint) :
    ((api.handle store request now).2 = store ∧
        ∃ error headers, Reportable error ∧
          (api.handle store request now).1 = api.errorResponse error headers) ∨
      (∃ target, route request.target = some target ∧ asciiLower request.method = bytes "get" ∧
        api.handle store request now = (api.get store now target, store)) ∨
      ∃ target state, route request.target = some target ∧
        asciiLower request.method = bytes "post" ∧
        api.parseUpdate request target now = .ok state ∧
        api.handle store request now = api.update store state now := by
  unfold handle
  split
  · exact Or.inl ⟨rfl, _, _, reportable_bytes _ (by decide), rfl⟩
  · split
    next => exact Or.inl ⟨rfl, _, _, reportable_bytes _ (by decide), rfl⟩
    next target hroute =>
      simp only
      split
      next isGet => exact Or.inr (Or.inl ⟨target, hroute, isGet, rfl⟩)
      next =>
        split
        next => exact Or.inl ⟨rfl, _, _, reportable_bytes _ (by decide), rfl⟩
        next isPost =>
          split
          next error failed =>
            exact Or.inl ⟨rfl, error, [], reportable_of_parseUpdate lawful failed, rfl⟩
          next state parsed =>
            exact Or.inr (Or.inr ⟨target, state, hroute, not_not.mp isPost, parsed, rfl⟩)

/-- An authenticated GET of one id. -/
structure Gets (api : StatusApi) (request : ApiRequest) (id : Bytes) : Prop where
  authorized : api.authorized request = true
  method : asciiLower request.method = bytes "get"
  target : request.target = statusPath ++ [0x2F] ++ id

/-- A path with an id goes to that item. -/
theorem route_item {id : Bytes} (nonempty : id ≠ []) :
    route (statusPath ++ [0x2F] ++ id) = some (.item id) := by
  have longer : 0 < id.length := List.length_pos_iff.mpr nonempty
  have different : statusPath ++ [0x2F] ++ id ≠ statusPath := by
    intro same
    have lengths := congrArg List.length same
    simp only [List.length_append, List.length_singleton] at lengths
    omega
  have pre : (statusPath ++ [0x2F]).isPrefixOf (statusPath ++ [0x2F] ++ id) = true :=
    List.isPrefixOf_iff_prefix.mpr (List.prefix_append _ _)
  have notOnly : (statusPath ++ [0x2F] ++ id).length ≠ (statusPath ++ [0x2F]).length := by
    rw [List.length_append]
    omega
  rw [route, if_neg different, pathIdentifier]
  simp only [pre, Bool.not_true, Bool.false_or, decide_eq_true_eq, if_neg notOnly,
    List.drop_left, Option.map_some]

/-- A GET of a stored, valid id answers with the resolved state. -/
theorem handle_get_item {store : StateStore} {request : ApiRequest} {id : Bytes}
    {now : TimePoint} {resolved : ResolvedState} (gets : Gets api request id)
    (valid : isValidIdentifier id api.limits.maximumIdBytes = true)
    (stored : store.resolve id now = some resolved) :
    api.handle store request now
      = (api.jsonResponse 200 (resolvedStateJson resolved now), store) := by
  have hroute := route_item (isValidIdentifier_ne_nil valid)
  unfold handle
  rw [gets.authorized, gets.target, hroute]
  simp only [Bool.not_true, Bool.false_eq_true, if_false, gets.method, if_true, get, valid,
    stored]

/-- A JSON document that shows a state which is not stale. -/
def Describes (json : Json) (state : MonitorState) : Prop :=
  ∃ fields, json = .object fields ∧
    Json.find fields (bytes "status") = some (.string state.status) ∧
    Json.find fields (bytes "message") = some (.string state.message) ∧
    (Json.find fields (bytes "ttl_ms")).bind Json.scalar
      = some (state.ttl.elim .null .integer) ∧
    (Json.find fields (bytes "value")).bind Json.scalar = some state.value.scalar

/-- The document that is read back describes the posted state. -/
theorem describes_posted {route : Route} {now : TimePoint} {state : MonitorState}
    (posted : Posted members route now state) (timely : state.Timely) (enteredAt : TimePoint) :
    Describes (resolvedStateJson (resolveEntry state enteredAt now) now) state := by
  refine ⟨_, rfl, ?_, ?_, ?_, ?_⟩
  · show some (Json.string (resolveEntry state enteredAt now).effectiveStatus) = _
    rw [posted.resolve_fresh timely enteredAt]
  · show some (Json.string (resolveEntry state enteredAt now).state.message) = _
    rw [StateStore.resolveEntry_state]
  · show Json.scalar _ = _
    rw [StateStore.resolveEntry_state]
    have asked := posted.ttl
    cases hjson : Json.find members (bytes "ttl") with
    | none =>
        rw [hjson, PostedTtl] at asked
        rw [asked]
        rfl
    | some json =>
        rw [hjson] at asked
        obtain ⟨seconds, _, positive, bounded, same⟩ := asked
        have exact : (Int64.ofInt (seconds * 1000)).toInt = seconds * 1000 := by
          apply Int64.toInt_ofInt_of_le <;> omega
        rw [same]
        show some (Scalar.integer (Int64.ofInt (seconds * 1000)).toInt) = _
        rw [exact]
        rfl
  · show Json.scalar (stateValueJson (resolveEntry state enteredAt now).state.value) = _
    rw [StateStore.resolveEntry_state, scalar_stateValueJson]

/-- A POST of some state, seen from the store it leaves behind. -/
theorem reads_posted (lawful : api.library.Lawful) (limits : api.limits = {})
    {after : StateStore} {route : Route} {now : TimePoint} {state : MonitorState}
    {enteredAt : TimePoint} (valid : state.Utf8) (posted : Posted members route now state)
    (timely : state.Timely)
    (stored : after.states.lookup state.id = some { state, statusEnteredAt := enteredAt })
    {read : ApiRequest} (gets : Gets api read state.id) :
    ∃ answer json, api.handle after read now = (some answer, after) ∧ answer.status = 200 ∧
      api.library.dump json = some answer.body ∧ Describes json state := by
  have resolves : after.resolve state.id now = some (resolveEntry state enteredAt now) := by
    rw [StateStore.resolve, stored]
    rfl
  have identifier : isValidIdentifier state.id api.limits.maximumIdBytes = true := by
    rw [limits]
    exact posted.validId
  have dumps : (api.jsonResponse 200
      (resolvedStateJson (resolveEntry state enteredAt now) now)).isSome = true :=
    (jsonResponse_isSome lawful).mpr
      ((utf8_resolvedStateJson state enteredAt now).mpr valid)
  obtain ⟨answer, hanswer⟩ := Option.isSome_iff_exists.mp dumps
  obtain ⟨status, body⟩ := jsonResponse_eq_some hanswer
  refine ⟨answer, _, ?_, status, body, describes_posted posted timely enteredAt⟩
  rw [handle_get_item gets identifier resolves, hanswer]

/-- A request that reads, or fails, leaves the store alone. -/
theorem store_of_quiet (lawful : api.library.Lawful) {store : StateStore} {request : ApiRequest}
    {now : TimePoint}
    (quiet : asciiLower request.method = bytes "get" ∨
      ∃ response, (api.handle store request now).1 = some response ∧ 400 ≤ response.status) :
    (api.handle store request now).2 = store := by
  rcases handle_cases lawful store request now with
    ⟨kept, _⟩ | ⟨target, _, _, reads⟩ | ⟨target, state, _, isPost, _, updates⟩
  · exact kept
  · rw [reads]
  · have failure : ∃ response, (api.handle store request now).1 = some response ∧
        400 ≤ response.status :=
      quiet.resolve_left fun isGet => absurd (isGet.symm.trans isPost) (by decide)
    obtain ⟨response, hresponse, failed⟩ := failure
    rw [updates] at hresponse ⊢
    rcases update_cases store state now with ⟨kept, _⟩ | ⟨enteredAt, _, _, answers⟩
    · exact kept
    · rw [answers] at hresponse
      have status := (jsonResponse_eq_some hresponse).1
      split at status <;> omega

/-- Under the default limits a request that fails, or reads, leaves the store
alone; a POST that succeeds files exactly the posted state under exactly the
addressed id, says whether it was new, and can be read back at once, as long as
the longest TTL it may have ends within the clock's count. -/
theorem handle_atomic (lawful : api.library.Lawful) (limits : api.limits = {})
    (store : StateStore) (request : ApiRequest) (now : TimePoint) :
    (asciiLower request.method = bytes "get" ∨
        (∃ response, (api.handle store request now).1 = some response ∧
          400 ≤ response.status) →
      (api.handle store request now).2 = store) ∧
    ∀ response after, api.handle store request now = (some response, after) →
      asciiLower request.method = bytes "post" →
      response.status = 200 ∨ response.status = 201 →
      ∃ members target state,
        api.library.parse request.body = some (.object members) ∧
        route request.target = some target ∧ Posted members target now state ∧
        (∀ other, other ≠ state.id → after.states.lookup other = store.states.lookup other) ∧
        after.find state.id = some state ∧
        (response.status = 201 ↔ store.find state.id = none) ∧
        (FitsCount now → FitsCount (now + nanoseconds api.limits.maximumTtl) →
          ∀ read, Gets api read state.id →
            ∃ answer json, api.handle after read now = (some answer, after) ∧
              answer.status = 200 ∧ api.library.dump json = some answer.body ∧
              Describes json state) := by
  refine ⟨store_of_quiet lawful, ?_⟩
  intro response after handled isPost success
  rcases handle_cases lawful store request now with
    ⟨_, error, headers, reportable, fails⟩ | ⟨_, _, isGet, _⟩
    | ⟨target, state, hroute, _, parsed, updates⟩
  · rw [handled] at fails
    have status := errorResponse_status fails.symm
    have failure := reportable.1
    omega
  · exact absurd (isGet.symm.trans isPost) (by decide)
  · obtain ⟨members, hparse, hfields⟩ := parseFields_of_parseUpdate parsed
    have valid := utf8_of_parseFields (lawful.parse_utf8 _ _ hparse) hfields
    have posted := posted_of_parseFields limits hfields
    rw [updates] at handled
    rcases update_cases store state now with
      ⟨_, error, reportable, fails⟩ | ⟨enteredAt, filed, stored, answers⟩
    · rw [handled] at fails
      have status := errorResponse_status fails.symm
      have failure := reportable.1
      omega
    · rw [handled] at filed stored answers
      have status := (jsonResponse_eq_some answers.symm).1
      refine ⟨members, target, state, hparse, hroute, posted, filed.only, ?_, ?_,
        fun starts ends read gets =>
          reads_posted lawful limits valid posted (posted.timely limits starts ends) stored gets⟩
      · rw [StateStore.find, stored]
        rfl
      · rw [status]
        cases store.find state.id with
        | none => exact iff_of_true rfl rfl
        | some old => exact iff_of_false (show ¬ 200 = 201 by decide) (Option.some_ne_none old)

/-- The body of a POST, and the document it is. -/
def exampleBody : Bytes := bytes "\x7b\"status\":\"ok\",\"value\":42\x7d"

def exampleDocument : Json :=
  .object [(bytes "status", .string (bytes "ok")), (bytes "value", .unsigned 42)]

def exampleApi : StatusApi where
  library := Json.tableLibrary exampleBody exampleDocument
  bearerToken := bytes "test-token"

def examplePost : ApiRequest where
  method := bytes "POST"
  target := bytes "/api/v1/status/build"
  headers := [
    (bytes "Authorization", bytes "Bearer test-token"),
    (bytes "Content-Type", bytes "application/json; charset=utf-8")]
  body := exampleBody

/-- The example's document is made of texts. -/
theorem utf8_exampleDocument : exampleDocument.Utf8 :=
  ⟨validUtf8_bytes _, validUtf8_bytes _, validUtf8_bytes _, True.intro, True.intro⟩

/-- The value that is posted is read back. -/
theorem handle_atomic_examplePost :
    ∃ state, (exampleApi.handle .empty examplePost 0).2.find state.id = some state ∧
      state.value.scalar = .integer 42 := by
  have created : (exampleApi.handle .empty examplePost 0).1.map ApiResponse.status
      = some 201 := by
    decide +kernel
  obtain ⟨response, hresponse, status⟩ := Option.map_eq_some_iff.mp created
  obtain ⟨members, _, state, hparse, _, posted, _, stored, _⟩ :=
    (handle_atomic (Json.lawful_tableLibrary utf8_exampleDocument) rfl .empty examplePost 0).2
      response _ (Prod.ext hresponse rfl) (by decide) (Or.inr status)
  refine ⟨state, stored, ?_⟩
  have value := posted.value
  cases hparse
  exact (Option.some.inj value).symm

end StatusApi

end PixelStatus
