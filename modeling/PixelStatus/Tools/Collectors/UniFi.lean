/-
# The UniFi collector

One refresh reads six documents of the gateway's API, each under a path that the
documents before it may decide, and lays them out in a snapshot. `refresh_once`
catches `UnifiError` only.
-/

import PixelStatus.Tools.Collectors.PinnedClient
import PixelStatus.Tools.Collectors.SnapshotStore

namespace PixelStatus.UniFi

open Collectors

def texts : ClientTexts where
  noCertificate := pyText "UniFi gateway did not present a certificate"
  wrongPin := pyText "UniFi gateway certificate pin does not match"
  tooLarge := pyText "UniFi API response exceeded the configured byte limit"
  httpStatus := pyText "UniFi API returned HTTP "
  invalidJson := pyText "UniFi API returned invalid JSON"
  transportFailed := pyText "UniFi API transport failed: "

structure PinnedHttpsJsonClient where
  basePath : PyText
  apiKey : PyText
  maximumResponseBytes : Nat

variable (runtime : Runtime)

namespace PinnedHttpsJsonClient

variable (client : PinnedHttpsJsonClient)

def pinned : PinnedClient :=
  { texts, maximumResponseBytes := client.maximumResponseBytes,
    headerValues := [client.apiKey] }

/-- `get_json`: a path with a line break is refused before the connection. -/
def getJson (path : PyText) : Rpc PyValue :=
  if path.head? ≠ some 0x2F ∨ 0x0D ∈ path ∨ 0x0A ∈ path then
    liftM (fail (α := PyValue) (pyText "UniFi API path is invalid"))
  else client.pinned.fetch runtime (client.basePath ++ path)

end PinnedHttpsJsonClient

/-- `_object`. -/
def object (value : PyValue) (label : String) : Except PyException PyDict :=
  match value with
  | .dict items => .ok items
  | _ => fail (pyText "UniFi API " ++ pyText label ++ pyText " response is not an object")

/-- `_data`. -/
def data (value : PyValue) (label : String) : Except PyException (List PyDict) := do
  let document ← object value label
  match PyValue.asRecords (PyValue.get document (pyText "data")) with
  | some records => .ok records
  | none =>
      fail (pyText "UniFi API " ++ pyText label ++ pyText " response has no valid data array")

/-- `_select_record`. -/
def selectRecord (records : List PyDict) (identifier : Option PyText) (label : String) :
    Except PyException PyDict :=
  match identifier with
  | some identifier =>
      match records.filter (PyValue.hasText · "id" identifier) with
      | [record] => .ok record
      | _ => fail (pyText "configured UniFi " ++ pyText label ++ pyText " ID was not found")
  | none =>
      match records with
      | [record] => .ok record
      | _ =>
          fail (pyText "UniFi API returned " ++ pyText (toString records.length) ++ pyText " "
            ++ pyText label ++ pyText " records; configure an explicit ID")

/-- The text under `id`, which must be there. -/
def identifierOf (record : PyDict) (message : String) : Except PyException PyText :=
  match PyValue.get record (pyText "id") with
  | .text identifier => if identifier = [] then fail (pyText message) else .ok identifier
  | _ => fail (pyText message)

/-- `"dream machine" in str(device.get("model", "")).lower()`. -/
def isDreamMachine (device : PyDict) : Bool :=
  let model := runtime.loweredStr ((device.lookup (pyText "model")).getD (.text []))
  model.tails.any (pyText "dream machine").isPrefixOf

/-- The gateway among the devices of the site. -/
def selectDevice (devices : List PyDict) (deviceId : Option PyText) :
    Except PyException PyDict :=
  if deviceId = none ∧ 1 < devices.length then
    selectRecord (devices.filter (isDreamMachine runtime)) none "gateway device"
  else selectRecord devices deviceId "gateway device"

def sitePath (siteId : PyText) : PyText := pyText "/v1/sites/" ++ siteId

def devicePath (siteId deviceId : PyText) : PyText :=
  sitePath siteId ++ pyText "/devices/" ++ deviceId

section gathering

variable (client : PinnedHttpsJsonClient)

/-- The application's document and the configured site, with its identifier. -/
structure Site where
  info : PyDict
  record : PyDict
  identifier : PyText

def chooseSite (siteId : Option PyText) : Rpc Site := do
  let info ← client.getJson runtime (pyText "/v1/info")
  let info ← object info "application info"
  let sites ← client.getJson runtime (pyText "/v1/sites?limit=200")
  let sites ← data sites "sites"
  let record ← selectRecord sites siteId "site"
  let identifier ← identifierOf record "selected UniFi site has no valid ID"
  pure { info, record, identifier }

structure Device where
  record : PyDict
  identifier : PyText

def chooseDevice (site : Site) (deviceId : Option PyText) : Rpc Device := do
  let devices ← client.getJson runtime (sitePath site.identifier ++ pyText "/devices?limit=200")
  let devices ← data devices "devices"
  let record ← selectDevice runtime devices deviceId
  let identifier ← identifierOf record "selected UniFi gateway has no valid ID"
  pure { record, identifier }

/-- The documents of one refresh. -/
structure Documents where
  site : Site
  device : PyDict
  details : PyDict
  statistics : PyDict
  wans : List PyDict

def readDevice (site : Site) (device : Device) : Rpc Documents := do
  let path := devicePath site.identifier device.identifier
  let details ← client.getJson runtime path
  let details ← object details "device details"
  let statistics ← client.getJson runtime (path ++ pyText "/statistics/latest")
  let statistics ← object statistics "device statistics"
  let wans ← client.getJson runtime (sitePath site.identifier ++ pyText "/wans")
  let wans ← data wans "WAN interfaces"
  pure { site, device := device.record, details, statistics, wans }

/-- The requests of `build_snapshot`. -/
def gather (siteId deviceId : Option PyText) : Rpc Documents := do
  let site ← chooseSite runtime client siteId
  let device ← chooseDevice runtime client site deviceId
  readDevice runtime client site device

end gathering

/-! ### The snapshot -/

/-- `details.get(name, device.get(name))`: a member that is there wins, even `None`. -/
def memberOf (documents : Documents) (name : String) : PyValue :=
  (documents.details.lookup (pyText name)).getD (PyValue.get documents.device (pyText name))

/-- The gateway's state, `UNKNOWN` when there is no text. -/
def stateOf (documents : Documents) : PyText :=
  match (documents.details.lookup (pyText "state")).or
      (documents.device.lookup (pyText "state")) with
  | some (.text state) => state
  | _ => pyText "UNKNOWN"

def portsOf (details : PyDict) : List PyValue :=
  match PyValue.get details (pyText "interfaces") with
  | .dict interfaces =>
      match PyValue.get interfaces (pyText "ports") with
      | .list ports => ports
      | _ => []
  | _ => []

def isUp : PyValue → Bool
  | .dict port => PyValue.hasText port "state" (pyText "UP")
  | _ => false

def uplinkOf (statistics : PyDict) : PyDict :=
  match PyValue.get statistics (pyText "uplink") with
  | .dict uplink => uplink
  | _ => []

def uplinkSection (statistics : PyDict) : PyDict :=
  [(pyText "tx_rate_bps", numberField (uplinkOf statistics) "txRateBps"),
    (pyText "rx_rate_bps", numberField (uplinkOf statistics) "rxRateBps")]

def portsSection (details : PyDict) : PyDict :=
  [(pyText "total", .integer (portsOf details).length),
    (pyText "up", .integer ((portsOf details).countP isUp))]

def gatewaySection (documents : Documents) : PyDict :=
  [(pyText "name", memberOf documents "name"),
    (pyText "model", memberOf documents "model"),
    (pyText "state", .text (stateOf documents)),
    (pyText "firmware_version", PyValue.get documents.details (pyText "firmwareVersion")),
    (pyText "firmware_updatable", PyValue.get documents.details (pyText "firmwareUpdatable")),
    (pyText "uptime_sec", numberField documents.statistics "uptimeSec"),
    (pyText "last_heartbeat_at",
      PyValue.get documents.statistics (pyText "lastHeartbeatAt")),
    (pyText "cpu_utilization_pct", numberField documents.statistics "cpuUtilizationPct"),
    (pyText "memory_utilization_pct", numberField documents.statistics "memoryUtilizationPct"),
    (pyText "uplink", .dict (uplinkSection documents.statistics)),
    (pyText "ports", .dict (portsSection documents.details))]

/-- The named interfaces. -/
def wanEntry (wan : PyDict) : Option PyValue :=
  match PyValue.get wan (pyText "name") with
  | .text name => some (.dict [(pyText "name", .text name)])
  | _ => none

def source : PyValue := .text (pyText "unifi-network")

/-- The document that `build_snapshot` returns. -/
def layOut (documents : Documents) (updatedAt : PyText) : PyDict :=
  [(pyText "schema_version", .integer 1),
    (pyText "source", source),
    (pyText "updated_at", .text updatedAt),
    (pyText "monitor",
      statusSection (if stateOf documents = pyText "ONLINE" then "ok" else "fail")),
    (pyText "application",
      .dict [(pyText "version",
        PyValue.get documents.site.info (pyText "applicationVersion"))]),
    (pyText "site", .dict [
      (pyText "name", PyValue.get documents.site.record (pyText "name")),
      (pyText "internal_reference",
        PyValue.get documents.site.record (pyText "internalReference"))]),
    (pyText "gateway", .dict (gatewaySection documents)),
    (pyText "wans", .list (documents.wans.filterMap wanEntry))]

/-- `build_snapshot`, against the exchanges that its requests find. -/
def buildSnapshot (client : PinnedHttpsJsonClient) (siteId deviceId : Option PyText)
    (updatedAt : PyText) (exchanges : List Exchange) : Except PyException PyDict := do
  let (documents, _) ← (gather runtime client siteId deviceId).run exchanges
  .ok (layOut documents updatedAt)

/-! ### The store -/

/-- Served before the first success. -/
def emptyDocument : PyDict :=
  [(pyText "schema_version", .integer 1),
    (pyText "source", source),
    (pyText "gateway", .dict [(pyText "state", .text (pyText "UNKNOWN"))]),
    (pyText "wans", .list [])]

def markDocument (store : SnapshotStore) (document : PyDict) : PyDict :=
  if store.error.isSome then PyValue.setItem document (pyText "monitor") communicationFailure
  else if PyValue.isDict (PyValue.get document (pyText "monitor")) then document
  else PyValue.setItem document (pyText "monitor") (statusSection "fail")

/-- `SnapshotStore.response`. -/
def response (store : SnapshotStore) : Except PyException PyDict := do
  let document ← store.copyDocument runtime emptyDocument
  .ok (store.withCollector (markDocument store document))

/-- The response says that the collector failed. -/
def ReportsFailure (store : SnapshotStore) : Prop :=
  ∃ document, response runtime store = .ok document ∧
    SnapshotStore.HasStatus document "monitor" "communication_failure" ∧
    SnapshotStore.HasStatus document "collector" "error"

/-- A store with an error reports it. -/
theorem reportsFailure {store : SnapshotStore} {message : PyText}
    (invariant : store.DocumentsSatisfy runtime fun _ => True)
    (failed : store.error = some message) : ReportsFailure runtime store := by
  obtain ⟨document, copied, _⟩ :=
    @SnapshotStore.exists_copyDocument store runtime _ emptyDocument invariant trivial
  have monitor : PyValue.get (markDocument store document) (pyText "monitor")
      = communicationFailure := by
    rw [markDocument, failed, Option.isSome_some, if_pos rfl, PyValue.get_setItem, if_pos rfl]
  refine ⟨store.withCollector (markDocument store document), ?_, ?_, ?_⟩
  · exact Outcome.bind_eq_ok.mpr ⟨document, copied, rfl⟩
  · exact SnapshotStore.hasStatus_of_get monitor
  · exact SnapshotStore.hasStatus_withCollector failed _

/-! ### When every exception is the collector's own -/

open Outcome

/-- The configured base path and API key can be written in a request. -/
def PinnedHttpsJsonClient.ApiSendable (client : PinnedHttpsJsonClient) : Prop :=
  PinnedClient.Sendable client.basePath ∧ client.pinned.HeadersSendable

/-- The values that are passed on without a look. -/
def passedOn (documents : Documents) : List PyValue :=
  [PyValue.get documents.site.info (pyText "applicationVersion"),
    PyValue.get documents.site.record (pyText "name"),
    PyValue.get documents.site.record (pyText "internalReference"),
    memberOf documents "name", memberOf documents "model",
    PyValue.get documents.details (pyText "firmwareVersion"),
    PyValue.get documents.details (pyText "firmwareUpdatable"),
    PyValue.get documents.statistics (pyText "lastHeartbeatAt")]

/-- None of them is a deep document. -/
def Documents.Shallow (documents : Documents) : Prop :=
  ∀ value ∈ passedOn documents, 2 + value.depth ≤ min runtime.refreshDepth runtime.serverDepth

section gathering

variable {client : PinnedHttpsJsonClient}

/-- What is no object is refused by the script's own error. -/
theorem object_failsWith (value : PyValue) (label : String) :
    FailsWith PyException.Own (object value label) := by
  unfold object
  split
  · exact FailsWith.ok _
  · exact fail_failsWith _

/-- So is a document without its data. -/
theorem data_failsWith (value : PyValue) (label : String) :
    FailsWith PyException.Own (data value label) := by
  apply (object_failsWith value label).bind
  intro document _
  split
  · exact FailsWith.ok _
  · exact fail_failsWith _

/-- So is a choice that no record or several records answer to. -/
theorem selectRecord_failsWith (records : List PyDict) (identifier : Option PyText)
    (label : String) : FailsWith PyException.Own (selectRecord records identifier label) := by
  unfold selectRecord
  split
  · split
    · exact FailsWith.ok _
    · exact fail_failsWith _
  · split
    · exact FailsWith.ok _
    · exact fail_failsWith _

/-- So is the choice of a device. -/
theorem selectDevice_failsWith (devices : List PyDict) (deviceId : Option PyText) :
    FailsWith PyException.Own (selectDevice runtime devices deviceId) := by
  unfold selectDevice
  split
  · exact selectRecord_failsWith _ _ _
  · exact selectRecord_failsWith _ _ _

/-- So is a record without an identifier. -/
theorem identifierOf_failsWith (record : PyDict) (message : String) :
    FailsWith PyException.Own (identifierOf record message) := by
  unfold identifierOf
  split
  · split
    · exact fail_failsWith _
    · exact FailsWith.ok _
  · exact fail_failsWith _

/-- A program that only ends early with the collector's own exception, as long as
the exchanges that are left are handled. -/
abbrev Contained {α : Type} (client : PinnedHttpsJsonClient) (program : Rpc α) : Prop :=
  Keeps PyException.Own (client.pinned.AllHandled runtime) (fun _ => True) program

variable {runtime}

/-- A computation without exchanges keeps the rest of them. -/
theorem contained_lift {α : Type} {computation : Except PyException α}
    (h : FailsWith PyException.Own computation) :
    Contained runtime client (liftM computation) :=
  Keeps.lift h fun _ _ => trivial

/-- A request takes one exchange and fails by the script's own error only. -/
theorem getJson_contained (api : client.ApiSendable) {path : PyText}
    (sendable : PinnedClient.Sendable path) :
    Contained runtime client (client.getJson runtime path) := by
  intro exchanges handled
  unfold PinnedHttpsJsonClient.getJson
  split
  · exact contained_lift (fail_failsWith _) exchanges handled
  · exact client.pinned.fetch_keepsFrom runtime handled fun _ => ⟨api.1.append sendable, api.2⟩

/-- Without a pinned peer the target does not matter. -/
theorem getJson_of_not_nextPinned (client : PinnedHttpsJsonClient) (path : PyText)
    {exchanges : List Exchange}
    (unpinned : ¬ PinnedClient.NextPinned exchanges)
    (handled : client.pinned.AllHandled runtime exchanges) :
    ∃ message, (client.getJson runtime path).run exchanges = .error (.collector message) := by
  unfold PinnedHttpsJsonClient.getJson
  split
  · exact ⟨_, rfl⟩
  · exact client.pinned.fetch_of_not_nextPinned runtime unpinned handled

/-- A document whose answer must be an object. -/
theorem getObject_contained (api : client.ApiSendable) {path : PyText} (label : String)
    (sendable : PinnedClient.Sendable path) {α : Type} {rest : PyDict → Rpc α}
    (hrest : ∀ items, Contained runtime client (rest items)) :
    Contained runtime client (client.getJson runtime path >>= fun value =>
      liftM (object value label) >>= rest) := by
  apply (getJson_contained api sendable).bind
  intro value _
  exact (contained_lift (object_failsWith value label)).bind fun items _ => hrest items

/-- A document whose answer must have a data array. -/
theorem getData_contained (api : client.ApiSendable) {path : PyText} (label : String)
    (sendable : PinnedClient.Sendable path) {α : Type} {rest : List PyDict → Rpc α}
    (hrest : ∀ records, Contained runtime client (rest records)) :
    Contained runtime client (client.getJson runtime path >>= fun value =>
      liftM (data value label) >>= rest) := by
  apply (getJson_contained api sendable).bind
  intro value _
  exact (contained_lift (data_failsWith value label)).bind fun records _ => hrest records

/-- Choosing the site fails by the script's own error only. -/
theorem chooseSite_contained (api : client.ApiSendable) (siteId : Option PyText) :
    Contained runtime client (chooseSite runtime client siteId) := by
  apply getObject_contained api _ (Or.inr (by decide))
  intro info
  apply getData_contained api _ (Or.inr (by decide))
  intro sites
  apply (contained_lift (selectRecord_failsWith sites siteId _)).bind
  intro record _
  apply (contained_lift (identifierOf_failsWith record _)).bind
  exact fun identifier _ => Keeps.pure trivial

/-- The path of a site can be sent when its identifier can. -/
theorem sitePath_sendable {siteId : PyText} (sendable : PinnedClient.Sendable siteId) :
    PinnedClient.Sendable (sitePath siteId) :=
  PinnedClient.Sendable.append (Or.inr (by decide)) sendable

/-- Choosing the device fails by the script's own error only. -/
theorem chooseDevice_contained (api : client.ApiSendable) {site : Site}
    (sendable : PinnedClient.Sendable site.identifier) (deviceId : Option PyText) :
    Contained runtime client (chooseDevice runtime client site deviceId) := by
  apply getData_contained api _ ((sitePath_sendable sendable).append (Or.inr (by decide)))
  intro devices
  apply (contained_lift (selectDevice_failsWith runtime devices deviceId)).bind
  intro record _
  apply (contained_lift (identifierOf_failsWith record _)).bind
  exact fun identifier _ => Keeps.pure trivial

/-- So does reading it. -/
theorem readDevice_contained (api : client.ApiSendable) {site : Site} {device : Device}
    (hsite : PinnedClient.Sendable site.identifier)
    (hdevice : PinnedClient.Sendable device.identifier) :
    Contained runtime client (readDevice runtime client site device) := by
  have path : PinnedClient.Sendable (devicePath site.identifier device.identifier) :=
    ((sitePath_sendable hsite).append (Or.inr (by decide))).append hdevice
  apply getObject_contained api _ path
  intro details
  apply getObject_contained api _ (path.append (Or.inr (by decide)))
  intro statistics
  apply getData_contained api _ ((sitePath_sendable hsite).append (Or.inr (by decide)))
  exact fun wans => Keeps.pure trivial

end gathering

/-! ### Refreshes -/

/-- What the outside does in one iteration: the exchanges that take place, and
the two readings of the clock. -/
structure Iteration where
  exchanges : List Exchange
  updatedAt : PyText
  timestamp : PyText

section refreshing

variable (client : PinnedHttpsJsonClient) (siteId deviceId : Option PyText)

def refreshOnce (iteration : Iteration) (store : SnapshotStore) :
    RefreshLoop.Attempt SnapshotStore :=
  store.refreshOnce runtime
    (buildSnapshot runtime client siteId deviceId iteration.updatedAt iteration.exchanges)
    iteration.timestamp

/-- Every exchange is handled, every path that is sent is ASCII, and the values
passed on are no deep documents. -/
structure Safe (iteration : Iteration) : Prop where
  api : PinnedClient.NextPinned iteration.exchanges → client.ApiSendable
  exchanges : client.pinned.AllHandled runtime iteration.exchanges
  site : ∀ site rest,
    (chooseSite runtime client siteId).run iteration.exchanges = .ok (site, rest) →
      PinnedClient.NextPinned rest → PinnedClient.Sendable site.identifier
  device : ∀ site device rest rest',
    (chooseSite runtime client siteId).run iteration.exchanges = .ok (site, rest) →
      (chooseDevice runtime client site deviceId).run rest = .ok (device, rest') →
        PinnedClient.NextPinned rest' → PinnedClient.Sendable device.identifier
  documents : ∀ documents rest,
    (gather runtime client siteId deviceId).run iteration.exchanges = .ok (documents, rest) →
      documents.Shallow runtime

variable {runtime client siteId deviceId} {iteration : Iteration}

/-- A safe iteration gathers its records or fails by the script's own error. -/
theorem gather_keepsFrom (safe : Safe runtime client siteId deviceId iteration) :
    KeepsFrom PyException.Own (client.pinned.AllHandled runtime) (fun _ => True)
      (gather runtime client siteId deviceId) iteration.exchanges := by
  by_cases first : PinnedClient.NextPinned iteration.exchanges
  · have api := safe.api first
    apply (chooseSite_contained api siteId iteration.exchanges safe.exchanges).bind
    intro site rest hsite kept _
    by_cases second : PinnedClient.NextPinned rest
    · have siteSendable := safe.site site rest hsite second
      apply (chooseDevice_contained api siteSendable deviceId rest kept).bind
      intro device rest' hdevice kept' _
      by_cases third : PinnedClient.NextPinned rest'
      · have deviceSendable := safe.device site device rest rest' hsite hdevice third
        exact readDevice_contained api siteSendable deviceSendable rest' kept'
      · obtain ⟨message, stops⟩ := getJson_of_not_nextPinned client _ third kept'
        exact KeepsFrom.of_error (run_bind_error stops) ⟨message, rfl⟩
    · obtain ⟨message, stops⟩ := getJson_of_not_nextPinned client _ second kept
      exact KeepsFrom.of_error (run_bind_error (run_bind_error stops)) ⟨message, rfl⟩
  · obtain ⟨message, stops⟩ := getJson_of_not_nextPinned client _ first safe.exchanges
    exact KeepsFrom.of_error (run_bind_error (run_bind_error stops)) ⟨message, rfl⟩

/-- It builds its document or fails so. -/
theorem buildSnapshot_failsWith (safe : Safe runtime client siteId deviceId iteration)
    (updatedAt : PyText) :
    FailsWith PyException.Own
      (buildSnapshot runtime client siteId deviceId updatedAt iteration.exchanges) := by
  apply (gather_keepsFrom safe).1.bind
  exact fun documents _ => FailsWith.ok _

theorem depth_wans (wans : List PyDict) : PyValue.depthItems (wans.filterMap wanEntry) ≤ 2 := by
  induction wans with
  | nil => exact Nat.zero_le 2
  | cons wan wans ih =>
      rw [List.filterMap_cons]
      split
      next => exact ih
      next entry hentry =>
        unfold wanEntry at hentry
        split at hentry
        · cases hentry
          exact max_le le_rfl ih
        · cases hentry

/-- Only the values passed on can be nested deeper than the document itself. -/
theorem depth_layOut {documents : Documents} (updatedAt : PyText) {limit : Nat}
    (room : 4 ≤ limit) (shallow : ∀ value ∈ passedOn documents, 2 + value.depth ≤ limit) :
    (PyValue.dict (layOut documents updatedAt)).depth ≤ limit := by
  obtain ⟨limit, rfl⟩ := Nat.exists_eq_add_of_le' room
  have wans : PyValue.depthItems (documents.wans.filterMap wanEntry) ≤ limit + 2 :=
    (depth_wans documents.wans).trans (Nat.le_add_left 2 limit)
  have passed : ∀ value ∈ passedOn documents, value.depth ≤ limit + 2 := by
    intro value hvalue
    have := shallow value hvalue
    omega
  simp only [passedOn, List.forall_mem_cons, List.not_mem_nil, false_implies,
    implies_true, and_true] at passed
  obtain ⟨version, siteName, reference, name, model, firmware, updatable, heartbeat⟩ := passed
  simp [layOut, gatewaySection, uplinkSection, portsSection, source, statusSection,
    numberField, depth_ofNumber, version, siteName, reference, name, model,
    firmware, updatable, heartbeat, wans]

/-- What it builds can be published. -/
theorem publishable (lawful : runtime.Lawful)
    (safe : Safe runtime client siteId deviceId iteration) {updatedAt : PyText}
    {document : PyDict} (built : buildSnapshot runtime client siteId deviceId updatedAt
      iteration.exchanges = .ok document) :
    SnapshotStore.Publishable runtime (fun _ => True) document := by
  obtain ⟨⟨documents, rest⟩, gathered, laidOut⟩ := bind_eq_ok.mp built
  cases laidOut
  refine ⟨?_, ?_⟩
  · exact depth_layOut updatedAt (le_min lawful.refreshDepth lawful.serverDepth)
      (safe.documents documents rest gathered)
  · trivial

/-- A safe iteration stores its document or reports its failure. -/
theorem refreshOnce_contained (lawful : runtime.Lawful)
    (safe : Safe runtime client siteId deviceId iteration) :
    RefreshLoop.Contained (refreshOnce runtime client siteId deviceId)
      (SnapshotStore.DocumentsSatisfy · runtime fun _ => True) (ReportsFailure runtime)
      iteration := by
  intro store invariant
  apply SnapshotStore.refreshOnce_contained (buildSnapshot_failsWith safe _)
  · exact fun document built => publishable lawful safe built
  · exact fun store message invariant failed => reportsFailure runtime invariant failed
  · exact invariant

/-- A run of safe iterations is honest. -/
theorem honest (lawful : runtime.Lawful) {iterations : List Iteration}
    (safe : ∀ iteration ∈ iterations, Safe runtime client siteId deviceId iteration) :
    RefreshLoop.Honest (refreshOnce runtime client siteId deviceId) (ReportsFailure runtime)
      {} iterations := by
  have start : SnapshotStore.DocumentsSatisfy {} runtime fun _ => True :=
    fun _ impossible => nomatch impossible
  exact RefreshLoop.honest_of_contained start (reportsFailure runtime start rfl)
    fun iteration hiteration => refreshOnce_contained lawful (safe iteration hiteration)

end refreshing

end PixelStatus.UniFi
