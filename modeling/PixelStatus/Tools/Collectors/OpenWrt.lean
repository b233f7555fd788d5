/-
# The OpenWrt collector

One refresh logs in, gathers seven kinds of `ubus` answers, and summarizes them
in a snapshot. `refresh_once` catches `OpenWrtError` only.
-/

import PixelStatus.Tools.Collectors.PinnedClient
import PixelStatus.Tools.Collectors.SnapshotStore

namespace PixelStatus.OpenWrt

open Collectors

def texts : ClientTexts where
  noCertificate := pyText "OpenWrt bridge did not present a certificate"
  wrongPin := pyText "OpenWrt bridge certificate pin does not match"
  tooLarge := pyText "OpenWrt RPC response exceeded the configured byte limit"
  httpStatus := pyText "OpenWrt RPC returned HTTP "
  invalidJson := pyText "OpenWrt RPC returned invalid JSON"
  transportFailed := pyText "OpenWrt RPC transport failed: "

/-- The endpoint path and the response limit; the credentials only go into the
requests. -/
structure PinnedUbusClient where
  target : PyText
  maximumResponseBytes : Nat

variable (runtime : Runtime)

namespace PinnedUbusClient

variable (client : PinnedUbusClient)

def pinned : PinnedClient := { texts, maximumResponseBytes := client.maximumResponseBytes }

/-- The member `result` of a JSON-RPC response. -/
def rpcResult : PyValue → Except PyException PyValue
  | .dict document =>
      match PyValue.get document (pyText "error") with
      | .none => .ok (PyValue.get document (pyText "result"))
      | _ => fail (pyText "OpenWrt JSON-RPC request failed")
  | _ => fail (pyText "OpenWrt RPC response is not an object")

def request : Rpc PyValue := do
  let document ← client.pinned.fetch runtime client.target
  rpcResult document

/-- The payload of a `ubus` result: a status, zero, and what follows it. A
Boolean counts as the integer that it is in Python. -/
def resultPayload (result : PyValue) (operation : PyText) : Except PyException PyValue :=
  match result with
  | .list (.integer status :: payload) =>
      if status ≠ 0 then
        fail (pyText "OpenWrt " ++ operation ++ pyText " failed with ubus status "
          ++ pyText (toString status))
      else .ok (payload.headD (.dict []))
  | .list (.boolean status :: payload) =>
      if status then
        fail (pyText "OpenWrt " ++ operation ++ pyText " failed with ubus status True")
      else .ok (payload.headD (.dict []))
  | _ => fail (pyText "OpenWrt " ++ operation ++ pyText " returned an invalid result")

def isHexDigit (character : Nat) : Bool :=
  (0x30 ≤ character && character ≤ 0x39) || (0x41 ≤ character && character ≤ 0x46)
    || (0x61 ≤ character && character ≤ 0x66)

/-- `[0-9A-Fa-f]{32}`. -/
def isSession (session : PyText) : Bool := session.length = 32 && session.all isHexDigit

/-- The session token of a login payload. -/
def sessionOf : PyValue → Except PyException PyText
  | .dict payload =>
      match PyValue.get payload (pyText "ubus_rpc_session") with
      | .text session =>
          if isSession session then .ok session
          else fail (pyText "OpenWrt login returned no valid session token")
      | _ => fail (pyText "OpenWrt login returned no valid session token")
  | _ => fail (pyText "OpenWrt login returned no session object")

def login : Rpc PyText := do
  let result ← client.request runtime
  let payload ← resultPayload result (pyText "login")
  sessionOf payload

/-- `call`; the object and method names are the literals of the source. -/
def call (session : PyText) (objectName method : String) : Rpc PyValue := do
  if !isSession session then fail (pyText "OpenWrt session token is invalid")
  else
    let result ← client.request runtime
    resultPayload result (pyText objectName ++ pyText "." ++ pyText method)

end PinnedUbusClient

/-- `_object`. -/
def object (value : PyValue) (label : String) : Except PyException PyDict :=
  match value with
  | .dict items => .ok items
  | _ => fail (pyText "OpenWrt " ++ pyText label ++ pyText " response is not an object")

/-- A list of texts. -/
def asTexts : PyValue → Option (List PyText)
  | .list items => items.mapM fun item =>
      match item with
      | .text name => some name
      | _ => none
  | _ => none

/-- `_interface_records`. -/
def interfaceRecords (value : PyValue) : Except PyException (List PyDict) := do
  let document ← object value "network interface dump"
  match PyValue.asRecords (PyValue.get document (pyText "interface")) with
  | some records => .ok records
  | none => fail (pyText "OpenWrt network interface dump has no valid interface array")

/-- The one record of the uplink interface. -/
def uplinkOf (interfaces : List PyDict) (uplinkInterface : PyText) :
    Except PyException PyDict :=
  match interfaces.filter (PyValue.hasText · "interface" uplinkInterface) with
  | [uplink] => .ok uplink
  | _ => fail (pyText "OpenWrt uplink interface " ++ uplinkInterface
      ++ pyText " was not found uniquely")

/-- The device of the uplink, when it is named. -/
def interfaceDevice (uplink : PyDict) : Option PyText :=
  match PyValue.get uplink (pyText "device") with
  | .text device => if device = [] then none else some device
  | _ => none

def deviceNames (devicesDocument : PyDict) : Except PyException (List PyText) :=
  match asTexts (PyValue.get devicesDocument (pyText "devices")) with
  | some names => .ok names
  | none => fail (pyText "OpenWrt iwinfo devices response has no valid device array")

/-- A wireless device, its information and its associations. -/
structure Observation where
  name : PyText
  wirelessInfo : PyDict
  associations : PyDict

/-- The documents of one refresh. -/
structure Documents where
  board : PyDict
  system : PyDict
  uplink : PyDict
  observations : List Observation
  deviceStatus : PyDict

section gathering

variable (client : PinnedUbusClient)

def observe (session name : PyText) : Rpc Observation := do
  let info ← client.call runtime session "iwinfo" "info"
  let wirelessInfo ← object info "iwinfo info"
  let list ← client.call runtime session "iwinfo" "assoclist"
  let associations ← object list "iwinfo association list"
  pure { name, wirelessInfo, associations }

/-- The status of the uplink's device, when it has one. -/
def deviceStatusOf (session : PyText) : Option PyText → Rpc PyDict
  | none => pure []
  | some _ => do
      let status ← client.call runtime session "network.device" "status"
      object status "network device status"

/-- The requests of `build_snapshot`. -/
def gather (uplinkInterface : PyText) : Rpc Documents := do
  let session ← client.login runtime
  let board ← client.call runtime session "system" "board"
  let board ← object board "system board"
  let system ← client.call runtime session "system" "info"
  let system ← object system "system info"
  let dump ← client.call runtime session "network.interface" "dump"
  let interfaces ← interfaceRecords dump
  let uplink ← uplinkOf interfaces uplinkInterface
  let devices ← client.call runtime session "iwinfo" "devices"
  let devices ← object devices "iwinfo devices"
  let names ← deviceNames devices
  let observations ← names.mapM (observe runtime client session)
  let deviceStatus ← deviceStatusOf runtime client session (interfaceDevice uplink)
  pure { board, system, uplink, observations, deviceStatus }

end gathering

/-! ### The summary -/

/-- `mask in (None, 0)`. -/
def isNoneOrZero : PyValue → Bool
  | .none => true
  | .boolean value => !value
  | .integer value => value = 0
  | .real value => value = .finite 0
  | _ => false

def isDefaultRoute : PyValue → Bool
  | .dict route =>
      (PyValue.hasText route "target" (pyText "0.0.0.0")
        || PyValue.hasText route "target" (pyText "0.0.0.0/0"))
        && isNoneOrZero (PyValue.get route (pyText "mask"))
  | _ => false

/-- `_default_route_present`. -/
def defaultRoutePresent (interface : PyDict) : Bool :=
  match PyValue.get interface (pyText "route") with
  | .list routes => routes.any isDefaultRoute
  | _ => false

/-- `_ipv4_present`. -/
def ipv4Present (interface : PyDict) : Bool :=
  match PyValue.get interface (pyText "ipv4-address") with
  | .list addresses => addresses.any PyValue.isDict
  | _ => false

def hasBssid (info : PyDict) : Bool :=
  match PyValue.get info (pyText "bssid") with
  | .text bssid => bssid ≠ [] && bssid ≠ pyText "00:00:00:00:00:00"
  | _ => false

/-- `_connected_wireless`. -/
def connectedWireless (info associations : PyDict) : Bool :=
  hasBssid info ||
    match PyValue.get associations (pyText "results") with
    | .list results => !results.isEmpty
    | _ => false

/-- `str(info.get("mode", "")).lower() in (...)`. -/
def isStation (observation : Observation) : Bool :=
  let mode := runtime.loweredStr
    ((observation.wirelessInfo.lookup (pyText "mode")).getD (.text []))
  mode = pyText "client" || mode = pyText "station" || mode = pyText "sta"

/-- `_select_station`. -/
def selectStation (observations : List Observation) (device : Option PyText) :
    Option Observation :=
  (device.bind fun device => observations.find? fun observation => observation.name = device)
    |>.or (observations.find? (isStation runtime))

/-- `_release_description`. -/
def releaseDescription (board : PyDict) : PyValue :=
  match PyValue.get board (pyText "release") with
  | .dict release =>
      match PyValue.get release (pyText "description") with
      | .text description => .text description
      | _ => .none
  | _ => .none

/-- `_load_average`: a 16.16 fixed-point value. -/
def loadAverage (value : PyValue) : Except PyException (Option Double) :=
  match number value with
  | none => .ok none
  | some number => do
      let value ← number.toFloat runtime
      .ok (some (runtime.roundTo (Double.div runtime.round value (.finite 65536)) 2))

/-- The first entry of the load list. -/
def load1m (system : PyDict) : Except PyException (Option Double) :=
  match PyValue.get system (pyText "load") with
  | .list (first :: _) => loadAverage runtime first
  | _ => .ok none

/-- `round((1.0 - available / total) * 100.0, 1)`. -/
def memoryRatio (available total : Double) : Except PyException (Option Double) :=
  if total = .finite 0 then .error .zeroDivisionError
  else
    let used := Double.sub runtime.round (.finite 1) (Double.div runtime.round available total)
    .ok (some (runtime.roundTo (Double.mul runtime.round used (.finite 100)) 1))

def memoryUtilization (system : PyDict) : Except PyException (Option Double) :=
  match PyValue.get system (pyText "memory") with
  | .dict memory =>
      match number (PyValue.get memory (pyText "available")),
          number (PyValue.get memory (pyText "total")) with
      | some available, some total =>
          if total.isZero then .ok none
          else do
            let available ← available.toFloat runtime
            let total ← total.toFloat runtime
            memoryRatio runtime available total
      | _, _ => .ok none
  | _ => .ok none

/-- A noise of zero is no measurement. -/
def noiseOf (info : PyDict) : Option PyNumber :=
  (number (PyValue.get info (pyText "noise"))).filter (!·.isZero)

def wirelessSection (station : Option Observation) (connected : Bool) : PyDict :=
  let info := (station.map (·.wirelessInfo)).getD []
  [(pyText "station_present", .boolean station.isSome),
    (pyText "connected", .boolean connected),
    (pyText "signal_dbm", numberField info "signal"),
    (pyText "noise_dbm", ofNumber (noiseOf info)),
    (pyText "quality", numberField info "quality"),
    (pyText "quality_max", numberField info "quality_max")]

def booleanField (document : PyDict) (name : String) : PyValue :=
  match PyValue.get document (pyText name) with
  | .boolean value => .boolean value
  | _ => .none

def isTrue : PyValue → Bool
  | .boolean value => value
  | _ => false

/-- What the summary finds out before it lays out the document. -/
structure Findings where
  station : Option Observation
  wirelessConnected : Bool
  interfaceUp : Bool
  addressAssigned : Bool
  defaultRoute : Bool

namespace Findings

def pathReady (findings : Findings) : Bool :=
  findings.interfaceUp && findings.addressAssigned && findings.defaultRoute

def bridgeReady (findings : Findings) : Bool :=
  findings.pathReady && findings.wirelessConnected

def bridgeStatus (findings : Findings) : String :=
  if findings.bridgeReady then "ok" else if findings.pathReady then "warn" else "fail"

end Findings

def findingsOf (documents : Documents) : Findings :=
  let station := selectStation runtime documents.observations (interfaceDevice documents.uplink)
  { station
    wirelessConnected := match station with
      | some station => connectedWireless station.wirelessInfo station.associations
      | none => false
    interfaceUp := isTrue (PyValue.get documents.uplink (pyText "up"))
    addressAssigned := ipv4Present documents.uplink
    defaultRoute := defaultRoutePresent documents.uplink }

def bridgeSection (documents : Documents) (findings : Findings) (load memory : Option Double) :
    PyDict :=
  [(pyText "monitor", statusSection findings.bridgeStatus),
    (pyText "model", PyValue.get documents.board (pyText "model")),
    (pyText "firmware", releaseDescription documents.board),
    (pyText "uptime_sec", numberField documents.system "uptime"),
    (pyText "load_1m", ofDouble load),
    (pyText "memory_utilization_pct", ofDouble memory),
    (pyText "wireless", .dict (wirelessSection findings.station findings.wirelessConnected))]

def starlinkSection (documents : Documents) (findings : Findings) : PyDict :=
  [(pyText "monitor", statusSection (if findings.pathReady then "ok" else "fail")),
    (pyText "path_state",
      .text (pyText (if findings.pathReady then "ready" else "unavailable"))),
    (pyText "interface_up", .boolean findings.interfaceUp),
    (pyText "address_assigned", .boolean findings.addressAssigned),
    (pyText "default_route_present", .boolean findings.defaultRoute),
    (pyText "interface_uptime_sec", numberField documents.uplink "uptime"),
    (pyText "device_up", booleanField documents.deviceStatus "up"),
    (pyText "telemetry_scope", .text (pyText "router-path"))]

def source : PyValue := .text (pyText "openwrt-starlink-bridge")

/-- The document that `build_snapshot` returns. -/
def layOut (documents : Documents) (findings : Findings) (load memory : Option Double)
    (updatedAt : PyText) : PyDict :=
  [(pyText "schema_version", .integer 1),
    (pyText "source", source),
    (pyText "updated_at", .text updatedAt),
    (pyText "monitor", statusSection
      (if findings.bridgeReady && findings.pathReady then "ok" else "fail")),
    (pyText "bridge", .dict (bridgeSection documents findings load memory)),
    (pyText "starlink", .dict (starlinkSection documents findings))]

def summarize (documents : Documents) (updatedAt : PyText) : Except PyException PyDict := do
  let memory ← memoryUtilization runtime documents.system
  let load ← load1m runtime documents.system
  .ok (layOut documents (findingsOf runtime documents) load memory updatedAt)

/-- `build_snapshot`, against the exchanges that its requests find. -/
def buildSnapshot (client : PinnedUbusClient) (uplinkInterface updatedAt : PyText)
    (exchanges : List Exchange) : Except PyException PyDict := do
  let (documents, _) ← (gather runtime client uplinkInterface).run exchanges
  summarize runtime documents updatedAt

/-! ### The store -/

/-- `document.setdefault(name, {})["monitor"] = ...`. -/
def failSection (document : PyDict) (name : String) : Except PyException PyDict :=
  match document.lookup (pyText name) with
  | none => .ok (PyValue.setItem document (pyText name)
      (.dict [(pyText "monitor", communicationFailure)]))
  | some (.dict items) => .ok (PyValue.setItem document (pyText name)
      (.dict (PyValue.setItem items (pyText "monitor") communicationFailure)))
  | some _ => .error .typeError

/-- Served before the first success. -/
def emptyDocument : PyDict :=
  [(pyText "schema_version", .integer 1),
    (pyText "source", source),
    (pyText "bridge", .dict [(pyText "monitor", communicationFailure)]),
    (pyText "starlink", .dict [(pyText "monitor", communicationFailure)])]

/-- The document of a collector whose last attempt failed. -/
def failDocument (document : PyDict) : Except PyException PyDict := do
  let document ← failSection
    (PyValue.setItem document (pyText "monitor") communicationFailure) "bridge"
  failSection document "starlink"

def markDocument (store : SnapshotStore) (document : PyDict) : Except PyException PyDict :=
  if store.error.isNone then .ok document else failDocument document

/-- `SnapshotStore.response`. -/
def response (store : SnapshotStore) : Except PyException PyDict := do
  let document ← store.copyDocument runtime emptyDocument
  let document ← markDocument store document
  .ok (store.withCollector document)

/-- The response says that the collector failed. -/
def ReportsFailure (store : SnapshotStore) : Prop :=
  ∃ document, response runtime store = .ok document ∧
    SnapshotStore.HasStatus document "monitor" "communication_failure" ∧
    SnapshotStore.HasStatus document "collector" "error"

/-- A document that the response can fail: its two sections are objects. -/
def HasSections (document : PyDict) : Prop :=
  ∀ name ∈ ["bridge", "starlink"], ∃ items, document.lookup (pyText name) = some (.dict items)

/-- A section that is there is marked as failed. -/
theorem failSection_of_dict {document items : PyDict} {name : String}
    (here : document.lookup (pyText name) = some (.dict items)) :
    failSection document name = .ok (PyValue.setItem document (pyText name)
      (.dict (PyValue.setItem items (pyText "monitor") communicationFailure))) := by
  rw [failSection, here]

/-- A document with its sections can be failed, and its monitor then says so. -/
theorem exists_failDocument {document : PyDict} (sections : HasSections document) :
    ∃ failed, failDocument document = .ok failed ∧
      PyValue.get failed (pyText "monitor") = communicationFailure := by
  obtain ⟨bridge, hbridge⟩ := sections "bridge" (by decide)
  obtain ⟨starlink, hstarlink⟩ := sections "starlink" (by decide)
  have first : (PyValue.setItem document (pyText "monitor") communicationFailure).lookup
      (pyText "bridge") = some (.dict bridge) := by
    rw [PyValue.lookup_setItem, if_neg (by decide), hbridge]
  have second : (PyValue.setItem
      (PyValue.setItem document (pyText "monitor") communicationFailure) (pyText "bridge")
        (.dict (PyValue.setItem bridge (pyText "monitor") communicationFailure))).lookup
      (pyText "starlink") = some (.dict starlink) := by
    rw [PyValue.lookup_setItem, if_neg (by decide), PyValue.lookup_setItem,
      if_neg (by decide), hstarlink]
  refine ⟨_, Outcome.bind_eq_ok.mpr ⟨_, failSection_of_dict first,
    failSection_of_dict second⟩, ?_⟩
  rw [PyValue.get_setItem, if_neg (by decide), PyValue.get_setItem, if_neg (by decide),
    PyValue.get_setItem, if_pos rfl]

/-- The empty document has its sections. -/
theorem hasSections_emptyDocument : HasSections emptyDocument := by
  intro name hname
  rcases List.mem_pair.mp hname with rfl | rfl
  · exact ⟨_, rfl⟩
  · exact ⟨_, rfl⟩

/-- A store with an error reports it. -/
theorem reportsFailure {store : SnapshotStore} {message : PyText}
    (invariant : store.DocumentsSatisfy runtime HasSections)
    (failed : store.error = some message) : ReportsFailure runtime store := by
  obtain ⟨document, copied, sections⟩ :=
    store.exists_copyDocument invariant hasSections_emptyDocument
  obtain ⟨marked, hmarked, monitor⟩ := exists_failDocument sections
  have marks : markDocument store document = .ok marked := by
    rw [markDocument, failed, Option.isNone_some, if_neg (by decide), hmarked]
  refine ⟨store.withCollector marked, ?_, ?_, ?_⟩
  · exact Outcome.bind_eq_ok.mpr ⟨document, copied, Outcome.bind_eq_ok.mpr ⟨marked, marks, rfl⟩⟩
  · exact SnapshotStore.hasStatus_of_get monitor
  · exact SnapshotStore.hasStatus_withCollector failed marked

/-! ### When every exception is the collector's own -/

open Outcome

/-- The configured endpoint path can be written in a request. -/
abbrev PinnedUbusClient.TargetSendable (client : PinnedUbusClient) : Prop :=
  client.pinned.CanSend client.target

/-- The numbers that become floats do, and the model is no deep document. -/
structure Documents.Convertible (documents : Documents) : Prop where
  load : ∀ first rest value,
    PyValue.get documents.system (pyText "load") = .list (first :: rest) →
      number first = some value → value.FloatDefined
  memory : ∀ memory available total,
    PyValue.get documents.system (pyText "memory") = .dict memory →
      number (PyValue.get memory (pyText "available")) = some available →
        number (PyValue.get memory (pyText "total")) = some total → total.isZero = false →
          available.FloatDefined ∧ total.FloatDefined
  model : 2 + (PyValue.get documents.board (pyText "model")).depth
    ≤ min runtime.refreshDepth runtime.serverDepth

section gathering

variable {client : PinnedUbusClient}

/-- What is no object is refused by the script's own error. -/
theorem object_failsWith (value : PyValue) (label : String) :
    FailsWith PyException.Own (object value label) := by
  unfold object
  split
  · exact FailsWith.ok _
  · exact fail_failsWith _

/-- So is a document without a result. -/
theorem rpcResult_failsWith (document : PyValue) :
    FailsWith PyException.Own (PinnedUbusClient.rpcResult document) := by
  unfold PinnedUbusClient.rpcResult
  split
  · split
    · exact FailsWith.ok _
    · exact fail_failsWith _
  · exact fail_failsWith _

/-- So is a result without a payload. -/
theorem resultPayload_failsWith (result : PyValue) (operation : PyText) :
    FailsWith PyException.Own (PinnedUbusClient.resultPayload result operation) := by
  unfold PinnedUbusClient.resultPayload
  split
  · split
    · exact fail_failsWith _
    · exact FailsWith.ok _
  · split
    · exact fail_failsWith _
    · exact FailsWith.ok _
  · exact fail_failsWith _

/-- So is a payload without a session. -/
theorem sessionOf_failsWith (payload : PyValue) :
    FailsWith PyException.Own (PinnedUbusClient.sessionOf payload) := by
  unfold PinnedUbusClient.sessionOf
  split
  · split
    · split
      · exact FailsWith.ok _
      · exact fail_failsWith _
    · exact fail_failsWith _
  · exact fail_failsWith _

/-- So are interfaces that are no list of objects. -/
theorem interfaceRecords_failsWith (value : PyValue) :
    FailsWith PyException.Own (interfaceRecords value) := by
  apply (object_failsWith value _).bind
  intro document _
  split
  · exact FailsWith.ok _
  · exact fail_failsWith _

/-- So is a list without the uplink. -/
theorem uplinkOf_failsWith (interfaces : List PyDict) (uplinkInterface : PyText) :
    FailsWith PyException.Own (uplinkOf interfaces uplinkInterface) := by
  unfold uplinkOf
  split
  · exact FailsWith.ok _
  · exact fail_failsWith _

/-- So are devices without names. -/
theorem deviceNames_failsWith (devicesDocument : PyDict) :
    FailsWith PyException.Own (deviceNames devicesDocument) := by
  unfold deviceNames
  split
  · exact FailsWith.ok _
  · exact fail_failsWith _

/-- A program that only ends early with the collector's own exception, as long as
the exchanges that are left are handled. -/
abbrev Contained {α : Type} (client : PinnedUbusClient) (program : Rpc α) : Prop :=
  Keeps PyException.Own (client.pinned.AllHandled runtime) (fun _ => True) program

variable {runtime}

/-- A computation without exchanges keeps the rest of them. -/
theorem contained_lift {α : Type} {computation : Except PyException α}
    (h : FailsWith PyException.Own computation) :
    Contained runtime client (liftM computation) :=
  Keeps.lift h fun _ _ => trivial

/-- One request takes one exchange and fails by the script's own error only. -/
theorem request_contained (sendable : client.TargetSendable) :
    Contained runtime client (client.request runtime) := by
  intro exchanges handled
  apply (client.pinned.fetch_keepsFrom runtime handled fun _ => sendable).bind
  exact fun document next _ kept _ => contained_lift (rpcResult_failsWith document) next kept

/-- So does the login. -/
theorem login_contained (sendable : client.TargetSendable) :
    Contained runtime client (client.login runtime) := by
  apply (request_contained sendable).bind
  intro result _
  apply (contained_lift (resultPayload_failsWith result _)).bind
  exact fun payload _ => contained_lift (sessionOf_failsWith payload)

/-- So does a call of a method. -/
theorem call_contained (sendable : client.TargetSendable) (session : PyText)
    (objectName method : String) :
    Contained runtime client (client.call runtime session objectName method) := by
  unfold PinnedUbusClient.call
  split
  · exact contained_lift (fail_failsWith _)
  · apply (request_contained sendable).bind
    exact fun result _ => contained_lift (resultPayload_failsWith result _)

/-- A call whose answer must be an object. -/
theorem callObject_contained (sendable : client.TargetSendable) (session : PyText)
    (objectName method label : String) {α : Type} {rest : PyDict → Rpc α}
    (hrest : ∀ items, Contained runtime client (rest items)) :
    Contained runtime client (client.call runtime session objectName method >>= fun value =>
      liftM (object value label) >>= rest) := by
  apply (call_contained sendable session objectName method).bind
  intro value _
  exact (contained_lift (object_failsWith value label)).bind fun items _ => hrest items

/-- Observing an object fails by the script's own error only. -/
theorem observe_contained (sendable : client.TargetSendable) (session name : PyText) :
    Contained runtime client (observe runtime client session name) := by
  apply callObject_contained sendable
  intro info
  apply callObject_contained sendable
  exact fun associations => Keeps.pure trivial

/-- So does observing the uplink's device. -/
theorem deviceStatusOf_contained (sendable : client.TargetSendable) (session : PyText)
    (device : Option PyText) :
    Contained runtime client (deviceStatusOf runtime client session device) := by
  cases device with
  | none => exact Keeps.pure trivial
  | some device =>
      apply (call_contained sendable session _ _).bind
      exact fun value _ => contained_lift (object_failsWith value _)

/-- So does everything an iteration asks the router. -/
theorem gather_contained (sendable : client.TargetSendable) (uplinkInterface : PyText) :
    Contained runtime client (gather runtime client uplinkInterface) := by
  apply (login_contained sendable).bind
  intro session _
  apply callObject_contained sendable
  intro board
  apply callObject_contained sendable
  intro system
  apply (call_contained sendable session _ _).bind
  intro dump _
  apply (contained_lift (interfaceRecords_failsWith dump)).bind
  intro interfaces _
  apply (contained_lift (uplinkOf_failsWith interfaces uplinkInterface)).bind
  intro uplink _
  apply callObject_contained sendable
  intro devices
  apply (contained_lift (deviceNames_failsWith devices)).bind
  intro names _
  apply (Keeps.mapM (observe_contained sendable session)).bind
  intro observations _
  apply (deviceStatusOf_contained sendable session (interfaceDevice uplink)).bind
  exact fun deviceStatus _ => Keeps.pure trivial

/-- The requests are contained when the first can be sent, or is not sent at all. -/
theorem gather_keepsFrom {exchanges : List Exchange} (uplinkInterface : PyText)
    (sendable : PinnedClient.NextPinned exchanges → client.TargetSendable)
    (handled : client.pinned.AllHandled runtime exchanges) :
    KeepsFrom PyException.Own (client.pinned.AllHandled runtime) (fun _ => True)
      (gather runtime client uplinkInterface) exchanges := by
  by_cases pinned : PinnedClient.NextPinned exchanges
  · exact gather_contained (sendable pinned) uplinkInterface exchanges handled
  · obtain ⟨message, stops⟩ :=
      @PinnedClient.fetch_of_not_nextPinned client.pinned runtime client.target _ pinned handled
    have ends : (client.login runtime).run exchanges = .error (.collector message) :=
      run_bind_error (run_bind_error stops)
    exact KeepsFrom.of_error (run_bind_error ends) ⟨message, rfl⟩

end gathering

section summary

variable {runtime}

/-- The load of convertible documents is read. -/
theorem load1m_failsWith {documents : Documents} (convertible : documents.Convertible runtime) :
    FailsWith PyException.Own (load1m runtime documents.system) := by
  unfold load1m
  split
  next first rest loads =>
    unfold loadAverage
    split
    · exact FailsWith.ok none
    next value numeric =>
      have defined := convertible.load first rest value loads numeric
      apply ((value.toFloat_failsWith_iff runtime).mpr defined).bind
      exact fun _ _ => FailsWith.ok _
  · exact FailsWith.ok none

/-- A number other than zero stays one as a float. -/
theorem toFloat_ne_zero (lawful : runtime.Lawful) {number : PyNumber} {value : Double}
    (nonzero : number.isZero = false) (converted : number.toFloat runtime = .ok value) :
    value ≠ .finite 0 := by
  cases number with
  | integer integer =>
      have hinteger : integer ≠ 0 := by
        simpa [PyNumber.isZero] using nonzero
      by_cases inside : InFloatRange integer
      · rw [PyNumber.toFloat, if_pos inside] at converted
        exact Except.ok.inj converted ▸ lawful.round_ne_zero integer hinteger
      · rw [PyNumber.toFloat, if_neg inside] at converted
        cases converted
  | real real =>
      cases converted
      simpa [PyNumber.isZero] using nonzero

/-- So is the use of the memory. -/
theorem memoryUtilization_failsWith (lawful : runtime.Lawful) {documents : Documents}
    (convertible : documents.Convertible runtime) :
    FailsWith PyException.Own (memoryUtilization runtime documents.system) := by
  unfold memoryUtilization
  split
  next memory hmemory =>
    split
    next available total havailable htotal =>
      split
      · exact FailsWith.ok none
      next nonzero =>
        have hnonzero : total.isZero = false := Bool.eq_false_of_not_eq_true nonzero
        have defined := convertible.memory memory available total hmemory havailable htotal
          hnonzero
        apply ((available.toFloat_failsWith_iff runtime).mpr defined.1).bind
        intro available _
        apply ((total.toFloat_failsWith_iff runtime).mpr defined.2).bind
        intro divisor converted
        rw [memoryRatio, if_neg (toFloat_ne_zero lawful hnonzero converted)]
        exact FailsWith.ok _
    · exact FailsWith.ok none
  · exact FailsWith.ok none

/-- So is the whole summary. -/
theorem summarize_failsWith (lawful : runtime.Lawful) {documents : Documents}
    (convertible : documents.Convertible runtime) (updatedAt : PyText) :
    FailsWith PyException.Own (summarize runtime documents updatedAt) := by
  apply (memoryUtilization_failsWith lawful convertible).bind
  intro memory _
  apply (load1m_failsWith convertible).bind
  exact fun load _ => FailsWith.ok _

theorem depth_releaseDescription (board : PyDict) : (releaseDescription board).depth = 1 := by
  unfold releaseDescription
  split
  · split
    · rfl
    · rfl
  · rfl

theorem depth_booleanField (document : PyDict) (name : String) :
    (booleanField document name).depth = 1 := by
  unfold booleanField
  split
  · rfl
  · rfl

/-- The only part of the document whose nesting the peer decides is the model. -/
theorem depth_layOut (documents : Documents) (findings : Findings) (load memory : Option Double)
    (updatedAt : PyText) :
    (PyValue.dict (layOut documents findings load memory updatedAt)).depth
      ≤ max 4 (2 + (PyValue.get documents.board (pyText "model")).depth) := by
  simp only [layOut, bridgeSection, starlinkSection, wirelessSection, source, statusSection,
    numberField, PyValue.depth, PyValue.depthMembers, depth_ofNumber, depth_ofDouble,
    depth_releaseDescription, depth_booleanField]
  omega

end summary

/-! ### Refreshes -/

/-- What the outside does in one iteration: the exchanges that take place, and
the two readings of the clock. -/
structure Iteration where
  exchanges : List Exchange
  updatedAt : PyText
  timestamp : PyText

section refreshing

variable (client : PinnedUbusClient) (uplinkInterface : PyText)

def refreshOnce (iteration : Iteration) (store : SnapshotStore) :
    RefreshLoop.Attempt SnapshotStore :=
  store.refreshOnce runtime
    (buildSnapshot runtime client uplinkInterface iteration.updatedAt iteration.exchanges)
    iteration.timestamp

/-- Every exchange is handled, and when all requests are answered the documents
convert. -/
structure Safe (iteration : Iteration) : Prop where
  target : PinnedClient.NextPinned iteration.exchanges → client.TargetSendable
  exchanges : client.pinned.AllHandled runtime iteration.exchanges
  documents : ∀ documents rest,
    (gather runtime client uplinkInterface).run iteration.exchanges = .ok (documents, rest) →
      documents.Convertible runtime

variable {runtime client uplinkInterface} {iteration : Iteration}

/-- A safe iteration builds its document or fails by the script's own error. -/
theorem buildSnapshot_failsWith (lawful : runtime.Lawful)
    (safe : Safe runtime client uplinkInterface iteration) (updatedAt : PyText) :
    FailsWith PyException.Own
      (buildSnapshot runtime client uplinkInterface updatedAt iteration.exchanges) := by
  have gathered := gather_keepsFrom uplinkInterface safe.target safe.exchanges
  apply gathered.1.bind
  intro (documents, rest) reached
  exact summarize_failsWith lawful (safe.documents documents rest reached) updatedAt

/-- What it builds can be published. -/
theorem publishable (lawful : runtime.Lawful)
    (safe : Safe runtime client uplinkInterface iteration) {updatedAt : PyText}
    {document : PyDict} (built : buildSnapshot runtime client uplinkInterface updatedAt
      iteration.exchanges = .ok document) :
    SnapshotStore.Publishable runtime HasSections document := by
  obtain ⟨⟨documents, rest⟩, gathered, summarized⟩ := bind_eq_ok.mp built
  obtain ⟨memory, _, summarized⟩ := bind_eq_ok.mp summarized
  obtain ⟨load, _, summarized⟩ := bind_eq_ok.mp summarized
  cases summarized
  have convertible := safe.documents documents rest gathered
  refine ⟨?_, ?_⟩
  · calc _ ≤ max 4 (2 + (PyValue.get documents.board (pyText "model")).depth) :=
          depth_layOut documents _ load memory updatedAt
      _ ≤ min runtime.refreshDepth runtime.serverDepth :=
          max_le (le_min lawful.refreshDepth lawful.serverDepth) convertible.model
  · intro name hname
    rcases List.mem_pair.mp hname with rfl | rfl
    · exact ⟨_, rfl⟩
    · exact ⟨_, rfl⟩

/-- A safe iteration stores its document or reports its failure. -/
theorem refreshOnce_contained (lawful : runtime.Lawful)
    (safe : Safe runtime client uplinkInterface iteration) :
    RefreshLoop.Contained (refreshOnce runtime client uplinkInterface)
      (SnapshotStore.DocumentsSatisfy · runtime HasSections) (ReportsFailure runtime)
      iteration := by
  intro store invariant
  apply SnapshotStore.refreshOnce_contained (buildSnapshot_failsWith lawful safe _)
  · exact fun document built => publishable lawful safe built
  · exact fun store message invariant failed => reportsFailure runtime invariant failed
  · exact invariant

/-- A run of safe iterations is honest. -/
theorem honest (lawful : runtime.Lawful) {iterations : List Iteration}
    (safe : ∀ iteration ∈ iterations, Safe runtime client uplinkInterface iteration) :
    RefreshLoop.Honest (refreshOnce runtime client uplinkInterface) (ReportsFailure runtime)
      {} iterations := by
  have start : SnapshotStore.DocumentsSatisfy {} runtime HasSections :=
    fun _ impossible => nomatch impossible
  exact RefreshLoop.honest_of_contained start (reportsFailure runtime start rfl)
    fun iteration hiteration => refreshOnce_contained lawful (safe iteration hiteration)

end refreshing

end PixelStatus.OpenWrt
