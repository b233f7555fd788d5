/-
# Reading pull monitors

The readers of the four network monitors share their host, port and timeout
fields. A pull monitor is read by the reader that its type names.
-/

import PixelStatus.Core.Config.Evaluation
import PixelStatus.Core.Config.HttpMonitors

namespace PixelStatus

open Logged

def validNetworkHost : Bytes → Bool := isNetworkHost maximumHostBytes

/-- The host, when it is valid. -/
def parseHost (monitor : Members) (path : Bytes) : Loading (Option Bytes) := do
  match ← requiredString monitor "host" path with
  | none => return none
  | some host =>
      if validNetworkHost host then return some host
      else reject (path
        ++ bytes ".host must be a hostname or unbracketed IP address of at most 253 bytes")

def parsePort (monitor : Members) (path : Bytes) : Loading (Option UInt16) := do
  let port ← boundedSize monitor "port" path 1 65535
  return port.map UInt16.ofNat

def parseTcpConnectMonitor (monitor : Members) (path : Bytes) :
    Loading (Option TcpConnectMonitorConfig) := do
  let host ← parseHost monitor path
  let port ← parsePort monitor path
  let timeout ← parseTimeout monitor path
  match host, port, timeout with
  | some host, some port, some timeout => return some { host, port, timeout }
  | _, _, _ => return none

def parseIcmpPingMonitor (monitor : Members) (path : Bytes) :
    Loading (Option IcmpPingMonitorConfig) := do
  let host ← parseHost monitor path
  let timeout ← parseTimeout monitor path
  match host, timeout with
  | some host, some timeout => return some { host, timeout }
  | _, _ => return none

/-- The one observation of a monitor, which is switched on by `true`. -/
def parseObservation {α : Type} (names : List (String × α)) (monitor : Members) (path : Bytes) :
    Loading (Option α) :=
  let observePath := fieldPath path "observe"
  match monitor.field "observe" with
  | some (.object [(key, .boolean true)]) =>
      match names.find? fun entry => bytes entry.1 = key with
      | some (_, observation) => return some observation
      | none => reject (observePath ++ bytes " contains an unknown observation")
  | some (.object [_]) => reject (observePath ++ bytes " values must be true")
  | _ => reject (observePath ++ bytes " must define exactly one observation")

/-- The text that ends an answer. -/
def parseReadUntil (monitor : Members) (path : Bytes) : Loading (Option Bytes) :=
  let wrongSize := path ++ bytes ".read_until must contain 1-256 bytes"
  match monitor.field "read_until" with
  | some (.string delimiter) =>
      if delimiter = [] ∨ delimiter.length > maximumTcpDelimiterBytes then reject wrongSize
      else return some delimiter
  | _ => reject wrongSize

/-- The byte limit of an answer, which has room for its delimiter. -/
def parseAnswerLimit (monitor : Members) (path : Bytes) (delimiter : Option Bytes) :
    Loading (Option Nat) := do
  match ← parseResponseLimit monitor path, delimiter with
  | some limit, some delimiter =>
      if limit < delimiter.length then
        reject (path
          ++ bytes ".maximum_response_bytes must be at least the read_until byte length")
      else return some limit
  | limit, _ => return limit

def parseTcpExchangeMonitor (monitor : Members) (path : Bytes) :
    Loading (Option TcpExchangeMonitorConfig) := do
  let host ← parseHost monitor path
  let port ← parsePort monitor path
  let timeout ← parseTimeout monitor path
  let send ← boundedText monitor "send" maximumTcpSendBytes
    (path ++ bytes ".send must be a string of at most 4096 bytes")
  let readUntil ← parseReadUntil monitor path
  let limit ← parseAnswerLimit monitor path readUntil
  let observation ← parseObservation [("body", .body), ("latency_ms", .latencyMs)] monitor path
  match host, port, timeout, send, readUntil, limit, observation with
  | some host, some port, some timeout, some send, some readUntil, some limit,
      some observation =>
      return some
        { host, port, timeout, send, readUntil, maximumResponseBytes := limit, observation }
  | _, _, _, _, _, _, _ => return none

/-- The address family, any by default. -/
def parseFamily (monitor : Members) (path : Bytes) : Loading (Option DnsAddressFamily) :=
  let unknown := path ++ bytes ".family must be any, ipv4, or ipv6"
  match monitor.field "family" with
  | none => return some .any
  | some (.string family) =>
      if family = bytes "any" then return some .any
      else if family = bytes "ipv4" then return some .ipv4
      else if family = bytes "ipv6" then return some .ipv6
      else reject unknown
  | some _ => reject unknown

def parseDnsMonitor (monitor : Members) (path : Bytes) : Loading (Option DnsMonitorConfig) := do
  let host ← parseHost monitor path
  let family ← parseFamily monitor path
  let timeout ← parseTimeout monitor path
  let observation ← parseObservation
    [("addresses", .addresses), ("address_count", .addressCount), ("latency_ms", .latencyMs)]
    monitor path
  match host, family, timeout, observation with
  | some host, some family, some timeout, some observation =>
      return some { host, family, observation, timeout }
  | _, _, _, _ => return none

/-! ## Pull monitors -/

variable (platform : Platform) (round : Rounding)

/-- A type of monitor: the fields it allows and the reader of its source. -/
structure MonitorKind where
  fields : List String
  parse : Members → Bytes → Loading (Option MonitorSourceConfig)

/-- A reader of one alternative as a reader of a source. -/
def asSource {α : Type} (wrap : α → MonitorSourceConfig)
    (parse : Members → Bytes → Loading (Option α)) (monitor : Members) (path : Bytes) :
    Loading (Option MonitorSourceConfig) := do
  let config ← parse monitor path
  return config.map wrap

def monitorKinds : List (String × MonitorKind) :=
  [("http",
      { fields := ["id", "type", "url", "method", "headers", "body", "interval", "ttl",
          "timeout", "maximum_response_bytes", "observe", "evaluate",
          "transport_failure_status", "no_match_status"]
        parse := asSource .http (parseHttpMonitor round) }),
    ("tcp_connect",
      { fields := ["id", "type", "host", "port", "interval", "ttl", "timeout", "evaluate",
          "transport_failure_status", "no_match_status"]
        parse := asSource .tcpConnect parseTcpConnectMonitor }),
    ("icmp_ping",
      { fields := ["id", "type", "host", "interval", "ttl", "timeout", "evaluate",
          "transport_failure_status", "no_match_status"]
        parse := asSource .icmpPing parseIcmpPingMonitor }),
    ("tcp_exchange",
      { fields := ["id", "type", "host", "port", "interval", "ttl", "timeout", "send",
          "read_until", "maximum_response_bytes", "observe", "evaluate",
          "transport_failure_status", "no_match_status"]
        parse := asSource .tcpExchange parseTcpExchangeMonitor }),
    ("dns",
      { fields := ["id", "type", "host", "family", "interval", "ttl", "timeout", "observe",
          "evaluate", "transport_failure_status", "no_match_status"]
        parse := asSource .dns parseDnsMonitor })]

def monitorKind (type : Bytes) : Option MonitorKind :=
  ((monitorKinds round).find? fun entry => bytes entry.1 = type).map Prod.snd

/-- Report the fields that a monitor of this type cannot have, and an unknown
type. -/
def checkMonitorFields (monitor : Members) (path : Bytes) (type : Option Bytes) :
    Loading Unit := do
  match type.bind (monitorKind round) with
  | some kind => rejectUnknownFields monitor kind.fields path
  | none =>
      rejectUnknownFields monitor
        ["id", "type", "url", "method", "headers", "body", "host", "port", "family",
          "interval", "ttl", "timeout", "send", "read_until", "maximum_response_bytes",
          "observe", "evaluate", "transport_failure_status", "no_match_status"] path
      match type with
      | some _ =>
          addError (path
            ++ bytes ".type must be http, tcp_connect, icmp_ping, tcp_exchange, or dns")
      | none => return ()

/-- A duration that has to be there. -/
def requiredDuration (object : Members) (key : String) (path : Bytes)
    (minimum maximum : Duration) : Loading (Option Duration) :=
  match object.field key with
  | none => reject (fieldPath path key ++ bytes " is required")
  | some field => boundedDurationValue field (fieldPath path key) minimum maximum

/-- The lifetime of a state, if the monitor gives one. -/
def parseTtl (monitor : Members) (path : Bytes) : Loading (Option (Option Duration)) := do
  match monitor.field "ttl" with
  | none => return some none
  | some field =>
      let ttl ← boundedDurationValue field (fieldPath path "ttl") 1 maximumMonitorTtl
      return ttl.map some

/-- The source of a monitor whose type is known. -/
def parseSource (monitor : Members) (path : Bytes) (type : Option Bytes) :
    Loading (Option MonitorSourceConfig) :=
  match type.bind (monitorKind round) with
  | some kind => kind.parse monitor path
  | none => return none

def parsePullMonitor (monitor : Json) (path : Bytes) (statuses : Statuses) :
    Loading (Option PullMonitorConfig) := do
  match monitor with
  | .object monitor =>
      let id ← requiredIdentifier monitor "id" path
      let type ← requiredString monitor "type" path
      checkMonitorFields round monitor path type
      let interval ← requiredDuration monitor "interval" path minimumMonitorInterval
        maximumMonitorInterval
      let ttl ← parseTtl monitor path
      let evaluation ← parseEvaluationPolicy platform monitor path statuses
      let source ← parseSource round monitor path type
      match id, interval, ttl, evaluation, source with
      | some id, some interval, some ttl, some evaluation, some source =>
          return some { id, interval, ttl, evaluation, source }
      | _, _, _, _, _ => return none
  | _ => reject (path ++ bytes " must be an object")

/-! ## What is accepted -/

structure TcpConnectMonitorConfig.Accepted (config : TcpConnectMonitorConfig) : Prop where
  host : validNetworkHost config.host = true
  port : config.port ≠ 0
  timeout : TimeoutAccepted config.timeout

structure IcmpPingMonitorConfig.Accepted (config : IcmpPingMonitorConfig) : Prop where
  host : validNetworkHost config.host = true
  timeout : TimeoutAccepted config.timeout

structure TcpExchangeMonitorConfig.Accepted (config : TcpExchangeMonitorConfig) : Prop where
  host : validNetworkHost config.host = true
  port : config.port ≠ 0
  timeout : TimeoutAccepted config.timeout
  send : config.send.length ≤ maximumTcpSendBytes
  readUntil : config.readUntil ≠ [] ∧ config.readUntil.length ≤ maximumTcpDelimiterBytes
  responseLimit : ResponseLimitAccepted config.maximumResponseBytes
  room : config.readUntil.length ≤ config.maximumResponseBytes

structure DnsMonitorConfig.Accepted (config : DnsMonitorConfig) : Prop where
  host : validNetworkHost config.host = true
  timeout : TimeoutAccepted config.timeout

def MonitorSourceConfig.Accepted : MonitorSourceConfig → Prop
  | .http config => config.Accepted
  | .tcpConnect config => config.Accepted
  | .icmpPing config => config.Accepted
  | .tcpExchange config => config.Accepted
  | .dns config => config.Accepted

structure PullMonitorConfig.Accepted (platform : Platform) (statuses : Statuses)
    (config : PullMonitorConfig) : Prop where
  id : isValidIdentifier config.id = true
  interval : minimumMonitorInterval ≤ config.interval ∧ config.interval ≤ maximumMonitorInterval
  ttl : ∀ ttl ∈ config.ttl, 1 ≤ ttl ∧ ttl ≤ maximumMonitorTtl
  evaluation : PolicyAccepted platform statuses config.evaluation
  source : config.source.Accepted

variable {platform round} {monitor : Members} {path : Bytes}

/-- A host is a valid one. -/
theorem parseHost_ensures :
    Ensures (OfSome fun host => validNetworkHost host = true) (parseHost monitor path) := by
  apply requiredString_ensures.bindSome
  · exact Ensures.pure OfSome.none
  intro host _
  dsimp only
  split
  next valid => exact Ensures.pure (OfSome.some valid)
  · exact ensures_reject

/-- A port within the bounds is not zero as a word. -/
theorem ofNat_ne_zero_of_port {port : Nat} (h : 1 ≤ port ∧ port ≤ 65535) :
    UInt16.ofNat port ≠ 0 := by
  intro zero
  have value : (UInt16.ofNat port).toNat = port := UInt16.toNat_ofNat_of_lt (Nat.lt_succ_of_le h.2)
  rw [zero] at value
  exact absurd value (by simp; omega)

/-- A port is not zero. -/
theorem parsePort_ensures :
    Ensures (OfSome fun port : UInt16 => port ≠ 0) (parsePort monitor path) := by
  apply boundedSize_ensures.bindMap
  intro port inside
  exact ofNat_ne_zero_of_port inside

/-- A TCP connect monitor that is read is accepted. -/
theorem parseTcpConnectMonitor_ensures :
    Ensures (OfSome TcpConnectMonitorConfig.Accepted) (parseTcpConnectMonitor monitor path) := by
  apply parseHost_ensures.bind
  intro host hhost
  apply parsePort_ensures.bind
  intro port hport
  apply parseTimeout_ensures.bind
  intro timeout htimeout
  split
  next host port timeout =>
    exact Ensures.pure (OfSome.some ⟨hhost host rfl, hport port rfl, htimeout timeout rfl⟩)
  · exact Ensures.pure OfSome.none

/-- A ping monitor that is read is accepted. -/
theorem parseIcmpPingMonitor_ensures :
    Ensures (OfSome IcmpPingMonitorConfig.Accepted) (parseIcmpPingMonitor monitor path) := by
  apply parseHost_ensures.bind
  intro host hhost
  apply parseTimeout_ensures.bind
  intro timeout htimeout
  split
  next host timeout =>
    exact Ensures.pure (OfSome.some ⟨hhost host rfl, htimeout timeout rfl⟩)
  · exact Ensures.pure OfSome.none

/-- A delimiter is not empty and within its limit. -/
theorem parseReadUntil_ensures :
    Ensures (OfSome fun delimiter =>
      delimiter ≠ [] ∧ delimiter.length ≤ maximumTcpDelimiterBytes)
      (parseReadUntil monitor path) := by
  unfold parseReadUntil
  dsimp only
  split
  · split
    · exact ensures_reject
    next sized =>
      rw [not_or, Nat.not_lt] at sized
      exact Ensures.pure (OfSome.some sized)
  · exact ensures_reject

/-- The limit of an answer leaves room for the delimiter. -/
theorem parseAnswerLimit_ensures {delimiter : Option Bytes} :
    Ensures (OfSome fun limit => ResponseLimitAccepted limit ∧
      OfSome (fun delimiter => delimiter.length ≤ limit) delimiter)
      (parseAnswerLimit monitor path delimiter) := by
  apply parseResponseLimit_ensures.bindSome
  · exact Ensures.pure OfSome.none
  intro limit hlimit
  cases delimiter with
  | none => exact Ensures.pure (OfSome.some ⟨hlimit, OfSome.none⟩)
  | some delimiter =>
      dsimp only
      split
      · exact ensures_reject
      next room =>
        exact Ensures.pure (OfSome.some ⟨hlimit, OfSome.some (Nat.not_lt.mp room)⟩)

/-- A TCP exchange monitor that is read is accepted. -/
theorem parseTcpExchangeMonitor_ensures :
    Ensures (OfSome TcpExchangeMonitorConfig.Accepted)
      (parseTcpExchangeMonitor monitor path) := by
  apply parseHost_ensures.bind
  intro host hhost
  apply parsePort_ensures.bind
  intro port hport
  apply parseTimeout_ensures.bind
  intro timeout htimeout
  apply boundedText_ensures.bind
  intro send hsend
  apply parseReadUntil_ensures.bind
  intro readUntil hreadUntil
  apply parseAnswerLimit_ensures.bind
  intro limit hlimit
  apply Ensures.step
  intro observation
  split
  next host port timeout send readUntil limit observation =>
    apply Ensures.pure
    apply OfSome.some
    refine ⟨?_, ?_, ?_, ?_, ?_, ?_, ?_⟩
    · exact hhost host rfl
    · exact hport port rfl
    · exact htimeout timeout rfl
    · exact hsend send rfl
    · exact hreadUntil readUntil rfl
    · exact (hlimit limit rfl).1
    · exact (hlimit limit rfl).2 readUntil rfl
  · exact Ensures.pure OfSome.none

/-- A DNS monitor that is read is accepted. -/
theorem parseDnsMonitor_ensures :
    Ensures (OfSome DnsMonitorConfig.Accepted) (parseDnsMonitor monitor path) := by
  apply parseHost_ensures.bind
  intro host hhost
  apply Ensures.step
  intro family
  apply parseTimeout_ensures.bind
  intro timeout htimeout
  apply Ensures.step
  intro observation
  split
  next host family timeout observation =>
    exact Ensures.pure (OfSome.some ⟨hhost host rfl, htimeout timeout rfl⟩)
  · exact Ensures.pure OfSome.none

/-- Every kind's reader returns sources that are accepted. -/
theorem monitorKinds_ensures : ∀ entry ∈ monitorKinds round,
    ∀ monitor path, Ensures (OfSome MonitorSourceConfig.Accepted)
      (entry.2.parse monitor path) := by
  simp only [monitorKinds, List.forall_mem_cons]
  refine ⟨?_, ?_, ?_, ?_, ?_, List.forall_mem_nil _⟩
  · exact fun _ _ => parseHttpMonitor_ensures.bindMap fun _ accepted => accepted
  · exact fun _ _ => parseTcpConnectMonitor_ensures.bindMap fun _ accepted => accepted
  · exact fun _ _ => parseIcmpPingMonitor_ensures.bindMap fun _ accepted => accepted
  · exact fun _ _ => parseTcpExchangeMonitor_ensures.bindMap fun _ accepted => accepted
  · exact fun _ _ => parseDnsMonitor_ensures.bindMap fun _ accepted => accepted

/-- A source of any type that is read is accepted. -/
theorem parseSource_ensures {type : Option Bytes} :
    Ensures (OfSome MonitorSourceConfig.Accepted) (parseSource round monitor path type) := by
  unfold parseSource
  split
  next kind known =>
    obtain ⟨name, _, known⟩ := Option.bind_eq_some_iff.mp known
    obtain ⟨entry, found, rfl⟩ := Option.map_eq_some_iff.mp known
    exact monitorKinds_ensures entry (List.mem_of_find?_eq_some found) monitor path
  · exact Ensures.pure OfSome.none

/-- A duration that has to be there is within its bounds. -/
theorem requiredDuration_ensures {key : String} {minimum maximum : Duration} :
    Ensures (OfSome fun duration => minimum ≤ duration ∧ duration ≤ maximum)
      (requiredDuration monitor key path minimum maximum) := by
  unfold requiredDuration
  split
  · exact ensures_reject
  · exact boundedDurationValue_ensures

/-- A lifetime that is given is within its bounds. -/
theorem parseTtl_ensures :
    Ensures (OfSome fun ttl : Option Duration => ∀ span ∈ ttl, 1 ≤ span ∧ span ≤ maximumMonitorTtl)
      (parseTtl monitor path) := by
  unfold parseTtl
  split
  · exact Ensures.pure (OfSome.some fun _ absent => absurd absent (Option.not_mem_none _))
  · apply boundedDurationValue_ensures.bindMap
    intro ttl inside span member
    exact Option.mem_some_iff.mp member ▸ inside

/-- A monitor that is read is accepted. -/
theorem parsePullMonitor_ensures {monitor : Json} {statuses : Statuses} :
    Ensures (OfSome (PullMonitorConfig.Accepted platform statuses))
      (parsePullMonitor platform round monitor path statuses) := by
  unfold parsePullMonitor
  split
  · apply requiredIdentifier_ensures.bind
    intro id hid
    apply Ensures.step
    intro type
    apply Ensures.step
    intro _
    apply requiredDuration_ensures.bind
    intro interval hinterval
    apply parseTtl_ensures.bind
    intro ttl httl
    apply parseEvaluationPolicy_ensures.bind
    intro evaluation hevaluation
    apply parseSource_ensures.bind
    intro source hsource
    split
    next id interval ttl evaluation source =>
      apply Ensures.pure
      apply OfSome.some
      exact ⟨hid id rfl, hinterval interval rfl, httl ttl rfl, hevaluation evaluation rfl,
        hsource source rfl⟩
    · exact Ensures.pure OfSome.none
  · exact ensures_reject

end PixelStatus
