/-
# Runners of connections, pings and lookups

What the operating system answers to a run is an argument. A connection reports
how long it took, a ping its round trip. A lookup reports the addresses of the
resolver's list, each once and in the order of their texts, so the list may come
in any order and with repetitions, as the resolvers of one name do.
-/

import PixelStatus.Host.TcpExchange
import PixelStatus.Logic.SortedSets

namespace PixelStatus.Host

/-- `finish_result`. -/
def finishResult (began finished : TimePoint) (result : MonitorResult) : MonitorResult :=
  { result with latency := durationCast (finished - began), observedAt := some finished }

/-- An error code behind a message. -/
def parenthesized (code : Int) : Bytes := bytes " (" ++ bytes (toString code) ++ bytes ")"

def runtimeFailure (code : Int) : MonitorResult where
  error := .internal
  detail := bytes "Socket runtime initialization failed" ++ parenthesized code

/-! ## Connections -/

def tcpConnectFailure (config : TcpConnectMonitorConfig) (error : MonitorError)
    (nativeError : Int) : MonitorResult where
  error := error
  detail :=
    let target := endpoint config.host config.port
    match error with
    | .timeout => bytes "TCP connection to " ++ target ++ bytes " timed out"
    | .nameResolution =>
        bytes "TCP name resolution failed for " ++ config.host ++ parenthesized nativeError
    | .internal => bytes "Socket runtime initialization failed" ++ parenthesized nativeError
    | _ => bytes "TCP connection to " ++ target ++ bytes " failed" ++ parenthesized nativeError

/-- `TcpConnectMonitorRunner::run` with what `connect_tcp` returned. -/
def runTcpConnect {σ : Type} (config : TcpConnectMonitorConfig)
    (connected : Except (MonitorError × Int) σ) (began finished : TimePoint) : MonitorResult :=
  finishResult began finished <|
    match connected with
    | .error (error, nativeError) => tcpConnectFailure config error nativeError
    | .ok _ =>
        { transportSuccess := true
          value := .integer (Int64.ofInt (durationCast (finished - began)))
          detail := bytes "TCP connection established to " ++ endpoint config.host config.port }

/-! ## Pings -/

/-- The first `ICMP_ECHO_REPLY` of the reply buffer. -/
structure EchoReply where
  status : UInt32
  roundTripTime : UInt32

/-- The answers to the calls of a ping, in the order of the calls; `echo` is the
last error when there was no reply. -/
structure PingAnswers where
  runtimeError : Int := 0
  resolveError : Int := 0
  resolved : Bool := true
  handleError : Option UInt32 := none
  echo : Except UInt32 EchoReply

/-- `error_from_status`: `IP_REQ_TIMED_OUT` and `ERROR_SEM_TIMEOUT` are timeouts. -/
def errorFromStatus (status : UInt32) : MonitorError :=
  if status = 11010 ∨ status = 121 then .timeout else .connection

/-- An echo that failed with a status, where zero is `IP_SUCCESS`. -/
def echoFailure (config : IcmpPingMonitorConfig) (status : UInt32) : MonitorResult where
  error := errorFromStatus status
  detail := bytes "ICMP echo to " ++ config.host ++ bytes " failed" ++ parenthesized status.toNat

/-- `IcmpPingMonitorRunner::run`. -/
def runIcmpPing (config : IcmpPingMonitorConfig) (answers : PingAnswers)
    (began finished : TimePoint) : MonitorResult :=
  finishResult began finished <|
    if answers.runtimeError ≠ 0 then runtimeFailure answers.runtimeError
    else if answers.resolveError ≠ 0 ∨ answers.resolved = false then
      { error := .nameResolution
        detail := bytes "ICMP name resolution failed for " ++ config.host
          ++ parenthesized answers.resolveError }
    else match answers.handleError with
      | some error =>
          { error := .internal
            detail := bytes "Unable to create ICMP handle" ++ parenthesized error.toNat }
      | none =>
          match answers.echo with
          | .error error => echoFailure config error
          | .ok reply =>
              if reply.status ≠ 0 then echoFailure config reply.status
              else
                { transportSuccess := true
                  value := .integer (Int64.ofInt reply.roundTripTime.toNat)
                  detail := bytes "ICMP echo reply from " ++ config.host }

/-! ## Lookups -/

inductive AddressFamily
  | inet
  | inet6
  | other
  deriving DecidableEq

/-- An entry of the resolver's list, with the numeric form that `getnameinfo` has
for it. -/
structure ResolvedAddress where
  family : AddressFamily
  numeric : Option Bytes

/-- The answers to the calls of a lookup, and when it began and finished. -/
structure Lookup where
  runtimeError : Int := 0
  resolutionError : Int := 0
  addresses : List ResolvedAddress
  began : TimePoint := 0
  finished : TimePoint

/-- The numeric forms of the supported addresses. -/
def numericTexts (addresses : List ResolvedAddress) : List Bytes :=
  addresses.filterMap fun address => if address.family = .other then none else address.numeric

/-- The addresses sorted, and each once. -/
def Lookup.texts (lookup : Lookup) : List Bytes :=
  SortedSets.sortUnique (· ≤ ·) (numericTexts lookup.addresses)

def joinAddresses (addresses : List Bytes) : Bytes :=
  addresses.foldl (fun joined address =>
    (if joined = [] then joined else joined ++ [0x2C]) ++ address) []

/-- What a lookup observes of its addresses. -/
def observeAddresses (observation : DnsObservation) (texts : List Bytes)
    (latency : Duration) : StateValue :=
  match observation with
  | .addresses => .text (joinAddresses texts)
  | .addressCount => .integer (Int64.ofInt texts.length)
  | .latencyMs => .integer (Int64.ofInt latency)

/-- `DnsMonitorRunner::run`. -/
def runDns (config : DnsMonitorConfig) (lookup : Lookup) : MonitorResult :=
  finishResult lookup.began lookup.finished <|
    if lookup.runtimeError ≠ 0 then runtimeFailure lookup.runtimeError
    else if lookup.finished - lookup.began > nanoseconds config.timeout then
      { error := .timeout
        detail := bytes "DNS lookup for " ++ config.host
          ++ bytes " exceeded the configured timeout" }
    else if lookup.resolutionError ≠ 0 ∨ lookup.addresses = [] then
      { error := .nameResolution
        detail := bytes "DNS lookup failed for " ++ config.host
          ++ parenthesized lookup.resolutionError }
    else if lookup.texts = [] then
      { error := .invalidResponse
        detail := bytes "DNS lookup returned no supported IP addresses for " ++ config.host }
    else
      { transportSuccess := true
        value := observeAddresses config.observation lookup.texts
          (durationCast (lookup.finished - lookup.began))
        detail := bytes "DNS resolved " ++ config.host ++ bytes " to "
          ++ decimal lookup.texts.length ++ bytes " address(es)" }

/-! ## The joined addresses -/

variable {config : DnsMonitorConfig} {lookup first second : Lookup} {texts other : List Bytes}

/-- A numeric address is not empty and has no comma. -/
structure Numeric (text : Bytes) : Prop where
  nonempty : text ≠ []
  noComma : (0x2C : UInt8) ∉ text

/-- The loop puts a comma before each address but the first. -/
theorem foldl_join {joined : Bytes} (nonempty : joined ≠ []) (texts : List Bytes) :
    texts.foldl (fun joined address =>
      (if joined = [] then joined else joined ++ [0x2C]) ++ address) joined =
        [0x2C].intercalate (joined :: texts) := by
  induction texts generalizing joined with
  | nil => exact List.intercalate_singleton.symm
  | cons text texts ih =>
      have grown : joined ++ [0x2C] ++ text ≠ [] := by simp [nonempty]
      rw [List.foldl_cons, if_neg nonempty, ih grown, List.intercalate_cons_cons]
      cases texts with
      | nil => rw [List.intercalate_singleton, List.intercalate_singleton]
      | cons next texts =>
          rw [List.intercalate_cons_cons, List.intercalate_cons_cons]
          simp only [List.append_assoc]

/-- Numeric texts are joined by commas. -/
theorem joinAddresses_eq (numeric : ∀ text ∈ texts, Numeric text) :
    joinAddresses texts = [0x2C].intercalate texts := by
  cases texts with
  | nil => rfl
  | cons text texts =>
      rw [joinAddresses, List.foldl_cons, if_pos rfl, List.nil_append]
      exact foldl_join (numeric text List.mem_cons_self).nonempty texts

/-- The joined text can be taken apart at its commas. -/
theorem joinAddresses_injective (numeric : ∀ text ∈ texts, Numeric text)
    (numericOther : ∀ text ∈ other, Numeric text) (some' : texts ≠ []) (someOther : other ≠ [])
    (same : joinAddresses texts = joinAddresses other) : texts = other := by
  rw [joinAddresses_eq numeric, joinAddresses_eq numericOther] at same
  rw [← List.splitOn_intercalate 0x2C (fun text member => (numeric text member).noComma) some',
    same, List.splitOn_intercalate 0x2C (fun text member => (numericOther text member).noComma)
      someOther]

/-! ## A lookup observes a set -/

/-- The texts of a lookup are those of its numeric addresses. -/
theorem mem_texts {text : Bytes} :
    text ∈ lookup.texts ↔ text ∈ numericTexts lookup.addresses := SortedSets.mem_sortUnique _

/-- When a lookup succeeds. -/
structure Lookup.Resolved (lookup : Lookup) (config : DnsMonitorConfig) : Prop where
  runtime : lookup.runtimeError = 0
  inTime : lookup.finished - lookup.began ≤ nanoseconds config.timeout
  resolution : lookup.resolutionError = 0
  some' : numericTexts lookup.addresses ≠ []

/-- There are none exactly when no address is numeric. -/
theorem texts_eq_nil_iff : lookup.texts = [] ↔ numericTexts lookup.addresses = [] := by
  simp only [List.eq_nil_iff_forall_not_mem, mem_texts]

theorem addresses_ne_nil (some' : numericTexts lookup.addresses ≠ []) : lookup.addresses ≠ [] := by
  intro none'
  rw [none'] at some'
  exact some' rfl

/-- A lookup that is resolved is observed. -/
theorem runDns_of_resolved (resolved : lookup.Resolved config) :
    (runDns config lookup).transportSuccess = true ∧
      (runDns config lookup).value = observeAddresses config.observation lookup.texts
        (durationCast (lookup.finished - lookup.began)) := by
  have listed := addresses_ne_nil resolved.some'
  have kept : lookup.texts ≠ [] := mt texts_eq_nil_iff.mp resolved.some'
  unfold runDns
  rw [if_neg (not_not_intro resolved.runtime), if_neg (Int.not_lt.mpr resolved.inTime),
    if_neg (not_or.mpr ⟨not_not_intro resolved.resolution, listed⟩), if_neg kept]
  exact ⟨rfl, rfl⟩

/-- Only such a lookup succeeds. -/
theorem resolved_of_transportSuccess (success : (runDns config lookup).transportSuccess = true) :
    lookup.Resolved config := by
  unfold runDns at success
  split at success
  · cases success
  next runtime =>
  split at success
  · cases success
  next inTime =>
  split at success
  · cases success
  next resolution =>
  split at success
  · cases success
  next some' =>
  rw [not_or, not_not] at resolution
  exact ⟨Decidable.not_not.mp runtime, Int.not_lt.mp inTime, resolution.1,
    mt texts_eq_nil_iff.mpr some'⟩

/-- A lookup succeeds exactly when it is in time and finds an address. Then the
number it may observe is that of the different addresses, and the text it may
observe is that of another lookup exactly when both found the same set. -/
theorem dns_observes_set (config : DnsMonitorConfig) :
    (∀ lookup : Lookup, (runDns config lookup).transportSuccess = true ↔ lookup.Resolved config) ∧
    (config.observation = .addressCount → ∀ lookup : Lookup, lookup.Resolved config →
      (runDns config lookup).value =
        .integer (Int64.ofInt (numericTexts lookup.addresses).toFinset.card)) ∧
    (config.observation = .addresses → ∀ first second : Lookup, first.Resolved config →
      second.Resolved config → (∀ text ∈ numericTexts first.addresses, Numeric text) →
      (∀ text ∈ numericTexts second.addresses, Numeric text) →
      ((runDns config first).value = (runDns config second).value ↔
        ∀ text, text ∈ numericTexts first.addresses ↔ text ∈ numericTexts second.addresses)) := by
  refine ⟨?_, ?_, ?_⟩
  · intro lookup
    exact ⟨resolved_of_transportSuccess, fun resolved => (runDns_of_resolved resolved).1⟩
  · intro observes lookup resolved
    rw [(runDns_of_resolved resolved).2, observes]
    exact congrArg (fun count : Nat => StateValue.integer (Int64.ofInt count))
      (SortedSets.length_sortUnique _ _)
  · intro observes first second resolved resolvedToo numeric numericToo
    rw [(runDns_of_resolved resolved).2, (runDns_of_resolved resolvedToo).2, observes,
      ← SortedSets.sortUnique_eq_iff (· ≤ ·)]
    refine ⟨?_, ?_⟩
    · intro same
      exact joinAddresses_injective (fun text member => numeric text (mem_texts.mp member))
        (fun text member => numericToo text (mem_texts.mp member))
        (mt texts_eq_nil_iff.mp resolved.some') (mt texts_eq_nil_iff.mp resolvedToo.some')
        (StateValue.text.inj same)
    · intro same
      exact congrArg (fun texts => StateValue.text (joinAddresses texts)) same

/-- A lookup that found these addresses within a millisecond. -/
def lookupOf (texts : List Bytes) : Lookup where
  addresses := texts.map fun text => { family := .inet, numeric := some text }
  finished := 1000000

def loopback : Bytes := bytes "127.0.0.1"

def loopbackSix : Bytes := bytes "::1"

theorem numeric_loopback : Numeric loopback ∧ Numeric loopbackSix :=
  ⟨⟨by decide, by decide⟩, ⟨by decide, by decide⟩⟩

/-- A lookup in time with an address is resolved. -/
theorem resolved_lookupOf {text : Bytes} {texts : List Bytes} :
    (lookupOf (text :: texts)).Resolved {} where
  runtime := rfl
  inTime := (by decide : (1000000 : Int) - 0 ≤ nanoseconds 2000)
  resolution := rfl
  some' := List.cons_ne_nil _ _

/-- The same two addresses in another order, one of them twice. -/
theorem dns_observes_set_loopback :
    (runDns {} (lookupOf [loopbackSix, loopback])).value =
      (runDns {} (lookupOf [loopback, loopbackSix, loopback])).value := by
  have six : numericTexts (lookupOf [loopbackSix, loopback]).addresses =
      [loopbackSix, loopback] := rfl
  have again : numericTexts (lookupOf [loopback, loopbackSix, loopback]).addresses =
      [loopback, loopbackSix, loopback] := rfl
  apply ((dns_observes_set {}).2.2 rfl _ _ resolved_lookupOf resolved_lookupOf _ _).mpr
  · intro text
    rw [six, again]
    simp only [List.mem_cons, List.not_mem_nil, or_false]
    tauto
  · rw [six]
    simp [numeric_loopback]
  · rw [again]
    simp [numeric_loopback]

end PixelStatus.Host
