/-
# The runner factories

A factory checks a monitor's configuration once more, with limits of its own,
before it builds the runner. A check that only asks whether an enumerator is one
of its enumeration is left out: the types here have no others.
-/

import PixelStatus.Core.Config.Monitors
import PixelStatus.Logic.Outcome

namespace PixelStatus

open Outcome

/-- Observations of a JSON document. -/
def HttpObservation.readsPointer : HttpObservation → Bool
  | .statusCode => false
  | .body => false
  | .jsonPointer => true
  | .jsonArrayLength => true
  | .jsonRatio => true

/-- A header whose value refers to no secret. -/
def HttpHeader.Plain (header : HttpHeader) : Prop := ¬ secretMark <:+: header.value

instance (header : HttpHeader) : Decidable header.Plain := inferInstanceAs (Decidable (¬ _))

def MonitorSourceConfig.Plain : MonitorSourceConfig → Prop
  | .http config => ∀ header ∈ config.headers, header.Plain
  | _ => True

instance : DecidablePred MonitorSourceConfig.Plain
  | .http config => inferInstanceAs (Decidable (∀ header ∈ config.headers, header.Plain))
  | .tcpConnect _ | .icmpPing _ | .tcpExchange _ | .dns _ => inferInstanceAs (Decidable True)

namespace Host

/-- What a build decides: the platform, and whether the HTTP library was built
with OpenSSL. -/
structure HostBuild where
  platform : Platform
  openssl : Bool
  deriving DecidableEq

/-- What looks up a secret by its name; there may be none. -/
abbrev SecretResolver := Option (Bytes → Option Bytes)

def maximumTimeout : Duration := 30000
def maximumResponseBytes : Nat := 64 * 1024
def maximumRequestBodyBytes : Nat := 16 * 1024
def maximumHeaderCount : Nat := 32
def maximumHeaderNameBytes : Nat := 128
def maximumHeaderValueBytes : Nat := 2 * 1024
def maximumHeadersBytes : Nat := 8 * 1024
def maximumJsonPointerBytes : Nat := 512
def maximumSecretNameBytes : Nat := 128
def maximumSendBytes : Nat := 4 * 1024
def maximumDelimiterBytes : Nat := 256
def maximumHostBytes : Nat := 253

def validHeaderName : Bytes → Bool := isHeaderName maximumHeaderNameBytes

def validHeaderValue : Bytes → Bool := isHeaderValue maximumHeaderValueBytes

def validSecretName : Bytes → Bool := isSecretName maximumSecretNameBytes

def validJsonPointer : Bytes → Bool := isJsonPointer maximumJsonPointerBytes

def validNetworkHost : Bytes → Bool := isNetworkHost maximumHostBytes

/-- The runners by the configuration they were built with. -/
inductive MonitorRunner
  | http (config : HttpMonitorConfig) (url : ParsedHttpUrl)
  | tcpConnect (config : TcpConnectMonitorConfig)
  | icmpPing (config : IcmpPingMonitorConfig)
  | tcpExchange (config : TcpExchangeMonitorConfig)
  | dns (config : DnsMonitorConfig)

/-- One check: the factory ends with the message when it goes wrong. -/
def refuseIf (wrong : Prop) [Decidable wrong] (message : String) : Except Bytes Unit :=
  if wrong then .error (bytes message) else .ok ()

/-- What is not refused goes on. -/
theorem refuseIf_bind {wrong : Prop} [Decidable wrong] {message : String} {α : Type}
    {next : Unit → Except Bytes α} (right : ¬ wrong) :
    (refuseIf wrong message >>= next) = next () := by
  rw [refuseIf, if_neg right]
  rfl

/-- A refusal is one of the allowed failures. -/
theorem refuseIf_failsWith {wrong : Prop} [Decidable wrong] {message : String}
    {allowed : Bytes → Prop} (explains : wrong → allowed (bytes message)) :
    FailsWith allowed (refuseIf wrong message) := by
  unfold refuseIf
  split
  next holds => exact FailsWith.error (explains holds)
  · exact FailsWith.ok ()

/-- Only what was not refused has come to a result. -/
theorem refuseIf_bind_eq_ok {wrong : Prop} [Decidable wrong] {message : String} {α : Type}
    {next : Unit → Except Bytes α} {result : α} :
    (refuseIf wrong message >>= next) = .ok result ↔ ¬ wrong ∧ next () = .ok result := by
  by_cases holds : wrong
  · rw [refuseIf, if_pos holds]
    refine iff_of_false ?_ fun right => right.1 holds
    intro impossible
    cases impossible
  · rw [refuseIf_bind holds]
    exact (and_iff_right holds).symm

def timeoutOutside (timeout : Duration) : Prop := timeout ≤ 0 ∨ timeout > maximumTimeout

instance (timeout : Duration) : Decidable (timeoutOutside timeout) :=
  inferInstanceAs (Decidable (_ ∨ _))

/-! ## HTTP -/

def httpMethodName : HttpMethod → Bytes
  | .get => bytes "GET"
  | .head => bytes "HEAD"
  | .post => bytes "POST"
  | .put => bytes "PUT"
  | .patch => bytes "PATCH"
  | .delete_ => bytes "DELETE"

/-- The loop of `resolve_secret_template` over at most so many references; it
fails with the name it cannot resolve. -/
def resolveReferences (resolver : SecretResolver) : Nat → Bytes → Except Bytes Bytes
  | 0, value => .ok value
  | rounds + 1, value =>
      match nextSecret value with
      | none => .ok value
      | some (_, none) => .error (bytes "<invalid>")
      | some (before, some (name, rest)) =>
          if !validSecretName name then .error (bytes "<invalid>")
          else match resolver.bind fun resolve => resolve name with
            | none => .error name
            | some secret => do
                let behind ← resolveReferences resolver rounds rest
                return before ++ secret ++ behind

/-- A text has fewer references than bytes. -/
def resolveSecretTemplate (value : Bytes) (resolver : SecretResolver) : Except Bytes Bytes :=
  resolveReferences resolver value.length value

/-- The header loop: the lowered names and the bytes it has met, and the headers
with their secrets in place. -/
structure HeaderResolution where
  names : List Bytes := []
  headerBytes : Nat := 0
  headers : List HttpHeader := []
  deriving DecidableEq

/-- The loop goes on with a resolved header. -/
def HeaderResolution.keep (resolution : HeaderResolution) (header : HttpHeader) :
    HeaderResolution where
  names := asciiLower header.name :: resolution.names
  headerBytes := resolution.headerBytes + header.size
  headers := resolution.headers ++ [header]

def HeaderResolution.step (resolver : SecretResolver) (resolution : HeaderResolution)
    (header : HttpHeader) : Except Bytes HeaderResolution := do
  let loweredName := asciiLower header.name
  refuseIf (!validHeaderName header.name ∨ transportOwnsHeader loweredName
    ∨ loweredName ∈ resolution.names) "HTTP request contains an invalid header"
  match resolveSecretTemplate header.value resolver with
  | .error unresolvedName =>
      .error (bytes "HTTP request header " ++ header.name
        ++ bytes " references unresolved secret " ++ unresolvedName)
  | .ok value => do
      refuseIf (!validHeaderValue value) "HTTP request contains an invalid resolved header"
      return resolution.keep { name := header.name, value }

def createHttpMonitorRunner (build : HostBuild) (config : HttpMonitorConfig)
    (secretResolver : SecretResolver) : Except Bytes MonitorRunner :=
  match parseHttpUrl config.url with
  | none => .error (bytes "HTTP URL is invalid or unsupported by the desktop adapter")
  | some url => do
      refuseIf (build.platform ≠ .windows ∧ !build.openssl ∧ url.scheme ≠ .http)
        "HTTPS requires PIXELSTATUS_ENABLE_OPENSSL on this host"
      refuseIf (httpMethodName config.method = []) "HTTP method is invalid"
      refuseIf (config.body ≠ [] ∧ (config.method = .get ∨ config.method = .head))
        "HTTP request body is not allowed with GET or HEAD"
      refuseIf (config.body.length > maximumRequestBodyBytes)
        "HTTP request body exceeds 16384 bytes"
      refuseIf (config.headers.length > maximumHeaderCount)
        "HTTP request has more than 32 headers"
      let resolution ← config.headers.foldlM (HeaderResolution.step secretResolver) {}
      refuseIf (resolution.headerBytes > maximumHeadersBytes)
        "HTTP request headers exceed 8192 bytes"
      refuseIf (timeoutOutside config.timeout) "HTTP timeout must be between 1ms and 30s"
      refuseIf (config.maximumResponseBytes = 0
          ∨ config.maximumResponseBytes > maximumResponseBytes)
        "HTTP response byte limit must be between 1 and 65536"
      refuseIf (config.observation.readsPointer ∧ !validJsonPointer config.jsonPointer)
        "HTTP JSON pointer is invalid"
      refuseIf (config.observation = .jsonRatio
          ∧ (!validJsonPointer config.jsonDenominatorPointer ∨ !config.jsonScale.isFinite
            ∨ config.jsonScale.le (.finite 0)
            ∨ (Double.finite 1000000000).lt config.jsonScale))
        "HTTP JSON ratio configuration is invalid"
      return .http { config with headers := resolution.headers } url

/-! ## The other sources -/

def createTcpConnectMonitorRunner (config : TcpConnectMonitorConfig) :
    Except Bytes MonitorRunner := do
  refuseIf (!validNetworkHost config.host) "TCP host is invalid"
  refuseIf (config.port = 0) "TCP port must be between 1 and 65535"
  refuseIf (timeoutOutside config.timeout) "TCP timeout must be between 1ms and 30s"
  return .tcpConnect config

def createIcmpPingMonitorRunner (build : HostBuild) (config : IcmpPingMonitorConfig) :
    Except Bytes MonitorRunner := do
  refuseIf (!validNetworkHost config.host) "ICMP host is invalid"
  refuseIf (timeoutOutside config.timeout) "ICMP timeout must be between 1ms and 30s"
  refuseIf (build.platform ≠ .windows) "ICMP ping is not implemented for this host platform"
  return .icmpPing config

def createTcpExchangeMonitorRunner (config : TcpExchangeMonitorConfig) :
    Except Bytes MonitorRunner := do
  refuseIf (!validNetworkHost config.host) "TCP exchange host is invalid"
  refuseIf (config.port = 0) "TCP exchange port must be between 1 and 65535"
  refuseIf (timeoutOutside config.timeout) "TCP exchange timeout must be between 1ms and 30s"
  refuseIf (config.send.length > maximumSendBytes)
    "TCP exchange send payload exceeds 4096 bytes"
  refuseIf (config.readUntil = [] ∨ config.readUntil.length > maximumDelimiterBytes)
    "TCP exchange response delimiter must contain 1-256 bytes"
  refuseIf (config.maximumResponseBytes = 0
      ∨ config.maximumResponseBytes > maximumResponseBytes
      ∨ config.maximumResponseBytes < config.readUntil.length)
    "TCP exchange response byte limit is invalid"
  return .tcpExchange config

def createDnsMonitorRunner (config : DnsMonitorConfig) : Except Bytes MonitorRunner := do
  refuseIf (!validNetworkHost config.host) "DNS host is invalid"
  refuseIf (timeoutOutside config.timeout) "DNS timeout must be between 1ms and 30s"
  return .dns config

def createMonitorRunner (build : HostBuild) (secretResolver : SecretResolver) :
    MonitorSourceConfig → Except Bytes MonitorRunner
  | .http config => createHttpMonitorRunner build config secretResolver
  | .tcpConnect config => createTcpConnectMonitorRunner config
  | .icmpPing config => createIcmpPingMonitorRunner build config
  | .tcpExchange config => createTcpExchangeMonitorRunner config
  | .dns config => createDnsMonitorRunner config

/-! ## What the factories accept -/

/-- The build has what the source needs: HTTPS needs WinHTTP or OpenSSL, and
pings need Windows. -/
def HostBuild.Supports (build : HostBuild) : MonitorSourceConfig → Prop
  | .http config => build.platform = .windows ∨ build.openssl = true ∨
      ∀ url ∈ parseHttpUrl config.url, url.scheme = .http
  | .icmpPing _ => build.platform = .windows
  | _ => True

instance (build : HostBuild) : DecidablePred build.Supports
  | .http _ => inferInstanceAs (Decidable (_ ∨ _ ∨ _))
  | .icmpPing _ => inferInstanceAs (Decidable (_ = _))
  | .tcpConnect _ | .tcpExchange _ | .dns _ => inferInstanceAs (Decidable True)

variable {build : HostBuild} (resolver : SecretResolver)

/-- An accepted timeout passes the factories' check. -/
theorem timeout_inside {timeout : Duration} (accepted : TimeoutAccepted timeout) :
    ¬ timeoutOutside timeout := by
  have limit : maximumMonitorTimeout = maximumTimeout := rfl
  rintro (low | high)
  · exact absurd accepted.1 (not_le.mpr (Int.lt_add_one_of_le low))
  · exact absurd (limit ▸ accepted.2) (not_le.mpr high)

/-- A text without references is its own resolution. -/
theorem resolveSecretTemplate_of_absent {value : Bytes} (absent : ¬ secretMark <:+: value) :
    resolveSecretTemplate value resolver = .ok value := by
  unfold resolveSecretTemplate
  cases value.length with
  | zero => rfl
  | succ rounds => rw [resolveReferences, nextSecret_of_absent absent]

/-- An accepted header without a secret is kept as it is. -/
theorem HeaderResolution.step_of_accepted {resolution : HeaderResolution} {header : HttpHeader}
    (accepted : header.Accepted) (plain : header.Plain)
    (fresh : asciiLower header.name ∉ resolution.names) :
    resolution.step resolver header = .ok (resolution.keep header) := by
  have name : validHeaderName header.name = true := accepted.name
  have value : validHeaderValue header.value = true := accepted.value
  have free : transportOwnsHeader (asciiLower header.name) = false := accepted.free
  have right : ¬ ((!validHeaderName header.name) = true ∨
      transportOwnsHeader (asciiLower header.name) = true ∨
      asciiLower header.name ∈ resolution.names) := by
    simp [name, free, fresh]
  unfold HeaderResolution.step
  dsimp only
  rw [refuseIf_bind right, resolveSecretTemplate_of_absent resolver plain]
  dsimp only
  rw [refuseIf_bind (by simp [value])]
  rfl

/-- The header loop keeps accepted headers as they are. -/
theorem foldlM_step_of_accepted {headers : List HttpHeader} {resolution : HeaderResolution}
    (distinct : (headers.map fun header => asciiLower header.name).Nodup)
    (fresh : ∀ header ∈ headers, asciiLower header.name ∉ resolution.names)
    (accepted : ∀ header ∈ headers, header.Accepted)
    (plain : ∀ header ∈ headers, header.Plain) :
    ∃ names, headers.foldlM (HeaderResolution.step resolver) resolution = .ok
      { names
        headerBytes := resolution.headerBytes + headersSize headers
        headers := resolution.headers ++ headers } := by
  induction headers generalizing resolution with
  | nil =>
      refine ⟨resolution.names, ?_⟩
      rw [List.append_nil]
      rfl
  | cons header headers ih =>
      rw [List.forall_mem_cons] at accepted plain fresh
      rw [List.map_cons, List.nodup_cons] at distinct
      rw [List.foldlM_cons, HeaderResolution.step_of_accepted resolver accepted.1 plain.1 fresh.1]
      have later : ∀ other ∈ headers,
          asciiLower other.name ∉ (resolution.keep header).names := by
        intro other member
        apply List.not_mem_cons_of_ne_of_not_mem
        · intro same
          exact distinct.1 (same ▸ List.mem_map_of_mem member)
        · exact fresh.2 other member
      obtain ⟨names, ends⟩ := ih distinct.2 later accepted.2 plain.2
      refine ⟨names, ends.trans ?_⟩
      have total : headersSize (header :: headers) = header.size + headersSize headers := by
        simp [headersSize]
      rw [HeaderResolution.keep, total, List.append_assoc, Nat.add_assoc, List.singleton_append]

/-- The HTTP check that the build has what the URL needs. -/
theorem scheme_supported {config : HttpMonitorConfig} {url : ParsedHttpUrl}
    (parsed : parseHttpUrl config.url = some url) :
    (build.platform ≠ .windows ∧ (!build.openssl) = true ∧ url.scheme ≠ .http) ↔
      ¬ build.Supports (.http config) := by
  unfold HostBuild.Supports
  dsimp only
  rw [parsed]
  simp

/-- Of a configuration that the loader accepts, only the scheme and the resolved
headers are left to check. -/
theorem createHttpMonitorRunner_eq {config : HttpMonitorConfig} (accepted : config.Accepted)
    {url : ParsedHttpUrl} (parsed : parseHttpUrl config.url = some url) :
    createHttpMonitorRunner build config resolver =
      (refuseIf (build.platform ≠ .windows ∧ !build.openssl ∧ url.scheme ≠ .http)
          "HTTPS requires PIXELSTATUS_ENABLE_OPENSSL on this host" >>= fun _ =>
        config.headers.foldlM (HeaderResolution.step resolver) {} >>= fun resolution =>
        refuseIf (resolution.headerBytes > maximumHeadersBytes)
          "HTTP request headers exceed 8192 bytes" >>= fun _ =>
        .ok (.http { config with headers := resolution.headers } url)) := by
  have method : httpMethodName config.method ≠ [] := by
    cases config.method <;> decide
  have bodySize : ¬ config.body.length > maximumRequestBodyBytes :=
    Nat.not_lt.mpr accepted.bodySize
  have count : ¬ config.headers.length > maximumHeaderCount :=
    Nat.not_lt.mpr accepted.headers.count
  have limit : ¬ (config.maximumResponseBytes = 0 ∨
      config.maximumResponseBytes > maximumResponseBytes) :=
    not_or.mpr ⟨Nat.ne_of_gt accepted.responseLimit.1, Nat.not_lt.mpr accepted.responseLimit.2⟩
  have pointer : validJsonPointer config.jsonPointer = true := accepted.jsonPointer
  have denominator : validJsonPointer config.jsonDenominatorPointer = true :=
    accepted.jsonDenominatorPointer
  have scale := accepted.jsonScale
  unfold createHttpMonitorRunner
  rw [parsed]
  dsimp only
  rw [refuseIf_bind method, refuseIf_bind accepted.bodyAllowed, refuseIf_bind bodySize,
    refuseIf_bind count]
  simp only [refuseIf_bind (timeout_inside accepted.timeout), refuseIf_bind limit]
  have observed : ¬ (config.observation.readsPointer = true ∧
      (!validJsonPointer config.jsonPointer) = true) := by
    simp [pointer]
  have ratio : ¬ (config.observation = .jsonRatio ∧
      ((!validJsonPointer config.jsonDenominatorPointer) = true ∨
        (!config.jsonScale.isFinite) = true ∨ config.jsonScale.le (.finite 0) = true ∨
        (Double.finite 1000000000).lt config.jsonScale = true)) := by
    simp [denominator, scale.finite, scale.positive, scale.bounded]
  simp only [refuseIf_bind observed, refuseIf_bind ratio]
  rfl

/-- An accepted HTTP monitor without secrets gets its runner. -/
theorem createHttpMonitorRunner_of_accepted {config : HttpMonitorConfig}
    (accepted : config.Accepted) (plain : ∀ header ∈ config.headers, header.Plain)
    (supported : build.Supports (.http config)) :
    ∃ url, parseHttpUrl config.url = some url ∧
      createHttpMonitorRunner build config resolver = .ok (.http config url) := by
  obtain ⟨url, parsed⟩ := Option.isSome_iff_exists.mp accepted.url
  refine ⟨url, parsed, ?_⟩
  have headers := accepted.headers
  obtain ⟨names, ends⟩ := @foldlM_step_of_accepted resolver config.headers {}
    headers.distinct (fun _ _ => List.not_mem_nil) headers.each plain
  have size : ¬ 0 + headersSize config.headers > maximumHeadersBytes := by
    rw [Nat.zero_add]
    exact Nat.not_lt.mpr headers.size
  have scheme := (@scheme_supported build config url parsed).not.mpr (not_not_intro supported)
  rw [createHttpMonitorRunner_eq resolver accepted parsed, refuseIf_bind scheme, ends, ok_bind,
    refuseIf_bind size]
  rfl

/-- A host that the loader accepts passes the factories' check. -/
theorem host_valid {host : Bytes} (accepted : PixelStatus.validNetworkHost host = true) :
    ¬ (!validNetworkHost host) = true := by
  have same : validNetworkHost host = true := accepted
  simp [same]

/-- So does an accepted TCP connect monitor. -/
theorem createTcpConnectMonitorRunner_of_accepted {config : TcpConnectMonitorConfig}
    (accepted : config.Accepted) :
    createTcpConnectMonitorRunner config = .ok (.tcpConnect config) := by
  rw [createTcpConnectMonitorRunner, refuseIf_bind (host_valid accepted.host),
    refuseIf_bind accepted.port, refuseIf_bind (timeout_inside accepted.timeout)]
  rfl

/-- So does an accepted ping where there are pings. -/
theorem createIcmpPingMonitorRunner_of_accepted {config : IcmpPingMonitorConfig}
    (accepted : config.Accepted) (windows : build.platform = .windows) :
    createIcmpPingMonitorRunner build config = .ok (.icmpPing config) := by
  rw [createIcmpPingMonitorRunner, refuseIf_bind (host_valid accepted.host),
    refuseIf_bind (timeout_inside accepted.timeout), refuseIf_bind (not_not_intro windows)]
  rfl

/-- So does an accepted TCP exchange. -/
theorem createTcpExchangeMonitorRunner_of_accepted {config : TcpExchangeMonitorConfig}
    (accepted : config.Accepted) :
    createTcpExchangeMonitorRunner config = .ok (.tcpExchange config) := by
  have send : ¬ config.send.length > maximumSendBytes := Nat.not_lt.mpr accepted.send
  have delimiter : ¬ (config.readUntil = [] ∨
      config.readUntil.length > maximumDelimiterBytes) :=
    not_or.mpr ⟨accepted.readUntil.1, Nat.not_lt.mpr accepted.readUntil.2⟩
  have limit : ¬ (config.maximumResponseBytes = 0 ∨
      config.maximumResponseBytes > maximumResponseBytes ∨
      config.maximumResponseBytes < config.readUntil.length) := by
    rw [not_or, not_or]
    exact ⟨Nat.ne_of_gt accepted.responseLimit.1, Nat.not_lt.mpr accepted.responseLimit.2,
      Nat.not_lt.mpr accepted.room⟩
  rw [createTcpExchangeMonitorRunner, refuseIf_bind (host_valid accepted.host),
    refuseIf_bind accepted.port, refuseIf_bind (timeout_inside accepted.timeout),
    refuseIf_bind send, refuseIf_bind delimiter, refuseIf_bind limit]
  rfl

/-- So does an accepted lookup. -/
theorem createDnsMonitorRunner_of_accepted {config : DnsMonitorConfig}
    (accepted : config.Accepted) : createDnsMonitorRunner config = .ok (.dns config) := by
  rw [createDnsMonitorRunner, refuseIf_bind (host_valid accepted.host),
    refuseIf_bind (timeout_inside accepted.timeout)]
  rfl

/-- The configuration a runner was built with. -/
def MonitorRunner.source : MonitorRunner → MonitorSourceConfig
  | .http config _ => .http config
  | .tcpConnect config => .tcpConnect config
  | .icmpPing config => .icmpPing config
  | .tcpExchange config => .tcpExchange config
  | .dns config => .dns config

/-- The factories accept what the loader accepts, and build with it as it is. -/
theorem createMonitorRunner_of_accepted {source : MonitorSourceConfig}
    (accepted : source.Accepted) (plain : source.Plain) (supported : build.Supports source) :
    ∃ runner, createMonitorRunner build resolver source = .ok runner ∧
      runner.source = source := by
  cases source with
  | http config =>
      obtain ⟨url, _, created⟩ := createHttpMonitorRunner_of_accepted resolver accepted plain supported
      exact ⟨.http config url, created, rfl⟩
  | tcpConnect config =>
      exact ⟨.tcpConnect config, createTcpConnectMonitorRunner_of_accepted accepted, rfl⟩
  | icmpPing config =>
      exact ⟨.icmpPing config, createIcmpPingMonitorRunner_of_accepted accepted supported, rfl⟩
  | tcpExchange config =>
      exact ⟨.tcpExchange config, createTcpExchangeMonitorRunner_of_accepted accepted, rfl⟩
  | dns config =>
      exact ⟨.dns config, createDnsMonitorRunner_of_accepted accepted, rfl⟩

/-! ## What the factories refuse -/

/-- Why a factory refuses a source that the loader accepts: the build has not what the
source needs, or the secrets that its headers refer to cannot be put in place. -/
inductive Refusal (build : HostBuild) (resolver : SecretResolver) :
    MonitorSourceConfig → Bytes → Prop
  | https {config : HttpMonitorConfig} (unsupported : ¬ build.Supports (.http config)) :
      Refusal build resolver (.http config)
        (bytes "HTTPS requires PIXELSTATUS_ENABLE_OPENSSL on this host")
  | icmp {config : IcmpPingMonitorConfig} (unsupported : ¬ build.Supports (.icmpPing config)) :
      Refusal build resolver (.icmpPing config)
        (bytes "ICMP ping is not implemented for this host platform")
  | unresolved {config : HttpMonitorConfig} {header : HttpHeader} {name : Bytes}
      (member : header ∈ config.headers) (refers : ¬ header.Plain)
      (unresolved : resolveSecretTemplate header.value resolver = .error name) :
      Refusal build resolver (.http config)
        (bytes "HTTP request header " ++ header.name ++ bytes " references unresolved secret "
          ++ name)
  | value {config : HttpMonitorConfig} {header : HttpHeader} {value : Bytes}
      (member : header ∈ config.headers) (refers : ¬ header.Plain)
      (resolved : resolveSecretTemplate header.value resolver = .ok value)
      (invalid : validHeaderValue value = false) :
      Refusal build resolver (.http config)
        (bytes "HTTP request contains an invalid resolved header")
  | size {config : HttpMonitorConfig} (refers : ¬ (MonitorSourceConfig.http config).Plain) :
      Refusal build resolver (.http config) (bytes "HTTP request headers exceed 8192 bytes")

variable {resolver}

/-- The header loop stops at an accepted header only over a secret it refers to. -/
theorem HeaderResolution.step_ends {config : HttpMonitorConfig} {header : HttpHeader}
    {resolution : HeaderResolution} (member : header ∈ config.headers)
    (accepted : header.Accepted) (fresh : asciiLower header.name ∉ resolution.names) :
    Ends (Refusal build resolver (.http config))
      (fun next => next.names = asciiLower header.name :: resolution.names)
      (resolution.step resolver header) := by
  by_cases plain : header.Plain
  · rw [HeaderResolution.step_of_accepted resolver accepted plain fresh]
    exact Ends.ok rfl
  · have name : validHeaderName header.name = true := accepted.name
    have free : transportOwnsHeader (asciiLower header.name) = false := accepted.free
    have right : ¬ ((!validHeaderName header.name) = true ∨
        transportOwnsHeader (asciiLower header.name) = true ∨
        asciiLower header.name ∈ resolution.names) := by
      simp [name, free, fresh]
    unfold HeaderResolution.step
    dsimp only
    rw [refuseIf_bind right]
    split
    next unresolvedName unresolved => exact Ends.error (.unresolved member plain unresolved)
    next value resolved =>
      by_cases valid : validHeaderValue value = true
      · rw [refuseIf_bind (by simp [valid])]
        exact Ends.ok rfl
      · have invalid := Bool.eq_false_of_not_eq_true valid
        rw [refuseIf, if_pos (by simp [invalid])]
        exact Ends.error (.value member plain resolved invalid)

/-- Only a secret that cannot be put in place ends the loop over the headers. -/
theorem foldlM_step_failsWith {config : HttpMonitorConfig} {headers : List HttpHeader}
    {resolution : HeaderResolution} (members : ∀ header ∈ headers, header ∈ config.headers)
    (distinct : (headers.map fun header => asciiLower header.name).Nodup)
    (fresh : ∀ header ∈ headers, asciiLower header.name ∉ resolution.names)
    (accepted : ∀ header ∈ headers, header.Accepted) :
    FailsWith (Refusal build resolver (.http config))
      (headers.foldlM (HeaderResolution.step resolver) resolution) := by
  induction headers generalizing resolution with
  | nil => exact FailsWith.ok resolution
  | cons header headers ih =>
      rw [List.forall_mem_cons] at accepted fresh members
      rw [List.map_cons, List.nodup_cons] at distinct
      rw [List.foldlM_cons]
      obtain ⟨first, names⟩ := @HeaderResolution.step_ends build resolver config header resolution
        members.1 accepted.1 fresh.1
      apply first.bind
      intro next reached
      apply ih members.2 distinct.2 _ accepted.2
      intro other member
      rw [names next reached]
      apply List.not_mem_cons_of_ne_of_not_mem
      · intro same
        exact distinct.1 (same ▸ List.mem_map_of_mem member)
      · exact fresh.2 other member

/-- An accepted HTTP monitor is only refused as the build or its secrets explain. -/
theorem createHttpMonitorRunner_failsWith {config : HttpMonitorConfig}
    (accepted : config.Accepted) :
    FailsWith (Refusal build resolver (.http config))
      (createHttpMonitorRunner build config resolver) := by
  obtain ⟨url, parsed⟩ := Option.isSome_iff_exists.mp accepted.url
  have headers := accepted.headers
  rw [createHttpMonitorRunner_eq resolver accepted parsed]
  refine FailsWith.bind (refuseIf_failsWith fun lacks => ?_) fun _ _ => ?_
  · exact .https ((scheme_supported parsed).mp lacks)
  · have fails := @foldlM_step_failsWith build resolver config config.headers {} (fun _ => id)
      headers.distinct (fun _ _ => List.not_mem_nil) headers.each
    refine fails.bind fun resolution reached => ?_
    refine FailsWith.bind (refuseIf_failsWith fun large => ?_) fun _ _ => FailsWith.ok _
    -- headers without secrets are as long as they were for the loader
    refine .size fun plain => ?_
    obtain ⟨names, ends⟩ := @foldlM_step_of_accepted resolver config.headers {}
      headers.distinct (fun _ _ => List.not_mem_nil) headers.each plain
    cases reached.symm.trans ends
    have large : 0 + headersSize config.headers > maximumHeadersBytes := large
    rw [Nat.zero_add] at large
    exact Nat.not_lt.mpr headers.size large

/-- The factories refuse a source that the loader accepts only over what the build has
not, and over secrets that its headers refer to. -/
theorem createMonitorRunner_failsWith {source : MonitorSourceConfig} (accepted : source.Accepted) :
    FailsWith (Refusal build resolver source) (createMonitorRunner build resolver source) := by
  cases source with
  | http config => exact createHttpMonitorRunner_failsWith accepted
  | tcpConnect config =>
      rw [createMonitorRunner, createTcpConnectMonitorRunner_of_accepted accepted]
      exact FailsWith.ok _
  | icmpPing config =>
      have accepted : config.Accepted := accepted
      rw [createMonitorRunner, createIcmpPingMonitorRunner,
        refuseIf_bind (host_valid accepted.host), refuseIf_bind (timeout_inside accepted.timeout)]
      exact FailsWith.bind (refuseIf_failsWith fun lacks => .icmp lacks) fun _ _ => FailsWith.ok _
  | tcpExchange config =>
      rw [createMonitorRunner, createTcpExchangeMonitorRunner_of_accepted accepted]
      exact FailsWith.ok _
  | dns config =>
      rw [createMonitorRunner, createDnsMonitorRunner_of_accepted accepted]
      exact FailsWith.ok _

end Host

end PixelStatus
