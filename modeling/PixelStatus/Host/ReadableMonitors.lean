/-
# Only raw bodies can make the Status API unreadable

A runner builds its details from literals, numbers and texts of the loaded
configuration, and observes numbers, flags and strings of a parsed document. The
one thing it passes on without a look is the body that an HTTP monitor or a TCP
exchange observes. So along a run the store stays readable exactly as long as
those bodies are text.
-/

import PixelStatus.Core.Config.LoadedTexts
import PixelStatus.Core.StatusApiReadable
import PixelStatus.Host.HttpMonitorRunner
import PixelStatus.Host.NetworkRunners
import PixelStatus.Host.Registration

namespace PixelStatus.Host

open Outcome StatusApi

/-- The runner observes a body as it comes. -/
def MonitorRunner.observesBody : MonitorRunner → Bool
  | .http config _ => config.observation = .body
  | .tcpExchange config => config.observation = .body
  | _ => false

/-- The bytes that a runner passes on without a look at them. -/
def passedOn (runner : MonitorRunner) (outcome : RunnerOutcome) : Option Bytes :=
  match outcome.result.value with
  | .text text => if runner.observesBody then some text else none
  | _ => none

/-- The outcomes of a runner's calls: what the libraries and the operating system
answer is arbitrary, but their own messages and numeric addresses are text. -/
inductive Returns (library : JsonLibrary) (pointers : JsonPointers) (arithmetic : LongDouble) :
    MonitorRunner → RunnerOutcome → Prop
  | http (config : HttpMonitorConfig) (url : ParsedHttpUrl) (transport : HttpTransportResponse)
      (latency : Duration) (observedAt : Option TimePoint) (said : ValidUtf8 transport.detail) :
      Returns library pointers arithmetic (.http config url)
        (.returned (runHttp library pointers arithmetic config transport latency observedAt))
  | tcpConnect (config : TcpConnectMonitorConfig) (connected : Except (MonitorError × Int) Unit)
      (began finished : TimePoint) :
      Returns library pointers arithmetic (.tcpConnect config)
        (.returned (runTcpConnect config connected began finished))
  | icmpPing (config : IcmpPingMonitorConfig) (answers : PingAnswers)
      (began finished : TimePoint) :
      Returns library pointers arithmetic (.icmpPing config)
        (.returned (runIcmpPing config answers began finished))
  | tcpExchange {σ : Type} (config : TcpExchangeMonitorConfig) (socket : TcpSocket σ)
      (rounds : Nat) (connected : Except (MonitorError × Int) σ) (latency : Duration)
      (finished : TimePoint) (result : MonitorResult) (state : Option σ)
      (ended : runTcpExchange socket config rounds connected latency finished =
        some (result, state)) :
      Returns library pointers arithmetic (.tcpExchange config) (.returned result)
  | dns (config : DnsMonitorConfig) (lookup : Lookup)
      (numeric : ∀ text ∈ numericTexts lookup.addresses, ValidUtf8 text) :
      Returns library pointers arithmetic (.dns config) (.returned (runDns config lookup))
  | threw (runner : MonitorRunner) (what : Option Bytes) (said : ∀ text ∈ what, ValidUtf8 text) :
      Returns library pointers arithmetic runner (.threw what)

/-! ## The details are text -/

theorem validUtf8_decimal (number : Nat) : ValidUtf8 (decimal number) := validUtf8_bytes _

/-- A code in parentheses is text. -/
theorem validUtf8_parenthesized (code : Int) : ValidUtf8 (parenthesized code) :=
  ((validUtf8_bytes _).append (validUtf8_bytes _)).append (validUtf8_bytes _)

/-- A host with its port is text. -/
theorem validUtf8_endpoint {host : Bytes} (text : ValidUtf8 host) (port : UInt16) :
    ValidUtf8 (endpoint host port) := by
  unfold endpoint
  split
  · exact (((validUtf8_bytes _).append text).append (validUtf8_bytes _)).append
      (validUtf8_decimal _)
  · exact (text.append (validUtf8_bytes _)).append (validUtf8_decimal _)

/-- What is said of a response is text. -/
theorem validUtf8_answered {transport : HttpTransportResponse} {latency : Duration}
    {observedAt : Option TimePoint} : ValidUtf8 (answered transport latency observedAt).detail :=
  (validUtf8_bytes _).append (validUtf8_decimal _)

/-- A report quotes only texts. -/
theorem HttpReport.detail {library : JsonLibrary} {pointers : JsonPointers}
    {config : HttpMonitorConfig} {transport : HttpTransportResponse} {base result : MonitorResult}
    (report : HttpReport library pointers config transport base result)
    (text : ValidUtf8 base.detail) : ValidUtf8 result.detail := by
  cases report with
  | value value observed => exact text
  | missing reason said => exact text.append said
  | invalid reason said => exact text.append said

/-- A text observed of a response is its body, or a string of its document. -/
theorem HttpReport.text {library : JsonLibrary} {pointers : JsonPointers}
    {config : HttpMonitorConfig} {transport : HttpTransportResponse} {latency : Duration}
    {observedAt : Option TimePoint} {result : MonitorResult} (lawful : library.Lawful)
    (lawfulPointers : pointers.Lawful)
    (report : HttpReport library pointers config transport
      (answered transport latency observedAt) result) {text : Bytes}
    (observed : result.value = .text text) : config.observation = .body ∨ ValidUtf8 text := by
  cases report with
  | value value source =>
      obtain rfl : value = .text text := observed
      obtain ⟨body, -⟩ | ⟨document, parsed, found⟩ := source
      · exact .inl body
      · exact .inr (lawfulPointers.part document _ _ (lawful.parse_utf8 _ _ parsed) found)
  | missing => cases observed
  | invalid => cases observed

/-- Whatever becomes of a connection is said in text. -/
theorem validUtf8_runTcpConnect {σ : Type} {config : TcpConnectMonitorConfig}
    (host : ValidUtf8 config.host) (connected : Except (MonitorError × Int) σ)
    (began finished : TimePoint) :
    ValidUtf8 (runTcpConnect config connected began finished).detail := by
  have target := validUtf8_endpoint host config.port
  cases connected with
  | ok => exact (validUtf8_bytes _).append target
  | error failure =>
      obtain ⟨error, nativeError⟩ := failure
      show ValidUtf8 (tcpConnectFailure config error nativeError).detail
      unfold tcpConnectFailure
      dsimp only
      split
      · exact ((validUtf8_bytes _).append target).append (validUtf8_bytes _)
      · exact ((validUtf8_bytes _).append host).append (validUtf8_parenthesized _)
      · exact (validUtf8_bytes _).append (validUtf8_parenthesized _)
      · exact (((validUtf8_bytes _).append target).append (validUtf8_bytes _)).append
          (validUtf8_parenthesized _)

/-- So is what becomes of an echo. -/
theorem validUtf8_echoFailure {config : IcmpPingMonitorConfig} (host : ValidUtf8 config.host)
    (status : UInt32) : ValidUtf8 (echoFailure config status).detail :=
  (((validUtf8_bytes _).append host).append (validUtf8_bytes _)).append
    (validUtf8_parenthesized _)

/-- So is what becomes of a ping. -/
theorem validUtf8_runIcmpPing {config : IcmpPingMonitorConfig} (host : ValidUtf8 config.host)
    (answers : PingAnswers) (began finished : TimePoint) :
    ValidUtf8 (runIcmpPing config answers began finished).detail := by
  unfold runIcmpPing finishResult
  dsimp only
  split
  · exact (validUtf8_bytes _).append (validUtf8_parenthesized _)
  · split
    · exact ((validUtf8_bytes _).append host).append (validUtf8_parenthesized _)
    · split
      · exact (validUtf8_bytes _).append (validUtf8_parenthesized _)
      · split
        · exact validUtf8_echoFailure host _
        · split
          · exact validUtf8_echoFailure host _
          · exact (validUtf8_bytes _).append host

/-- So is what becomes of a lookup. -/
theorem validUtf8_runDns {config : DnsMonitorConfig} (host : ValidUtf8 config.host)
    (lookup : Lookup) : ValidUtf8 (runDns config lookup).detail := by
  unfold runDns finishResult
  dsimp only
  split
  · exact (validUtf8_bytes _).append (validUtf8_parenthesized _)
  · split
    · exact ((validUtf8_bytes _).append host).append (validUtf8_bytes _)
    · split
      · exact ((validUtf8_bytes _).append host).append (validUtf8_parenthesized _)
      · split
        · exact (validUtf8_bytes _).append host
        · exact ((((validUtf8_bytes _).append host).append (validUtf8_bytes _)).append
            (validUtf8_decimal _)).append (validUtf8_bytes _)

section

variable {σ : Type} {socket : TcpSocket σ} {config : TcpExchangeMonitorConfig} {rounds : Nat}
  {state next : σ} {failure : ExchangeFailure}

/-- So is why an exchange has no connection. -/
theorem validUtf8_connectionFailure (host : ValidUtf8 config.host) (error : MonitorError)
    (nativeError : Int) : ValidUtf8 (connectionFailure config error nativeError).detail := by
  have target := validUtf8_endpoint host config.port
  have code := validUtf8_parenthesized nativeError
  unfold connectionFailure
  dsimp only
  split
  · exact ((validUtf8_bytes _).append target).append (validUtf8_bytes _)
  · exact ((validUtf8_bytes _).append host).append code
  · exact (validUtf8_bytes _).append code
  · exact (((validUtf8_bytes _).append target).append (validUtf8_bytes _)).append code

/-- So is why it cannot send. -/
theorem validUtf8_sendFailure (io : SocketIoResult) : ValidUtf8 (sendFailure io).detail := by
  unfold sendFailure
  split
  · exact validUtf8_bytes _
  · exact ((validUtf8_bytes _).append (validUtf8_bytes _)).append (validUtf8_bytes _)

/-- So is how sending fails. -/
theorem validUtf8_sendPayload {sent : Nat}
    (ended : sendPayload socket config rounds sent state = some (.error failure, next)) :
    ValidUtf8 failure.detail := by
  induction rounds generalizing sent state with
  | zero => cases ended
  | succ rounds ih =>
      rw [sendPayload] at ended
      split at ended
      · dsimp only at ended
        split at ended
        · cases ended
          exact validUtf8_sendFailure _
        · exact ih ended
      · cases ended

/-- So is how receiving fails. -/
theorem validUtf8_receiveResponse {response : Bytes}
    (ended : receiveResponse socket config rounds response state = some (.error failure, next)) :
    ValidUtf8 failure.detail := by
  induction rounds generalizing response state with
  | zero => cases ended
  | succ rounds ih =>
      rw [receiveResponse] at ended
      split at ended
      · cases ended
        exact validUtf8_bytes _
      · dsimp only at ended
        split at ended
        · cases ended
          exact validUtf8_bytes _
        · cases ended
          exact validUtf8_bytes _
        · cases ended
          exact ((validUtf8_bytes _).append (validUtf8_bytes _)).append (validUtf8_bytes _)
        · split at ended
          · cases ended
          · exact ih ended

/-- So is how an exchange fails. -/
theorem validUtf8_exchange
    (ended : exchange socket config rounds state = some (.error failure, next)) :
    ValidUtf8 failure.detail := by
  unfold exchange at ended
  split at ended
  · cases ended
  next sent =>
    cases ended
    exact validUtf8_sendPayload sent
  · exact validUtf8_receiveResponse ended

/-- So is what becomes of it. -/
theorem validUtf8_finishExchange {latency : Duration} {finished : TimePoint}
    {outcome : Except ExchangeFailure Bytes} (host : ValidUtf8 config.host)
    (said : ∀ failure, outcome = .error failure → ValidUtf8 failure.detail) :
    ValidUtf8 (finishExchange config latency finished outcome).detail := by
  cases outcome with
  | error failure => exact said failure rfl
  | ok response =>
      exact ((((validUtf8_bytes _).append (validUtf8_endpoint host _)).append
        (validUtf8_bytes _)).append (validUtf8_decimal _)).append (validUtf8_bytes _)

/-- A run ends with the result of an exchange. -/
theorem runTcpExchange_ended {connected : Except (MonitorError × Int) σ} {latency : Duration}
    {finished : TimePoint} {result : MonitorResult} {left : Option σ} (host : ValidUtf8 config.host)
    (ended : runTcpExchange socket config rounds connected latency finished =
      some (result, left)) :
    ∃ outcome, result = finishExchange config latency finished outcome ∧
      ∀ failure, outcome = .error failure → ValidUtf8 failure.detail := by
  unfold runTcpExchange at ended
  split at ended
  next error nativeError =>
    cases ended
    refine ⟨_, rfl, ?_⟩
    rintro failure ⟨⟩
    exact validUtf8_connectionFailure host error nativeError
  next start =>
    obtain ⟨⟨outcome, last⟩, exchanged, same⟩ := Option.map_eq_some_iff.mp ended
    cases same
    refine ⟨outcome, rfl, ?_⟩
    rintro failure rfl
    exact validUtf8_exchange exchanged

end

/-! ## What a runner passes on -/

variable {library : JsonLibrary} {pointers : JsonPointers} {arithmetic : LongDouble}
  {runner : MonitorRunner} {outcome : RunnerOutcome}

/-- Every runner says what happened in text. -/
theorem Returns.detail (lawful : library.Lawful) (lawfulPointers : pointers.Lawful)
    (returns : Returns library pointers arithmetic runner outcome) (texts : runner.source.Texts) :
    ValidUtf8 outcome.result.detail := by
  cases returns with
  | http config url transport latency observedAt said =>
      cases success : transport.success with
      | true =>
          exact (runHttp_report lawful lawfulPointers ⟨texts.1, texts.2⟩ success).detail
            validUtf8_answered
      | false =>
          show ValidUtf8 (runHttp library pointers arithmetic config transport latency
            observedAt).detail
          simp only [runHttp, success, Bool.not_false, if_true]
          exact said
  | tcpConnect config connected began finished =>
      exact validUtf8_runTcpConnect texts connected began finished
  | icmpPing config answers began finished =>
      exact validUtf8_runIcmpPing texts answers began finished
  | tcpExchange config socket rounds connected latency finished result state ended =>
      obtain ⟨outcome, rfl, said⟩ := runTcpExchange_ended texts ended
      exact validUtf8_finishExchange texts said
  | dns config lookup numeric => exact validUtf8_runDns texts lookup
  | threw runner what said =>
      cases what with
      | none => exact validUtf8_bytes _
      | some what => exact (validUtf8_bytes _).append (said what rfl)

/-- Texts joined by commas are text. -/
theorem validUtf8_joinAddresses {texts : List Bytes} (each : ∀ text ∈ texts, ValidUtf8 text) :
    ValidUtf8 (joinAddresses texts) := by
  have keeps : ∀ joined, ValidUtf8 joined → ValidUtf8 (texts.foldl (fun joined address =>
      (if joined = [] then joined else joined ++ [0x2C]) ++ address) joined) := by
    induction texts with
    | nil => exact fun joined valid => valid
    | cons text texts ih =>
        rw [List.forall_mem_cons] at each
        intro joined valid
        apply ih each.2
        dsimp only
        split
        · exact valid.append each.1
        · exact (valid.append (validUtf8_bytes ",")).append each.1
  exact keeps [] validUtf8_nil

/-- A text that a runner observes is one it passes on, or it is valid. -/
theorem Returns.value (lawful : library.Lawful) (lawfulPointers : pointers.Lawful)
    (returns : Returns library pointers arithmetic runner outcome) (texts : runner.source.Texts)
    {text : Bytes} (observed : outcome.result.value = .text text) :
    text ∈ passedOn runner outcome ∨ ValidUtf8 text := by
  have passes : runner.observesBody = true → text ∈ passedOn runner outcome := by
    intro observes
    rw [passedOn, observed]
    exact if_pos observes
  cases returns with
  | http config url transport latency observedAt said =>
      cases success : transport.success with
      | true =>
          have report : HttpReport library pointers config transport
              (answered transport latency observedAt)
              (runHttp library pointers arithmetic config transport latency observedAt) :=
            runHttp_report lawful lawfulPointers ⟨texts.1, texts.2⟩ success
          obtain body | text := report.text lawful lawfulPointers observed
          · exact .inl (passes (decide_eq_true body))
          · exact .inr text
      | false =>
          have same : (runHttp library pointers arithmetic config transport latency
              observedAt).value = .text text := observed
          simp only [runHttp, success, Bool.not_false, if_true] at same
          cases same
  | tcpConnect config connected began finished =>
      cases connected <;> cases observed
  | icmpPing config answers began finished =>
      have same : (runIcmpPing config answers began finished).value = .text text := observed
      unfold runIcmpPing finishResult echoFailure runtimeFailure at same
      dsimp only at same
      split at same
      · cases same
      · split at same
        · cases same
        · split at same
          · cases same
          · split at same
            · cases same
            · split at same <;> cases same
  | tcpExchange config socket rounds connected latency finished result state ended =>
      obtain ⟨exchanged, rfl, -⟩ := runTcpExchange_ended texts ended
      apply Or.inl
      apply passes
      have same : (finishExchange config latency finished exchanged).value = .text text := observed
      cases exchanged with
      | error failure => cases same
      | ok response =>
          cases observes : config.observation with
          | body => exact decide_eq_true observes
          | latencyMs =>
              simp only [finishExchange, observes] at same
              cases same
  | dns config lookup numeric =>
      apply Or.inr
      have same : (runDns config lookup).value = .text text := observed
      unfold runDns finishResult runtimeFailure at same
      dsimp only at same
      split at same
      · cases same
      · split at same
        · cases same
        · split at same
          · cases same
          · split at same
            · cases same
            · dsimp only [observeAddresses] at same
              split at same <;> cases same
              exact validUtf8_joinAddresses fun address member =>
                numeric address (mem_texts.mp member)
  | threw runner what said => cases what <;> cases observed

/-- An outcome carries only valid texts exactly when what it passes on is text. -/
theorem Returns.utf8_iff (lawful : library.Lawful) (lawfulPointers : pointers.Lawful)
    (returns : Returns library pointers arithmetic runner outcome) (texts : runner.source.Texts) :
    outcome.Utf8 ↔ ∀ text ∈ passedOn runner outcome, ValidUtf8 text := by
  refine ⟨?_, ?_⟩
  · intro valid text passed
    unfold passedOn at passed
    split at passed
    next observed same =>
      split at passed
      · obtain rfl := Option.mem_some_iff.mp passed
        have carried := valid.value
        rw [same] at carried
        exact carried
      · cases passed
    · cases passed
  · intro passes
    refine ⟨?_, returns.detail lawful lawfulPointers texts⟩
    cases observed : outcome.result.value with
    | text text =>
        obtain passed | valid := returns.value lawful lawfulPointers texts observed
        · exact passes text passed
        · exact valid
    | monostate | boolean | integer | real => exact True.intro

/-! ## A host with the monitors of a configuration -/

/-- The factories keep the texts that a runner quotes. -/
theorem texts_of_created {build : HostBuild} {resolver : SecretResolver}
    {source : MonitorSourceConfig} (texts : source.Texts)
    (created : createMonitorRunner build resolver source = .ok runner) : runner.source.Texts := by
  cases source with
  | http config =>
      simp only [createMonitorRunner, createHttpMonitorRunner] at created
      split at created
      · cases created
      · simp only [refuseIf_bind_eq_ok] at created
        obtain ⟨-, -, -, -, -, made⟩ := created
        obtain ⟨resolution, -, made⟩ := bind_eq_ok.mp made
        simp only [refuseIf_bind_eq_ok] at made
        obtain ⟨-, -, -, -, -, made⟩ := made
        cases made
        exact texts
  | tcpConnect config =>
      simp only [createMonitorRunner, createTcpConnectMonitorRunner, refuseIf_bind_eq_ok] at created
      obtain ⟨-, -, -, made⟩ := created
      cases made
      exact texts
  | icmpPing config =>
      simp only [createMonitorRunner, createIcmpPingMonitorRunner, refuseIf_bind_eq_ok] at created
      obtain ⟨-, -, -, made⟩ := created
      cases made
      exact texts
  | tcpExchange config =>
      simp only [createMonitorRunner, createTcpExchangeMonitorRunner, refuseIf_bind_eq_ok]
        at created
      obtain ⟨-, -, -, -, -, -, made⟩ := created
      cases made
      exact texts
  | dns config =>
      simp only [createMonitorRunner, createDnsMonitorRunner, refuseIf_bind_eq_ok] at created
      obtain ⟨-, -, made⟩ := created
      cases made
      exact texts

section

variable (build : HostBuild) (resolver : SecretResolver) (library : JsonLibrary)
  (pointers : JsonPointers) (arithmetic : LongDouble)

/-- A write of a host that created its runners from configured monitors. -/
def Hosted (monitors : List PullMonitorConfig) : Write build.platform MonitorRunner → Prop
  | .post _ _ => True
  | .publish job outcome _ =>
      (∃ configured ∈ monitors,
        createMonitorRunner build resolver configured.source = .ok job.runner) ∧
      Returns library pointers arithmetic job.runner outcome

end

/-- What a write passes on is text. -/
def PassesText {platform : Platform} : Write platform MonitorRunner → Prop
  | .post _ _ => True
  | .publish job outcome _ => ∀ text ∈ passedOn job.runner outcome, ValidUtf8 text

section

variable {build : HostBuild} {resolver : SecretResolver} {monitors : List PullMonitorConfig}
  {write : Write build.platform MonitorRunner}

/-- A write of the host is one of texts exactly when it passes on text. -/
theorem Hosted.utf8_iff (lawful : library.Lawful) (lawfulPointers : pointers.Lawful)
    (texts : ∀ configured ∈ monitors, configured.source.Texts)
    (hosted : Hosted build resolver library pointers arithmetic monitors write) :
    write.Utf8 ↔ PassesText write := by
  cases write with
  | post request now => exact Iff.rfl
  | publish job outcome now =>
      obtain ⟨⟨configured, listed, created⟩, returns⟩ := hosted
      exact returns.utf8_iff lawful lawfulPointers
        (texts_of_created (texts configured listed) created)

end

/-- The monitor that observes what a server says first. -/
def bannerConfig : TcpExchangeMonitorConfig where
  host := bytes "127.0.0.1"
  port := 18080
  readUntil := [0x0A]

def bannerMonitor : PullMonitorConfig where
  id := bytes "banner"
  interval := 10000
  evaluation := { rules := [{ status := bytes "ok" }] }
  source := .tcpExchange bannerConfig

/-- The monitor is one of the configuration. -/
theorem bannerMonitor_configured : bannerMonitor ∈ networkConfig.monitors := by
  decide +kernel

/-- The configuration with a monitor of every type is accepted. -/
theorem networkConfig_accepted : networkConfig.Accepted .windows :=
  accepted_of_loadConfigFile (@networkDocument_loads [])

def bannerJob : Job .windows MonitorRunner where
  definition := bannerMonitor.definition
  valid := (networkConfig_accepted.monitors.each _ bannerMonitor_configured).definition_valid
  runner := .tcpExchange bannerConfig
  nextDue := 0
  inFlight := false

/-- A library that is asked for no pointer. -/
def noPointers : JsonPointers := ⟨fun _ _ => .ok none⟩

theorem lawful_noPointers : noPointers.Lawful where
  part _ _ _ _ := by rintro ⟨⟩
  quotes _ _ _ _ _ := by rintro ⟨⟩

def exactArithmetic : LongDouble := ⟨.linux, Double.exact, Double.exact⟩

/-- The server says this in one piece, and the runner publishes it. -/
def bannerWrite (response : Bytes) : Write .windows MonitorRunner :=
  .publish bannerJob (.returned (finishExchange bannerConfig 5 0 (.ok response))) 0

/-- Its document is made of texts. -/
theorem utf8_networkDocument : Json.Utf8Members networkDocument := by
  simp [networkDocument, networkMonitor, deckDocument, siteMonitor, members, textJson, solidStatus,
    Json.Utf8, Json.Utf8Items, Json.Utf8Members, validUtf8_bytes]

/-- An exchange that ends so is a write of that host. -/
theorem hosted_bannerWrite {response : Bytes} {left : Option Peer}
    (ended : runTcpExchange (peerSocket (fun _ most => most) fun _ most => most) bannerConfig 2
      (.ok { remaining := response }) 5 0 =
        some (finishExchange bannerConfig 5 0 (.ok response), left)) :
    Hosted plainWindows none exampleApi.library noPointers exactArithmetic networkConfig.monitors
      (bannerWrite response) :=
  ⟨⟨bannerMonitor, bannerMonitor_configured, createTcpExchangeMonitorRunner_of_accepted
      (networkConfig_accepted.monitors.each _ bannerMonitor_configured).source⟩,
    .tcpExchange bannerConfig _ 2 _ 5 0 _ left ended⟩

end PixelStatus.Host
