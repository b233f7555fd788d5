/-
# TCP exchanges

A runner sends its payload and receives until the delimiter, the byte limit or
the end of the stream. How the operating system cuts the payload and the stream
is a parameter; the outcome is a function of the whole stream alone, because the
received text is always a beginning of the stream without the delimiter.
-/

import PixelStatus.Host.MonitorRunnerFactory

namespace PixelStatus.Host

inductive SocketIoStatus
  | success
  | timeout
  | closed
  | error
  deriving DecidableEq

structure SocketIoResult where
  status : SocketIoStatus := .error
  bytes : Nat := 0
  nativeError : Int := 0

/-- A connected socket: what `send_some` does with data, and what `receive_some`
does with a buffer of a size and leaves at its start. -/
structure TcpSocket (σ : Type) where
  sendSome : Bytes → σ → SocketIoResult × σ
  receiveSome : Nat → σ → SocketIoResult × Bytes × σ

/-- Why an exchange fails: the error and its detail. -/
structure ExchangeFailure where
  error : MonitorError
  detail : Bytes

/-- `std::string::find`. -/
def find (pattern text : Bytes) : Option Nat :=
  (splitFirst pattern text).map fun parts => parts.1.length

def endpoint (host : Bytes) (port : UInt16) : Bytes :=
  if 0x3A ∈ host then bytes "[" ++ host ++ bytes "]:" ++ decimal port.toNat
  else host ++ bytes ":" ++ decimal port.toNat

def connectionFailure (config : TcpExchangeMonitorConfig) (error : MonitorError)
    (nativeError : Int) : ExchangeFailure where
  error := error
  detail :=
    let target := endpoint config.host config.port
    let code := bytes " (" ++ bytes (toString nativeError) ++ bytes ")"
    match error with
    | .timeout => bytes "TCP exchange connection to " ++ target ++ bytes " timed out"
    | .nameResolution => bytes "TCP exchange name resolution failed for " ++ config.host ++ code
    | .internal => bytes "Socket runtime initialization failed" ++ code
    | _ => bytes "TCP exchange connection to " ++ target ++ bytes " failed" ++ code

def sendFailure (io : SocketIoResult) : ExchangeFailure :=
  if io.status = .timeout then
    { error := .timeout, detail := bytes "TCP exchange send timed out" }
  else
    { error := .connection
      detail := bytes "TCP exchange send failed (" ++ bytes (toString io.nativeError)
        ++ bytes ")" }

def responseTooLarge : ExchangeFailure where
  error := .responseTooLarge
  detail := bytes "TCP exchange response exceeded the configured byte limit"

def peerClosed : ExchangeFailure where
  error := .protocol
  detail := bytes "TCP exchange peer closed before the response delimiter"

/-- The bytes of the receive buffer. -/
def bufferBytes : Nat := 1024

variable {σ : Type} (socket : TcpSocket σ) (config : TcpExchangeMonitorConfig)

/-- The send loop, which has sent so much; without a result when it does not end
in so many rounds. -/
def sendPayload : Nat → Nat → σ → Option (Except ExchangeFailure Unit × σ)
  | 0, _, _ => none
  | rounds + 1, sent, state =>
      if sent < config.send.length then
        let (io, next) := socket.sendSome (config.send.drop sent) state
        if io.status ≠ .success ∨ io.bytes = 0 then some (.error (sendFailure io), next)
        else sendPayload rounds (sent + io.bytes) next
      else some (.ok (), state)

/-- The receive loop, which has received this response. -/
def receiveResponse : Nat → Bytes → σ → Option (Except ExchangeFailure Bytes × σ)
  | 0, _, _ => none
  | rounds + 1, response, state =>
      if response.length = config.maximumResponseBytes then
        some (.error responseTooLarge, state)
      else
        let available := min bufferBytes (config.maximumResponseBytes - response.length)
        let (io, buffer, next) := socket.receiveSome available state
        match io.status with
        | .timeout =>
            some (.error { error := .timeout, detail := bytes "TCP exchange receive timed out" },
              next)
        | .closed => some (.error peerClosed, next)
        | .error =>
            some (.error
              { error := .connection
                detail := bytes "TCP exchange receive failed ("
                  ++ bytes (toString io.nativeError) ++ bytes ")" }, next)
        | .success =>
            let response := response ++ buffer.take io.bytes
            match find config.readUntil response with
            | some delimiter =>
                some (.ok (response.take (delimiter + config.readUntil.length)), next)
            | none => receiveResponse rounds response next

/-- The exchange over a connection. -/
def exchange (rounds : Nat) (state : σ) : Option (Except ExchangeFailure Bytes × σ) :=
  match sendPayload socket config rounds 0 state with
  | none => none
  | some (.error failure, next) => some (.error failure, next)
  | some (.ok (), next) => receiveResponse socket config rounds [] next

/-- The result of an exchange that ended at this time, so long after it began. -/
def finishExchange (latency : Duration) (finished : TimePoint) :
    Except ExchangeFailure Bytes → MonitorResult
  | .error failure =>
      { latency, observedAt := some finished, error := failure.error, detail := failure.detail }
  | .ok response =>
      { latency, observedAt := some finished, transportSuccess := true
        value := match config.observation with
          | .body => .text response
          | .latencyMs => .integer (Int64.ofInt latency)
        detail := bytes "TCP exchange completed with " ++ endpoint config.host config.port
          ++ bytes "; received " ++ decimal response.length ++ bytes " bytes" }

/-- `TcpExchangeMonitorRunner::run` with what `connect_tcp` returned. -/
def runTcpExchange (rounds : Nat) (connected : Except (MonitorError × Int) σ) (latency : Duration)
    (finished : TimePoint) : Option (MonitorResult × Option σ) :=
  match connected with
  | .error (error, nativeError) =>
      some (finishExchange config latency finished (.error (connectionFailure config error nativeError)),
        none)
  | .ok state =>
      (exchange socket config rounds state).map fun ended =>
        (finishExchange config latency finished ended.1, some ended.2)

/-! ## A peer -/

/-- A peer: the bytes it got, the bytes of its stream it has not delivered, and
how many calls were made. -/
structure Peer where
  received : Bytes := []
  remaining : Bytes
  calls : Nat := 0

/-- A size between one and the most there can be. -/
def pieceSize (choice most : Nat) : Nat := max 1 (min choice most)

/-- The peer's connection, without timeouts and errors. For each call `accept`
and `cut` choose how much of what is offered is taken. -/
def peerSocket (accept cut : Nat → Nat → Nat) : TcpSocket Peer where
  sendSome data peer :=
    let size := pieceSize (accept peer.calls data.length) data.length
    ({ status := .success, bytes := size },
      { peer with received := peer.received ++ data.take size, calls := peer.calls + 1 })
  receiveSome available peer :=
    if peer.remaining = [] then ({ status := .closed }, [], { peer with calls := peer.calls + 1 })
    else
      let size := pieceSize (cut peer.calls available) (min available peer.remaining.length)
      ({ status := .success, bytes := size }, peer.remaining.take size,
        { peer with remaining := peer.remaining.drop size, calls := peer.calls + 1 })

/-- What the whole stream says about an exchange. -/
def streamOutcome (stream : Bytes) : Except ExchangeFailure Bytes :=
  match find config.readUntil stream with
  | some delimiter =>
      if delimiter + config.readUntil.length ≤ config.maximumResponseBytes then
        .ok (stream.take (delimiter + config.readUntil.length))
      else .error responseTooLarge
  | none =>
      if config.maximumResponseBytes ≤ stream.length then .error responseTooLarge
      else .error peerClosed

/-! ## Searching -/

/-- A pattern is found at its first place. -/
theorem find_eq_some_iff {pattern text : Bytes} {start : Nat} :
    find pattern text = some start ↔ ∃ before, FirstBehind pattern text before ∧
      before.length = start := by
  rw [find, Option.map_eq_some_iff]
  refine ⟨?_, ?_⟩
  · rintro ⟨⟨before, after⟩, found, rfl⟩
    exact ⟨before, (splitFirst_eq_some_iff.mp found).2, rfl⟩
  · rintro ⟨before, first, rfl⟩
    obtain ⟨after, same⟩ := first.occurs
    rw [List.append_assoc] at same
    exact ⟨(before, after), splitFirst_eq_some_iff.mpr ⟨same.symm, first⟩, rfl⟩

/-- It is not found exactly when it stands nowhere. -/
theorem find_eq_none_iff {pattern text : Bytes} :
    find pattern text = none ↔ ¬ pattern <:+: text := by
  rw [find, Option.map_eq_none_iff, splitFirst_eq_none_iff]

/-- What is found in the beginning of a text is found in the text. -/
theorem find_append {pattern text : Bytes} {start : Nat} (found : find pattern text = some start)
    (more : Bytes) : find pattern (text ++ more) = some start ∧
      start + pattern.length ≤ text.length := by
  obtain ⟨before, first, rfl⟩ := find_eq_some_iff.mp found
  refine ⟨find_eq_some_iff.mpr ⟨before, first.append more, rfl⟩, ?_⟩
  have bound := first.occurs.length_le
  rwa [List.length_append] at bound

/-- What is not in the beginning of a text ends behind it. -/
theorem lt_of_find_append {pattern text more : Bytes} {start : Nat}
    (absent : ¬ pattern <:+: text) (found : find pattern (text ++ more) = some start) :
    text.length < start + pattern.length := by
  obtain ⟨before, first, rfl⟩ := find_eq_some_iff.mp found
  refine Nat.lt_of_not_le fun room => absent ?_
  have inside := List.prefix_of_prefix_length_le first.occurs (List.prefix_append text more)
    (by rwa [List.length_append])
  exact (List.suffix_append before pattern).isInfix.trans inside.isInfix

/-! ## The loops end with the stream's outcome -/

variable {config} {accept cut : Nat → Nat → Nat} {rounds : Nat} {peer : Peer} {stream : Bytes}

/-- A piece has a byte and no more than there are. -/
theorem pieceSize_bounds (choice : Nat) {most : Nat} (some' : 0 < most) :
    0 < pieceSize choice most ∧ pieceSize choice most ≤ most := by
  rw [pieceSize]
  omega

/-- The peer gets what is left of the payload. -/
theorem sendPayload_peer {sent : Nat} (inside : sent ≤ config.send.length)
    (enough : config.send.length - sent < rounds)
    (received : peer.received = config.send.take sent) :
    ∃ next, sendPayload (peerSocket accept cut) config rounds sent peer = some (.ok (), next) ∧
      next.received = config.send ∧ next.remaining = peer.remaining := by
  induction rounds generalizing sent peer with
  | zero => omega
  | succ rounds ih =>
      rw [sendPayload]
      by_cases more : sent < config.send.length
      · have left : 0 < (config.send.drop sent).length := by
          rw [List.length_drop]
          omega
        obtain ⟨positive, within⟩ :=
          pieceSize_bounds (accept peer.calls (config.send.drop sent).length) left
        rw [if_pos more]
        dsimp only [peerSocket]
        rw [if_neg (by simp only [ne_eq, not_true_eq_false, false_or]; omega)]
        generalize pieceSize (accept peer.calls (config.send.drop sent).length)
          (config.send.drop sent).length = size at positive within ⊢
        rw [List.length_drop] at within
        obtain ⟨next, ends, whole, kept⟩ := @ih
          { peer with
            received := peer.received ++ (config.send.drop sent).take size
            calls := peer.calls + 1 } (sent + size) (by omega) (by omega)
          (by rw [received, List.take_add])
        exact ⟨next, ends, whole, kept⟩
      · rw [if_neg more]
        refine ⟨peer, rfl, ?_, rfl⟩
        rw [received, List.take_of_length_le (Nat.le_of_not_lt more)]

/-- A response at the limit without the delimiter is the stream's outcome. -/
theorem streamOutcome_of_full {response rest : Bytes} (absent : ¬ config.readUntil <:+: response)
    (full : response.length = config.maximumResponseBytes) :
    streamOutcome config (response ++ rest) = .error responseTooLarge := by
  rw [streamOutcome]
  split
  next found =>
    have beyond := lt_of_find_append absent found
    rw [if_neg (by omega)]
  next => rw [if_pos (by rw [List.length_append]; omega)]

/-- A stream without the delimiter ends with its end. -/
theorem streamOutcome_of_closed {response : Bytes} (absent : ¬ config.readUntil <:+: response)
    (room : response.length < config.maximumResponseBytes) :
    streamOutcome config response = .error peerClosed := by
  rw [streamOutcome, find_eq_none_iff.mpr absent]
  exact if_neg (Nat.not_le.mpr room)

/-- What is behind the delimiter does not matter. -/
theorem streamOutcome_of_found {response rest : Bytes} {delimiter : Nat}
    (found : find config.readUntil response = some delimiter)
    (room : response.length ≤ config.maximumResponseBytes) :
    streamOutcome config (response ++ rest) =
      .ok (response.take (delimiter + config.readUntil.length)) := by
  obtain ⟨whole, ends⟩ := find_append found rest
  rw [streamOutcome, whole]
  dsimp only
  rw [if_pos (ends.trans room), List.take_append_of_le_length ends]

/-- The received text is always a beginning of the stream without the delimiter,
so the loop ends with the stream's outcome. -/
theorem receiveResponse_peer {response : Bytes} (absent : ¬ config.readUntil <:+: response)
    (room : response.length ≤ config.maximumResponseBytes)
    (enough : config.maximumResponseBytes - response.length < rounds) :
    ∃ next, receiveResponse (peerSocket accept cut) config rounds response peer =
        some (streamOutcome config (response ++ peer.remaining), next) ∧
      next.received = peer.received := by
  induction rounds generalizing response peer with
  | zero => omega
  | succ rounds ih =>
      rw [receiveResponse]
      by_cases full : response.length = config.maximumResponseBytes
      · rw [if_pos full, streamOutcome_of_full absent full]
        exact ⟨peer, rfl, rfl⟩
      · rw [if_neg full]
        have less : response.length < config.maximumResponseBytes := Nat.lt_of_le_of_ne room full
        dsimp only [peerSocket]
        by_cases ended : peer.remaining = []
        · rw [if_pos ended, ended, List.append_nil, streamOutcome_of_closed absent less]
          exact ⟨_, rfl, rfl⟩
        · rw [if_neg ended]
          have left := List.length_pos_of_ne_nil ended
          have window : 0 < min bufferBytes (config.maximumResponseBytes - response.length) := by
            rw [bufferBytes]
            omega
          have offered : 0 < min (min bufferBytes (config.maximumResponseBytes - response.length))
              peer.remaining.length := by omega
          obtain ⟨positive, within⟩ := pieceSize_bounds (cut peer.calls
            (min bufferBytes (config.maximumResponseBytes - response.length))) offered
          dsimp only
          generalize pieceSize (cut peer.calls
            (min bufferBytes (config.maximumResponseBytes - response.length)))
            (min (min bufferBytes (config.maximumResponseBytes - response.length))
              peer.remaining.length) = size at positive within ⊢
          have whole : response ++ peer.remaining =
              (response ++ peer.remaining.take size) ++ peer.remaining.drop size := by
            rw [List.append_assoc, List.take_append_drop]
          have grown : (response ++ peer.remaining.take size).length = response.length + size := by
            rw [List.length_append, List.length_take_of_le (by omega)]
          rw [whole, List.take_take, Nat.min_self]
          split
          next delimiter found =>
            rw [streamOutcome_of_found found (by omega)]
            exact ⟨_, rfl, rfl⟩
          next missing =>
            obtain ⟨next, ends, kept⟩ := @ih
              { peer with remaining := peer.remaining.drop size, calls := peer.calls + 1 }
              (response ++ peer.remaining.take size) (find_eq_none_iff.mp missing) (by omega)
              (by omega)
            exact ⟨next, ends, kept⟩

/-! ## Exchanges -/

variable {runner : MonitorRunner}

/-- A runner that is created has a delimiter. -/
theorem readUntil_of_created (created : createTcpExchangeMonitorRunner config = .ok runner) :
    config.readUntil ≠ [] := by
  obtain ⟨_, created⟩ := refuseIf_bind_eq_ok.mp created
  obtain ⟨_, created⟩ := refuseIf_bind_eq_ok.mp created
  obtain ⟨_, created⟩ := refuseIf_bind_eq_ok.mp created
  obtain ⟨_, created⟩ := refuseIf_bind_eq_ok.mp created
  obtain ⟨delimiter, _⟩ := refuseIf_bind_eq_ok.mp created
  exact fun empty => delimiter (.inl empty)

/-- The exchange sends the payload and ends with the stream's outcome. -/
theorem exchange_peer (delimited : config.readUntil ≠ []) (send : config.send.length < rounds)
    (receive : config.maximumResponseBytes < rounds) :
    ∃ next, exchange (peerSocket accept cut) config rounds { remaining := stream } =
        some (streamOutcome config stream, next) ∧ next.received = config.send := by
  obtain ⟨sent, transmitted, whole, remaining⟩ := @sendPayload_peer config accept cut rounds
    { remaining := stream } 0 (Nat.zero_le _) (by omega) rfl
  have absent : ¬ config.readUntil <:+: [] := fun empty => delimited (List.infix_nil.mp empty)
  obtain ⟨next, ends, kept⟩ := @receiveResponse_peer config accept cut rounds sent [] absent
    (Nat.zero_le _) (by rw [List.length_nil]; omega)
  refine ⟨next, ?_, kept.trans whole⟩
  rw [exchange, transmitted]
  dsimp only
  rw [ends, List.nil_append, remaining]

/-- An answer that fits is returned with its delimiter. -/
theorem streamOutcome_of_fits {before : Bytes} (first : FirstBehind config.readUntil stream before)
    (fits : before.length + config.readUntil.length ≤ config.maximumResponseBytes) :
    streamOutcome config stream = .ok (before ++ config.readUntil) := by
  have found : find config.readUntil stream = some before.length :=
    find_eq_some_iff.mpr ⟨before, first, rfl⟩
  obtain ⟨rest, same⟩ := first.occurs
  rw [streamOutcome, found]
  dsimp only
  rw [if_pos fits, ← same, ← List.length_append, List.take_left]

/-- An answer that does not fit is too large, or never ends. -/
theorem streamOutcome_of_not_fits
    (none' : ¬ ∃ before, FirstBehind config.readUntil stream before ∧
      before.length + config.readUntil.length ≤ config.maximumResponseBytes) :
    streamOutcome config stream = .error
      (if config.maximumResponseBytes ≤ stream.length then responseTooLarge else peerClosed) := by
  rw [streamOutcome]
  split
  next delimiter found =>
    obtain ⟨before, first, rfl⟩ := find_eq_some_iff.mp found
    have beyond : ¬ before.length + config.readUntil.length ≤ config.maximumResponseBytes :=
      fun fits => none' ⟨before, first, fits⟩
    have bound := first.occurs.length_le
    rw [List.length_append] at bound
    rw [if_neg beyond, if_pos (by omega)]
  next =>
    split
    · rfl
    · rfl

/-- Whatever the cuts, the payload is transmitted once and in order, both loops
end, and the result is the one of the whole stream: a success exactly when the
first delimiter ends within the limit, with the stream up to it as the response,
and otherwise the error that the length of the stream tells. -/
theorem runTcpExchange_stream (created : createTcpExchangeMonitorRunner config = .ok runner)
    (stream : Bytes) (latency : Duration) (finished : TimePoint) :
    ∃ result : MonitorResult,
      (result.transportSuccess = true ↔ ∃ before, FirstBehind config.readUntil stream before ∧
        before.length + config.readUntil.length ≤ config.maximumResponseBytes) ∧
      (∀ before, FirstBehind config.readUntil stream before →
        before.length + config.readUntil.length ≤ config.maximumResponseBytes →
          before ++ config.readUntil <+: stream ∧
            result = finishExchange config latency finished (.ok (before ++ config.readUntil))) ∧
      (result.transportSuccess = false → result.error =
        if config.maximumResponseBytes ≤ stream.length then .responseTooLarge else .protocol) ∧
      ∀ accept cut rounds, config.send.length < rounds → config.maximumResponseBytes < rounds →
        ∃ peer, runTcpExchange (peerSocket accept cut) config rounds (.ok { remaining := stream })
            latency finished = some (result, some peer) ∧ peer.received = config.send := by
  refine ⟨finishExchange config latency finished (streamOutcome config stream), ?_, ?_, ?_, ?_⟩
  · by_cases fits : ∃ before, FirstBehind config.readUntil stream before ∧
        before.length + config.readUntil.length ≤ config.maximumResponseBytes
    · obtain ⟨before, first, room⟩ := fits
      rw [streamOutcome_of_fits first room]
      exact iff_of_true rfl ⟨before, first, room⟩
    · rw [streamOutcome_of_not_fits fits]
      exact iff_of_false Bool.false_ne_true fits
  · intro before first fits
    rw [streamOutcome_of_fits first fits]
    exact ⟨first.occurs, rfl⟩
  · intro failed
    by_cases fits : ∃ before, FirstBehind config.readUntil stream before ∧
        before.length + config.readUntil.length ≤ config.maximumResponseBytes
    · obtain ⟨before, first, room⟩ := fits
      rw [streamOutcome_of_fits first room] at failed
      cases failed
    · rw [streamOutcome_of_not_fits fits]
      split
      · rfl
      · rfl
  · intro accept cut rounds send receive
    obtain ⟨peer, ends, transmitted⟩ := @exchange_peer config accept cut rounds stream
      (readUntil_of_created created) send receive
    refine ⟨peer, ?_, transmitted⟩
    rw [runTcpExchange, ends, Option.map_some]

/-- An exchange of one line. -/
def lineExchange : TcpExchangeMonitorConfig where
  host := bytes "127.0.0.1"
  port := 7
  send := bytes "PING\r\n"
  readUntil := bytes "\r\n"
  maximumResponseBytes := 16

/-- One byte at a time the line is received as in one piece. -/
theorem runTcpExchange_stream_line :
    ∃ peer, runTcpExchange (peerSocket (fun _ _ => 1) fun _ _ => 1) lineExchange 17
        (.ok { remaining := bytes "+PONG\r\nmore" }) 3 0 =
      some (finishExchange lineExchange 3 0 (.ok (bytes "+PONG\r\n")), some peer) := by
  obtain ⟨result, _, success, _, runs⟩ := @runTcpExchange_stream lineExchange _ rfl
    (bytes "+PONG\r\nmore") 3 0
  have first : FirstBehind lineExchange.readUntil (bytes "+PONG\r\nmore") (bytes "+PONG") :=
    (splitFirst_eq_some_iff.mp (by decide : splitFirst lineExchange.readUntil
      (bytes "+PONG\r\nmore") = some (bytes "+PONG", bytes "more"))).2
  obtain ⟨_, rfl⟩ := success _ first (by decide)
  obtain ⟨peer, ends, _⟩ := runs (fun _ _ => 1) (fun _ _ => 1) 17 (by decide) (by decide)
  exact ⟨peer, ends⟩

end PixelStatus.Host
