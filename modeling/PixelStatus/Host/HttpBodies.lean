/-
# Bodies of responses

The two HTTP transports receive a body under one limit. The one is called back
with each chunk and cancels the transfer, after a look at the declared length;
the other asks how much is available and reads it through a buffer. Either way
the held bytes are a beginning of the body within the limit, so both succeed for
the same bodies, however those are delivered.
-/

import Mathlib.Logic.Relation
import PixelStatus.Host.HttpTransports

namespace PixelStatus.Host

structure HttpTransportResponse where
  success : Bool := false
  statusCode : UInt32 := 0
  body : Bytes := []
  error : MonitorError := .none
  detail : Bytes := []

/-- The response of a body that exceeds the limit; what was held stays in it. -/
def bodyTooLarge (held : Bytes) : HttpTransportResponse where
  body := held
  error := .responseTooLarge
  detail := bytes "HTTP response exceeded the configured body limit"

variable (sizeBits : Nat) (config : HttpMonitorConfig)

/-- What is left of the limit, in a `size_t` of so many bits. -/
def remainingCapacity (held : Bytes) : Nat :=
  (config.maximumResponseBytes + 2 ^ sizeBits - held.length) % 2 ^ sizeBits

/-! ## Callbacks -/

/-- What the callbacks of `perform_httplib_request` write to. -/
structure Receiving where
  body : Bytes := []
  responseTooLarge : Bool := false

/-- `request.response_handler`, for the value of a `Content-Length` header;
false cancels the transfer. -/
def responseHandler (contentLength : Option Nat) (receiving : Receiving) : Bool × Receiving :=
  match contentLength with
  | some length =>
      if length > config.maximumResponseBytes then
        (false, { receiving with responseTooLarge := true })
      else (true, receiving)
  | none => (true, receiving)

/-- `request.content_receiver`; false cancels the transfer. -/
def contentReceiver (data : Bytes) (receiving : Receiving) : Bool × Receiving :=
  if data.length > remainingCapacity sizeBits config receiving.body then
    (false, { receiving with responseTooLarge := true })
  else (true, { receiving with body := receiving.body ++ data })

/-- The library delivers chunk by chunk until one cancels the transfer. -/
def deliverChunks : List Bytes → Receiving → Bool × Receiving
  | [], receiving => (true, receiving)
  | data :: chunks, receiving =>
      match contentReceiver sizeBits config data receiving with
      | (false, next) => (false, next)
      | (true, next) => deliverChunks chunks next

/-- `client.send` without transport errors: the handler sees the headers, and
then the chunks are delivered. -/
def sendHttplib (contentLength : Option Nat) (chunks : List Bytes) : Bool × Receiving :=
  match responseHandler config contentLength {} with
  | (false, next) => (false, next)
  | (true, next) => deliverChunks sizeBits config chunks next

/-- The end of `perform_httplib_request`; `error` is the library's error, should
there be no response for another reason than the limit. -/
def httplibResponse (error : MonitorError) (errorText : Bytes) (statusCode : UInt32) :
    Bool × Receiving → HttpTransportResponse
  | (true, receiving) => { success := true, statusCode, body := receiving.body }
  | (false, receiving) =>
      if receiving.responseTooLarge then bodyTooLarge receiving.body
      else
        { body := receiving.body, error
          detail := bytes "HTTP request failed: " ++ errorText }

/-! ## Reads -/

/-- `WinHttpQueryDataAvailable` and `WinHttpReadData`, with the error that each
may end with. -/
structure WinHttpReader (σ : Type) where
  queryDataAvailable : σ → Except UInt32 (Nat × σ)
  readData : Nat → σ → Except UInt32 (Bytes × σ)

/-- The bytes of the read buffer. -/
def readBufferBytes : Nat := 4096

variable {σ : Type} (reader : WinHttpReader σ) (secure : Bool) (statusCode : UInt32)

/-- One round of the loop over the held bytes: what the request ends with, or
what is held after it. -/
def readRound (held : Bytes × σ) :
    Except WinHttpFailure HttpTransportResponse ⊕ Bytes × σ :=
  let failure (code : UInt32) : WinHttpFailure :=
    { error := .last code, secure, operation := "response reading" }
  let received : HttpTransportResponse := { success := true, statusCode, body := held.1 }
  match reader.queryDataAvailable held.2 with
  | .error code => .inl (.error (failure code))
  | .ok (available, queried) =>
      if available = 0 then .inl (.ok received)
      else if available > remainingCapacity sizeBits config held.1 then .inl (.ok (bodyTooLarge []))
      else match reader.readData (min available readBufferBytes) queried with
        | .error code => .inl (.error (failure code))
        | .ok (data, next) =>
            if data.length = 0 then .inl (.ok received) else .inr (held.1 ++ data, next)

/-- The loop, without a result when it does not end in so many rounds. -/
def readResponse : Nat → Bytes × σ → Option (Except WinHttpFailure HttpTransportResponse)
  | 0, _ => none
  | rounds + 1, held =>
      match readRound sizeBits config reader secure statusCode held with
      | .inl ended => some ended
      | .inr next => readResponse rounds next

/-- The loop comes from one state to the next. -/
def ReadsTo (held next : Bytes × σ) : Prop :=
  readRound sizeBits config reader secure statusCode held = .inr next

/-! ## A server -/

/-- How the library reports and returns the rest of a body, call by call: no more
than there is, and something while anything remains. -/
structure Delivery where
  reported : Nat → Bytes → Nat
  returned : Nat → Nat → Bytes → Nat
  reported_le : ∀ calls rest, reported calls rest ≤ rest.length
  reported_pos : ∀ calls rest, rest ≠ [] → 0 < reported calls rest
  returned_le : ∀ calls requested rest, returned calls requested rest ≤ min requested rest.length
  returned_pos : ∀ calls requested rest, 0 < requested → rest ≠ [] →
    0 < returned calls requested rest

/-- The rest of a body, and how many calls were made. -/
structure BodyRest where
  rest : Bytes
  calls : Nat := 0

/-- The reads of a body without transport errors. -/
def Delivery.reads (delivery : Delivery) : WinHttpReader BodyRest where
  queryDataAvailable server :=
    .ok (delivery.reported server.calls server.rest, { server with calls := server.calls + 1 })
  readData requested server :=
    let count := delivery.returned server.calls requested server.rest
    .ok (server.rest.take count, { rest := server.rest.drop count, calls := server.calls + 1 })

/-! ## The capacity never wraps -/

variable {sizeBits config} {held : Bytes}

/-- Within a word the capacity that remains is the difference. -/
theorem remainingCapacity_eq (word : config.maximumResponseBytes < 2 ^ sizeBits)
    (within : held.length ≤ config.maximumResponseBytes) :
    remainingCapacity sizeBits config held = config.maximumResponseBytes - held.length := by
  rw [remainingCapacity, Nat.sub_add_comm within, Nat.add_mod_right]
  exact Nat.mod_eq_of_lt ((Nat.sub_le _ _).trans_lt word)

/-- A piece fits when it does behind what is held. -/
theorem fits_iff {size : Nat} (word : config.maximumResponseBytes < 2 ^ sizeBits)
    (within : held.length ≤ config.maximumResponseBytes) :
    ¬ size > remainingCapacity sizeBits config held ↔
      held.length + size ≤ config.maximumResponseBytes := by
  rw [remainingCapacity_eq word within]
  omega

/-! ## The callbacks keep the limit -/

variable {chunks : List Bytes} {receiving : Receiving}

/-- A piece that fits is appended. -/
theorem contentReceiver_of_fits {data : Bytes} (word : config.maximumResponseBytes < 2 ^ sizeBits)
    (fits : (receiving.body ++ data).length ≤ config.maximumResponseBytes) :
    contentReceiver sizeBits config data receiving =
      (true, { receiving with body := receiving.body ++ data }) := by
  rw [List.length_append] at fits
  exact if_neg ((fits_iff word (by omega)).mpr fits)

/-- A piece that does not fit ends the transfer. -/
theorem contentReceiver_of_exceeds {data : Bytes}
    (word : config.maximumResponseBytes < 2 ^ sizeBits)
    (within : receiving.body.length ≤ config.maximumResponseBytes)
    (exceeds : ¬ (receiving.body ++ data).length ≤ config.maximumResponseBytes) :
    contentReceiver sizeBits config data receiving =
      (false, { receiving with responseTooLarge := true }) := by
  rw [List.length_append] at exceeds
  exact if_pos (Decidable.not_not.mp fun fits => exceeds ((fits_iff word within).mp fits))

/-- The callbacks hold no more than the limit, and end with the whole body or
with the mark of a body that is too large. -/
theorem deliverChunks_spec (word : config.maximumResponseBytes < 2 ^ sizeBits)
    (within : receiving.body.length ≤ config.maximumResponseBytes) :
    (deliverChunks sizeBits config chunks receiving).2.body.length ≤ config.maximumResponseBytes ∧
      if (receiving.body ++ chunks.flatten).length ≤ config.maximumResponseBytes then
        deliverChunks sizeBits config chunks receiving =
          (true, { receiving with body := receiving.body ++ chunks.flatten })
      else (deliverChunks sizeBits config chunks receiving).1 = false ∧
        (deliverChunks sizeBits config chunks receiving).2.responseTooLarge = true := by
  induction chunks generalizing receiving with
  | nil =>
      rw [List.flatten_nil, List.append_nil, if_pos within]
      exact ⟨within, rfl⟩
  | cons data chunks ih =>
      rw [deliverChunks, List.flatten_cons, ← List.append_assoc]
      by_cases fits : (receiving.body ++ data).length ≤ config.maximumResponseBytes
      · rw [contentReceiver_of_fits word fits]
        dsimp only
        exact @ih { receiving with body := receiving.body ++ data } fits
      · rw [contentReceiver_of_exceeds word within fits]
        dsimp only
        have beyond : ¬ (receiving.body ++ data ++ chunks.flatten).length ≤
            config.maximumResponseBytes := by
          rw [List.length_append]
          omega
        rw [if_neg beyond]
        exact ⟨within, rfl, rfl⟩

/-- The response for a body: all of it within the limit, and the error beyond it,
with what was held then. -/
def limitedResponse (config : HttpMonitorConfig) (statusCode : UInt32) (body held : Bytes) :
    HttpTransportResponse :=
  if body.length ≤ config.maximumResponseBytes then { success := true, statusCode, body }
  else bodyTooLarge held

/-- Through one library the response is the limited one. -/
theorem sendHttplib_spec {contentLength : Option Nat} {error : MonitorError} {errorText : Bytes}
    {statusCode : UInt32} (word : config.maximumResponseBytes < 2 ^ sizeBits)
    (declared : contentLength = none ∨ contentLength = some chunks.flatten.length) :
    ∃ held : Bytes, held.length ≤ config.maximumResponseBytes ∧
      httplibResponse error errorText statusCode
          (sendHttplib sizeBits config contentLength chunks) =
        limitedResponse config statusCode chunks.flatten held := by
  obtain ⟨within, ends⟩ := @deliverChunks_spec sizeBits config chunks {} word (Nat.zero_le _)
  rw [List.nil_append] at ends
  by_cases fits : chunks.flatten.length ≤ config.maximumResponseBytes
  · have passes : responseHandler config contentLength {} = (true, {}) := by
      obtain rfl | rfl := declared
      · rfl
      · exact if_neg (Nat.not_lt.mpr fits)
    rw [if_pos fits] at ends
    refine ⟨[], Nat.zero_le _, ?_⟩
    rw [sendHttplib, passes]
    dsimp only
    rw [ends, limitedResponse, if_pos fits]
    rfl
  · rw [if_neg fits] at ends
    have response (held : Bytes) :
        limitedResponse config statusCode chunks.flatten held = bodyTooLarge held := if_neg fits
    obtain rfl | rfl := declared
    · refine ⟨_, within, ?_⟩
      rw [sendHttplib, responseHandler]
      dsimp only
      generalize deliverChunks sizeBits config chunks {} = delivered at ends ⊢
      obtain ⟨goesOn, receiving⟩ := delivered
      obtain ⟨rfl, marked⟩ := ends
      exact (if_pos marked).trans (response _).symm
    · refine ⟨[], Nat.zero_le _, ?_⟩
      rw [sendHttplib, responseHandler, if_pos (Nat.lt_of_not_le fits), response]
      rfl

/-! ## The reads keep the limit -/

variable {delivery : Delivery} {secure : Bool} {statusCode : UInt32} {body : Bytes}

/-- What is held begins the body, and fits. -/
structure HoldsPart (config : HttpMonitorConfig) (body : Bytes)
    (held : Bytes × BodyRest) : Prop where
  whole : held.1 ++ held.2.rest = body
  within : held.1.length ≤ config.maximumResponseBytes

/-- A round ends with the response for the body, or reads more of it. -/
theorem readRound_spec {held : Bytes × BodyRest} (word : config.maximumResponseBytes < 2 ^ sizeBits)
    (part : HoldsPart config body held) :
    readRound sizeBits config delivery.reads secure statusCode held =
        .inl (.ok (limitedResponse config statusCode body [])) ∨
      ∃ next, readRound sizeBits config delivery.reads secure statusCode held = .inr next ∧
        HoldsPart config body next ∧ next.2.rest.length < held.2.rest.length := by
  obtain ⟨held, rest, calls⟩ := held
  obtain ⟨whole, within⟩ := part
  dsimp only at whole within
  subst whole
  unfold readRound
  dsimp only [Delivery.reads]
  by_cases ended : rest = []
  · have nothing : delivery.reported calls rest = 0 :=
      Nat.le_zero.mp ((delivery.reported_le calls rest).trans_eq (by rw [ended]; rfl))
    rw [if_pos nothing, ended, List.append_nil, limitedResponse, if_pos within]
    exact .inl rfl
  · have something := delivery.reported_pos calls rest ended
    have reported := delivery.reported_le calls rest
    rw [if_neg something.ne']
    by_cases exceeds :
        delivery.reported calls rest > remainingCapacity sizeBits config held
    · rw [if_pos exceeds, limitedResponse, if_neg]
      · exact .inl rfl
      · have beyond := (fits_iff word within).not.mp (not_not_intro exceeds)
        rw [List.length_append]
        omega
    · have fits := (fits_iff word within).mp exceeds
      have requested : 0 < min (delivery.reported calls rest) readBufferBytes := by
        rw [readBufferBytes]
        omega
      have count := delivery.returned_le (calls + 1)
        (min (delivery.reported calls rest) readBufferBytes) rest
      have some' := delivery.returned_pos (calls + 1)
        (min (delivery.reported calls rest) readBufferBytes) rest requested ended
      generalize delivery.returned (calls + 1)
        (min (delivery.reported calls rest) readBufferBytes) rest = size at count some' ⊢
      have taken : (rest.take size).length = size := List.length_take_of_le (by omega)
      rw [if_neg exceeds, if_neg (by rw [taken]; omega)]
      refine .inr ⟨_, rfl, ⟨?_, ?_⟩, ?_⟩
      · rw [List.append_assoc, List.take_append_drop]
      · rw [List.length_append, taken]
        omega
      · rw [List.length_drop]
        omega

/-- Through the other it is, too. -/
theorem readResponse_spec {rounds : Nat} {held : Bytes × BodyRest}
    (word : config.maximumResponseBytes < 2 ^ sizeBits) (part : HoldsPart config body held)
    (enough : held.2.rest.length < rounds) :
    readResponse sizeBits config delivery.reads secure statusCode rounds held =
      some (.ok (limitedResponse config statusCode body [])) := by
  induction rounds generalizing held with
  | zero => omega
  | succ rounds ih =>
      rw [readResponse]
      obtain ended | ⟨next, reads, more, shorter⟩ :=
        @readRound_spec sizeBits config delivery secure statusCode body held word part
      · rw [ended]
      · rw [reads]
        exact ih more (by omega)

/-- Every state of the loop holds a part of the body. -/
theorem holdsPart_of_reads {held : Bytes × BodyRest}
    (word : config.maximumResponseBytes < 2 ^ sizeBits)
    (reached : Relation.ReflTransGen
      (ReadsTo sizeBits config delivery.reads secure statusCode) ([], { rest := body }) held) :
    HoldsPart config body held := by
  induction reached with
  | refl => exact ⟨rfl, Nat.zero_le _⟩
  | tail _ round ih =>
      obtain ended | ⟨next, reads, more, _⟩ :=
        @readRound_spec sizeBits config delivery secure statusCode body _ word ih
      · exact absurd (ended.symm.trans round) Sum.inl_ne_inr
      · exact Sum.inr.inj (reads.symm.trans round) ▸ more

/-! ## The transports agree -/

/-- However a body is delivered, both transports return it exactly when it is
within the limit and otherwise report that it is too large; neither ever holds
more than the limit, and the capacity that is left never wraps. -/
theorem http_bodies_agree (word : config.maximumResponseBytes < 2 ^ sizeBits) (body : Bytes)
    (statusCode : UInt32) :
    (∀ contentLength chunks error errorText, chunks.flatten = body →
      (contentLength = none ∨ contentLength = some body.length) →
        (∃ held : Bytes, held.length ≤ config.maximumResponseBytes ∧
          httplibResponse error errorText statusCode
              (sendHttplib sizeBits config contentLength chunks) =
            limitedResponse config statusCode body held) ∧
        ∀ seen rest, chunks = seen ++ rest →
          (deliverChunks sizeBits config seen {}).2.body.length ≤ config.maximumResponseBytes ∧
          remainingCapacity sizeBits config (deliverChunks sizeBits config seen {}).2.body =
            config.maximumResponseBytes - (deliverChunks sizeBits config seen {}).2.body.length) ∧
    ∀ (delivery : Delivery) (secure : Bool),
      (∀ rounds, body.length < rounds →
        readResponse sizeBits config delivery.reads secure statusCode rounds
            ([], { rest := body }) = some (.ok (limitedResponse config statusCode body []))) ∧
      ∀ held, Relation.ReflTransGen
          (ReadsTo sizeBits config delivery.reads secure statusCode) ([], { rest := body }) held →
        held.1.length ≤ config.maximumResponseBytes ∧
          remainingCapacity sizeBits config held.1 =
            config.maximumResponseBytes - held.1.length := by
  refine ⟨?_, ?_⟩
  · rintro contentLength chunks error errorText rfl declared
    refine ⟨sendHttplib_spec word declared, fun seen rest _ => ?_⟩
    have within := (@deliverChunks_spec sizeBits config seen {} word (Nat.zero_le _)).1
    exact ⟨within, remainingCapacity_eq word within⟩
  · intro delivery secure
    refine ⟨?_, ?_⟩
    · intro rounds enough
      exact readResponse_spec word ⟨rfl, Nat.zero_le _⟩ enough
    · intro held reached
      have part := holdsPart_of_reads word reached
      exact ⟨part.within, remainingCapacity_eq word part.within⟩

/-- All that remains is reported, and as much of it returned as was asked for. -/
def Delivery.eager : Delivery where
  reported _ rest := rest.length
  returned _ requested rest := min requested rest.length
  reported_le _ _ := Nat.le_refl _
  reported_pos _ _ remains := List.length_pos_of_ne_nil remains
  returned_le _ _ _ := Nat.le_refl _
  returned_pos _ _ _ requested remains :=
    Nat.lt_min.mpr ⟨requested, List.length_pos_of_ne_nil remains⟩

/-- A body of one byte more than the limit, in chunks and in reads. -/
theorem http_bodies_agree_six :
    (∃ held : Bytes, held.length ≤ 5 ∧
      httplibResponse .none [] 200 (sendHttplib 64 { maximumResponseBytes := 5 } none
        [bytes "four", bytes "ty"]) = bodyTooLarge held) ∧
    readResponse 64 { maximumResponseBytes := 5 } Delivery.eager.reads false 200 7
      ([], { rest := bytes "fourty" }) = some (.ok (bodyTooLarge [])) := by
  have exceeds : ¬ (bytes "fourty").length ≤ 5 := by decide
  have agree := @http_bodies_agree 64 { maximumResponseBytes := 5 } (by decide) (bytes "fourty") 200
  obtain ⟨held, within, response⟩ :=
    (agree.1 none [bytes "four", bytes "ty"] .none [] (by decide) (.inl rfl)).1
  refine ⟨⟨held, within, response.trans (if_neg exceeds)⟩, ?_⟩
  rw [(agree.2 Delivery.eager false).1 7 (by decide)]
  exact congrArg (fun ended => some (Except.ok ended)) (if_neg exceeds)

end PixelStatus.Host
