/-
# Reading HTTP monitors

The reader goes through the whole request before it gives up, so that every
mistake is reported. What it accepts is collected in one record, which the
runner factory's checks are compared with.
-/

import PixelStatus.Core.Config.Fields
import PixelStatus.Core.RequestText

namespace PixelStatus

open Logged

def validHttpUrl (url : Bytes) : Bool :=
  url.length ≤ maximumUrlBytes && (parseHttpUrl url).isSome

def validHttpHeaderName : Bytes → Bool := isHeaderName maximumHttpHeaderNameBytes

def validHttpHeaderValue : Bytes → Bool := isHeaderValue maximumHttpHeaderValueBytes

def transportOwnsHttpHeader : Bytes → Bool := transportOwnsHeader

def validSecretName : Bytes → Bool := isSecretName maximumSecretNameBytes

/-- The loop of `valid_secret_template` over at most so many references. -/
def validSecretReferences : Nat → Bytes → Bool
  | 0, _ => true
  | rounds + 1, value =>
      match nextSecret value with
      | none => true
      | some (_, none) => false
      | some (_, some (name, rest)) =>
          validSecretName name && validSecretReferences rounds rest

/-- A text has fewer references than bytes. -/
def validSecretTemplate (value : Bytes) : Bool := validSecretReferences value.length value

def validJsonPointer : Bytes → Bool := isJsonPointer maximumJsonPointerBytes

/-- The methods by their names. -/
def methodNames : List (String × HttpMethod) :=
  [("GET", .get), ("HEAD", .head), ("POST", .post), ("PUT", .put), ("PATCH", .patch),
    ("DELETE", .delete_)]

def parseHttpMethodName (method : Bytes) : Option HttpMethod :=
  (methodNames.find? fun entry => bytes entry.1 = method).map Prod.snd

/-- The URL, when it is valid. -/
def parseUrl (monitor : Members) (path : Bytes) : Loading (Option Bytes) := do
  match ← requiredString monitor "url" path with
  | none => return none
  | some url =>
      if validHttpUrl url then return some url
      else reject (path
        ++ bytes ".url must be an http:// or https:// URL without credentials or a fragment")

def parseMethod (monitor : Members) (path : Bytes) : Loading (Option HttpMethod) :=
  match monitor.field "method" with
  | none => return some .get
  | some (.string name) =>
      match parseHttpMethodName name with
      | some method => return some method
      | none => reject (path ++ bytes ".method must be GET, HEAD, POST, PUT, PATCH, or DELETE")
  | some _ => reject (path ++ bytes ".method must be a string")

/-! ## Header fields -/

/-- The header loop: the lowered names it has met, the bytes and the headers it
has kept, and whether every field was valid. -/
structure HeaderScan where
  names : List Bytes := []
  totalBytes : Nat := 0
  headers : List HttpHeader := []
  valid : Bool := true

/-- A field that is no valid header. -/
def HeaderScan.refuse (scan : HeaderScan) (message : Bytes) : Loading HeaderScan := do
  addError message
  return { scan with valid := false }

/-- The value of a header, when it may be sent. -/
def headerText : Json → Option Bytes
  | .string value => if validHttpHeaderValue value then some value else none
  | _ => none

def HeaderScan.step (path : Bytes) (scan : HeaderScan) (field : Bytes × Json) :
    Loading HeaderScan :=
  let loweredName := asciiLower field.1
  let headerPath := path ++ bytes ".headers." ++ field.1
  if !validHttpHeaderName field.1 then
    scan.refuse (path ++ bytes ".headers contains an invalid field name")
  else if loweredName ∈ scan.names then
    scan.refuse (path ++ bytes ".headers contains duplicate case-insensitive field names")
  else
    let scan := { scan with names := loweredName :: scan.names }
    if transportOwnsHttpHeader loweredName then
      scan.refuse (path ++ bytes ".headers cannot override " ++ field.1)
    else match headerText field.2 with
      | none =>
          scan.refuse (headerPath
            ++ bytes " must be a string of at most 2048 bytes without control characters")
      | some value =>
          if !validSecretTemplate value then
            scan.refuse (headerPath ++ bytes " contains an invalid secret reference")
          else return { scan with
            totalBytes := scan.totalBytes + (field.1.length + value.length)
            headers := scan.headers ++ [{ name := field.1, value }] }

/-- The headers, when all of them are valid. -/
def parseHeaders (monitor : Members) (path : Bytes) : Loading (Option (List HttpHeader)) := do
  match monitor.field "headers" with
  | none => return some []
  | some (.object fields) =>
      if fields.length > maximumHttpHeaderCount then
        reject (path ++ bytes ".headers must be an object with at most 32 fields")
      else
        let scan ← fields.foldlM (HeaderScan.step path) {}
        if scan.totalBytes > maximumHttpHeadersBytes then
          reject (path ++ bytes ".headers exceed the 8192-byte aggregate limit")
        else if scan.valid then return some scan.headers
        else return none
  | some _ => reject (path ++ bytes ".headers must be an object with at most 32 fields")

/-! ## The request and the observation -/

/-- A text of bounded length, empty when the field is missing. -/
def boundedText (object : Members) (key : String) (maximum : Nat) (message : Bytes) :
    Loading (Option Bytes) :=
  match object.field key with
  | none => return some []
  | some (.string value) =>
      if value.length > maximum then reject message else return some value
  | some _ => reject message

/-- The request body, which a request that only reads has none of. -/
def parseBody (monitor : Members) (path : Bytes) (method : HttpMethod) :
    Loading (Option Bytes) := do
  match ← boundedText monitor "body" maximumHttpRequestBodyBytes
      (path ++ bytes ".body must be a string of at most 16384 bytes") with
  | none => return none
  | some body =>
      if body ≠ [] ∧ (method = .get ∨ method = .head) then
        reject (path ++ bytes ".body is not allowed with GET or HEAD")
      else return some body

/-- The timeout of any monitor, two seconds by default. -/
def parseTimeout (monitor : Members) (path : Bytes) : Loading (Option Duration) :=
  match monitor.field "timeout" with
  | none => return some 2000
  | some field => boundedDurationValue field (fieldPath path "timeout") 1 maximumMonitorTimeout

/-- The byte limit of a response, 4096 by default. -/
def parseResponseLimit (monitor : Members) (path : Bytes) : Loading (Option Nat) :=
  if monitor.contains "maximum_response_bytes" then
    boundedSize monitor "maximum_response_bytes" path 1 maximumMonitorResponseBytes
  else return some (4 * 1024)

/-- What a monitor observes of a response. -/
structure HttpObserved where
  observation : HttpObservation
  jsonPointer : Bytes := []
  jsonDenominatorPointer : Bytes := []
  jsonScale : Double := .finite 1

/-- A JSON pointer at a path of its own. -/
def pointerAt (value : Option Json) (path : Bytes) : Loading (Option Bytes) :=
  match value with
  | some (.string pointer) =>
      if validJsonPointer pointer then return some pointer
      else reject (path ++ bytes " is invalid")
  | _ => reject (path ++ bytes " is invalid")

variable (round : Rounding)

/-- `get<double>` of a number. -/
def numberOf : Json → Option Double
  | .unsigned value => some (round value.toNat)
  | .integer value => some (round value.toInt)
  | .float value => some value
  | _ => none

def parseScale (ratio : Members) (path : Bytes) : Loading (Option Double) :=
  match ratio.field "scale" with
  | none => return some (.finite 1)
  | some field =>
      match numberOf round field with
      | none => reject (path ++ bytes ".scale must be a number")
      | some scale =>
          if !scale.isFinite || scale.le (.finite 0) || (Double.finite 1000000000).lt scale then
            reject (path
              ++ bytes ".scale must be greater than zero and no more than 1000000000")
          else return some scale

def parseRatio (ratio : Json) (path : Bytes) : Loading (Option HttpObserved) := do
  match ratio with
  | .object ratio =>
      rejectUnknownFields ratio ["numerator", "denominator", "scale"] path
      match ← pointerAt (Members.field ratio "numerator") (fieldPath path "numerator") with
      | none => return none
      | some numerator =>
          match ← pointerAt (Members.field ratio "denominator")
              (fieldPath path "denominator") with
          | none => return none
          | some denominator =>
              let scale ← parseScale round ratio path
              return scale.map fun scale =>
                { observation := .jsonRatio, jsonPointer := numerator,
                  jsonDenominatorPointer := denominator, jsonScale := scale }
  | _ => reject (path ++ bytes " must be an object")

/-- An observation that is switched on by `true`. -/
def observeTrue (value : Json) (path : Bytes) (observation : HttpObservation) :
    Loading (Option HttpObserved) :=
  match value with
  | .boolean true => return some { observation }
  | _ => reject (path ++ bytes " must be true")

/-- An observation of one pointer. -/
def observePointer (value : Json) (path : Bytes) (observation : HttpObservation) :
    Loading (Option HttpObserved) := do
  let pointer ← pointerAt (some value) path
  return pointer.map fun pointer => { observation, jsonPointer := pointer }

def parseHttpObservation (monitor : Members) (path : Bytes) :
    Loading (Option HttpObserved) :=
  let observePath := fieldPath path "observe"
  match monitor.field "observe" with
  | some (.object [(key, value)]) =>
      let valuePath := observePath ++ bytes "." ++ key
      if key = bytes "status_code" then observeTrue value valuePath .statusCode
      else if key = bytes "body" then observeTrue value valuePath .body
      else if key = bytes "json_pointer" then observePointer value valuePath .jsonPointer
      else if key = bytes "json_array_length" then
        observePointer value valuePath .jsonArrayLength
      else if key = bytes "json_ratio" then parseRatio round value valuePath
      else reject (observePath ++ bytes " contains an unknown observation")
  | _ => reject (observePath ++ bytes " must define exactly one observation")

def parseHttpMonitor (monitor : Members) (path : Bytes) :
    Loading (Option HttpMonitorConfig) := do
  let url ← parseUrl monitor path
  let method ← parseMethod monitor path
  let headers ← parseHeaders monitor path
  let body ← parseBody monitor path (method.getD .get)
  let timeout ← parseTimeout monitor path
  let maximumResponseBytes ← parseResponseLimit monitor path
  match ← parseHttpObservation round monitor path with
  | none => return none
  | some observed =>
      match url, method, headers, body with
      | some url, some method, some headers, some body =>
          let defaults : HttpMonitorConfig := {}
          return some
            { url, method, headers, body
              timeout := timeout.getD defaults.timeout
              maximumResponseBytes := maximumResponseBytes.getD defaults.maximumResponseBytes
              observation := observed.observation
              jsonPointer := observed.jsonPointer
              jsonDenominatorPointer := observed.jsonDenominatorPointer
              jsonScale := observed.jsonScale }
      | _, _, _, _ => return none

/-! ## What is accepted -/

/-- A header that may be sent as it stands. -/
structure HttpHeader.Accepted (header : HttpHeader) : Prop where
  name : validHttpHeaderName header.name = true
  value : validHttpHeaderValue header.value = true
  free : transportOwnsHttpHeader (asciiLower header.name) = false

/-- The bytes that count toward the limit on all headers. -/
def HttpHeader.size (header : HttpHeader) : Nat := header.name.length + header.value.length

def headersSize (headers : List HttpHeader) : Nat := (headers.map HttpHeader.size).sum

structure HeadersAccepted (headers : List HttpHeader) : Prop where
  count : headers.length ≤ maximumHttpHeaderCount
  distinct : (headers.map fun header => asciiLower header.name).Nodup
  each : ∀ header ∈ headers, header.Accepted
  size : headersSize headers ≤ maximumHttpHeadersBytes

/-- A number of the allowed range. -/
structure ScaleAccepted (scale : Double) : Prop where
  finite : scale.isFinite = true
  positive : scale.le (.finite 0) = false
  bounded : (Double.finite 1000000000).lt scale = false

structure HttpObserved.Accepted (observed : HttpObserved) : Prop where
  jsonPointer : validJsonPointer observed.jsonPointer = true
  jsonDenominatorPointer : validJsonPointer observed.jsonDenominatorPointer = true
  jsonScale : ScaleAccepted observed.jsonScale

/-- A timeout every monitor may have. -/
def TimeoutAccepted (timeout : Duration) : Prop := 1 ≤ timeout ∧ timeout ≤ maximumMonitorTimeout

def ResponseLimitAccepted (limit : Nat) : Prop := 1 ≤ limit ∧ limit ≤ maximumMonitorResponseBytes

structure HttpMonitorConfig.Accepted (config : HttpMonitorConfig) : Prop where
  url : (parseHttpUrl config.url).isSome = true
  headers : HeadersAccepted config.headers
  bodyAllowed : ¬ (config.body ≠ [] ∧ (config.method = .get ∨ config.method = .head))
  bodySize : config.body.length ≤ maximumHttpRequestBodyBytes
  timeout : TimeoutAccepted config.timeout
  responseLimit : ResponseLimitAccepted config.maximumResponseBytes
  jsonPointer : validJsonPointer config.jsonPointer = true
  jsonDenominatorPointer : validJsonPointer config.jsonDenominatorPointer = true
  jsonScale : ScaleAccepted config.jsonScale

variable {round} {monitor : Members} {path : Bytes}

/-- A URL that is read can be taken apart. -/
theorem parseUrl_ensures :
    Ensures (OfSome fun url => (parseHttpUrl url).isSome = true) (parseUrl monitor path) := by
  apply requiredString_ensures.bindSome
  · exact Ensures.pure OfSome.none
  intro url _
  dsimp only
  split
  next valid => exact Ensures.pure (OfSome.some (Bool.and_eq_true_iff.mp valid).2)
  · exact ensures_reject

/-- What the header loop keeps: the kept headers are accepted and their lowered
names are among those it has met. -/
structure HeaderScan.Sound (count : Nat) (scan : HeaderScan) : Prop where
  count : scan.headers.length ≤ count
  met : ∀ header ∈ scan.headers, asciiLower header.name ∈ scan.names
  distinct : (scan.headers.map fun header => asciiLower header.name).Nodup
  each : ∀ header ∈ scan.headers, header.Accepted
  totalBytes : scan.totalBytes = headersSize scan.headers

/-- A header's text is valid as a value. -/
theorem accepted_of_headerText {value : Json} {text : Bytes}
    (h : headerText value = some text) : validHttpHeaderValue text = true := by
  unfold headerText at h
  split at h
  · split at h
    next valid => exact Option.some.inj h ▸ valid
    · cases h
  · cases h

theorem headersSize_append (headers : List HttpHeader) (header : HttpHeader) :
    headersSize (headers ++ [header]) = headersSize headers + header.size := by
  simp [headersSize]

/-- A scan stays sound as it takes a field in. -/
theorem HeaderScan.step_ensures {count : Nat} {scan : HeaderScan} {field : Bytes × Json}
    (sound : scan.Sound count) : Ensures (HeaderScan.Sound (count + 1))
      (HeaderScan.step path scan field) := by
  unfold HeaderScan.step
  dsimp only
  split
  · exact ensures_addError_bind
  next name =>
  split
  · exact ensures_addError_bind
  next fresh =>
  split
  · exact ensures_addError_bind
  next free =>
  split
  · exact ensures_addError_bind
  next value text =>
  split
  · exact ensures_addError_bind
  · apply Ensures.pure
    refine ⟨?_, ?_, ?_, ?_, ?_⟩
    · exact (List.length_append ..).trans_le (Nat.add_le_add_right sound.count 1)
    · intro header member
      rcases List.mem_append.mp member with earlier | last
      · exact List.mem_cons_of_mem _ (sound.met header earlier)
      · rw [List.mem_singleton.mp last]
        exact List.mem_cons_self
    · rw [List.map_append, List.map_singleton, List.nodup_append_comm]
      apply List.nodup_cons.mpr
      refine ⟨?_, ?_⟩
      · intro member
        obtain ⟨header, earlier, same⟩ := List.mem_map.mp member
        exact fresh (same ▸ sound.met header earlier)
      · exact sound.distinct
    · intro header member
      rcases List.mem_append.mp member with earlier | last
      · exact sound.each header earlier
      · rw [List.mem_singleton.mp last]
        refine ⟨?_, ?_, ?_⟩
        · simpa using name
        · exact accepted_of_headerText text
        · simpa using free
    · rw [headersSize_append, ← sound.totalBytes]
      rfl

/-- The headers of a monitor are distinct, valid and within their limits. -/
theorem parseHeaders_ensures :
    Ensures (OfSome HeadersAccepted) (parseHeaders monitor path) := by
  unfold parseHeaders
  split
  · exact Ensures.pure
      (OfSome.some ⟨Nat.zero_le _, List.nodup_nil, List.forall_mem_nil _, Nat.zero_le _⟩)
  · split
    · exact ensures_reject
    next few =>
      have start : HeaderScan.Sound 0 {} :=
        ⟨Nat.le_refl 0, List.forall_mem_nil _, List.nodup_nil, List.forall_mem_nil _, rfl⟩
      apply (Ensures.foldlM_count HeaderScan.Sound start
        fun _ _ _ _ sound => HeaderScan.step_ensures sound).bind
      intro scan sound
      split
      · exact ensures_reject
      next small =>
        split
        · apply Ensures.pure
          apply OfSome.some
          refine ⟨?_, ?_, ?_, ?_⟩
          · exact sound.count.trans (Nat.not_lt.mp few)
          · exact sound.distinct
          · exact sound.each
          · exact sound.totalBytes ▸ Nat.not_lt.mp small
        · exact Ensures.pure OfSome.none
  · exact ensures_reject

/-- A text that is read is within its limit. -/
theorem boundedText_ensures {object : Members} {key : String} {maximum : Nat}
    {message : Bytes} : Ensures (OfSome fun text => text.length ≤ maximum)
      (boundedText object key maximum message) := by
  unfold boundedText
  split
  · exact Ensures.pure (OfSome.some (Nat.zero_le _))
  · split
    · exact ensures_reject
    next short => exact Ensures.pure (OfSome.some (Nat.not_lt.mp short))
  · exact ensures_reject

/-- A body is within its limit, and only a method that may have one has one. -/
theorem parseBody_ensures {method : HttpMethod} :
    Ensures (OfSome fun body => body.length ≤ maximumHttpRequestBodyBytes ∧
      ¬ (body ≠ [] ∧ (method = .get ∨ method = .head))) (parseBody monitor path method) := by
  apply boundedText_ensures.bindSome
  · exact Ensures.pure OfSome.none
  intro body short
  dsimp only
  split
  · exact ensures_reject
  next allowed => exact Ensures.pure (OfSome.some ⟨short, allowed⟩)

/-- The default of a timeout passes its check. -/
theorem timeoutAccepted_default : TimeoutAccepted 2000 := ⟨by decide, by decide⟩

/-- The default of a response limit passes its check. -/
theorem responseLimitAccepted_default : ResponseLimitAccepted (4 * 1024) :=
  ⟨by decide, by decide⟩

/-- The default of a scale passes its check. -/
theorem scaleAccepted_default : ScaleAccepted (.finite 1) := ⟨rfl, by decide, by decide⟩

/-- A timeout is within its bounds. -/
theorem parseTimeout_ensures :
    Ensures (OfSome TimeoutAccepted) (parseTimeout monitor path) := by
  unfold parseTimeout
  split
  · exact Ensures.pure (OfSome.some timeoutAccepted_default)
  · exact boundedDurationValue_ensures

/-- A response limit is within its bounds. -/
theorem parseResponseLimit_ensures :
    Ensures (OfSome ResponseLimitAccepted) (parseResponseLimit monitor path) := by
  unfold parseResponseLimit
  split
  · exact boundedSize_ensures
  · exact Ensures.pure (OfSome.some responseLimitAccepted_default)

/-- A pointer that is read is valid. -/
theorem pointerAt_ensures {value : Option Json} :
    Ensures (OfSome fun pointer => validJsonPointer pointer = true) (pointerAt value path) := by
  unfold pointerAt
  split
  · split
    next valid => exact Ensures.pure (OfSome.some valid)
    · exact ensures_reject
  · exact ensures_reject

/-- A scale is finite and within its bounds. -/
theorem parseScale_ensures {ratio : Members} :
    Ensures (OfSome ScaleAccepted) (parseScale round ratio path) := by
  unfold parseScale
  split
  · exact Ensures.pure (OfSome.some scaleAccepted_default)
  · split
    · exact ensures_reject
    · split
      · exact ensures_reject
      next accepted =>
        simp only [Bool.not_eq_true, Bool.or_eq_false_iff, Bool.not_eq_false'] at accepted
        exact Ensures.pure (OfSome.some ⟨accepted.1.1, accepted.1.2, accepted.2⟩)

/-- An observation without a ratio. -/
theorem HttpObserved.accepted_of_pointer {observation : HttpObservation} {pointer : Bytes}
    (valid : validJsonPointer pointer = true) :
    HttpObserved.Accepted { observation, jsonPointer := pointer } :=
  ⟨valid, rfl, scaleAccepted_default⟩

/-- A ratio has two valid pointers and an accepted scale. -/
theorem parseRatio_ensures {ratio : Json} :
    Ensures (OfSome HttpObserved.Accepted) (parseRatio round ratio path) := by
  unfold parseRatio
  split
  · apply Ensures.step
    intro _
    apply pointerAt_ensures.bindSome
    · exact Ensures.pure OfSome.none
    intro numerator hnumerator
    apply pointerAt_ensures.bindSome
    · exact Ensures.pure OfSome.none
    intro denominator hdenominator
    apply parseScale_ensures.bindMap
    intro scale hscale
    exact ⟨hnumerator, hdenominator, hscale⟩
  · exact ensures_reject

/-- An observation without arguments is accepted. -/
theorem observeTrue_ensures {value : Json} {observation : HttpObservation} :
    Ensures (OfSome HttpObserved.Accepted) (observeTrue value path observation) := by
  unfold observeTrue
  split
  · exact Ensures.pure (OfSome.some (HttpObserved.accepted_of_pointer rfl))
  · exact ensures_reject

/-- An observation by a pointer is accepted. -/
theorem observePointer_ensures {value : Json} {observation : HttpObservation} :
    Ensures (OfSome HttpObserved.Accepted) (observePointer value path observation) := by
  apply pointerAt_ensures.bindMap
  intro pointer hpointer
  exact HttpObserved.accepted_of_pointer hpointer

/-- Whatever is observed of a response is accepted. -/
theorem parseHttpObservation_ensures :
    Ensures (OfSome HttpObserved.Accepted) (parseHttpObservation round monitor path) := by
  unfold parseHttpObservation
  dsimp only
  split
  · split
    · exact observeTrue_ensures
    · split
      · exact observeTrue_ensures
      · split
        · exact observePointer_ensures
        · split
          · exact observePointer_ensures
          · split
            · exact parseRatio_ensures
            · exact ensures_reject
  · exact ensures_reject

/-- An HTTP monitor that is read is accepted. -/
theorem parseHttpMonitor_ensures :
    Ensures (OfSome HttpMonitorConfig.Accepted) (parseHttpMonitor round monitor path) := by
  apply parseUrl_ensures.bind
  intro url hurl
  apply Ensures.step
  intro method
  apply parseHeaders_ensures.bind
  intro headers hheaders
  apply parseBody_ensures.bind
  intro body hbody
  apply parseTimeout_ensures.bind
  intro timeout htimeout
  apply parseResponseLimit_ensures.bind
  intro limit hlimit
  apply parseHttpObservation_ensures.bindSome
  · exact Ensures.pure OfSome.none
  intro observed hobserved
  dsimp only
  split
  next url method headers body =>
    apply Ensures.pure
    apply OfSome.some
    refine ⟨?_, ?_, ?_, ?_, ?_, ?_, ?_, ?_, ?_⟩
    · exact hurl url rfl
    · exact hheaders headers rfl
    · exact (hbody body rfl).2
    · exact (hbody body rfl).1
    · exact htimeout.getD timeoutAccepted_default
    · exact hlimit.getD responseLimitAccepted_default
    · exact hobserved.jsonPointer
    · exact hobserved.jsonDenominatorPointer
    · exact hobserved.jsonScale
  · exact Ensures.pure OfSome.none

end PixelStatus
