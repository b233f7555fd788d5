/-
# The two HTTP transports

A host on Windows sends `http` requests through httplib and `https` requests
through WinHTTP; each transport builds the request by itself. The two libraries
are given by what they answer to the calls. A wide text is kept in its UTF-8
form, from which it can be had back.
-/

import PixelStatus.Core.Config.Load
import PixelStatus.Host.MonitorRunnerFactory

namespace PixelStatus.Host

open Outcome

/-! ## httplib -/

/-- What the library makes of a scheme and host. -/
structure Httplib where
  isValid : Bytes → Bool

/-- The request handed to `Client::send`. -/
structure HttplibRequest where
  method : Bytes
  path : Bytes
  headers : List HttpHeader
  body : Bytes
  deriving DecidableEq

/-- The header loop: the headers so far, and whether one of them is `Accept`. -/
def emplaceHeader (scan : List HttpHeader × Bool) (header : HttpHeader) :
    List HttpHeader × Bool :=
  (scan.1 ++ [header], scan.2 || asciiLower header.name = bytes "accept")

/-- `perform_httplib_request` up to the call that sends. -/
def performHttplibRequest (library : Httplib) (config : HttpMonitorConfig) (url : ParsedHttpUrl) :
    Except Bytes HttplibRequest :=
  if !library.isValid url.base then
    .error (bytes "HTTP client could not parse or initialize the configured URL")
  else
    let scan := config.headers.foldl emplaceHeader ([], false)
    let headers :=
      if config.observation ≠ .statusCode ∧ config.observation ≠ .body ∧ scan.2 = false then
        scan.1 ++ [{ name := bytes "Accept", value := bytes "application/json" }]
      else scan.1
    .ok { method := httpMethodName config.method, path := url.target, headers, body := config.body }

/-! ## WinHTTP -/

/-- A wide text, by its UTF-8 form. -/
structure WideText where
  utf8 : Bytes
  valid : ValidUtf8 utf8
  deriving DecidableEq

namespace WideText

def append (left right : WideText) : WideText where
  utf8 := left.utf8 ++ right.utf8
  valid := left.valid.append right.valid

/-- A literal of the source. -/
def literal (text : String) : WideText where
  utf8 := bytes text
  valid := validUtf8_bytes text

end WideText

/-- `utf8_to_wide`, which takes no more than an `int` can count. -/
def utf8ToWide (value : Bytes) : Option WideText :=
  if value.length > 2 ^ 31 - 1 then none
  else if valid : ValidUtf8 value then some { utf8 := value, valid }
  else none

/-- What `WinHttpCrackUrl` reports; no scheme for one that is neither of the two. -/
structure UrlComponents where
  scheme : Option HttpScheme
  port : UInt16
  hostName : WideText
  urlPath : WideText
  extraInfo : WideText

structure WinHttpUrl where
  secure : Bool
  port : UInt16
  host : WideText
  target : WideText

/-- The calls that prepare and send a request. -/
inductive WinHttpCall
  | openSession
  | setTimeouts (timeout : Duration)
  | connect (host : WideText) (port : UInt16)
  | openRequest (method target : WideText) (secure : Bool)
  | setRedirectPolicy
  | addRequestHeaders (line : WideText)
  | sendRequest (body : Option Bytes) (size : UInt32)

/-- The library: how it takes a URL apart, and the error a call ends with. -/
structure WinHttp where
  crackUrl : WideText → Option UrlComponents
  lastError : WinHttpCall → Option UInt32

/-- The errors that `failure` is called with. -/
inductive WinHttpError
  | invalidUrl
  | noUnicodeTranslation
  | last (code : UInt32)

structure WinHttpFailure where
  error : WinHttpError
  secure : Bool
  operation : String

/-- The request handed to the library: the arguments of `WinHttpOpenRequest`, the
lines added and the bytes sent. -/
structure WinHttpRequest where
  method : WideText
  target : WideText
  headerLines : List WideText
  body : Bytes

namespace WinHttp

variable (library : WinHttp)

/-- Go on when the call succeeds. -/
def call (called : WinHttpCall) (secure : Bool) (operation : String) : Except WinHttpFailure Unit :=
  match library.lastError called with
  | none => .ok ()
  | some code => .error { error := .last code, secure, operation }

def crack (value : Bytes) : Option WinHttpUrl := do
  let components ← library.crackUrl (← utf8ToWide value)
  let scheme ← components.scheme
  let path := if components.urlPath.utf8 = [] then .literal "/" else components.urlPath
  return {
    secure := scheme = .https
    port := components.port
    host := components.hostName
    target := path.append components.extraInfo }

end WinHttp

def methodName : HttpMethod → WideText
  | .get => .literal "GET"
  | .head => .literal "HEAD"
  | .post => .literal "POST"
  | .put => .literal "PUT"
  | .patch => .literal "PATCH"
  | .delete_ => .literal "DELETE"

def asciiIequals (left right : Bytes) : Bool :=
  left.length = right.length
    && (left.zip right).all fun pair => lowerByte pair.1 = lowerByte pair.2

/-- The line of a header, name and value joined. -/
def headerLine (name value : WideText) : WideText := (name.append (.literal ": ")).append value

namespace WinHttp

variable (library : WinHttp) (secure : Bool)

/-- The header loop: the lines so far, and whether one of them is for `Accept`. -/
def addHeader (scan : List WideText × Bool) (header : HttpHeader) :
    Except WinHttpFailure (List WideText × Bool) :=
  match utf8ToWide header.name, utf8ToWide header.value with
  | some name, some value => do
      let line := headerLine name value
      library.call (.addRequestHeaders line) secure "header setup"
      return (scan.1 ++ [line], scan.2 || asciiIequals header.name (bytes "accept"))
  | _, _ => .error { error := .noUnicodeTranslation, secure, operation := "header conversion" }

/-- The default header of one of the observations. -/
def addAccept (config : HttpMonitorConfig) (scan : List WideText × Bool) :
    Except WinHttpFailure (List WideText) :=
  if config.observation = .jsonPointer ∧ scan.2 = false then do
    let accept := WideText.literal "Accept: application/json"
    library.call (.addRequestHeaders accept) secure "header setup"
    return scan.1 ++ [accept]
  else return scan.1

end WinHttp

/-- `perform_winhttp_request` up to the call that sends. -/
def performWinhttpRequest (library : WinHttp) (config : HttpMonitorConfig) :
    Except WinHttpFailure WinHttpRequest :=
  match library.crack config.url with
  | none => .error { error := .invalidUrl, secure := false, operation := "URL parsing" }
  | some url => do
      library.call .openSession url.secure "session creation"
      library.call (.setTimeouts config.timeout) url.secure "timeout setup"
      library.call (.connect url.host url.port) url.secure "connection setup"
      let method := methodName config.method
      library.call (.openRequest method url.target url.secure) url.secure "request creation"
      library.call .setRedirectPolicy url.secure "redirect setup"
      let scan ← config.headers.foldlM (library.addHeader url.secure) ([], false)
      let headerLines ← library.addAccept url.secure config scan
      let body := if config.body = [] then none else some config.body
      let bodySize := UInt32.ofNat config.body.length
      library.call (.sendRequest body bodySize) url.secure "request send"
      return {
        method
        target := url.target
        headerLines
        body := (body.getD []).take bodySize.toNat }

/-! ## What is compared -/

/-- One of the headers is `Accept`, in any case. -/
def configuresAccept (headers : List HttpHeader) : Bool :=
  headers.any fun header => asciiLower header.name = bytes "accept"

/-- A header with its name in lower case. -/
abbrev HandedHeader := Bytes × Bytes

def handed (header : HttpHeader) : HandedHeader := (asciiLower header.name, header.value)

/-- The header of a line: its name ends before the colon. -/
def WideText.handed (line : WideText) : Option HandedHeader :=
  (splitFirst (bytes ": ") line.utf8).map fun parts => (asciiLower parts.1, parts.2)

/-- The same method, the same body and the same set of headers. -/
structure SentAlike (first : HttplibRequest) (second : WinHttpRequest) : Prop where
  method : second.method.utf8 = first.method
  body : second.body = first.body
  headers : ∀ header, some header ∈ second.headerLines.map WideText.handed ↔
    header ∈ first.headers.map handed

/-- Both transports get to send, and send alike; a configured `Accept` is the only one. -/
def SameRequest (httplib : Httplib) (winhttp : WinHttp) (config : HttpMonitorConfig)
    (url : ParsedHttpUrl) : Prop :=
  ∃ first second, performHttplibRequest httplib config url = .ok first ∧
    performWinhttpRequest winhttp config = .ok second ∧ SentAlike first second ∧
    (configuresAccept config.headers = true →
      first.headers.length = config.headers.length ∧
      second.headerLines.length = config.headers.length)

/-- Every call succeeds, and the URL is one the library can take apart. -/
structure WinHttp.Available (library : WinHttp) (url : Bytes) : Prop where
  calls : ∀ called, library.lastError called = none
  cracks : ∀ wide, wide.utf8 = url →
    ∃ components, library.crackUrl wide = some components ∧ components.scheme ≠ none

/-! ## Texts -/

/-- A text that converts is the UTF-8 of its wide form. -/
theorem utf8_of_utf8ToWide {value : Bytes} {wide : WideText} (converts : utf8ToWide value = some wide) :
    wide.utf8 = value := by
  unfold utf8ToWide at converts
  split at converts
  · cases converts
  · split at converts
    · cases converts
      rfl
    · cases converts

/-- A token's bytes are ASCII and no colons. -/
theorem isTokenByte_ascii {byte : UInt8} (token : isTokenByte byte = true) :
    byte < 0x80 ∧ byte ≠ 0x3A := by
  have each : ∀ code < 256, isTokenByte (UInt8.ofNat code) = true →
      UInt8.ofNat code < 0x80 ∧ UInt8.ofNat code ≠ 0x3A := by decide +kernel
  have here := each byte.toNat byte.toNat_lt
  rw [UInt8.ofNat_toNat] at here
  exact here token

/-- A valid name is a short token. -/
theorem tokens_of_validHeaderName {name : Bytes} (valid : validHeaderName name = true) :
    name.length ≤ 128 ∧ ∀ byte ∈ name, isTokenByte byte = true := by
  simp only [validHeaderName, isHeaderName, Bool.and_eq_true, Bool.not_eq_true',
    Bool.or_eq_false_iff, decide_eq_false_iff_not, not_lt, List.all_eq_true] at valid
  exact ⟨valid.1.2, valid.2⟩

/-- A header name is ASCII, so it can be widened. -/
theorem utf8ToWide_of_validHeaderName {name : Bytes} (valid : validHeaderName name = true) :
    ∃ wide, utf8ToWide name = some wide := by
  obtain ⟨short, tokens⟩ := tokens_of_validHeaderName valid
  have ascii : ValidUtf8 name :=
    validUtf8_of_ascii fun byte member => (isTokenByte_ascii (tokens byte member)).1
  rw [utf8ToWide, if_neg (by omega), dif_pos ascii]
  exact ⟨_, rfl⟩

/-- A line is taken apart into the name and the value it was joined from. -/
theorem handed_headerLine {header : HttpHeader} {name value : WideText}
    (valid : validHeaderName header.name = true) (hname : utf8ToWide header.name = some name)
    (hvalue : utf8ToWide header.value = some value) :
    (headerLine name value).handed = some (handed header) := by
  have marker : bytes ": " = 0x3A :: [0x20] := by decide
  have absent : (0x3A : UInt8) ∉ header.name := by
    intro member
    exact (isTokenByte_ascii ((tokens_of_validHeaderName valid).2 _ member)).2 rfl
  have joined : (headerLine name value).utf8 = header.name ++ (bytes ": " ++ header.value) := by
    rw [← utf8_of_utf8ToWide hname, ← utf8_of_utf8ToWide hvalue]
    exact List.append_assoc _ _ _
  rw [WideText.handed, joined, marker, splitFirst_append absent]
  rfl

/-- Texts are equal without case when their lower forms are. -/
theorem asciiIequals_iff (left right : Bytes) :
    asciiIequals left right = true ↔ asciiLower left = asciiLower right := by
  induction left generalizing right with
  | nil =>
      cases right with
      | nil => simp [asciiIequals, asciiLower]
      | cons byte right => simp [asciiIequals, asciiLower]
  | cons byte left ih =>
      cases right with
      | nil => simp [asciiIequals, asciiLower]
      | cons other right =>
          have step := ih right
          simp only [asciiIequals, asciiLower, Bool.and_eq_true, decide_eq_true_eq] at step
          simp only [asciiIequals, asciiLower, List.length_cons, List.zip_cons_cons,
            List.all_cons, List.map_cons, List.cons.injEq, Bool.and_eq_true, decide_eq_true_eq,
            Nat.add_right_cancel_iff, ← step]
          tauto

/-- Both transports recognise the same names as `Accept`. -/
theorem asciiIequals_accept (name : Bytes) :
    asciiIequals name (bytes "accept") = decide (asciiLower name = bytes "accept") := by
  have lower : asciiLower (bytes "accept") = bytes "accept" := by decide
  rw [Bool.eq_iff_iff, asciiIequals_iff, lower, decide_eq_true_iff]

/-! ## The header loops -/

/-- The headers are handed over in their order. -/
theorem foldl_emplaceHeader (headers : List HttpHeader) (scan : List HttpHeader × Bool) :
    headers.foldl emplaceHeader scan = (scan.1 ++ headers, scan.2 || configuresAccept headers) := by
  induction headers generalizing scan with
  | nil => simp [configuresAccept]
  | cons header headers ih =>
      rw [List.foldl_cons, ih]
      simp [emplaceHeader, configuresAccept, Bool.or_assoc]

namespace WinHttp

variable {library : WinHttp} {secure : Bool}

/-- No call fails where every call is available. -/
theorem call_of_available (calls : ∀ called, library.lastError called = none)
    (called : WinHttpCall) (operation : String) : library.call called secure operation = .ok () := by
  rw [call, calls]

/-- A header whose value can be widened is added. -/
theorem addHeader_of_wide (calls : ∀ called, library.lastError called = none)
    (scan : List WideText × Bool) {header : HttpHeader}
    (valid : validHeaderName header.name = true) (wide : (utf8ToWide header.value).isSome = true) :
    ∃ line, library.addHeader secure scan header =
        .ok (scan.1 ++ [line], scan.2 || asciiIequals header.name (bytes "accept")) ∧
      line.handed = some (handed header) := by
  obtain ⟨name, hname⟩ := utf8ToWide_of_validHeaderName valid
  obtain ⟨value, hvalue⟩ := Option.isSome_iff_exists.mp wide
  refine ⟨headerLine name value, ?_, handed_headerLine valid hname hvalue⟩
  rw [addHeader, hname, hvalue]
  dsimp only
  rw [call_of_available calls, ok_bind]
  rfl

/-- A header that is added has a wide form. -/
theorem wide_of_addHeader {scan next : List WideText × Bool} {header : HttpHeader}
    (adds : library.addHeader secure scan header = .ok next) :
    (utf8ToWide header.value).isSome = true := by
  unfold addHeader at adds
  split at adds
  next hvalue => rw [hvalue, Option.isSome_some]
  · cases adds

/-- The loop adds one line for each header. -/
theorem foldlM_addHeader_of_wide (calls : ∀ called, library.lastError called = none)
    {headers : List HttpHeader} (valid : ∀ header ∈ headers, validHeaderName header.name = true)
    (wide : ∀ header ∈ headers, (utf8ToWide header.value).isSome = true)
    (scan : List WideText × Bool) :
    ∃ lines, headers.foldlM (library.addHeader secure) scan =
        .ok (scan.1 ++ lines, scan.2 || configuresAccept headers) ∧
      lines.map WideText.handed = headers.map fun header => some (handed header) := by
  induction headers generalizing scan with
  | nil => exact ⟨[], by simp [configuresAccept, pure, Except.pure], rfl⟩
  | cons header headers ih =>
      rw [List.forall_mem_cons] at valid wide
      obtain ⟨line, adds, same⟩ := addHeader_of_wide calls scan valid.1 wide.1
      obtain ⟨lines, ends, others⟩ := ih valid.2 wide.2
        (scan.1 ++ [line], scan.2 || asciiIequals header.name (bytes "accept"))
      refine ⟨line :: lines, ?_, ?_⟩
      · rw [List.foldlM_cons, adds, ok_bind, ends, asciiIequals_accept]
        simp [configuresAccept, Bool.or_assoc]
      · rw [List.map_cons, List.map_cons, same, others]

/-- So has every header of a request that is sent. -/
theorem wide_of_foldlM_addHeader {headers : List HttpHeader} {scan result : List WideText × Bool}
    (ends : headers.foldlM (library.addHeader secure) scan = .ok result) :
    ∀ header ∈ headers, (utf8ToWide header.value).isSome = true := by
  induction headers generalizing scan with
  | nil => simp
  | cons header headers ih =>
      rw [List.foldlM_cons] at ends
      obtain ⟨next, adds, ends⟩ := bind_eq_ok.mp ends
      rw [List.forall_mem_cons]
      exact ⟨wide_of_addHeader adds, ih ends⟩

end WinHttp

/-! ## Accepted configurations -/

/-- What the factory has checked of a resolved configuration. -/
structure Resolved (config : HttpMonitorConfig) : Prop where
  names : ∀ header ∈ config.headers, validHeaderName header.name = true
  bodySize : config.body.length ≤ maximumRequestBodyBytes

/-- What is not refused is not wrong. -/
theorem of_refuseIf {wrong : Prop} [Decidable wrong] {message : String} {passed : Unit}
    (passes : refuseIf wrong message = .ok passed) : ¬ wrong := by
  intro holds
  rw [refuseIf, if_pos holds] at passes
  cases passes

/-- The header loop of the factory keeps no header with an invalid name. -/
theorem validHeaderName_of_step {resolver : SecretResolver} {resolution next : HeaderResolution}
    {header : HttpHeader} (keeps : resolution.step resolver header = .ok next)
    (valid : ∀ kept ∈ resolution.headers, validHeaderName kept.name = true) :
    ∀ kept ∈ next.headers, validHeaderName kept.name = true := by
  unfold HeaderResolution.step at keeps
  dsimp only at keeps
  obtain ⟨_, passes, keeps⟩ := bind_eq_ok.mp keeps
  have name : validHeaderName header.name = true := by
    simpa using (not_or.mp (of_refuseIf passes)).1
  split at keeps
  · cases keeps
  next value _ =>
    obtain ⟨_, _, same⟩ := bind_eq_ok.mp keeps
    cases same
    intro kept member
    rcases List.mem_append.mp member with before | last
    · exact valid kept before
    · obtain rfl := List.mem_singleton.mp last
      exact name

/-- Every header that is resolved has a valid name. -/
theorem validHeaderName_of_foldlM {resolver : SecretResolver} {headers : List HttpHeader}
    {start result : HeaderResolution}
    (loop : headers.foldlM (HeaderResolution.step resolver) start = .ok result)
    (valid : ∀ kept ∈ start.headers, validHeaderName kept.name = true) :
    ∀ kept ∈ result.headers, validHeaderName kept.name = true :=
  foldlM_ok_keeps loop valid fun _ _ _ _ valid keeps => validHeaderName_of_step keeps valid

/-- A runner that is created holds resolved headers. -/
theorem resolved_of_createHttpMonitorRunner {build : HostBuild} {config resolved : HttpMonitorConfig}
    {resolver : SecretResolver} {url : ParsedHttpUrl}
    (created : createHttpMonitorRunner build config resolver = .ok (.http resolved url)) :
    Resolved resolved := by
  unfold createHttpMonitorRunner at created
  split at created
  · cases created
  · obtain ⟨_, _, created⟩ := bind_eq_ok.mp created
    obtain ⟨_, _, created⟩ := bind_eq_ok.mp created
    obtain ⟨_, _, created⟩ := bind_eq_ok.mp created
    obtain ⟨_, body, created⟩ := bind_eq_ok.mp created
    obtain ⟨_, _, created⟩ := bind_eq_ok.mp created
    obtain ⟨resolution, loop, created⟩ := bind_eq_ok.mp created
    obtain ⟨_, _, created⟩ := bind_eq_ok.mp created
    obtain ⟨_, _, created⟩ := bind_eq_ok.mp created
    obtain ⟨_, _, created⟩ := bind_eq_ok.mp created
    obtain ⟨_, _, created⟩ := bind_eq_ok.mp created
    obtain ⟨_, _, created⟩ := bind_eq_ok.mp created
    cases created
    refine ⟨?_, ?_⟩
    · exact validHeaderName_of_foldlM loop fun _ impossible => absurd impossible List.not_mem_nil
    · exact not_lt.mp (of_refuseIf body)

/-! ## The comparison -/

/-- The header that httplib is given by default, on top of the configured ones. -/
def addsAccept (config : HttpMonitorConfig) : Prop :=
  config.observation ≠ .statusCode ∧ config.observation ≠ .body ∧
    configuresAccept config.headers = false

instance (config : HttpMonitorConfig) : Decidable (addsAccept config) :=
  inferInstanceAs (Decidable (_ ∧ _))

def acceptJson : HttpHeader := { name := bytes "Accept", value := bytes "application/json" }

/-- A valid URL is requested with the configured parts. -/
theorem performHttplibRequest_of_valid {library : Httplib} {config : HttpMonitorConfig}
    {url : ParsedHttpUrl} (valid : library.isValid url.base = true) :
    performHttplibRequest library config url = .ok
      { method := httpMethodName config.method
        path := url.target
        headers := if addsAccept config then config.headers ++ [acceptJson] else config.headers
        body := config.body } := by
  rw [performHttplibRequest, foldl_emplaceHeader, valid]
  simp only [List.nil_append, Bool.false_or]
  rfl

/-- WinHTTP adds the default for one observation only. -/
def addsWideAccept (config : HttpMonitorConfig) : Prop :=
  config.observation = .jsonPointer ∧ configuresAccept config.headers = false

instance (config : HttpMonitorConfig) : Decidable (addsWideAccept config) :=
  inferInstanceAs (Decidable (_ ∧ _))

/-- A URL with a wide form is cracked. -/
theorem WinHttp.crack_of_available {library : WinHttp} {url : Bytes}
    (available : library.Available url) (wide : (utf8ToWide url).isSome = true) :
    ∃ cracked, library.crack url = some cracked := by
  obtain ⟨text, converts⟩ := Option.isSome_iff_exists.mp wide
  obtain ⟨components, found, scheme⟩ := available.cracks text (utf8_of_utf8ToWide converts)
  obtain ⟨known, hscheme⟩ := Option.ne_none_iff_exists'.mp scheme
  rw [WinHttp.crack, converts, Option.bind_eq_bind, Option.bind_some, found, Option.bind_eq_bind,
    Option.bind_some, hscheme]
  exact ⟨_, rfl⟩

/-- The default header is added exactly when none was configured. -/
theorem WinHttp.addAccept_of_available {library : WinHttp} {config : HttpMonitorConfig}
    (available : library.Available config.url) (secure : Bool) (lines : List WideText) :
    library.addAccept secure config (lines, configuresAccept config.headers) =
      .ok (if addsWideAccept config then lines ++ [.literal "Accept: application/json"]
        else lines) := by
  rw [WinHttp.addAccept]
  dsimp only
  rw [WinHttp.call_of_available available.calls, ok_bind]
  by_cases adds : config.observation = .jsonPointer ∧ configuresAccept config.headers = false
  · have adds' : addsWideAccept config := adds
    rw [if_pos adds, if_pos adds']
    rfl
  · have adds' : ¬ addsWideAccept config := adds
    rw [if_neg adds, if_neg adds']
    rfl

/-- The size handed over with a body is the size of the body. -/
theorem Resolved.sentBody {config : HttpMonitorConfig} (resolved : Resolved config) :
    ((if config.body = [] then none else some config.body).getD []).take
      (UInt32.ofNat config.body.length).toNat = config.body := by
  have size : (UInt32.ofNat config.body.length).toNat = config.body.length := by
    have small := resolved.bodySize
    rw [UInt32.toNat_ofNat', Nat.mod_eq_of_lt]
    simp only [maximumRequestBodyBytes] at small
    omega
  rw [size]
  split
  next empty => rw [empty]; rfl
  next => rw [Option.getD_some, List.take_length]

/-- The other library is given the same parts. -/
theorem performWinhttpRequest_of_available {library : WinHttp} {config : HttpMonitorConfig}
    (available : library.Available config.url) (resolved : Resolved config)
    (wideUrl : (utf8ToWide config.url).isSome = true)
    (wide : ∀ header ∈ config.headers, (utf8ToWide header.value).isSome = true) :
    ∃ target lines, performWinhttpRequest library config = .ok
        { method := methodName config.method
          target
          headerLines :=
            if addsWideAccept config then lines ++ [.literal "Accept: application/json"] else lines
          body := config.body } ∧
      lines.map WideText.handed = config.headers.map fun header => some (handed header) := by
  obtain ⟨url, cracked⟩ := WinHttp.crack_of_available available wideUrl
  have calls (called : WinHttpCall) (operation : String) :=
    @WinHttp.call_of_available library url.secure available.calls called operation
  obtain ⟨lines, loop, same⟩ := @WinHttp.foldlM_addHeader_of_wide library url.secure available.calls
    config.headers resolved.names wide ([], false)
  have accept := WinHttp.addAccept_of_available available url.secure lines
  refine ⟨url.target, lines, ?_, same⟩
  rw [performWinhttpRequest, cracked]
  dsimp only
  rw [List.nil_append, Bool.false_or] at loop
  rw [calls, ok_bind, calls, ok_bind, calls, ok_bind, calls, ok_bind, calls, ok_bind, loop,
    ok_bind, accept, ok_bind, calls, ok_bind, resolved.sentBody]
  rfl

/-- A request that WinHTTP gets to send had a URL and values that can be widened. -/
theorem wide_of_performWinhttpRequest {library : WinHttp} {config : HttpMonitorConfig}
    {request : WinHttpRequest} (performed : performWinhttpRequest library config = .ok request) :
    (utf8ToWide config.url).isSome = true ∧
      ∀ header ∈ config.headers, (utf8ToWide header.value).isSome = true := by
  unfold performWinhttpRequest at performed
  split at performed
  · cases performed
  next url cracked =>
    refine ⟨?_, ?_⟩
    · obtain ⟨wide, converts, _⟩ := Option.bind_eq_some_iff.mp cracked
      rw [converts, Option.isSome_some]
    · obtain ⟨_, _, performed⟩ := bind_eq_ok.mp performed
      obtain ⟨_, _, performed⟩ := bind_eq_ok.mp performed
      obtain ⟨_, _, performed⟩ := bind_eq_ok.mp performed
      obtain ⟨_, _, performed⟩ := bind_eq_ok.mp performed
      obtain ⟨_, _, performed⟩ := bind_eq_ok.mp performed
      obtain ⟨_, loop, _⟩ := bind_eq_ok.mp performed
      exact WinHttp.wide_of_foldlM_addHeader loop

/-- The default header is the same in both. -/
theorem handed_acceptJson :
    handed acceptJson = (bytes "accept", bytes "application/json") ∧
      (WideText.literal "Accept: application/json").handed = some (handed acceptJson) := by
  decide

/-- No configured header reads as `Accept` when none is. -/
theorem handed_acceptJson_not_mem {headers : List HttpHeader}
    (absent : configuresAccept headers = false) : handed acceptJson ∉ headers.map handed := by
  intro member
  obtain ⟨header, found, same⟩ := List.mem_map.mp member
  rw [handed_acceptJson.1] at same
  have name : asciiLower header.name = bytes "accept" := congrArg Prod.fst same
  have present : configuresAccept headers = true :=
    List.any_eq_true.mpr ⟨header, found, decide_eq_true name⟩
  rw [present] at absent
  cases absent

/-- The observations for which httplib is given the default and WinHTTP is not. -/
def readsArrayOrRatio (config : HttpMonitorConfig) : Prop :=
  config.observation = .jsonArrayLength ∨ config.observation = .jsonRatio

/-- Both add it in the same cases when names are equal without case. -/
theorem addsAccept_iff {config : HttpMonitorConfig}
    (agree : readsArrayOrRatio config → configuresAccept config.headers = true) :
    addsAccept config ↔ addsWideAccept config := by
  unfold readsArrayOrRatio at agree
  unfold addsAccept addsWideAccept
  cases observed : config.observation <;> simp_all

section comparison

variable {config : HttpMonitorConfig} {url : ParsedHttpUrl} {httplib : Httplib}
  {winhttp : WinHttp}

/-- Where the same request is sent, no default is missing on one side. -/
theorem agree_of_sameRequest (resolved : Resolved config)
    (valid : httplib.isValid url.base = true) (available : winhttp.Available config.url)
    (same : SameRequest httplib winhttp config url) :
    readsArrayOrRatio config → configuresAccept config.headers = true := by
  intro reads
  by_contra absent
  rw [Bool.not_eq_true] at absent
  obtain ⟨request, second, performed, performed', alike, _⟩ := same
  obtain ⟨wideUrl, wide⟩ := wide_of_performWinhttpRequest performed'
  obtain ⟨target, lines, sent, handsOver⟩ :=
    performWinhttpRequest_of_available available resolved wideUrl wide
  have adds : addsAccept config := by
    rcases reads with observed | observed <;> exact ⟨by simp [observed], by simp [observed], absent⟩
  have leaves : ¬ addsWideAccept config := by
    rintro ⟨pointer, _⟩
    rcases reads with observed | observed <;> simp [observed] at pointer
  rw [performHttplibRequest_of_valid valid, if_pos adds] at performed
  rw [sent, if_neg leaves] at performed'
  cases performed
  cases performed'
  have member := (alike.headers (handed acceptJson)).mpr (by simp)
  rw [handsOver] at member
  obtain ⟨header, found, equal⟩ := List.mem_map.mp member
  exact handed_acceptJson_not_mem absent
    (List.mem_map.mpr ⟨header, found, Option.some.inj equal⟩)

/-- Where both add the default or neither does, the same request is sent. -/
theorem sameRequest_of_agree (resolved : Resolved config)
    (valid : httplib.isValid url.base = true) (available : winhttp.Available config.url)
    (agree : readsArrayOrRatio config → configuresAccept config.headers = true)
    (wideUrl : (utf8ToWide config.url).isSome = true)
    (wide : ∀ header ∈ config.headers, (utf8ToWide header.value).isSome = true) :
    SameRequest httplib winhttp config url := by
  obtain ⟨target, lines, sent, handsOver⟩ :=
    performWinhttpRequest_of_available available resolved wideUrl wide
  have method : (methodName config.method).utf8 = httpMethodName config.method := by
    cases config.method <;> rfl
  have count : lines.length = config.headers.length := by
    simpa using congrArg List.length handsOver
  refine ⟨_, _, performHttplibRequest_of_valid valid, sent, ⟨method, rfl, fun header => ?_⟩,
    fun configured => ?_⟩
  · by_cases adds : addsAccept config
    · rw [if_pos adds, if_pos ((addsAccept_iff agree).mp adds), List.map_append, List.map_append,
        handsOver]
      simp [handed_acceptJson.2, eq_comm]
    · rw [if_neg adds, if_neg fun wideAdds => adds ((addsAccept_iff agree).mpr wideAdds),
        handsOver]
      simp
  · have adds : ¬ addsAccept config := by
      rintro ⟨_, _, absent⟩
      rw [configured] at absent
      cases absent
    have wideAdds : ¬ addsWideAccept config := by
      rintro ⟨_, absent⟩
      rw [configured] at absent
      cases absent
    rw [if_neg adds, if_neg wideAdds]
    exact ⟨rfl, count⟩

end comparison

/-- The transports send the same request exactly when a configured `Accept` stands
in for the default of an array length or a ratio, and WinHTTP can widen every text. -/
theorem same_request_iff {build : HostBuild} {config resolved : HttpMonitorConfig}
    {resolver : SecretResolver} {url : ParsedHttpUrl} (httplib : Httplib) (winhttp : WinHttp)
    (created : createHttpMonitorRunner build config resolver = .ok (.http resolved url))
    (valid : httplib.isValid url.base = true) (available : winhttp.Available resolved.url) :
    SameRequest httplib winhttp resolved url ↔
      (readsArrayOrRatio resolved → configuresAccept resolved.headers = true) ∧
        (utf8ToWide resolved.url).isSome = true ∧
        ∀ header ∈ resolved.headers, (utf8ToWide header.value).isSome = true := by
  have checked := resolved_of_createHttpMonitorRunner created
  refine ⟨fun same => ?_, fun ⟨agree, wideUrl, wide⟩ => ?_⟩
  · have agree := agree_of_sameRequest checked valid available same
    obtain ⟨_, _, _, performed, _⟩ := same
    exact ⟨agree, wide_of_performWinhttpRequest performed⟩
  · exact sameRequest_of_agree checked valid available agree wideUrl wide

/-! ## A monitor that is asked for differently -/

/-- A monitor that counts the elements of an array. -/
def queueMonitor : Members :=
  members [("observe", .object (members [("json_array_length", textJson "/queue")])),
    ("url", textJson "https://h/status")]

def queueConfig : HttpMonitorConfig where
  url := bytes "https://h/status"
  observation := .jsonArrayLength
  jsonPointer := bytes "/queue"

def queueUrl : ParsedHttpUrl where
  scheme := .https
  base := bytes "https://h"
  target := bytes "/status"

/-- The monitor of the queue is loaded. -/
theorem queueMonitor_loads :
    (parseHttpMonitor Double.exact queueMonitor (bytes "monitor")).value = some queueConfig ∧
      (parseHttpMonitor Double.exact queueMonitor (bytes "monitor")).log = [] := by
  decide +kernel

def windowsBuild : HostBuild := { platform := .windows, openssl := false }

/-- Its runner is created. -/
theorem queueConfig_created :
    createHttpMonitorRunner windowsBuild queueConfig none = .ok (.http queueConfig queueUrl) := by
  rfl

/-- The libraries when nothing goes wrong. -/
def reachableHttplib : Httplib where
  isValid base := base = bytes "https://h"

def reachableWinHttp : WinHttp where
  crackUrl wide :=
    if wide.utf8 = bytes "https://h/status" then
      some { scheme := some .https, port := 443, hostName := .literal "h"
             urlPath := .literal "/status", extraInfo := .literal "" }
    else none
  lastError _ := none

theorem reachableWinHttp_available : reachableWinHttp.Available queueConfig.url where
  calls _ := rfl
  cracks wide same := by
    refine ⟨_, if_pos same, ?_⟩
    simp

/-- For the array's length httplib asks for JSON and WinHTTP does not. -/
theorem same_request_iff_queueConfig :
    ¬ SameRequest reachableHttplib reachableWinHttp queueConfig queueUrl := by
  rw [same_request_iff reachableHttplib reachableWinHttp queueConfig_created (by decide)
    reachableWinHttp_available]
  rintro ⟨agree, _⟩
  exact absurd (agree (Or.inl rfl)) (by decide)

/-- A configuration that the loader accepts is asked for in two ways. -/
theorem requests_differ :
    ¬ ∀ (httplib : Httplib) (winhttp : WinHttp) (round : Rounding) (monitor : Members) (path : Bytes)
      (build : HostBuild) (resolver : SecretResolver) (config resolved : HttpMonitorConfig)
      (url : ParsedHttpUrl),
        (parseHttpMonitor round monitor path).value = some config →
        (parseHttpMonitor round monitor path).log = [] →
        createHttpMonitorRunner build config resolver = .ok (.http resolved url) →
        httplib.isValid url.base = true → winhttp.Available resolved.url →
          SameRequest httplib winhttp resolved url := by
  intro always
  obtain ⟨first, second, performed, performed', alike, _⟩ :=
    always reachableHttplib reachableWinHttp Double.exact queueMonitor (bytes "monitor")
      windowsBuild none queueConfig queueConfig queueUrl queueMonitor_loads.1 queueMonitor_loads.2
      queueConfig_created (by decide) reachableWinHttp_available
  have lines : second.headerLines = [] := by
    cases performed'
    rfl
  have headers : first.headers = [acceptJson] := by
    cases performed
    rfl
  have member := (alike.headers (handed acceptJson)).mpr (by simp [headers])
  rw [lines] at member
  cases member

end PixelStatus.Host
