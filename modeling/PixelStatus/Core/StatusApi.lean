/-
# The status API

`StatusApi::handle` answers one request over the state store. All checks of a
POST come before its single update; they are `parseUpdate` here, and the locked
part is `update`. A response is `none` when building it throws, which the dump
does on a text that is not valid UTF-8.
-/

import PixelStatus.Core.Json
import PixelStatus.Core.RequestText
import PixelStatus.Core.State

namespace PixelStatus

structure ApiRequest where
  method : Bytes
  target : Bytes
  /-- The headers in the order in which the map lists them. -/
  headers : List (Bytes × Bytes) := []
  body : Bytes := []

structure ApiResponse where
  status : Nat := 500
  contentType : Bytes := bytes "application/json"
  headers : List (Bytes × Bytes) := []
  body : Bytes := []

structure StatusApiLimits where
  maximumBodyBytes : Nat := 4 * 1024
  maximumIdBytes : Nat := 64
  maximumStatusBytes : Nat := 64
  maximumMessageBytes : Nat := 512
  maximumStringValueBytes : Nat := 1024
  maximumStates : Nat := 256
  maximumTtl : Duration := 24 * 7 * 3600 * 1000

def statusPath : Bytes := bytes "/api/v1/status"

/-- The first header whose name agrees up to case. -/
def headerValue (request : ApiRequest) (name : Bytes) : Option Bytes :=
  (request.headers.find? fun header => asciiLower header.1 = asciiLower name).map Prod.snd

/-- The byte at an index; past the end, zero. -/
def byteAt (text : Bytes) (index : Nat) : Nat := (text[index]?.map UInt8.toNat).getD 0

/-- Accumulate the differences of all bytes, the shorter text padded with zeros. -/
def constantTimeEqual (left right : Bytes) : Bool :=
  let difference := (List.range (max left.length right.length)).foldl
    (fun difference index => difference ||| (byteAt left index ^^^ byteAt right index))
    (left.length ^^^ right.length)
  difference = 0

def isSpace (character : UInt8) : Bool :=
  character = 0x20 || (0x09 ≤ character && character ≤ 0x0D)

/-- The media type before any parameter, with surrounding spaces removed. -/
def isJsonContentType (value : Bytes) : Bool :=
  let mediaType := value.takeWhile fun character => character ≠ 0x3B
  let trimmed := ((mediaType.reverse.dropWhile isSpace).reverse).dropWhile isSpace
  asciiLower trimmed = bytes "application/json"

def stateValueJson : StateValue → Json
  | .monostate => .null
  | .boolean value => .boolean value
  | .integer value => .integer value
  | .real value => .float value
  | .text value => .string value

/-- The JSON form of a resolved state. -/
def resolvedStateJson (resolved : ResolvedState) (now : TimePoint) : Json :=
  let age := durationCast (now - resolved.state.updatedAt)
  .object [
    (bytes "age_ms", .integer (Int64.ofInt (max age 0))),
    (bytes "id", .string resolved.state.id),
    (bytes "message", .string resolved.state.message),
    (bytes "reported_status", .string resolved.state.status),
    (bytes "stale", .boolean resolved.freshnessExpired),
    (bytes "status", .string resolved.effectiveStatus),
    (bytes "ttl_ms", match resolved.state.ttl with
      | some ttl => .integer (Int64.ofInt ttl)
      | none => .null),
    (bytes "value", stateValueJson resolved.state.value)]

/-- A scalar that a state can hold. -/
def parseStateValue (limits : StatusApiLimits) : Json → Except Bytes StateValue
  | .null => .ok .monostate
  | .boolean value => .ok (.boolean value)
  | .unsigned value =>
      if value.toNat > 2 ^ 63 - 1 then .error (bytes "value integer is out of range")
      else .ok (.integer (Int64.ofInt value.toNat))
  | .integer value => .ok (.integer value)
  | .float value =>
      if !value.isFinite then .error (bytes "value must be finite") else .ok (.real value)
  | .string value =>
      if value.length > limits.maximumStringValueBytes then
        .error (bytes "value string is too long")
      else .ok (.text value)
  | _ => .error (bytes "value must be null, boolean, number, or string")

/-- What a target addresses. -/
inductive Route
  | collection
  | item (id : Bytes)
  deriving DecidableEq

def pathIdentifier (target : Bytes) : Option Bytes :=
  let pre := statusPath ++ [0x2F]
  if !pre.isPrefixOf target || target.length = pre.length then none
  else some (target.drop pre.length)

/-- What a target names: the collection or one state. -/
def route (target : Bytes) : Option Route :=
  if target = statusPath then some .collection else (pathIdentifier target).map .item

/-- The API with its limits and its token. -/
structure StatusApi where
  library : JsonLibrary
  bearerToken : Bytes
  limits : StatusApiLimits := {}

/-- An HTTP status and the text of its error. -/
abbrev ApiError := Nat × Bytes

namespace StatusApi

variable (api : StatusApi)

def jsonResponse (status : Nat) (body : Json) (headers : List (Bytes × Bytes) := []) :
    Option ApiResponse :=
  (api.library.dump body).map fun text => { status, headers, body := text }

def errorResponse (error : ApiError) (headers : List (Bytes × Bytes) := []) :
    Option ApiResponse :=
  api.jsonResponse error.1 (.object [(bytes "error", .string error.2)]) headers

def authorized (request : ApiRequest) : Bool :=
  match headerValue request (bytes "authorization") with
  | none => false
  | some authorization =>
      !api.bearerToken.isEmpty
        && constantTimeEqual authorization (bytes "Bearer " ++ api.bearerToken)

def knownFields : List Bytes :=
  [bytes "id", bytes "status", bytes "value", bytes "message", bytes "ttl"]

/-- The id that the path or the body addresses. -/
def parseId (members : List (Bytes × Json)) : Route → Except ApiError Bytes
  | .item id =>
      match Json.find members (bytes "id") with
      | none => .ok id
      | some (.string bodyId) =>
          if bodyId ≠ id then .error (400, bytes "body id must match path id") else .ok id
      | some _ => .error (400, bytes "body id must match path id")
  | .collection =>
      match Json.find members (bytes "id") with
      | some (.string id) => .ok id
      | _ => .error (400, bytes "id is required")

def parseStatus (members : List (Bytes × Json)) : Except ApiError Bytes :=
  match Json.find members (bytes "status") with
  | some (.string status) =>
      if !isValidIdentifier status api.limits.maximumStatusBytes then
        .error (400, bytes "invalid status name")
      else .ok status
  | _ => .error (400, bytes "status is required")

def parseMessage (members : List (Bytes × Json)) : Except ApiError Bytes :=
  match Json.find members (bytes "message") with
  | none => .ok []
  | some (.string message) =>
      if message.length > api.limits.maximumMessageBytes then
        .error (400, bytes "message must be a string within the configured limit")
      else .ok message
  | some _ => .error (400, bytes "message must be a string within the configured limit")

def parseValue (members : List (Bytes × Json)) : Except ApiError StateValue :=
  match Json.find members (bytes "value") with
  | none => .ok .monostate
  | some value => (parseStateValue api.limits value).mapError fun message => (400, message)

/-- A whole number of seconds, positive and within the limit. -/
def parseSeconds (seconds : UInt64) : Except ApiError (Option Duration) :=
  let maximumSeconds := UInt64.ofInt (api.limits.maximumTtl.tdiv 1000)
  if seconds = 0 ∨ seconds > maximumSeconds then
    .error (400, bytes "ttl exceeds the configured limit")
  else .ok (some (seconds.toNat * 1000))

def parseTtl (members : List (Bytes × Json)) : Except ApiError (Option Duration) :=
  match Json.find members (bytes "ttl") with
  | none => .ok none
  | some (.unsigned seconds) => api.parseSeconds seconds
  | some (.integer seconds) =>
      if seconds ≤ 0 then
        .error (400, bytes "ttl must be a positive integer number of seconds")
      else api.parseSeconds seconds.toUInt64
  | some _ => .error (400, bytes "ttl must be a positive integer number of seconds")

/-- The fields of a POST body. -/
def parseFields (members : List (Bytes × Json)) (route : Route) (now : TimePoint) :
    Except ApiError MonitorState :=
  match members.find? fun member => member.1 ∉ knownFields with
  | some member => .error (400, bytes "unknown field: " ++ member.1)
  | none => do
      let id ← parseId members route
      if !isValidIdentifier id api.limits.maximumIdBytes then
        .error (400, bytes "invalid status id")
      else
        let status ← api.parseStatus members
        let message ← api.parseMessage members
        let value ← api.parseValue members
        let ttl ← api.parseTtl members
        .ok { id, status, value, message, observedAt := now, updatedAt := now, ttl }

/-- Everything a POST checks before it takes the update lock. -/
def parseUpdate (request : ApiRequest) (route : Route) (now : TimePoint) :
    Except ApiError MonitorState :=
  if request.body.length > api.limits.maximumBodyBytes then
    .error (413, bytes "request body is too large")
  else if !(headerValue request (bytes "content-type")).any isJsonContentType then
    .error (415, bytes "content type must be application/json")
  else match api.library.parse request.body with
    | some (.object members) => api.parseFields members route now
    | _ => .error (400, bytes "request body must be a valid JSON object")

def get (store : StateStore) (now : TimePoint) : Route → Option ApiResponse
  | .item id =>
      if !isValidIdentifier id api.limits.maximumIdBytes then
        api.errorResponse (400, bytes "invalid status id")
      else match store.resolve id now with
        | none => api.errorResponse (404, bytes "status not found")
        | some resolved => api.jsonResponse 200 (resolvedStateJson resolved now)
  | .collection =>
      api.jsonResponse 200 (.object [(bytes "statuses",
        .array ((store.snapshot now).map fun resolved => resolvedStateJson resolved now))])

/-- The locked part of a POST. -/
def update (store : StateStore) (state : MonitorState) (now : TimePoint) :
    Option ApiResponse × StateStore :=
  let existed := (store.find state.id).isSome
  if !existed && store.size ≥ api.limits.maximumStates then
    (api.errorResponse (507, bytes "status store limit reached"), store)
  else match store.upsert state with
    | (false, store) => (api.errorResponse (500, bytes "unable to update state"), store)
    | (true, store) =>
        -- The entry was filed just before, so it resolves.
        ((store.resolve state.id now).bind fun resolved =>
          api.jsonResponse (if existed then 200 else 201) (resolvedStateJson resolved now), store)

def handle (store : StateStore) (request : ApiRequest) (now : TimePoint) :
    Option ApiResponse × StateStore :=
  if !api.authorized request then
    (api.errorResponse (401, bytes "authentication required")
      [(bytes "WWW-Authenticate", bytes "Bearer")], store)
  else match route request.target with
    | none => (api.errorResponse (404, bytes "resource not found"), store)
    | some route =>
        let method := asciiLower request.method
        if method = bytes "get" then (api.get store now route, store)
        else if method ≠ bytes "post" then
          (api.errorResponse (405, bytes "method not allowed")
            [(bytes "Allow", bytes "GET, POST")], store)
        else match api.parseUpdate request route now with
          | .error error => (api.errorResponse error, store)
          | .ok state => api.update store state now

end StatusApi

end PixelStatus
