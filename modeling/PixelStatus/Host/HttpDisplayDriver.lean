/-
# The browser display server

`HttpDisplayDriver` keeps the newest frame with a sequence number and answers
`GET /api/v1/display` under its mutex, so every operation here is atomic. The
entity tag of an answer is the sequence number, which a new driver starts at
zero.
-/

import PixelStatus.Core.Frame

namespace PixelStatus

/-- How a frame was received by an output driver. -/
inductive FrameSubmitResult
  | accepted
  | coalesced
  | unavailable
  deriving DecidableEq

inductive DriverConnectionState
  | stopped
  | ready
  | reconnecting
  | failed
  deriving DecidableEq

structure DriverState where
  connection : DriverConnectionState := .stopped
  detail : Bytes := []
  submittedFrames : UInt64 := 0
  coalescedFrames : UInt64 := 0

structure HttpDisplayOptions where
  bindAddress : Bytes := bytes "127.0.0.1"
  port : UInt16 := 8788
  defaultRefreshInterval : Duration := 100

def minimumRefreshInterval : Duration := 16

def maximumRefreshInterval : Duration := 5 * 60 * 1000

/-- A colour as `0xRRGGBB`. -/
def packedRgb (color : Rgb) : Nat :=
  color.r.toNat * 65536 + color.g.toNat * 256 + color.b.toNat

/-- The JSON document of one frame. -/
structure DisplayDocument where
  width : Nat
  height : Nat
  sequence : UInt64
  defaultRefresh : Duration
  pixels : List Nat

namespace DisplayDocument

/-- The text that `dump` prints, its keys in alphabetical order. -/
def text (document : DisplayDocument) : Bytes :=
  let number (name : Bytes) (value : Int) := [0x22] ++ name ++ [0x22, 0x3A] ++ bytes (toString value)
  [0x7B] ++ number (bytes "default_refresh_ms") document.defaultRefresh
    ++ bytes ",\"format\":\"rgb888\"," ++ number (bytes "height") document.height
    ++ bytes ",\"pixels\":[" ++ [0x2C].intercalate (document.pixels.map decimal)
    ++ bytes "]," ++ number (bytes "schema_version") 1
    ++ [0x2C] ++ number (bytes "sequence") document.sequence.toNat
    ++ [0x2C] ++ number (bytes "width") document.width ++ [0x7D]

end DisplayDocument

def serializeFrame (frame : Frame) (sequence : UInt64) (defaultRefreshInterval : Duration) :
    DisplayDocument where
  width := frame.width
  height := frame.height
  sequence := sequence
  defaultRefresh := defaultRefreshInterval
  pixels := frame.pixels.map packedRgb

/-- The state of one server process, from construction on. -/
structure HttpDisplayDriver where
  width : Nat
  height : Nat
  options : HttpDisplayOptions
  latestFrame : Frame
  serializedFrame : DisplayDocument
  sequence : UInt64 := 0
  boundPort : UInt16 := 0
  framePending : Bool := false
  isRunning : Bool := false
  stopRequested : Bool := false
  driverState : DriverState := {}

/-- The answer to a frame request. A 304 carries no body. -/
structure DisplayResponse where
  status : Nat
  etag : Bytes
  body : Option DisplayDocument

namespace HttpDisplayDriver

/-- A new driver serves a black frame. -/
def create (width height : Nat) (options : HttpDisplayOptions) : HttpDisplayDriver where
  width := width
  height := height
  options := options
  latestFrame := Frame.create width height
  serializedFrame := serializeFrame (Frame.create width height) 0 options.defaultRefreshInterval

/-- Leave the driver failed with an explanation. -/
def failed (driver : HttpDisplayDriver) (detail : Bytes) : HttpDisplayDriver :=
  { driver with driverState := { driver.driverState with connection := .failed, detail } }

def minimumPort : Int := 1

/-- Start serving; `bound` is the port that the socket library reports, at most
zero when it could not bind. -/
def begin (driver : HttpDisplayDriver) (bound : Int) : Bool × HttpDisplayDriver :=
  if driver.isRunning then (false, driver)
  else if driver.width = 0 ∨ driver.height = 0 ∨ driver.options.bindAddress = [] then
    (false, driver.failed (bytes "HTTP display dimensions and bind address must be valid"))
  else if driver.width > (2 ^ 64 - 1) / driver.height
      ∨ driver.width * driver.height > 256 * 256 then
    (false, driver.failed (bytes "HTTP display contains too many pixels"))
  else if driver.options.defaultRefreshInterval < minimumRefreshInterval
      ∨ driver.options.defaultRefreshInterval > maximumRefreshInterval then
    (false, driver.failed
      (bytes "HTTP display refresh interval must be between 16ms and 5 minutes"))
  else if bound < minimumPort ∨ bound > 65535 then
    (false, driver.failed (bytes "Unable to bind HTTP display server to "
      ++ driver.options.bindAddress ++ [0x3A] ++ decimal driver.options.port.toNat))
  else
    let advertisedHost :=
      if driver.options.bindAddress = bytes "0.0.0.0" then bytes "127.0.0.1"
      else driver.options.bindAddress
    (true, { driver with
      boundPort := UInt16.ofNat bound.toNat
      isRunning := true
      stopRequested := false
      driverState := { driver.driverState with
        connection := .ready
        detail := bytes "HTTP display ready at http://" ++ advertisedHost ++ [0x3A]
          ++ decimal bound.toNat ++ [0x2F] } })

/-- The entity tag that carries a sequence number. -/
def etagOf (sequence : UInt64) : Bytes :=
  bytes "\"frame-" ++ decimal sequence.toNat ++ [0x22]

/-- The entity tag of the newest frame. -/
def etag (driver : HttpDisplayDriver) : Bytes := etagOf driver.sequence

/-- Different numbers give different tags. -/
theorem etagOf_injective : Function.Injective etagOf := by
  intro left right same
  have digits : decimal left.toNat = decimal right.toNat :=
    List.append_cancel_left (List.append_cancel_right same)
  exact UInt64.toNat_inj.mp (decimal_injective digits)

/-- A tag is never empty. -/
theorem etagOf_ne_nil (sequence : UInt64) : etagOf sequence ≠ [] := by
  simp [etagOf]

/-- The `/api/v1/display` handler; a request without `If-None-Match` reads as
one with an empty value. -/
def display (driver : HttpDisplayDriver) (ifNoneMatch : Bytes) :
    DisplayResponse × HttpDisplayDriver :=
  let taken := { driver with framePending := false }
  if ifNoneMatch = driver.etag then ({ status := 304, etag := driver.etag, body := none }, taken)
  else
    ({ status := 200, etag := driver.etag, body := some driver.serializedFrame }, taken)

/-- Replace the newest frame. -/
def submitFrame (driver : HttpDisplayDriver) (frame : Frame) :
    FrameSubmitResult × HttpDisplayDriver :=
  if !driver.isRunning ∨ frame.width ≠ driver.width ∨ frame.height ≠ driver.height then
    (.unavailable, driver)
  else
    let sequence := driver.sequence + 1
    (if driver.framePending then .coalesced else .accepted,
      { driver with
        latestFrame := frame
        sequence := sequence
        serializedFrame := serializeFrame frame sequence driver.options.defaultRefreshInterval
        framePending := true
        driverState := { driver.driverState with
          submittedFrames := driver.driverState.submittedFrames + 1
          coalescedFrames :=
            if driver.framePending then driver.driverState.coalescedFrames + 1
            else driver.driverState.coalescedFrames } })

/-- The listener has ended, by itself or because it was told to. -/
def ended (driver : HttpDisplayDriver) (completedNormally : Bool) : HttpDisplayDriver :=
  let stopped := { driver with isRunning := false }
  if !completedNormally && !driver.stopRequested then
    stopped.failed (bytes "HTTP display server stopped unexpectedly")
  else stopped

def stop (driver : HttpDisplayDriver) (completedNormally : Bool) : HttpDisplayDriver :=
  let joined := ended { driver with stopRequested := true } completedNormally
  if joined.driverState.connection ≠ .failed then
    { joined with driverState := { joined.driverState with
        connection := .stopped
        detail := bytes "HTTP display stopped" } }
  else joined

end HttpDisplayDriver

end PixelStatus
