/-
# The frame writer of the MI display

`MiFrameWriter` sends a frame as packets over one connection and remembers what
the panel shows, so that pixel mode can send differences only. A write may raise
whether or not its packet arrived. The panel is the fold of the packets that
reach it; what an initialization packet does to its content is left open.
-/

import PixelStatus.Logic.Overwrite
import PixelStatus.Logic.Transition
import PixelStatus.Tools.MiBle.Protocol

namespace PixelStatus.MiBle

/-- The colours in a run of bytes. -/
def rgbTriples : Bytes → List Rgb
  | r :: g :: b :: rest => { r, g, b } :: rgbTriples rest
  | _ => []

/-- What the panel shows after a packet; `content` is what it shows when the
packet is none of the two kinds that carry pixels. -/
def panelAfter (content panel : Pixels) : Bytes → Pixels
  | [0xBC, 0x01, 0x01, 0x00, index, r, g, b, _, 0x55] =>
      panel.set index.toNat { r, g, b } index.toNat_lt
  | 0xBC :: 0x0F :: number :: payload =>
      if 1 ≤ number.toNat ∧ number.toNat ≤ blockCount ∧ payload.length = 97 then
        Vector.ofFn fun index =>
          if index.val / pixelsPerBlock = number.toNat - 1 then
            (rgbTriples payload)[index.val % pixelsPerBlock]?.getD panel[index]
          else panel[index]
      else content
  | _ => content

/-- What becomes of one GATT write. -/
inductive Delivery
  | arrived
  | raised (reached : Bool)

/-- The connection, by the number of the write: what becomes of the packet, and
what an initialization packet leaves on the panel. -/
structure Radio where
  delivery : Nat → Delivery
  content : Nat → Pixels

inductive OutputMode
  | pixel
  | block
  deriving DecidableEq

structure MiFrameWriter where
  mode : OutputMode := .pixel
  response : Bool := false
  maxWriteWithoutResponseSize : Option Int := none
  initialized : Bool := false
  lastPixels : Option Pixels := none

/-- What `send_frame` raises. -/
inductive SendError
  | valueError (message : String)
  | miBleError (message : String)
  | gattWrite

/-- The writer, the panel at the other end, and the number of writes so far. -/
structure Session where
  writer : MiFrameWriter
  panel : Pixels
  attempts : Nat := 0

namespace Session

variable (radio : Radio)

/-- The panel takes in the packet of the current write. -/
def take (session : Session) (packet : Bytes) : Session :=
  { session with
    panel := panelAfter (radio.content session.attempts) session.panel packet
    attempts := session.attempts + 1 }

/-- One GATT write; false when it raised. -/
def write (session : Session) (packet : Bytes) : Bool × Session :=
  match radio.delivery session.attempts with
  | .arrived => (true, session.take radio packet)
  | .raised true => (false, session.take radio packet)
  | .raised false => (false, { session with attempts := session.attempts + 1 })

/-- Write packets until one raises. -/
def writeAll (session : Session) : List Bytes → Bool × Session
  | [] => (true, session)
  | packet :: packets =>
      match session.write radio packet with
      | (true, written) => writeAll written packets
      | (false, written) => (false, written)

/-- Replace the writer's memory. -/
def remember (session : Session) (initialized : Bool) (lastPixels : Option Pixels) : Session :=
  { session with writer := { session.writer with initialized, lastPixels } }

end Session

namespace MiFrameWriter

/-- Block packets do not fit the advertised write size. -/
def guardTrips (writer : MiFrameWriter) : Bool :=
  writer.mode = .block && !writer.response
    && writer.maxWriteWithoutResponseSize.any fun size => size < 100

def initPackets (writer : MiFrameWriter) : List Bytes :=
  match writer.mode with
  | .pixel => graffitiInitPackets
  | .block => [blockInitPacket]

/-- The pixels that differ from the remembered ones; all when none are. -/
def changed (lastPixels : Option Pixels) (validated : Pixels) : List (Fin pixelCount) :=
  match lastPixels with
  | none => List.finRange pixelCount
  | some before => (List.finRange pixelCount).filter fun index =>
      before[index] ≠ validated[index]

/-- The packets of one frame. -/
def framePackets (writer : MiFrameWriter) (validated : Pixels) : List Bytes :=
  match writer.mode with
  | .pixel => (changed writer.lastPixels validated).map fun index =>
      buildPixelPacket index validated[index]
  | .block => buildBlockPackets validated

/-- 256 colours of three channels each. -/
def validate (pixels : List (List PyValue)) : Except SendError Pixels :=
  match pixels.mapM validateRgb with
  | .error message => .error (.valueError message)
  | .ok validated =>
      if sized : validated.length = pixelCount then .ok ⟨validated.toArray, by simp [sized]⟩
      else .error (.valueError "an MI frame must contain exactly 256 pixels")

variable (radio : Radio)

/-- Set the display up once for each connection. -/
def initializeDisplay (session : Session) : Except SendError Unit × Session :=
  if session.writer.initialized then (.ok (), session)
  else if session.writer.guardTrips then
    (.error (.miBleError ("block mode needs a 100-byte write; the characteristic reports "
      ++ s!"{session.writer.maxWriteWithoutResponseSize.getD 0} bytes without response")), session)
  else match session.writeAll radio session.writer.initPackets with
    | (false, session) => (.error .gattWrite, session)
    | (true, session) => (.ok (), session.remember true session.writer.lastPixels)

/-- Write the packets of a frame and remember it, or nothing after a failed write. -/
def writeFrame (session : Session) (validated : Pixels) : Except SendError Nat × Session :=
  match session.writeAll radio (session.writer.framePackets validated) with
  | (false, session) => (.error .gattWrite, session.remember false none)
  | (true, written) =>
      (.ok (session.writer.framePackets validated).length,
        written.remember written.writer.initialized validated)

/-- Show a frame; the result is the number of data packets written. -/
def sendFrame (session : Session) (pixels : List (List PyValue)) :
    Except SendError Nat × Session :=
  match validate pixels with
  | .error error => (.error error, session)
  | .ok validated =>
      match initializeDisplay radio session with
      | (.error error, session) => (.error error, session)
      | (.ok (), session) =>
          if session.writer.lastPixels = some validated then (.ok 0, session)
          else writeFrame radio session validated

end MiFrameWriter

/-- A frame as callers hand it over. -/
def request (frame : Pixels) : List (List PyValue) := frame.toList.map channels

namespace MiFrameWriter

/-- A frame asked for is a valid list of pixels. -/
theorem validate_request (frame : Pixels) : validate (request frame) = .ok frame := by
  simp only [validate, request, mapM_validateRgb_channels]
  rw [dif_pos frame.length_toList]
  exact congrArg Except.ok (Vector.toArray_inj.mp frame.toArray.toArray_toList)

/-- Only a request for a frame passes the input checks. -/
theorem eq_request_of_validate {pixels : List (List PyValue)} {frame : Pixels}
    (valid : validate pixels = .ok frame) : pixels = request frame := by
  cases hmap : pixels.mapM validateRgb with
  | error message =>
      simp only [validate, hmap] at valid
      cases valid
  | ok colors =>
      simp only [validate, hmap] at valid
      split at valid
      next sized =>
        cases valid
        rw [eq_of_mapM_validateRgb hmap, request, Vector.toList_mk]
      next => cases valid

end MiFrameWriter

/-- The bytes of the colours are read back as the colours. -/
theorem rgbTriples_flatMap (pixels : List Rgb) (rest : Bytes) (short : rest.length < 3) :
    rgbTriples (pixels.flatMap colorBytes ++ rest) = pixels := by
  induction pixels with
  | nil =>
      match rest, short with
      | [], _ => rfl
      | [_], _ => rfl
      | [_, _], _ => rfl
  | cons color pixels ih =>
      show color :: rgbTriples (pixels.flatMap colorBytes ++ rest) = _
      rw [ih]

/-- A pixel packet sets its pixel. -/
theorem panelAfter_pixelPacket (content panel : Pixels) (index : Fin pixelCount) (color : Rgb) :
    panelAfter content panel (buildPixelPacket index color)
      = panel.set index.val color index.isLt := by
  have hindex : (UInt8.ofNat index.val).toNat = index.val := Nat.mod_eq_of_lt index.isLt
  simp only [buildPixelPacket, panelAfter, hindex]

/-- A block packet sets the pixels of its block. -/
theorem panelAfter_blockPacket (content panel : Pixels) (block : Fin blockCount)
    (colors : List Rgb) (sized : colors.length = pixelsPerBlock) (place : Fin pixelCount) :
    (panelAfter content panel (buildBlockPacket block colors))[place]
      = if place.val / pixelsPerBlock = block.val then
          colors[place.val % pixelsPerBlock]?.getD panel[place]
        else panel[place] := by
  have hnumber : (UInt8.ofNat (block.val + 1)).toNat = block.val + 1 := by
    have := block.isLt
    exact Nat.mod_eq_of_lt (by simp only [blockCount] at this; omega)
  have hpayload : (colors.flatMap colorBytes ++ [0x55]).length = 97 := by
    simp [sized, colorBytes, pixelsPerBlock]
  have fits : 1 ≤ block.val + 1 ∧ block.val + 1 ≤ blockCount
      ∧ (colors.flatMap colorBytes ++ [0x55]).length = 97 :=
    ⟨by omega, block.isLt, hpayload⟩
  simp only [buildBlockPacket, panelAfter, hnumber, if_pos fits,
    rgbTriples_flatMap colors [0x55] (by decide), Fin.getElem_fin, Vector.getElem_ofFn,
    Nat.add_sub_cancel]

namespace Session

variable {radio : Radio}

/-- A write that does not raise reaches the panel. -/
theorem write_of_true {session next : Session} {packet : Bytes}
    (written : session.write radio packet = (true, next)) : next = session.take radio packet := by
  unfold write at written
  split at written <;> cases written
  rfl

/-- Writing a packet leaves the writer's own record alone. -/
theorem write_writer (radio : Radio) (session : Session) (packet : Bytes) :
    (session.write radio packet).2.writer = session.writer := by
  unfold write
  split <;> rfl

/-- So do many packets. -/
theorem writeAll_writer (radio : Radio) (session : Session) (packets : List Bytes) :
    (session.writeAll radio packets).2.writer = session.writer := by
  induction packets generalizing session with
  | nil => rfl
  | cons packet packets ih =>
      have kept := write_writer radio session packet
      rw [writeAll]
      split
      next written hwrite =>
        rw [hwrite] at kept
        exact (ih written).trans kept
      next written hwrite =>
        rw [hwrite] at kept
        exact kept

/-- When no write raises, the panel takes in every packet. -/
theorem writeAll_of_true {session next : Session} {packets : List Bytes}
    (written : session.writeAll radio packets = (true, next)) :
    next = packets.foldl (take radio) session := by
  induction packets generalizing session with
  | nil =>
      cases written
      rfl
  | cons packet packets ih =>
      rw [writeAll] at written
      split at written
      next first hwrite => rw [ih written, write_of_true hwrite, List.foldl_cons]
      next => cases written

/-- From this write on, no write raises. -/
def Arriving (radio : Radio) (session : Session) : Prop :=
  ∀ attempt, session.attempts ≤ attempt → radio.delivery attempt = .arrived

/-- Taking a packet keeps a session in which nothing raises. -/
theorem Arriving.take {session : Session} (arriving : Arriving radio session) (packet : Bytes) :
    Arriving radio (session.take radio packet) :=
  fun attempt later => arriving attempt (Nat.le_of_succ_le later)

/-- While nothing raises, all packets are written. -/
theorem Arriving.writeAll {session : Session} (arriving : Arriving radio session)
    (packets : List Bytes) :
    ∃ next, session.writeAll radio packets = (true, next) ∧ Arriving radio next := by
  induction packets generalizing session with
  | nil => exact ⟨session, rfl, arriving⟩
  | cons packet packets ih =>
      have hwrite : session.write radio packet = (true, session.take radio packet) := by
        rw [write, arriving session.attempts le_rfl]
      rw [Session.writeAll, hwrite]
      exact ih (arriving.take packet)

end Session

namespace MiFrameWriter

open Overwrite Session

variable {radio : Radio}

/-- The pixel packets of a frame write the frame. -/
theorem writes_pixels (frame : Pixels) (indices : List (Fin pixelCount)) :
    Writes (fun session index =>
        Session.take radio session (buildPixelPacket index (frame.get index)))
      (fun session place => session.panel.get place) (fun place => frame.get place)
      (fun index place => index = place) indices := by
  intro index _ session place
  have hpanel := panelAfter_pixelPacket (radio.content session.attempts) session.panel index
    (frame.get index)
  refine ⟨?_, ?_⟩
  · rintro rfl
    show (panelAfter _ session.panel _).get index = _
    rw [hpanel]
    exact Vector.getElem_set_self index.isLt
  · intro other
    show (panelAfter _ session.panel _).get place = _
    rw [hpanel]
    exact Vector.getElem_set_ne index.isLt place.isLt fun same => other (Fin.ext same)

/-- Every block has its number of pixels. -/
theorem length_blockOf (frame : Pixels) (block : Fin blockCount) :
    (blockOf frame block).length = pixelsPerBlock := by
  have hblock : block.val < 8 := block.isLt
  rw [blockOf, List.length_take, List.length_drop, Vector.length_toList]
  simp only [pixelCount, panelWidth, panelHeight, pixelsPerBlock]
  omega

/-- A place of the panel is in its block. -/
theorem blockOf_getElem? (frame : Pixels) (block : Fin blockCount) (place : Fin pixelCount)
    (inside : place.val / pixelsPerBlock = block.val) :
    (blockOf frame block)[place.val % pixelsPerBlock]? = some frame[place] := by
  have hmod : place.val % pixelsPerBlock < pixelsPerBlock := Nat.mod_lt _ (by decide)
  have hplace : block.val * pixelsPerBlock + place.val % pixelsPerBlock = place.val := by
    rw [← inside]
    exact Nat.div_add_mod' _ _
  rw [blockOf, List.getElem?_take, if_pos hmod, List.getElem?_drop, hplace,
    List.getElem?_eq_getElem (by rw [Vector.length_toList]; exact place.isLt),
    Vector.getElem_toList]
  rfl

/-- The block packets of a frame write the frame. -/
theorem writes_blocks (frame : Pixels) (blocks : List (Fin blockCount)) :
    Writes (fun session block =>
        Session.take radio session (buildBlockPacket block (blockOf frame block)))
      (fun session place => session.panel.get place) (fun place => frame.get place)
      (fun block place => place.val / pixelsPerBlock = block.val) blocks := by
  intro block _ session place
  have hpanel := panelAfter_blockPacket (radio.content session.attempts) session.panel block
    (blockOf frame block) (length_blockOf frame block) place
  refine ⟨?_, ?_⟩
  · intro inside
    rw [if_pos inside, blockOf_getElem? frame block place inside] at hpanel
    exact hpanel
  · intro outside
    rw [if_neg outside] at hpanel
    exact hpanel

/-- Every pixel that changed, or may have, is among the changed ones. -/
theorem mem_changed {lastPixels : Option Pixels} {frame : Pixels} {place : Fin pixelCount} :
    place ∈ changed lastPixels frame ↔
      ∀ before, lastPixels = some before → before.get place ≠ frame.get place := by
  cases lastPixels with
  | none => simp [changed]
  | some before =>
      simp only [changed, List.mem_filter, List.mem_finRange, true_and, decide_eq_true_eq,
        Option.some.injEq, forall_eq']
      exact Iff.rfl

/-- With a true memory, the packets of a frame turn the panel into the frame. -/
theorem foldl_framePackets {session : Session} (frame : Pixels)
    (truthful : ∀ before, session.writer.lastPixels = some before → session.panel = before) :
    ((session.writer.framePackets frame).foldl (Session.take radio) session).panel = frame := by
  apply Vector.ext
  intro place hplace
  unfold framePackets
  cases session.writer.mode with
  | pixel =>
      rw [List.foldl_map]
      apply read_foldl (writes_pixels frame _) ⟨place, hplace⟩
      by_cases covered : ⟨place, hplace⟩ ∈ changed session.writer.lastPixels frame
      · exact Or.inl ⟨_, covered, rfl⟩
      · rw [mem_changed] at covered
        simp only [not_forall, not_not] at covered
        obtain ⟨before, hlast, same⟩ := covered
        rw [truthful before hlast]
        exact Or.inr same
  | block =>
      rw [buildBlockPackets, List.foldl_map]
      apply read_foldl (writes_blocks frame _) ⟨place, hplace⟩
      have hblock : place / pixelsPerBlock < blockCount := Nat.div_lt_of_lt_mul hplace
      exact Or.inl ⟨⟨place / pixelsPerBlock, hblock⟩, List.mem_finRange _, rfl⟩

/-- What the writer believes about the panel is true, and it has initialized it. -/
def Belief (session : Session) : Prop :=
  ∀ pixels, session.writer.lastPixels = some pixels →
    session.writer.initialized = true ∧ session.panel = pixels

/-- Initialization never leaves a memory behind that may be wrong. -/
theorem belief_initializeDisplay (radio : Radio) {session : Session} (hbelief : Belief session) :
    Belief (initializeDisplay radio session).2 := by
  unfold initializeDisplay
  by_cases initialized : session.writer.initialized = true
  · rw [if_pos initialized]
    exact hbelief
  · have forgotten : session.writer.lastPixels = none := by
      cases hlast : session.writer.lastPixels with
      | none => rfl
      | some pixels => exact absurd (hbelief pixels hlast).1 initialized
    have kept := writeAll_writer radio session session.writer.initPackets
    rw [if_neg initialized]
    split_ifs with trips
    · exact hbelief
    · split
      next next hwrite =>
        rw [hwrite] at kept
        intro pixels hlast
        rw [kept, forgotten] at hlast
        cases hlast
      next next hwrite =>
        rw [hwrite] at kept
        intro pixels hlast
        rw [remember, kept, forgotten] at hlast
        cases hlast

/-- The initialization marks the writer when it succeeds. -/
theorem initialized_of_ok {session next : Session}
    (ok : initializeDisplay radio session = (.ok (), next)) : next.writer.initialized = true := by
  unfold initializeDisplay at ok
  split_ifs at ok with initialized trips
  · cases ok
    exact initialized
  · cases ok
  · split at ok
    · cases ok
    · cases ok
      rfl

/-- Writing a frame ends with the frame on the panel, or without a memory. -/
theorem writeFrame_spec (radio : Radio) {session : Session} (hbelief : Belief session)
    (initialized : session.writer.initialized = true) (frame : Pixels) :
    Belief (writeFrame radio session frame).2 ∧
      ∀ writes, (writeFrame radio session frame).1 = .ok writes →
        (writeFrame radio session frame).2.panel = frame := by
  have kept := writeAll_writer radio session (session.writer.framePackets frame)
  unfold writeFrame
  split
  next written hwrite =>
    refine ⟨?_, ?_⟩
    · intro _ impossible
      cases impossible
    · intro _ impossible
      cases impossible
  next written hwrite =>
    rw [hwrite] at kept
    have shown : written.panel = frame := by
      rw [writeAll_of_true hwrite]
      exact foldl_framePackets frame fun before hlast => (hbelief before hlast).2
    refine ⟨?_, ?_⟩
    · intro believed hlast
      cases hlast
      exact ⟨kept ▸ initialized, shown⟩
    · intro _ _
      exact shown

/-- After a call the belief is true, and the frame on the panel if none was raised. -/
theorem sendFrame_spec (radio : Radio) {session : Session} (hbelief : Belief session)
    (pixels : List (List PyValue)) :
    Belief (sendFrame radio session pixels).2 ∧
      ∀ writes, (sendFrame radio session pixels).1 = .ok writes →
        ∃ frame, pixels = request frame ∧ (sendFrame radio session pixels).2.panel = frame := by
  have ready := belief_initializeDisplay radio hbelief
  unfold sendFrame
  split
  · exact ⟨hbelief, fun _ impossible => nomatch impossible⟩
  next frame valid =>
    have hrequest := eq_request_of_validate valid
    split
    next next hinit =>
      rw [hinit] at ready
      exact ⟨ready, fun _ impossible => nomatch impossible⟩
    next next hinit =>
      rw [hinit] at ready
      split_ifs with same
      · exact ⟨ready, fun _ _ => ⟨frame, hrequest, (ready frame same).2⟩⟩
      · obtain ⟨believed, shown⟩ :=
          writeFrame_spec radio ready (initialized_of_ok hinit) frame
        exact ⟨believed, fun writes ok => ⟨frame, hrequest, shown writes ok⟩⟩

/-- The input is no frame, or the packets of block mode do not fit. -/
def Rejects (writer : MiFrameWriter) (pixels : List (List PyValue)) : Prop :=
  (∀ frame, pixels ≠ request frame) ∨
    writer.initialized = false ∧ writer.guardTrips = true

/-- A rejected call changes nothing. -/
theorem sendFrame_of_rejects {session : Session} {pixels : List (List PyValue)}
    (rejects : Rejects session.writer pixels) :
    ∃ error, sendFrame radio session pixels = (.error error, session) := by
  unfold sendFrame
  split
  next error invalid => exact ⟨error, rfl⟩
  next frame valid =>
    cases rejects with
    | inl invalid => exact absurd (eq_request_of_validate valid) (invalid frame)
    | inr guard =>
        obtain ⟨fresh, trips⟩ := guard
        rw [initializeDisplay, if_neg (by rw [fresh]; exact Bool.false_ne_true), if_pos trips]
        exact ⟨_, rfl⟩

/-- While nothing raises, initialization fails only at the block-size guard. -/
theorem initializeDisplay_of_arriving {session : Session} (arriving : Arriving radio session)
    (fits : ¬ (session.writer.initialized = false ∧ session.writer.guardTrips = true)) :
    ∃ next, initializeDisplay radio session = (.ok (), next) ∧ Arriving radio next := by
  unfold initializeDisplay
  split_ifs with initialized trips
  · exact ⟨session, rfl, arriving⟩
  · exact absurd ⟨Bool.eq_false_iff.mpr initialized, trips⟩ fits
  · obtain ⟨next, hwrite, still⟩ := arriving.writeAll session.writer.initPackets
    rw [hwrite]
    exact ⟨_, rfl, still⟩

/-- While nothing raises, every call that is not rejected succeeds. -/
theorem sendFrame_of_arriving {session : Session} (arriving : Arriving radio session)
    {pixels : List (List PyValue)} (accepts : ¬ Rejects session.writer pixels) :
    ∃ writes next, sendFrame radio session pixels = (.ok writes, next) := by
  obtain ⟨valid, fits⟩ := not_or.mp accepts
  obtain ⟨frame, hrequest⟩ := not_forall_not.mp valid
  obtain ⟨next, hinit, still⟩ := initializeDisplay_of_arriving arriving fits
  simp only [sendFrame, hrequest, validate_request, hinit]
  split_ifs with same
  · exact ⟨0, next, rfl⟩
  · obtain ⟨written, hwrite, -⟩ := still.writeAll (next.writer.framePackets frame)
    rw [writeFrame, hwrite]
    exact ⟨_, _, rfl⟩

/-- A writer for a new connection, whatever the panel shows. -/
def Fresh (session : Session) : Prop :=
  session.writer.initialized = false ∧ session.writer.lastPixels = none

/-- One call of `send_frame`. -/
def Call (radio : Radio) (session next : Session) : Prop :=
  ∃ pixels, next = (sendFrame radio session pixels).2

/-- What the writer believes of the panel holds after any calls. -/
theorem belief_of_reachable {session : Session}
    (reachable : Transition.Reachable Fresh (Call radio) session) : Belief session := by
  apply reachable.induction
  · intro start fresh pixels hlast
    rw [fresh.2] at hlast
    cases hlast
  · intro before next _ hbelief call
    obtain ⟨pixels, rfl⟩ := call
    exact (sendFrame_spec radio hbelief pixels).1

/-- After any calls over any connection, what the writer believes is true; the
next call shows its frame unless it raises, changes nothing if it rejects, and
succeeds otherwise while no write raises. -/
theorem panel_agrees (radio : Radio) {session : Session}
    (reachable : Transition.Reachable Fresh (Call radio) session) :
    (∀ pixels, session.writer.lastPixels = some pixels →
        session.writer.initialized = true ∧ session.panel = pixels) ∧
      (∀ pixels writes next, sendFrame radio session pixels = (.ok writes, next) →
        ∃ frame, pixels = request frame ∧ next.panel = frame) ∧
      (∀ pixels, Rejects session.writer pixels →
        ∃ error, sendFrame radio session pixels = (.error error, session)) ∧
      ∀ pixels, Arriving radio session → ¬ Rejects session.writer pixels →
        ∃ writes next, sendFrame radio session pixels = (.ok writes, next) := by
  have hbelief := belief_of_reachable reachable
  refine ⟨hbelief, ?_, fun pixels rejects => sendFrame_of_rejects rejects,
    fun pixels arriving accepts => sendFrame_of_arriving arriving accepts⟩
  intro pixels writes next sent
  have hspec := (sendFrame_spec radio hbelief pixels).2 writes
  rw [sent] at hspec
  exact hspec rfl

/-- A connection whose hundredth write raises, although its packet arrived. -/
def faltering : Radio where
  delivery attempt := if attempt = 99 then .raised true else .arrived
  content _ := Vector.replicate pixelCount { r := 7 }

def whitePixels : Pixels := Vector.replicate pixelCount { r := 255, g := 255, b := 255 }

/-- The panel is dark at first; then a call shows a part of a white frame. -/
def interrupted : Except SendError Nat × Session :=
  sendFrame faltering { writer := {}, panel := Vector.replicate pixelCount {} }
    (request whitePixels)

/-- The interrupted call is one of the calls. -/
theorem reachable_interrupted : Transition.Reachable Fresh (Call faltering) interrupted.2 :=
  have start : Transition.Reachable Fresh (Call faltering)
      { writer := {}, panel := Vector.replicate pixelCount {} } := .of_initial ⟨rfl, rfl⟩
  start.tail ⟨_, rfl⟩

/-- The call after an interrupted one shows the whole frame. -/
theorem panel_agrees_secondCall :
    interrupted.2.attempts = 100 ∧ interrupted.2.panel ≠ whitePixels ∧
      ∃ writes next, sendFrame faltering interrupted.2 (request whitePixels) = (.ok writes, next)
        ∧ next.panel = whitePixels := by
  have attempts : interrupted.2.attempts = 100 := by decide +kernel
  have fresh : interrupted.2.writer.guardTrips = false := by decide +kernel
  have arriving : Arriving faltering interrupted.2 := by
    intro attempt later
    exact if_neg (by omega)
  have accepts : ¬ Rejects interrupted.2.writer (request whitePixels) := by
    rintro (invalid | ⟨-, trips⟩)
    · exact invalid whitePixels rfl
    · rw [fresh] at trips
      cases trips
  have agrees := panel_agrees faltering reachable_interrupted
  obtain ⟨writes, next, sent⟩ := agrees.2.2.2 _ arriving accepts
  obtain ⟨frame, same, shown⟩ := agrees.2.1 _ writes next sent
  have hframe : whitePixels = frame :=
    Except.ok.inj ((validate_request _).symm.trans (same ▸ validate_request frame))
  exact ⟨attempts, by decide +kernel, writes, next, sent, shown.trans hframe.symm⟩

end MiFrameWriter

end PixelStatus.MiBle
