/-
# The MI bridge: from the newest frame to the display

The polling task puts frames into a one-frame mailbox; the output task keeps one
display connection, sends the frame it holds, and waits for a newer frame or a
disconnect. What lies between two awaits of one task is one step here. A task
that waits for the mailbox is blocked until a put notifies it, and looks at the
mailbox again when it runs.
-/

import PixelStatus.Tools.MiBle.Display
import PixelStatus.Tools.MiBle.FrameSource

namespace PixelStatus.MiBle

/-- A mailbox for one frame, which replaces obsolete ones. -/
structure LatestFrameSlot where
  generation : Nat := 0
  frame : Option DisplayFrame := none

namespace LatestFrameSlot

/-- Whether the slot already shows the pixels of a frame. -/
def shows (slot : LatestFrameSlot) (frame : DisplayFrame) : Bool :=
  slot.frame.any fun current => current.pixels = frame.pixels

/-- `LatestFrameSlot.put`: a new generation, unless the pixels are shown already. -/
def put (slot : LatestFrameSlot) (frame : DisplayFrame) : LatestFrameSlot :=
  if slot.shows frame then slot
  else { generation := slot.generation + 1, frame := some frame }

/-- What `wait_after` returns now, or `none` while it has to wait. -/
def after (slot : LatestFrameSlot) (generation : Nat) : Option (Nat × DisplayFrame) :=
  if slot.generation > generation then slot.frame.map fun frame => (slot.generation, frame)
  else none

end LatestFrameSlot

/-- A task inside `wait_after`. -/
inductive Waiter
  | created
  | blocked
  | notified
  | done (generation : Nat) (frame : DisplayFrame)

namespace Waiter

/-- `notify_all`. -/
def notify : Waiter → Waiter
  | .blocked => .notified
  | waiter => waiter

/-- The event loop can run the task. -/
def runnable : Waiter → Bool
  | .created | .notified => true
  | _ => false

/-- The task looks at the slot. -/
def run (slot : LatestFrameSlot) (generation : Nat) : Waiter :=
  match slot.after generation with
  | some (newer, frame) => .done newer frame
  | none => .blocked

end Waiter

/-- The frame that the output task works on. -/
structure Held where
  generation : Nat
  frame : DisplayFrame

/-- Where the output task is suspended once it holds a frame. -/
inductive Stage
  | connecting
  | sending (session : Session) (physical : Pixels)
  | waiting (session : Session) (task : Waiter) (disconnected : Bool)
  | gathering (session : Session) (task : Waiter) (disconnected : Bool)
  | retrying (connected : Bool)
  | closing

/-- Where the output task is: without a frame yet, or with one. -/
inductive Phase
  | first (waiter : Waiter)
  | running (held : Held) (stage : Stage)

namespace Phase

/-- A put has replaced the slot's frame. -/
def notify : Phase → Phase
  | .first waiter => .first waiter.notify
  | .running held (.waiting session task disconnected) =>
      .running held (.waiting session task.notify disconnected)
  | phase => phase

end Phase

/-- The bridge between its atomic steps. -/
structure Bridge where
  slot : LatestFrameSlot := {}
  phase : Phase := .first .created
  /-- The connection has not reported a disconnect. -/
  up : Bool := false
  /-- The generations handed to `send_frame` so far. -/
  sent : List Nat := []

namespace Bridge

/-- `LatestFrameSlot.put` by the polling task. -/
def put (bridge : Bridge) (frame : DisplayFrame) : Bridge :=
  { bridge with
    slot := bridge.slot.put frame
    phase := if bridge.slot.shows frame then bridge.phase else bridge.phase.notify }

/-- The output task goes on to a stage with the frame it holds. -/
def goto (bridge : Bridge) (held : Held) (stage : Stage) : Bridge :=
  { bridge with phase := .running held stage }

/-- The top of the inner loop: transform the held frame and send it. -/
def startSending (bridge : Bridge) (options : TransformOptions) (held : Held)
    (session : Session) : Bridge :=
  match transformFrame options held.frame.pixels with
  | .ok physical =>
      { bridge.goto held (.sending session physical) with
        sent := bridge.sent ++ [held.generation] }
  | .error _ => bridge.goto held (.retrying true)

/-- `send_frame` has returned or raised. -/
def finishSending (bridge : Bridge) (radio : Radio) (held : Held) (session : Session)
    (physical : Pixels) : Bridge :=
  match MiFrameWriter.sendFrame radio session (request physical) with
  | (.ok _, session) => bridge.goto held (.waiting session .created false)
  | (.error _, _) => bridge.goto held (.retrying true)

/-- The end of `_wait_for_frame_or_disconnect`. -/
def finishWaiting (bridge : Bridge) (options : TransformOptions) (held : Held)
    (session : Session) (task : Waiter) (disconnected : Bool) : Bridge :=
  match disconnected, task with
  | false, .done generation frame => bridge.startSending options { generation, frame } session
  | _, _ => bridge.goto held (.retrying true)

end Bridge

/-- One atomic step: of the polling task, the connection or the output task. -/
inductive Step (options : TransformOptions) : Bridge → Bridge → Prop
  | put (bridge : Bridge) (frame : DisplayFrame) : Step options bridge (bridge.put frame)
  | disconnect (bridge : Bridge) : Step options bridge { bridge with up := false }
  | firstBlocks (bridge : Bridge) (waiter : Waiter) (phase : bridge.phase = .first waiter)
      (runnable : waiter.runnable = true) (empty : bridge.slot.after 0 = none) :
      Step options bridge { bridge with phase := .first .blocked }
  | firstFrame (bridge : Bridge) (waiter : Waiter) (phase : bridge.phase = .first waiter)
      (runnable : waiter.runnable = true) (generation : Nat) (frame : DisplayFrame)
      (taken : bridge.slot.after 0 = some (generation, frame)) :
      Step options bridge (bridge.goto { generation, frame } .connecting)
  | connect (bridge : Bridge) (held : Held) (phase : bridge.phase = .running held .connecting)
      (session : Session) (fresh : MiFrameWriter.Fresh session) :
      Step options bridge ({ bridge with up := true }.startSending options held session)
  | connectFails (bridge : Bridge) (held : Held)
      (phase : bridge.phase = .running held .connecting) (connected : Bool) :
      Step options bridge (bridge.goto held (.retrying connected))
  | send (bridge : Bridge) (held : Held) (session : Session) (physical : Pixels)
      (phase : bridge.phase = .running held (.sending session physical)) (radio : Radio) :
      Step options bridge (bridge.finishSending radio held session physical)
  | frameTask (bridge : Bridge) (held : Held) (session : Session) (task : Waiter)
      (disconnected : Bool)
      (phase : bridge.phase = .running held (.waiting session task disconnected))
      (runnable : task.runnable = true) :
      Step options bridge (bridge.goto held
        (.waiting session (Waiter.run bridge.slot held.generation) disconnected))
  | disconnectedTask (bridge : Bridge) (held : Held) (session : Session) (task : Waiter)
      (disconnected : Bool)
      (phase : bridge.phase = .running held (.waiting session task disconnected))
      (down : bridge.up = false) :
      Step options bridge (bridge.goto held (.waiting session task true))
  | firstCompleted (bridge : Bridge) (held : Held) (session : Session) (task : Waiter)
      (disconnected : Bool)
      (phase : bridge.phase = .running held (.waiting session task disconnected))
      (completed : disconnected = true ∨ ∃ generation frame, task = .done generation frame) :
      Step options bridge (bridge.goto held (.gathering session task disconnected))
  | gathered (bridge : Bridge) (held : Held) (session : Session) (task : Waiter)
      (disconnected : Bool)
      (phase : bridge.phase = .running held (.gathering session task disconnected)) :
      Step options bridge (bridge.finishWaiting options held session task disconnected)
  | retry (bridge : Bridge) (held : Held) (connected : Bool)
      (phase : bridge.phase = .running held (.retrying connected)) (generation : Nat)
      (frame : DisplayFrame) (taken : bridge.slot.after 0 = some (generation, frame)) :
      Step options bridge
        (bridge.goto { generation, frame } (if connected then .closing else .connecting))
  | closed (bridge : Bridge) (held : Held) (phase : bridge.phase = .running held .closing) :
      Step options bridge (bridge.goto held .connecting)

end PixelStatus.MiBle
