/-
# The bridge never loses the newest frame

Every generation and frame that the output task holds was the slot's at some
moment, so holding the slot's generation means holding its frame. A waiting task
is blocked only while the slot has nothing newer. The frame on the panel comes
from the writer's own correctness.
-/

import PixelStatus.Tools.MiBle.Bridge

namespace PixelStatus.MiBle

/-- The pair was the slot's content, and is not newer than what the slot has now. -/
structure Dated (slot : LatestFrameSlot) (generation : Nat) (frame : DisplayFrame) : Prop where
  le : generation ≤ slot.generation
  same : generation = slot.generation → slot.frame = some frame

namespace LatestFrameSlot

variable {slot : LatestFrameSlot} {frame : DisplayFrame}

/-- A frame with the shown pixels changes nothing. -/
theorem put_of_shows (shows : slot.shows frame = true) : slot.put frame = slot := if_pos shows

/-- Any other frame is the next generation. -/
theorem put_of_not_shows (fresh : ¬ slot.shows frame = true) :
    slot.put frame = { generation := slot.generation + 1, frame := some frame } := if_neg fresh

/-- A frame is new exactly when it is the first one or its pixels differ. -/
theorem shows_iff :
    slot.shows frame = true ↔ ∃ current, slot.frame = some current ∧
      current.pixels = frame.pixels := by
  cases hframe : slot.frame with
  | none => simp [shows, hframe]
  | some current => simp [shows, hframe]

/-- After a put the slot shows the pixels that were put. -/
theorem put_shows (slot : LatestFrameSlot) (frame : DisplayFrame) :
    (slot.put frame).shows frame = true := by
  by_cases shows : slot.shows frame = true
  · rw [put_of_shows shows]
    exact shows
  · rw [put_of_not_shows shows]
    exact shows_iff.mpr ⟨frame, rfl, rfl⟩

/-- The generation counts the puts that bring other pixels than the slot shows. -/
theorem put_generation (slot : LatestFrameSlot) (frame : DisplayFrame) :
    (slot.put frame).generation
      = if slot.shows frame = true then slot.generation else slot.generation + 1 := by
  by_cases shows : slot.shows frame = true
  · rw [put_of_shows shows, if_pos shows]
  · rw [put_of_not_shows shows, if_neg shows]

/-- A frame is new to a slot that is empty or shows other pixels. -/
theorem not_shows_iff :
    ¬ slot.shows frame = true ↔ slot.frame = none ∨
      ∃ current, slot.frame = some current ∧ current.pixels ≠ frame.pixels := by
  cases hframe : slot.frame with
  | none => simp [shows, hframe]
  | some current => simp [shows, hframe]

/-- A waiter takes the slot's frame once its generation is newer. -/
theorem after_eq_some {generation newer : Nat} :
    slot.after generation = some (newer, frame) ↔
      newer = slot.generation ∧ generation < newer ∧ slot.frame = some frame := by
  unfold after
  split
  next newest =>
    rw [Option.map_eq_some_iff]
    refine ⟨?_, ?_⟩
    · rintro ⟨current, hframe, same⟩
      cases same
      exact ⟨rfl, newest, hframe⟩
    · rintro ⟨rfl, _, hframe⟩
      exact ⟨frame, hframe, rfl⟩
  next old =>
    refine ⟨?_, ?_⟩
    · intro impossible
      cases impossible
    · rintro ⟨rfl, newest, _⟩
      exact absurd newest old

/-- What it takes is dated by the slot's generation. -/
theorem dated_of_after {generation newer : Nat}
    (taken : slot.after generation = some (newer, frame)) : Dated slot newer frame := by
  obtain ⟨rfl, _, hframe⟩ := after_eq_some.mp taken
  exact ⟨Nat.le_refl _, fun _ => hframe⟩

end LatestFrameSlot

/-- What was dated before a put is dated after it. -/
theorem Dated.put {slot : LatestFrameSlot} {generation : Nat} {frame : DisplayFrame}
    (dated : Dated slot generation frame) (put : DisplayFrame) :
    Dated (slot.put put) generation frame := by
  by_cases shows : slot.shows put = true
  · rw [LatestFrameSlot.put_of_shows shows]
    exact dated
  · rw [LatestFrameSlot.put_of_not_shows shows]
    have hle := dated.le
    exact ⟨Nat.le_succ_of_le hle, fun same => absurd same (by simp only; omega)⟩

/-- A waiting task is blocked only while there is nothing newer; what it took is newer. -/
def TaskValid (slot : LatestFrameSlot) (held : Held) : Waiter → Prop
  | .blocked => slot.generation ≤ held.generation
  | .done generation frame => held.generation < generation ∧ Dated slot generation frame
  | _ => True

/-- The panel shows the held frame, and the writer's memory is true. -/
def Shown (options : TransformOptions) (held : Held) (session : Session) : Prop :=
  MiFrameWriter.Belief session ∧
    transformFrame options held.frame.pixels = .ok session.panel

/-- What holds at a stage of the output task. -/
def StageValid (options : TransformOptions) (slot : LatestFrameSlot) (held : Held) :
    Stage → Prop
  | .sending session physical => MiFrameWriter.Belief session ∧
      transformFrame options held.frame.pixels = .ok physical
  | .waiting session task _ => Shown options held session ∧ TaskValid slot held task
  | .gathering session task _ => Shown options held session ∧
      ∀ generation frame, task = .done generation frame →
        held.generation < generation ∧ Dated slot generation frame
  | _ => True

/-- What holds of the held frame and of the generations handed over so far. -/
def PhaseValid (options : TransformOptions) (slot : LatestFrameSlot) (sent : List Nat) :
    Phase → Prop
  | .first waiter => sent = [] ∧ (waiter = .blocked → slot.generation = 0)
  | .running held stage => Dated slot held.generation held.frame ∧ 0 < held.generation ∧
      (∀ generation ∈ sent, generation ≤ held.generation) ∧ StageValid options slot held stage

/-- What every step of the bridge keeps. -/
structure Invariant (options : TransformOptions) (bridge : Bridge) : Prop where
  filled : 0 < bridge.slot.generation → bridge.slot.frame ≠ none
  ordered : bridge.sent.Pairwise (· ≤ ·)
  phase : PhaseValid options bridge.slot bridge.sent bridge.phase

/-- A waiter that runs stays valid. -/
theorem TaskValid.run (slot : LatestFrameSlot) (held : Held)
    (filled : 0 < slot.generation → slot.frame ≠ none) :
    TaskValid slot held (Waiter.run slot held.generation) := by
  unfold Waiter.run
  split
  next newer frame taken =>
    exact ⟨(LatestFrameSlot.after_eq_some.mp taken).2.1, LatestFrameSlot.dated_of_after taken⟩
  next nothing =>
    by_contra newest
    simp only [TaskValid, Nat.not_le] at newest
    obtain ⟨frame, hframe⟩ := Option.ne_none_iff_exists'.mp (filled (by omega))
    rw [LatestFrameSlot.after_eq_some.mpr ⟨rfl, newest, hframe⟩] at nothing
    cases nothing

/-- A put that changes the slot notifies, so nobody stays blocked before it. -/
theorem PhaseValid.put {options : TransformOptions} {slot : LatestFrameSlot} {sent : List Nat}
    {phase : Phase} (valid : PhaseValid options slot sent phase) (frame : DisplayFrame) :
    PhaseValid options (slot.put frame) sent
      (if slot.shows frame then phase else phase.notify) := by
  by_cases shows : slot.shows frame = true
  · rw [LatestFrameSlot.put_of_shows shows, if_pos shows]
    exact valid
  · rw [if_neg shows]
    cases phase with
    | first waiter =>
        obtain ⟨hsent, _⟩ := valid
        refine ⟨hsent, ?_⟩
        cases waiter <;> exact fun impossible => nomatch impossible
    | running held stage =>
        obtain ⟨dated, positive, hsent, hstage⟩ := valid
        cases stage with
        | waiting session task disconnected =>
            refine ⟨dated.put frame, positive, hsent, hstage.1, ?_⟩
            cases task with
            | done generation taken => exact ⟨hstage.2.1, hstage.2.2.put frame⟩
            | _ => exact True.intro
        | gathering session task disconnected =>
            refine ⟨dated.put frame, positive, hsent, hstage.1, ?_⟩
            intro generation taken same
            obtain ⟨newer, hdated⟩ := hstage.2 generation taken same
            exact ⟨newer, hdated.put frame⟩
        | sending session physical => exact ⟨dated.put frame, positive, hsent, hstage⟩
        | _ => exact ⟨dated.put frame, positive, hsent, True.intro⟩

namespace Invariant

variable {options : TransformOptions} {bridge : Bridge} {held : Held} {stage : Stage}

/-- A published frame keeps the invariant. -/
theorem put (hinv : Invariant options bridge) (frame : DisplayFrame) :
    Invariant options (bridge.put frame) where
  filled := by
    show 0 < (bridge.slot.put frame).generation → (bridge.slot.put frame).frame ≠ none
    by_cases shows : bridge.slot.shows frame = true
    · rw [LatestFrameSlot.put_of_shows shows]
      exact hinv.filled
    · rw [LatestFrameSlot.put_of_not_shows shows]
      exact fun _ => Option.some_ne_none frame
  ordered := hinv.ordered
  phase := hinv.phase.put frame

/-- The parts of the invariant that do not depend on the stage. -/
theorem held_valid (hinv : Invariant options bridge) (phase : bridge.phase = .running held stage) :
    Dated bridge.slot held.generation held.frame ∧ 0 < held.generation ∧
      (∀ generation ∈ bridge.sent, generation ≤ held.generation) ∧
        StageValid options bridge.slot held stage := by
  have valid := hinv.phase
  rw [phase] at valid
  exact valid

/-- Another stage with the same frame. -/
theorem goto (hinv : Invariant options bridge) (phase : bridge.phase = .running held stage)
    {next : Stage} (valid : StageValid options bridge.slot held next) :
    Invariant options (bridge.goto held next) := by
  obtain ⟨dated, positive, hsent, _⟩ := hinv.held_valid phase
  exact ⟨hinv.filled, hinv.ordered, dated, positive, hsent, valid⟩

/-- A newer frame, in a stage about which nothing need be known. -/
theorem take (hinv : Invariant options bridge) {generation : Nat} {frame : DisplayFrame}
    {next : Stage} (taken : bridge.slot.after 0 = some (generation, frame))
    (sent : ∀ other ∈ bridge.sent, other ≤ bridge.slot.generation)
    (valid : StageValid options bridge.slot { generation, frame } next) :
    Invariant options (bridge.goto { generation, frame } next) := by
  obtain ⟨rfl, positive, _⟩ := LatestFrameSlot.after_eq_some.mp taken
  exact ⟨hinv.filled, hinv.ordered, LatestFrameSlot.dated_of_after taken, positive, sent, valid⟩

/-- Sending starts with a frame that is not older than those sent before. -/
theorem startSending (hinv : Invariant options bridge)
    (dated : Dated bridge.slot held.generation held.frame) (positive : 0 < held.generation)
    (sent : ∀ generation ∈ bridge.sent, generation ≤ held.generation) {session : Session}
    (hbelief : MiFrameWriter.Belief session) :
    Invariant options (bridge.startSending options held session) := by
  unfold Bridge.startSending
  split
  next physical transformed =>
    refine ⟨hinv.filled, ?_, dated, positive, ?_, hbelief, transformed⟩
    · show (bridge.sent ++ [held.generation]).Pairwise (· ≤ ·)
      rw [List.pairwise_append]
      refine ⟨hinv.ordered, List.pairwise_singleton _ _, ?_⟩
      intro generation member last only
      rw [List.mem_singleton.mp only]
      exact sent generation member
    · intro generation member
      cases List.mem_append.mp member with
      | inl before => exact sent generation before
      | inr last => exact Nat.le_of_eq (List.mem_singleton.mp last)
  next => exact ⟨hinv.filled, hinv.ordered, dated, positive, sent, True.intro⟩

/-- So does the end of a sending, however it ends. -/
theorem finishSending (hinv : Invariant options bridge) (radio : Radio) {session : Session}
    {physical : Pixels} (phase : bridge.phase = .running held (.sending session physical)) :
    Invariant options (bridge.finishSending radio held session physical) := by
  obtain ⟨_, _, _, hbelief, transformed⟩ := hinv.held_valid phase
  have hspec := MiFrameWriter.sendFrame_spec radio hbelief (request physical)
  unfold Bridge.finishSending
  split
  next writes next sent =>
    rw [sent] at hspec
    obtain ⟨frame, hrequest, hpanel⟩ := hspec.2 writes rfl
    have same : physical = frame := Except.ok.inj ((MiFrameWriter.validate_request physical).symm.trans
      (hrequest ▸ MiFrameWriter.validate_request frame))
    refine hinv.goto phase ⟨⟨hspec.1, ?_⟩, True.intro⟩
    rw [transformed, same, ← hpanel]
  next => exact hinv.goto phase True.intro

/-- So does the end of a wait. -/
theorem finishWaiting (hinv : Invariant options bridge) {session : Session} {task : Waiter}
    {disconnected : Bool}
    (phase : bridge.phase = .running held (.gathering session task disconnected)) :
    Invariant options (bridge.finishWaiting options held session task disconnected) := by
  obtain ⟨_, positive, hsent, shown, htask⟩ := hinv.held_valid phase
  unfold Bridge.finishWaiting
  split
  next generation frame =>
    obtain ⟨newer, dated⟩ := htask generation frame rfl
    apply hinv.startSending dated (Nat.lt_trans positive newer) _ shown.1
    exact fun other member => Nat.le_trans (hsent other member) (Nat.le_of_lt newer)
  next => exact hinv.goto phase True.intro

/-- So does every step. -/
theorem step {next : Bridge} (hinv : Invariant options bridge)
    (hstep : Step options bridge next) : Invariant options next := by
  cases hstep with
  | put frame => exact hinv.put frame
  | disconnect => exact ⟨hinv.filled, hinv.ordered, hinv.phase⟩
  | firstBlocks waiter phase runnable empty =>
      have valid := hinv.phase
      rw [phase] at valid
      refine ⟨hinv.filled, hinv.ordered, valid.1, fun _ => ?_⟩
      by_contra some
      obtain ⟨frame, hframe⟩ :=
        Option.ne_none_iff_exists'.mp (hinv.filled (Nat.pos_of_ne_zero some))
      rw [LatestFrameSlot.after_eq_some.mpr ⟨rfl, Nat.pos_of_ne_zero some, hframe⟩] at empty
      cases empty
  | firstFrame waiter phase runnable generation frame taken =>
      have valid := hinv.phase
      rw [phase] at valid
      apply hinv.take taken
      · intro other member
        rw [valid.1] at member
        cases member
      · exact True.intro
  | connect held phase session fresh =>
      obtain ⟨dated, positive, hsent, _⟩ := hinv.held_valid phase
      have up : Invariant options { bridge with up := true } :=
        ⟨hinv.filled, hinv.ordered, hinv.phase⟩
      apply up.startSending dated positive hsent
      intro pixels hlast
      rw [fresh.2] at hlast
      cases hlast
  | connectFails held phase connected => exact hinv.goto phase True.intro
  | send held session physical phase radio => exact hinv.finishSending radio phase
  | frameTask held session task disconnected phase runnable =>
      obtain ⟨_, _, _, shown, _⟩ := hinv.held_valid phase
      exact hinv.goto phase ⟨shown, TaskValid.run bridge.slot held hinv.filled⟩
  | disconnectedTask held session task disconnected phase down =>
      obtain ⟨_, _, _, valid⟩ := hinv.held_valid phase
      exact hinv.goto phase valid
  | firstCompleted held session task disconnected phase completed =>
      obtain ⟨_, _, _, shown, htask⟩ := hinv.held_valid phase
      refine hinv.goto phase ⟨shown, ?_⟩
      rintro generation frame rfl
      exact htask
  | gathered held session task disconnected phase => exact hinv.finishWaiting phase
  | retry held connected phase generation frame taken =>
      obtain ⟨dated, _, hsent, _⟩ := hinv.held_valid phase
      apply hinv.take taken
      · exact fun other member => Nat.le_trans (hsent other member) dated.le
      · split <;> exact True.intro
  | closed held phase => exact hinv.goto phase True.intro

end Invariant

/-- Nothing put yet, and the output task about to ask for the first frame. -/
def Initial (bridge : Bridge) : Prop := bridge = {}

/-- The invariant holds in every run. -/
theorem invariant_of_reachable {options : TransformOptions} {bridge : Bridge}
    (reachable : Transition.Reachable Initial (Step options) bridge) :
    Invariant options bridge := by
  apply reachable.induction
  · rintro start rfl
    exact ⟨fun positive => absurd positive (Nat.lt_irrefl 0), List.Pairwise.nil, rfl,
      fun impossible => nomatch impossible⟩
  · exact fun _ _ _ hinv hstep => hinv.step hstep

/-- The frame and the connection of the output task while it is suspended in
`_wait_for_frame_or_disconnect`. -/
def Bridge.suspended (bridge : Bridge) : Option (Held × Session) :=
  match bridge.phase with
  | .running held (.waiting session _ _) => some (held, session)
  | .running held (.gathering session _ _) => some (held, session)
  | _ => none

/-- The wait ends as soon as the event loop gets to it: its frame task can run and
then has the slot's newest frame, or one of the two tasks has completed. -/
def Bridge.waitEnabled (bridge : Bridge) : Prop :=
  match bridge.phase with
  | .running held (.waiting _ task _) =>
      (task.runnable = true ∧ ∃ frame, bridge.slot.frame = some frame ∧
        Waiter.run bridge.slot held.generation = .done bridge.slot.generation frame) ∨
      ∃ generation frame, task = .done generation frame
  | .running _ (.gathering _ _ _) => True
  | _ => False

/-- A bridge that waits has shown the frame it holds. -/
theorem shown_of_suspended {options : TransformOptions} {bridge : Bridge} {held : Held}
    {session : Session} (hinv : Invariant options bridge)
    (suspended : bridge.suspended = some (held, session)) :
    Dated bridge.slot held.generation held.frame ∧ Shown options held session := by
  have valid := hinv.phase
  unfold Bridge.suspended at suspended
  split at suspended
  next phase =>
    cases suspended
    rw [phase] at valid
    exact ⟨valid.1, valid.2.2.2.1⟩
  next phase =>
    cases suspended
    rw [phase] at valid
    exact ⟨valid.1, valid.2.2.2.1⟩
  next => cases suspended

/-- A newer frame in the slot enables the wait. -/
theorem waitEnabled_of_newer {options : TransformOptions} {bridge : Bridge} {held : Held}
    {session : Session} (hinv : Invariant options bridge)
    (suspended : bridge.suspended = some (held, session))
    (newer : held.generation < bridge.slot.generation) : bridge.waitEnabled := by
  have valid := hinv.phase
  unfold Bridge.suspended at suspended
  unfold Bridge.waitEnabled
  split at suspended
  next task _ phase =>
    cases suspended
    rw [phase] at valid
    obtain ⟨frame, hframe⟩ := Option.ne_none_iff_exists'.mp (hinv.filled (by omega))
    have hrun : Waiter.run bridge.slot held.generation = .done bridge.slot.generation frame := by
      rw [Waiter.run, LatestFrameSlot.after_eq_some.mpr ⟨rfl, newer, hframe⟩]
    cases task with
    | done generation taken => exact Or.inr ⟨generation, taken, rfl⟩
    | blocked => exact absurd valid.2.2.2.2 (Nat.not_le.mpr newer)
    | created => exact Or.inl ⟨rfl, frame, hframe, hrun⟩
    | notified => exact Or.inl ⟨rfl, frame, hframe, hrun⟩
  next => exact True.intro
  next => cases suspended

/-- Once it has held a frame, the output task never waits for one after an error. -/
theorem retry_ready {options : TransformOptions} {bridge : Bridge} {held : Held} {stage : Stage}
    (hinv : Invariant options bridge) (phase : bridge.phase = .running held stage) :
    ∃ frame, bridge.slot.after 0 = some (bridge.slot.generation, frame) := by
  obtain ⟨dated, positive, _⟩ := hinv.held_valid phase
  have filled := Nat.lt_of_lt_of_le positive dated.le
  obtain ⟨frame, hframe⟩ := Option.ne_none_iff_exists'.mp (hinv.filled filled)
  exact ⟨frame, LatestFrameSlot.after_eq_some.mpr ⟨rfl, filled, hframe⟩⟩

/-- In every interleaving: a put counts exactly when it brings other pixels, the
generations sent never decrease, a display that waits with the newest generation
shows the newest frame, and a newer frame always ends the wait. -/
theorem newest_frame_kept (options : TransformOptions) {bridge : Bridge}
    (reachable : Transition.Reachable Initial (Step options) bridge) :
    (∀ frame,
        ((bridge.slot.put frame).generation = bridge.slot.generation + 1 ↔
          bridge.slot.frame = none ∨
            ∃ current, bridge.slot.frame = some current ∧ current.pixels ≠ frame.pixels) ∧
        ((bridge.slot.put frame).generation = bridge.slot.generation ∨
          (bridge.slot.put frame).generation = bridge.slot.generation + 1) ∧
        ∃ current, (bridge.slot.put frame).frame = some current ∧
          current.pixels = frame.pixels) ∧
      bridge.sent.Pairwise (· ≤ ·) ∧
      ∀ held session, bridge.suspended = some (held, session) →
        (held.generation = bridge.slot.generation → bridge.up = true →
          ∃ frame, bridge.slot.frame = some frame ∧
            transformFrame options frame.pixels = .ok session.panel) ∧
        (held.generation < bridge.slot.generation → bridge.waitEnabled) := by
  have hinv := invariant_of_reachable reachable
  refine ⟨fun frame => ⟨?_, ?_, ?_⟩, hinv.ordered, fun held session suspended => ⟨?_, ?_⟩⟩
  · rw [← LatestFrameSlot.not_shows_iff, LatestFrameSlot.put_generation]
    split
    next shows =>
      exact iff_of_false (Nat.ne_of_lt (Nat.lt_succ_self _)) (not_not.mpr shows)
    next fresh => exact iff_of_true rfl fresh
  · rw [LatestFrameSlot.put_generation]
    split
    · exact Or.inl rfl
    · exact Or.inr rfl
  · exact LatestFrameSlot.shows_iff.mp (bridge.slot.put_shows frame)
  · intro newest _
    obtain ⟨dated, shown⟩ := shown_of_suspended hinv suspended
    exact ⟨held.frame, dated.same newest, shown.2⟩
  · exact waitEnabled_of_newer hinv suspended

/-- A connection over which everything arrives. -/
def clear : Radio where
  delivery _ := .arrived
  content _ := Vector.replicate pixelCount {}

def whiteFrame : DisplayFrame where
  sequence := 1
  pixels := List.replicate pixelCount { r := 255, g := 255, b := 255 }

def freshSession : Session := { writer := {}, panel := Vector.replicate pixelCount {} }

/-- The white frame has been put and is being sent over a new connection. -/
def connected : Bridge :=
  let taken := (({} : Bridge).put whiteFrame).goto ⟨1, whiteFrame⟩ .connecting
  { taken with up := true }.startSending {} ⟨1, whiteFrame⟩ freshSession

theorem reachable_connected : Transition.Reachable Initial (Step {}) connected := by
  have start : Transition.Reachable Initial (Step {}) {} := .of_initial rfl
  have taken := (start.tail (.put {} whiteFrame)).tail
    (.firstFrame _ .created rfl rfl 1 whiteFrame rfl)
  exact taken.tail (.connect _ ⟨1, whiteFrame⟩ rfl freshSession ⟨rfl, rfl⟩)

/-- After a send the bridge waits, and the display shows the white frame. -/
theorem newest_frame_kept_displayed :
    ∃ displayed held session, Transition.Reachable Initial (Step {}) displayed ∧
      displayed.suspended = some (held, session) ∧
      ∃ frame, displayed.slot.frame = some frame ∧
        transformFrame {} frame.pixels = .ok session.panel := by
  have sized : whiteFrame.pixels.length = pixelCount := List.length_replicate
  have ordered : validateColorOrder (pyText "RGB") = .ok (pyText "RGB") := by decide
  obtain ⟨physical, transformed⟩ :=
    @transformFrame_of_valid {} _ _ sized (by decide) ordered
  have hconnected : connected = { ({} : Bridge).put whiteFrame with
      phase := .running ⟨1, whiteFrame⟩ (.sending freshSession physical)
      up := true
      sent := [1] } := by
    simp only [connected, Bridge.startSending, transformed]
    rfl
  have accepts : ¬ MiFrameWriter.Rejects freshSession.writer (request physical) :=
    not_or.mpr ⟨fun invalid => invalid physical rfl, fun trips => nomatch trips.2⟩
  obtain ⟨writes, session, sent⟩ :=
    MiFrameWriter.sendFrame_of_arriving (fun attempt _ => (rfl : clear.delivery attempt = _))
      accepts
  have reachable := (hconnected ▸ reachable_connected).tail
    (.send _ ⟨1, whiteFrame⟩ freshSession physical rfl clear)
  rw [Bridge.finishSending, sent] at reachable
  exact ⟨_, _, _, reachable, rfl, ((newest_frame_kept {} reachable).2.2 _ _ rfl).1 rfl rfl⟩

end PixelStatus.MiBle
