/-
# What the browser display counts

The driver counts the frames it takes, and as coalesced those that a later frame
replaced before any client had asked for them. The counts are those of its
history, which the driver itself does not keep.
-/

import PixelStatus.Host.HttpDisplayDriver

namespace PixelStatus

/-- A frame that the driver took, and whether a client has asked for it since. -/
structure TakenFrame where
  frame : Frame
  fetched : Bool := false

/-- A client has asked for the newest frame. -/
def fetchNewest : List TakenFrame → List TakenFrame
  | [] => []
  | newest :: earlier => { newest with fetched := true } :: earlier

namespace HttpDisplayDriver

/-- What a driver of a size knows of the frames that it took, the newest first. -/
structure Counts (width height : Nat) (frames : List TakenFrame) (driver : HttpDisplayDriver) :
    Prop where
  width : driver.width = width
  height : driver.height = height
  sequence : driver.sequence = UInt64.ofNat frames.length
  submitted : driver.driverState.submittedFrames = UInt64.ofNat frames.length
  coalesced : driver.driverState.coalescedFrames =
    UInt64.ofNat (frames.tail.countP fun taken => !taken.fetched)
  pending : driver.framePending = frames.head?.any fun taken => !taken.fetched
  latest : ∀ newest ∈ frames.head?, driver.latestFrame = newest.frame ∧
    driver.serializedFrame =
      serializeFrame newest.frame driver.sequence driver.options.defaultRefreshInterval

variable {width height : Nat} {frames : List TakenFrame} {driver : HttpDisplayDriver} {frame : Frame}

/-- A new driver has counted nothing. -/
theorem counts_create (width height : Nat) (options : HttpDisplayOptions) :
    (create width height options).Counts width height [] where
  width := rfl
  height := rfl
  sequence := rfl
  submitted := rfl
  coalesced := rfl
  pending := rfl
  latest _ none := nomatch none

/-- Failing changes the connection and its explanation. -/
theorem Counts.failed (counts : driver.Counts width height frames) (detail : Bytes) :
    (driver.failed detail).Counts width height frames :=
  ⟨counts.1, counts.2, counts.3, counts.4, counts.5, counts.6, counts.7⟩

/-- Its listener's start counts nothing. -/
theorem Counts.begin (counts : driver.Counts width height frames) (bound : Int) :
    (driver.begin bound).2.Counts width height frames := by
  unfold HttpDisplayDriver.begin
  split
  · exact counts
  · split
    · exact counts.failed _
    · split
      · exact counts.failed _
      · split
        · exact counts.failed _
        · split
          · exact counts.failed _
          · exact ⟨counts.1, counts.2, counts.3, counts.4, counts.5, counts.6, counts.7⟩

/-- A fetch marks the newest frame. -/
theorem Counts.display (counts : driver.Counts width height frames) (ifNoneMatch : Bytes) :
    (driver.display ifNoneMatch).2.Counts width height (fetchNewest frames) := by
  have taken : HttpDisplayDriver.Counts width height (fetchNewest frames)
      { driver with framePending := false } := by
    cases frames with
    | nil => exact ⟨counts.1, counts.2, counts.3, counts.4, counts.5, rfl, counts.7⟩
    | cons newest earlier =>
        refine ⟨counts.1, counts.2, counts.3, counts.4, counts.5, rfl, ?_⟩
        intro other same
        obtain rfl := Option.mem_some_iff.mp same
        exact counts.latest newest rfl
  unfold HttpDisplayDriver.display
  dsimp only
  split <;> exact taken

/-- The listener's end counts nothing. -/
theorem Counts.ended (counts : driver.Counts width height frames) (completedNormally : Bool) :
    (driver.ended completedNormally).Counts width height frames := by
  unfold HttpDisplayDriver.ended
  dsimp only
  split
  · exact ⟨counts.1, counts.2, counts.3, counts.4, counts.5, counts.6, counts.7⟩
  · exact ⟨counts.1, counts.2, counts.3, counts.4, counts.5, counts.6, counts.7⟩

/-- A driver that serves takes every frame of its size. -/
theorem Counts.submitFrame (counts : driver.Counts width height frames)
    (running : driver.isRunning = true)
    (sized : frame.width = width ∧ frame.height = height) :
    (driver.submitFrame frame).2.Counts width height ({ frame } :: frames) := by
  have next : UInt64.ofNat (frames.length + 1) = UInt64.ofNat frames.length + 1 :=
    UInt64.ofNat_add _ _
  have ready : ¬ ((!driver.isRunning) = true ∨ frame.width ≠ driver.width ∨
      frame.height ≠ driver.height) := by
    rw [running, sized.1, sized.2, counts.width, counts.height]
    simp
  rw [HttpDisplayDriver.submitFrame, if_neg ready]
  refine ⟨counts.width, counts.height, ?_, ?_, ?_, rfl, ?_⟩
  · exact (congrArg (· + 1) counts.sequence).trans next.symm
  · exact (congrArg (· + 1) counts.submitted).trans next.symm
  · have pending := counts.pending
    cases frames with
    | nil =>
        rw [List.head?_nil, Option.any_none] at pending
        exact (if_neg (pending ▸ Bool.false_ne_true)).trans counts.coalesced
    | cons newest earlier =>
        rw [List.head?_cons, Option.any_some] at pending
        have more : (List.tail ({ frame } :: newest :: earlier)).countP (fun taken => !taken.fetched) =
            earlier.countP (fun taken => !taken.fetched) + if !newest.fetched then 1 else 0 :=
          List.countP_cons
        rw [more]
        dsimp only
        rw [pending]
        cases newest.fetched with
        | true => exact counts.coalesced
        | false => exact (congrArg (· + 1) counts.coalesced).trans (UInt64.ofNat_add _ _).symm
  · intro other same
    obtain rfl := Option.mem_some_iff.mp same
    exact ⟨rfl, rfl⟩

/-- A driver that has ended takes none. -/
theorem submitFrame_of_ended (stopped : driver.isRunning = false) :
    (driver.submitFrame frame).2 = driver := by
  rw [HttpDisplayDriver.submitFrame, if_pos (Or.inl (by rw [stopped]; rfl))]

end HttpDisplayDriver

end PixelStatus
