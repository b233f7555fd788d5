/-
# Entity tags across server runs

One frame source polls an address at which display servers come and go. A fetch
is two atomic steps, the server's answer and its receipt; frames are submitted
and servers stopped and restarted in between.

A stamp names a served frame: the server run and the number of frames submitted
in it before. The server's tag keeps only the second half, modulo the counter's
width, so a tag that the source remembers may match another stamp. Stamps are
kept for the statements only; no program sees them.
-/

import PixelStatus.Logic.Transition
import PixelStatus.Tools.MiBle.FrameSource

namespace PixelStatus.MiBle.EtagCoherence

open HttpDisplayDriver

/-- A served frame: the run of the server, and the submissions accepted in it. -/
structure Stamp where
  run : Nat := 0
  submissions : Nat := 0
  deriving DecidableEq

namespace Stamp

/-- The tag of the frame with this stamp. -/
def etag (stamp : Stamp) : Bytes := etagOf (UInt64.ofNat stamp.submissions)

/-- The stamp of the frame submitted next. -/
def submitted (stamp : Stamp) : Stamp := { stamp with submissions := stamp.submissions + 1 }

/-- The stamp of the first frame of the next server run. -/
def restarted (stamp : Stamp) : Stamp := { run := stamp.run + 1 }

/-- The order in which stamps are given out. -/
def Before (first second : Stamp) : Prop :=
  first.run < second.run ∨ first.run = second.run ∧ first.submissions < second.submissions

end Stamp

/-- The server, the polling source and the exchange between them. -/
structure System where
  server : HttpDisplayDriver
  stamp : Stamp := {}
  source : HttpFrameSource := {}
  /-- The answer on its way, with the stamp it was given under. -/
  exchange : Option (DisplayResponse × Stamp) := none
  /-- The frame that the source returned last. -/
  last : Option DisplayFrame := none
  /-- The stamp under which the remembered tag was issued. -/
  issued : Option Stamp := none

namespace System

/-- What the server would answer to the source's next request. -/
def answer (system : System) : DisplayResponse :=
  (system.server.display system.source.ifNoneMatch).1

/-- A new frame keeps the invariant. -/
def submit (system : System) (frame : Frame) : System :=
  match system.server.submitFrame frame with
  | (.unavailable, server) => { system with server }
  | (_, server) => { system with server, stamp := system.stamp.submitted }

/-- So does another run of the server. -/
def restart (system : System) (server : HttpDisplayDriver) : System :=
  { system with server, stamp := system.stamp.restarted }

/-- The server answers the fetch. -/
def respond (system : System) : System :=
  { system with
    server := (system.server.display system.source.ifNoneMatch).2
    exchange := some (system.answer, system.stamp) }

/-- So does a response that arrives. -/
def receive (system : System) (response : DisplayResponse) (stamp : Stamp) : System :=
  match system.source.receive response with
  | (.ok (some frame), source) =>
      { system with source, exchange := none, last := some frame, issued := some stamp }
  | (_, source) => { system with source, exchange := none }

end System

/-- One atomic step of the server, the source or the connection between them. -/
inductive Step : System → System → Prop
  | submit (system : System) (frame : Frame) : Step system (system.submit frame)
  | restart (system : System) (width height : Nat) (options : HttpDisplayOptions) :
      Step system (system.restart (create width height options))
  | begin (system : System) (bound : Int) :
      Step system { system with server := (system.server.begin bound).2 }
  | ended (system : System) (completedNormally : Bool) :
      Step system { system with server := system.server.ended completedNormally }
  | stop (system : System) (completedNormally : Bool) :
      Step system { system with server := system.server.stop completedNormally }
  | respond (system : System) (idle : system.exchange = none) : Step system system.respond
  | receive (system : System) (response : DisplayResponse) (stamp : Stamp)
      (pending : system.exchange = some (response, stamp)) :
      Step system (system.receive response stamp)
  | lose (system : System) : Step system { system with exchange := none }

/-- A first server, and a source that has fetched nothing. -/
def Initial (system : System) : Prop :=
  ∃ width height options, system = { server := create width height options }

/-- A fetch answered now yields nothing new. -/
def YieldsNone (system : System) : Prop :=
  system.exchange = none ∧ (system.source.receive system.answer).1 = .ok none

/-- Whenever a fetch yields nothing new, the source last returned what is served. -/
def Coherent (system : System) : Prop :=
  YieldsNone system →
    ∃ frame, system.last = some frame ∧ frame.pixels = system.server.latestFrame.pixels

/-- The number in the remembered tag names the frame it was issued for, or another
one: then it is the black frame of a new server of the panel's size, as before. -/
def TagCurrent (system : System) : Prop :=
  ∀ stamp, system.issued = some stamp →
    UInt64.ofNat stamp.submissions = system.server.sequence →
    stamp = system.stamp ∨
      stamp.submissions = 0 ∧ system.stamp.submissions = 0 ∧
        system.server.width = panelWidth ∧ system.server.height = panelHeight

/-- What is known of pixels that were served under a stamp. -/
structure Served (current : Stamp) (newest : List Rgb) (stamp : Stamp) (pixels : List Rgb) :
    Prop where
  issued : stamp = current ∨ stamp.Before current
  shown : stamp = current → pixels = newest
  black : stamp.submissions = 0 → ∀ color ∈ pixels, color = {}

/-- Later frames leave what was served before as it was. -/
theorem Served.later {current next stamp : Stamp} {newest latest pixels : List Rgb}
    (served : Served current newest stamp pixels) (hbefore : current.Before next) :
    Served next latest stamp pixels := by
  have earlier : stamp.Before next := by
    cases served.issued with
    | inl same => exact same ▸ hbefore
    | inr earlier =>
        simp only [Stamp.Before] at *
        omega
  refine ⟨Or.inr earlier, fun same => ?_, served.black⟩
  subst same
  simp only [Stamp.Before] at earlier
  omega

/-- What relates the remembered tag and frame to the stamps of the server. -/
structure Invariant (system : System) : Prop where
  counted : system.server.sequence = UInt64.ofNat system.stamp.submissions
  serialized : system.server.serializedFrame
    = serializeFrame system.server.latestFrame system.server.sequence
        system.server.options.defaultRefreshInterval
  dimensions : system.server.latestFrame.width = system.server.width ∧
    system.server.latestFrame.height = system.server.height
  blank : system.stamp.submissions = 0 → ∀ color ∈ system.server.latestFrame.pixels, color = {}
  tagged : system.source.etag = system.issued.map Stamp.etag
  remembered : ∀ stamp, system.issued = some stamp →
    ∃ frame, system.last = some frame ∧ frame.pixels.length = pixelCount ∧
      Served system.stamp system.server.latestFrame.pixels stamp frame.pixels
  answered : ∀ response stamp, system.exchange = some (response, stamp) →
    response.etag = stamp.etag ∧
      ∀ document, response.body = some document →
        ∃ frame sequence interval, document = serializeFrame frame sequence interval ∧
          Served system.stamp system.server.latestFrame.pixels stamp frame.pixels

/-- The parts of the server that the invariant speaks about. -/
def SameDisplay (server other : HttpDisplayDriver) : Prop :=
  other.width = server.width ∧ other.height = server.height ∧
    other.options = server.options ∧ other.latestFrame = server.latestFrame ∧
    other.serializedFrame = server.serializedFrame ∧ other.sequence = server.sequence

/-- Accepting a connection leaves the shown frame alone. -/
theorem sameDisplay_begin (server : HttpDisplayDriver) (bound : Int) :
    SameDisplay server (server.begin bound).2 := by
  unfold begin
  split_ifs <;> exact ⟨rfl, rfl, rfl, rfl, rfl, rfl⟩

/-- So does its end. -/
theorem sameDisplay_ended (server : HttpDisplayDriver) (completedNormally : Bool) :
    SameDisplay server (server.ended completedNormally) := by
  simp only [ended]
  split <;> exact ⟨rfl, rfl, rfl, rfl, rfl, rfl⟩

/-- So does stopping the server. -/
theorem sameDisplay_stop (server : HttpDisplayDriver) (completedNormally : Bool) :
    SameDisplay server (server.stop completedNormally) := by
  have joined := sameDisplay_ended { server with stopRequested := true } completedNormally
  simp only [HttpDisplayDriver.stop]
  split <;> exact joined

/-- So does answering a fetch. -/
theorem sameDisplay_display (server : HttpDisplayDriver) (ifNoneMatch : Bytes) :
    SameDisplay server (server.display ifNoneMatch).2 := by
  simp only [HttpDisplayDriver.display]
  split <;> exact ⟨rfl, rfl, rfl, rfl, rfl, rfl⟩

/-- Either answer carries the tag of the newest frame; a body is that frame. -/
theorem display_spec (server : HttpDisplayDriver) (ifNoneMatch : Bytes) :
    (server.display ifNoneMatch).1.etag = server.etag ∧
      ∀ document, (server.display ifNoneMatch).1.body = some document →
        document = server.serializedFrame := by
  simp only [HttpDisplayDriver.display]
  split
  · exact ⟨rfl, fun document body => by cases body⟩
  · exact ⟨rfl, fun document body => (Option.some.inj body).symm⟩

namespace Invariant

variable {system : System}

/-- A step that keeps the display keeps the invariant. -/
theorem withServer (hinv : Invariant system) {server : HttpDisplayDriver}
    (same : SameDisplay system.server server) : Invariant { system with server } := by
  obtain ⟨hwidth, hheight, hoptions, hframe, hserialized, hsequence⟩ := same
  constructor
  case counted => exact hsequence.trans hinv.counted
  case serialized =>
    show server.serializedFrame = _
    rw [hserialized, hframe, hsequence, hoptions]
    exact hinv.serialized
  case dimensions =>
    show server.latestFrame.width = server.width ∧ server.latestFrame.height = server.height
    rw [hframe, hwidth, hheight]
    exact hinv.dimensions
  case blank =>
    show _ → ∀ color ∈ server.latestFrame.pixels, _
    rw [hframe]
    exact hinv.blank
  case tagged => exact hinv.tagged
  case remembered =>
    show ∀ stamp, _ → ∃ frame, _ ∧ _ ∧ Served _ server.latestFrame.pixels _ _
    rw [hframe]
    exact hinv.remembered
  case answered =>
    show ∀ response stamp, _ → _ ∧ ∀ document, _ → ∃ frame sequence interval, _ ∧
      Served _ server.latestFrame.pixels _ _
    rw [hframe]
    exact hinv.answered

/-- A new frame under a later stamp leaves what the source holds as it was. -/
theorem advance (hinv : Invariant system) {server : HttpDisplayDriver} {stamp : Stamp}
    (hlater : system.stamp.Before stamp)
    (hcounted : server.sequence = UInt64.ofNat stamp.submissions)
    (hserialized : server.serializedFrame
      = serializeFrame server.latestFrame server.sequence server.options.defaultRefreshInterval)
    (hdimensions : server.latestFrame.width = server.width ∧
      server.latestFrame.height = server.height)
    (hblank : stamp.submissions = 0 → ∀ color ∈ server.latestFrame.pixels, color = {}) :
    Invariant { system with server, stamp } := by
  constructor
  case counted => exact hcounted
  case serialized => exact hserialized
  case dimensions => exact hdimensions
  case blank => exact hblank
  case tagged => exact hinv.tagged
  case remembered =>
    intro other hissued
    obtain ⟨frame, hlast, hlength, hserved⟩ := hinv.remembered other hissued
    exact ⟨frame, hlast, hlength, hserved.later hlater⟩
  case answered =>
    intro response other pending
    obtain ⟨htag, hbody⟩ := hinv.answered response other pending
    refine ⟨htag, fun document body => ?_⟩
    obtain ⟨frame, sequence, interval, hdocument, hserved⟩ := hbody document body
    exact ⟨frame, sequence, interval, hdocument, hserved.later hlater⟩

theorem submit (hinv : Invariant system) (frame : Frame) : Invariant (system.submit frame) := by
  unfold System.submit submitFrame
  split_ifs with unavailable pending
  · exact hinv.withServer ⟨rfl, rfl, rfl, rfl, rfl, rfl⟩
  all_goals
    have accepted : frame.width = system.server.width ∧ frame.height = system.server.height := by
      simpa using (not_or.mp unavailable).2
    apply hinv.advance
    · exact Or.inr ⟨rfl, Nat.lt_succ_self _⟩
    · show system.server.sequence + 1 = UInt64.ofNat (system.stamp.submissions + 1)
      rw [hinv.counted, UInt64.ofNat_add]
      rfl
    · rfl
    · exact accepted
    · intro zero
      cases zero

theorem restart (hinv : Invariant system) (width height : Nat) (options : HttpDisplayOptions) :
    Invariant (system.restart (create width height options)) := by
  apply hinv.advance
  · exact Or.inl (Nat.lt_succ_self _)
  · rfl
  · rfl
  · exact ⟨rfl, rfl⟩
  · intro _ color member
    exact List.eq_of_mem_replicate member

/-- The answer speaks about the frame that is newest when it is given. -/
theorem respond (hinv : Invariant system) : Invariant system.respond := by
  have kept := hinv.withServer (sameDisplay_display system.server system.source.ifNoneMatch)
  obtain ⟨htag, hbody⟩ := display_spec system.server system.source.ifNoneMatch
  have hframe := (sameDisplay_display system.server system.source.ifNoneMatch).2.2.2.1
  refine { kept with answered := ?_ }
  intro response stamp pending
  cases pending
  refine ⟨?_, ?_⟩
  · show (system.server.display _).1.etag = _
    rw [htag, HttpDisplayDriver.etag, hinv.counted]
    rfl
  · intro document body
    refine ⟨system.server.latestFrame, _, _, (hbody document body).trans hinv.serialized, ?_⟩
    refine ⟨Or.inl rfl, fun _ => ?_, hinv.blank⟩
    show _ = (system.server.display _).2.latestFrame.pixels
    rw [hframe]

/-- So does a response that is lost. -/
theorem lose (hinv : Invariant system) : Invariant { system with exchange := none } :=
  { hinv with answered := fun _ _ pending => by cases pending }

theorem receive (hinv : Invariant system) {response : DisplayResponse} {stamp : Stamp}
    (pending : system.exchange = some (response, stamp)) :
    Invariant (system.receive response stamp) := by
  obtain ⟨htag, hbody⟩ := hinv.answered response stamp pending
  cases HttpFrameSource.receive_cases system.source response with
  | inl returned =>
      obtain ⟨read, document, body, parsed, received⟩ := returned
      obtain ⟨frame, sequence, interval, rfl, hserved⟩ := hbody document body
      obtain ⟨wide, high, hpixels⟩ := served_of_parseDisplayDocument parsed
      have hlength : read.pixels.length = pixelCount := by
        rw [hpixels, frame.sized, wide, high, pixelCount]
      unfold System.receive
      rw [received]
      refine { hinv.lose with tagged := ?_, remembered := ?_, answered := ?_ }
      · exact congrArg some htag
      · intro other hissued
        cases hissued
        exact ⟨read, rfl, hlength, hpixels ▸ hserved⟩
      · intro _ _ impossible
        cases impossible
  | inr unchanged =>
      have hreceive : system.receive response stamp = { system with exchange := none } := by
        obtain ⟨hsource, hnone⟩ := unchanged
        unfold System.receive
        split
        next frame source received =>
          exact absurd (congrArg Prod.fst received) (hnone frame)
        next source _ received =>
          rw [show source = system.source from (congrArg Prod.snd received).symm.trans hsource]
      rw [hreceive]
      exact hinv.lose

/-- So does every step. -/
theorem step {next : System} (hinv : Invariant system) (hstep : Step system next) :
    Invariant next := by
  cases hstep with
  | submit frame => exact hinv.submit frame
  | restart width height options => exact hinv.restart width height options
  | begin bound => exact hinv.withServer (sameDisplay_begin system.server bound)
  | ended completedNormally =>
      exact hinv.withServer (sameDisplay_ended system.server completedNormally)
  | stop completedNormally =>
      exact hinv.withServer (sameDisplay_stop system.server completedNormally)
  | respond idle => exact hinv.respond
  | receive response stamp pending => exact hinv.receive pending
  | lose => exact hinv.lose

/-- The invariant holds before the first fetch. -/
theorem initial (hinitial : Initial system) : Invariant system := by
  obtain ⟨width, height, options, rfl⟩ := hinitial
  constructor
  case counted => rfl
  case serialized => rfl
  case dimensions => exact ⟨rfl, rfl⟩
  case blank =>
    intro _ color member
    exact List.eq_of_mem_replicate member
  case tagged => rfl
  case remembered =>
    intro _ impossible
    cases impossible
  case answered =>
    intro _ _ impossible
    cases impossible

end Invariant

/-- It holds in every run. -/
theorem invariant_of_reachable {system : System}
    (reachable : Transition.Reachable Initial Step system) : Invariant system :=
  reachable.induction (fun _ hinitial => Invariant.initial hinitial)
    fun _ _ _ hinv hstep => hinv.step hstep

/-- A fetch yields nothing new only if the remembered tag has the served number. -/
theorem issued_of_yieldsNone {system : System} (hinv : Invariant system)
    (yields : YieldsNone system) :
    ∃ stamp, system.issued = some stamp ∧
      UInt64.ofNat stamp.submissions = system.server.sequence := by
  have status : system.answer.status = 304 := HttpFrameSource.status_of_receive_none yields.2
  have matching : system.source.ifNoneMatch = system.server.etag := by
    by_contra different
    rw [System.answer, HttpDisplayDriver.display, if_neg different] at status
    cases status
  rw [HttpFrameSource.ifNoneMatch, hinv.tagged] at matching
  cases hissued : system.issued with
  | none =>
      rw [hissued] at matching
      exact absurd matching.symm (etagOf_ne_nil _)
  | some stamp =>
      rw [hissued] at matching
      exact ⟨stamp, rfl, etagOf_injective matching⟩

/-- Where the number names another frame, the next fetch is told that nothing is new. -/
theorem yieldsNone_of_not_tagCurrent {system : System}
    (reachable : Transition.Reachable Initial Step system) (idle : system.exchange = none)
    (stale : ¬ TagCurrent system) :
    YieldsNone system ∧ ∃ stamp, system.issued = some stamp ∧ stamp ≠ system.stamp := by
  have hinv := invariant_of_reachable reachable
  simp only [TagCurrent, not_forall, not_or] at stale
  obtain ⟨stamp, hissued, hnumber, hother, -⟩ := stale
  have matching : system.source.ifNoneMatch = system.server.etag := by
    rw [HttpFrameSource.ifNoneMatch, hinv.tagged, hissued]
    exact congrArg etagOf hnumber
  have hanswer : system.answer = { status := 304, etag := system.server.etag, body := none } := by
    rw [System.answer, HttpDisplayDriver.display, if_pos matching]
  refine ⟨⟨idle, ?_⟩, stamp, hissued, hother⟩
  rw [hanswer]
  rfl

/-- Entity tags are coherent at every moment of every run at which the remembered
number still names the frame it was issued for. -/
theorem etag_coherence {system : System}
    (reachable : Transition.Reachable Initial Step system) (current : TagCurrent system) :
    Coherent system := by
  intro yields
  have hinv := invariant_of_reachable reachable
  obtain ⟨stamp, hissued, hnumber⟩ := issued_of_yieldsNone hinv yields
  obtain ⟨frame, hlast, hlength, hserved⟩ := hinv.remembered stamp hissued
  refine ⟨frame, hlast, ?_⟩
  cases current stamp hissued hnumber with
  | inl same => exact hserved.shown same
  | inr fresh =>
      -- Both frames are black and have the panel's size.
      obtain ⟨hzero, hnew, hwidth, hheight⟩ := fresh
      have hsize : system.server.latestFrame.pixels.length = pixelCount := by
        rw [Frame.sized, hinv.dimensions.1, hinv.dimensions.2, hwidth, hheight, pixelCount]
      rw [List.eq_replicate_of_mem (hserved.black hzero),
        List.eq_replicate_of_mem (hinv.blank hnew), hlength, hsize]

/-- One undisturbed fetch. -/
def System.fetch (system : System) : System :=
  system.respond.receive system.answer system.stamp

/-- A fetch may follow wherever none is in flight. -/
theorem reachable_fetch {system : System}
    (reachable : Transition.Reachable Initial Step system) (idle : system.exchange = none) :
    Transition.Reachable Initial Step system.fetch :=
  (reachable.tail (.respond system idle)).tail (.receive system.respond _ _ rfl)

/-- A server of the panel's size that has begun. -/
def started : System :=
  { server := ((create panelWidth panelHeight {}).begin 8788).2 }

def redFrame : Frame := Frame.create panelWidth panelHeight { r := 255 }

def blueFrame : Frame := Frame.create panelWidth panelHeight { b := 255 }

/-- The source has fetched the first frame of the first server run. -/
def polled : System := (started.submit redFrame).fetch

/-- The server was restarted since, and shows the first frame of its second run. -/
def restarted : System :=
  let restarted := polled.restart (create panelWidth panelHeight {})
  System.submit { restarted with server := (restarted.server.begin 8788).2 } blueFrame

theorem reachable_started : Transition.Reachable Initial Step started :=
  (Transition.Reachable.of_initial ⟨panelWidth, panelHeight, {}, rfl⟩).tail (.begin _ 8788)

theorem reachable_polled : Transition.Reachable Initial Step polled :=
  reachable_fetch (reachable_started.tail (.submit started redFrame)) (by decide +kernel)

theorem reachable_restarted : Transition.Reachable Initial Step restarted :=
  ((reachable_polled.tail (.restart polled panelWidth panelHeight {})).tail
    (.begin _ 8788)).tail (.submit _ blueFrame)

theorem etag_coherence_polled :
    ∃ frame, polled.last = some frame ∧ frame.pixels = polled.server.latestFrame.pixels :=
  etag_coherence reachable_polled
    (fun stamp issued _ => Or.inl (Option.some.inj (issued.symm.trans
      (by decide +kernel : polled.issued = some polled.stamp))))
    (by unfold YieldsNone; decide +kernel)

/-- After the restart the source is told that the red frame is still current. -/
theorem etag_incoherent_restarted :
    ¬ ∀ system, Transition.Reachable Initial Step system → Coherent system := by
  intro coherent
  have yields : YieldsNone restarted := by
    unfold YieldsNone
    decide +kernel
  obtain ⟨frame, hlast, hpixels⟩ := coherent restarted reachable_restarted yields
  have red : restarted.last = some { sequence := 1, pixels := redFrame.pixels } := by
    decide +kernel
  rw [red] at hlast
  cases hlast
  revert hpixels
  decide +kernel

end PixelStatus.MiBle.EtagCoherence
