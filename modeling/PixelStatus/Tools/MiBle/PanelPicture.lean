/-
# From the display server to the panel

A frame passes the codec, the mailbox, the transform and the packets of the
writer. While the bridge waits, the panel shows the frame that it holds, moved
and reordered as the options say.
-/

import PixelStatus.Tools.MiBle.FrameCodec
import PixelStatus.Tools.MiBle.NewestFrame
import PixelStatus.Tools.MiBle.Orientation

namespace PixelStatus.MiBle

variable {options : TransformOptions} {bridge : Bridge} {held : Held} {session : Session}
  {loads : JsonLoads} {frame : Frame} {sequence : UInt64} {interval : Int64}

/-- The pixel of a frame of the panel's size. -/
theorem pixel_eq_sourceAt (wide : frame.width = panelWidth) (high : frame.height = panelHeight)
    (place : Place) :
    frame.pixel place.1 place.2 = some (sourceAt frame.pixels place) := by
  have sized : frame.pixels.length = pixelCount := by
    rw [frame.sized, wide, high, pixelCount]
  have inside : indexOf place < frame.pixels.length := (indexOf_lt place).trans_eq sized.symm
  rw [← getElem?_pixels wide high place.1.isLt place.2.isLt, sourceAt,
    List.getElem?_eq_getElem inside, Option.getD_some]
  exact List.getElem?_eq_getElem inside

/-- Whatever the interleaving, while the bridge waits with a frame that the server
has serialized, every pixel of that frame is on the panel: at the place where the
symmetry of the options moves it, with its channels in the order of the options. -/
theorem panel_shows_served (faithful : loads.RoundTrips) {order : Equiv.Perm (Fin 3)}
    (accepted : Accepted options order)
    (reachable : Transition.Reachable Initial (Step options) bridge)
    (suspended : bridge.suspended = some (held, session))
    (parsed : parsePayload loads (serializeFrame frame sequence interval.toInt).text =
      .ok held.frame) (place : Place) :
    ∃ color, frame.pixel place.1 place.2 = some color ∧
      pixelAtPlace session.panel (symmetryOf options • place) = permute order color := by
  obtain ⟨wide, high, same⟩ := served_of_parsePayload faithful parsed
  have sized : held.frame.pixels.length = pixelCount := by
    rw [same, frame.sized, wide, high, pixelCount]
  have shown := (shown_of_suspended (invariant_of_reachable reachable) suspended).2
  obtain ⟨physical, transformed, places⟩ := transformFrame_places accepted sized
  obtain rfl : session.panel = physical := Except.ok.inj (shown.2.symm.trans transformed)
  refine ⟨sourceAt frame.pixels place, pixel_eq_sourceAt wide high place, ?_⟩
  rw [places place, same]

/-- Over a connection on which everything arrives any frame of the panel's size
comes to be shown. -/
theorem exists_displayed {order : Equiv.Perm (Fin 3)} (accepted : Accepted options order)
    (shows : DisplayFrame) (sized : shows.pixels.length = pixelCount) :
    ∃ displayed session, Transition.Reachable Initial (Step options) displayed ∧
      displayed.suspended = some (⟨1, shows⟩, session) := by
  obtain ⟨physical, transformed, -⟩ := transformFrame_places accepted sized
  have start : Transition.Reachable Initial (Step options) {} := .of_initial rfl
  have taken := (start.tail (.put {} shows)).tail (.firstFrame _ .created rfl rfl 1 shows rfl)
  have connected := taken.tail (.connect _ ⟨1, shows⟩ rfl freshSession ⟨rfl, rfl⟩)
  rw [Bridge.startSending, transformed] at connected
  have accepts : ¬ MiFrameWriter.Rejects freshSession.writer (request physical) := by
    rintro (invalid | ⟨-, trips⟩)
    · exact invalid physical rfl
    · cases trips
  obtain ⟨writes, session, sent⟩ :=
    MiFrameWriter.sendFrame_of_arriving (fun attempt _ => (rfl : clear.delivery attempt = _))
      accepts
  have displayed := connected.tail (.send _ ⟨1, shows⟩ freshSession physical rfl clear)
  rw [Bridge.finishSending, sent] at displayed
  exact ⟨_, _, displayed, rfl⟩

/-- Every place of the frame has its own colour; this one is found turned around. -/
theorem panel_shows_served_upsideDown :
    ∃ displayed held session, Transition.Reachable Initial (Step upsideDown) displayed ∧
      displayed.suspended = some (held, session) ∧
      ∃ color, gradient.pixel 3 5 = some color ∧
        pixelAtPlace session.panel (symmetryOf upsideDown • (3, 5)) =
          permute (Equiv.swap 0 2) color := by
  have parsed : parsePayload loadDocument
      (serializeFrame gradient 7 (100 : Int64).toInt).text = .ok _ :=
    parsePayload_serializeFrame roundTrips_loadDocument rfl rfl 7 100
  obtain ⟨displayed, session, reachable, suspended⟩ := exists_displayed accepted_upsideDown
    { sequence := (7 : UInt64).toNat, pixels := gradient.pixels }
    (by rw [gradient.sized]; rfl)
  exact ⟨displayed, _, session, reachable, suspended, panel_shows_served roundTrips_loadDocument
    accepted_upsideDown reachable suspended parsed (3, 5)⟩

end PixelStatus.MiBle
