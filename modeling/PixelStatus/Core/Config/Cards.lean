/-
# Reading cards

A card has a hold, a transition and a content of one of four types. The list
loops that refuse a second item of the same id are one definition.
-/

import PixelStatus.Core.Config.LayoutTreeFits
import PixelStatus.Core.Config.Monitors

namespace PixelStatus

open Logged

/-! ## Lists of items with distinct ids -/

section

variable {α : Type} (idOf : α → Bytes) (read : Json → Bytes → Loading (Option α))

/-- Read one item and keep it unless its id was there before. -/
def collectItem (path duplicate : Bytes) (kept : List α) (item : Json × Nat) :
    Loading (List α) := do
  match ← read item.1 (itemPath path item.2) with
  | none => return kept
  | some value =>
      if idOf value ∈ kept.map idOf then
        addError (itemPath path item.2 ++ bytes ".id duplicates an earlier " ++ duplicate)
        return kept
      else return kept ++ [value]

def collectDistinct (path duplicate : Bytes) (items : List Json) : Loading (List α) :=
  items.zipIdx.foldlM (collectItem idOf read path duplicate) []

/-- What such a loop keeps of the items it has passed. -/
structure Collected (property : α → Prop) (count : Nat) (kept : List α) : Prop where
  count : kept.length ≤ count
  distinct : (kept.map idOf).Nodup
  each : ∀ value ∈ kept, property value

variable {idOf read} {property : α → Prop}

/-- A kept item has its reader's property and an id of its own. -/
theorem collectItem_ensures (hread : ∀ item path, Ensures (OfSome property) (read item path))
    {path duplicate : Bytes} {count : Nat} {kept : List α} {item : Json × Nat}
    (collected : Collected idOf property count kept) :
    Ensures (Collected idOf property (count + 1))
      (collectItem idOf read path duplicate kept item) := by
  apply (hread item.1 _).bindSome
  · exact Ensures.pure { collected with count := collected.count.trans (Nat.le_succ count) }
  intro value hvalue
  dsimp only
  split
  · exact ensures_addError_bind
  next fresh =>
    apply Ensures.pure
    refine ⟨?_, ?_, ?_⟩
    · exact (List.length_append ..).trans_le (Nat.add_le_add_right collected.count 1)
    · rw [List.map_append, List.map_singleton, List.nodup_append_comm]
      exact List.nodup_cons.mpr ⟨fresh, collected.distinct⟩
    · exact List.forall_mem_append.mpr
        ⟨collected.each, List.forall_mem_singleton.mpr hvalue⟩

/-- What is collected has distinct ids and the readers' property. -/
theorem collectDistinct_ensures
    (hread : ∀ item path, Ensures (OfSome property) (read item path))
    {path duplicate : Bytes} {items : List Json} :
    Ensures (Collected idOf property items.length)
      (collectDistinct idOf read path duplicate items) := by
  rw [← @List.length_zipIdx _ items 0]
  apply Ensures.foldlM_count (Collected idOf property)
  · exact ⟨Nat.le_refl 0, List.nodup_nil, List.forall_mem_nil _⟩
  · exact fun _ _ _ _ collected => collectItem_ensures hread collected

end

/-! ## Transitions -/

def transitionNames : List (String × CardTransition) :=
  [("fade", .fade), ("slide_left", .slideLeft), ("slide_right", .slideRight),
    ("slide_up", .slideUp), ("slide_down", .slideDown)]

/-- A transition of a type that takes time. -/
def parseTimedTransition (field : Members) (path : Bytes) (type : Bytes) :
    Loading (Option CardTransitionConfig) := do
  match transitionNames.find? fun entry => bytes entry.1 = type with
  | none =>
      reject (path ++ bytes
        ".type must be instant, fade, slide_left, slide_right, slide_up, or slide_down")
  | some (_, type) =>
      let duration ← requiredDuration field "duration" path 1 maximumCardTransition
      return duration.map fun duration => { type, duration }

def parseCardTransition (card : Members) (path : Bytes) :
    Loading (Option CardTransitionConfig) := do
  let transitionPath := fieldPath path "transition"
  match card.field "transition" with
  | none => return some {}
  | some (.object field) =>
      rejectUnknownFields field ["type", "duration"] transitionPath
      match ← requiredString field "type" transitionPath with
      | none => return none
      | some type =>
          if type = bytes "instant" then
            if Members.contains field "duration" then
              reject (transitionPath ++ bytes ".duration is not allowed for instant")
            else return some {}
          else parseTimedTransition field transitionPath type
  | some _ => reject (transitionPath ++ bytes " must be an object")

/-! ## Contents -/

variable (round : Rounding)

/-- The fields that every card has. -/
def cardFields : List String := ["id", "type", "hold", "transition"]

def parseBitmapCard (item : Members) (path : Bytes) (display : DisplayConfig) :
    Loading (Option CardContentConfig) := do
  rejectUnknownFields item (cardFields ++ ["palette", "pixels"]) path
  match ← boundedObject (item.field "palette") maximumBitmapPaletteEntries
      (path ++ bytes ".palette must contain between 1 and 32 entries") with
  | none => return none
  | some paletteField =>
      let palette ← parsePalette paletteField path
      let wrongHeight :=
        path ++ bytes ".pixels must contain exactly " ++ decimal display.height ++ bytes " rows"
      match item.field "pixels" with
      | some (.array rows) =>
          if rows.length ≠ display.height then reject wrongHeight
          else
            let pixels ← parsePixelRows rows path display.width
              (bytes " must contain exactly " ++ decimal display.width
                ++ bytes " palette characters") palette.items
            if palette.valid && pixels.valid then
              return some (.bitmap { palette := palette.items, pixels := pixels.items })
            else return none
      | _ => reject wrongHeight

def parseClockCard (item : Members) (path : Bytes) (display : DisplayConfig) :
    Loading (Option CardContentConfig) := do
  rejectUnknownFields item (cardFields ++ ["local_color", "utc_color"]) path
  if display.width < 15 ∨ display.height < 15 then
    reject (path ++ bytes " requires a display of at least 15x15 pixels")
  else
    let defaults : ClockCardConfig := {}
    let localColor ← optionalColor item "local_color" path defaults.localColor
    let utcColor ← optionalColor item "utc_color" path defaults.utcColor
    match localColor, utcColor with
    | some localColor, some utcColor => return some (.clock { localColor, utcColor })
    | _, _ => return none

def parseIndicatorCard (item : Members) (path : Bytes) (display : DisplayConfig) :
    Loading (Option CardContentConfig) := do
  rejectUnknownFields item (cardFields ++ ["indicators"]) path
  match ← boundedArray (item.field "indicators") maximumIndicators
      (path ++ bytes ".indicators must contain between 1 and 1024 entries") with
  | none => return none
  | some items =>
      let indicators ← collectDistinct IndicatorConfig.id
        (fun item path => parseIndicatorConfig item path display)
        (fieldPath path "indicators") (bytes "indicator on this card") items
      if indicators.length ≠ items.length then return none
      else return some (.indicators { indicators })

/-- The widgets of a layout that lists them. -/
def parseWidgetList (widgets : Json) (path : Bytes) (display : DisplayConfig) :
    Loading (Option CardContentConfig) := do
  match ← boundedArray (some widgets) maximumLayoutWidgets
      (path ++ bytes ".widgets must contain between 1 and 1024 entries") with
  | none => return none
  | some items =>
      let widgets ← collectDistinct LayoutWidgetConfig.id
        (fun item path => parseLayoutWidget round item path display none)
        (fieldPath path "widgets") (bytes "widget on this card") items
      if widgets.length ≠ items.length then return none
      else return some (.layout { widgets })

/-- The whole display. -/
def DisplayConfig.bounds (display : DisplayConfig) : LayoutBounds :=
  { x := 0, y := 0, width := display.width, height := display.height }

/-- The widgets of a layout that is a tree. -/
def parseLayoutRoot (root : Json) (path : Bytes) (display : DisplayConfig) :
    Loading (Option CardContentConfig) := do
  let rootPath := fieldPath path "root"
  match root with
  | .object members =>
      if Members.contains members "size" || Members.contains members "weight" then
        reject (rootPath ++ bytes " cannot specify size or weight")
      else
        let (valid, scan) ← parseLayoutNode round display (maximumLayoutDepth + 1) root
          rootPath display.bounds {}
        if !valid then return none
        else if scan.widgets = [] ∨ scan.widgets.length > maximumLayoutWidgets then
          reject (rootPath ++ bytes " must resolve to between 1 and 1024 widgets")
        else return some (.layout { widgets := scan.widgets })
  | _ => reject (rootPath ++ bytes " must be an object")

def parseLayoutCard (item : Members) (path : Bytes) (display : DisplayConfig) :
    Loading (Option CardContentConfig) := do
  rejectUnknownFields item (cardFields ++ ["widgets", "root"]) path
  match item.field "widgets", item.field "root" with
  | some widgets, none => parseWidgetList round widgets path display
  | none, some root => parseLayoutRoot round root path display
  | _, _ => reject (path ++ bytes " must contain exactly one of widgets or root")

/-- The readers by the types of the cards. -/
def cardTypes : List (String × (Members → Bytes → DisplayConfig →
    Loading (Option CardContentConfig))) :=
  [("bitmap", parseBitmapCard), ("clock", parseClockCard), ("indicators", parseIndicatorCard),
    ("layout", parseLayoutCard round)]

def parseCardContent (item : Members) (path : Bytes) (display : DisplayConfig)
    (type : Bytes) : Loading (Option CardContentConfig) := do
  match (cardTypes round).find? fun entry => bytes entry.1 = type with
  | some (_, parse) => parse item path display
  | none =>
      rejectUnknownFields item
        (cardFields ++ ["palette", "pixels", "local_color", "utc_color", "indicators",
          "widgets", "root"]) path
      reject (path ++ bytes ".type must be bitmap, clock, indicators, or layout")

def parseCard (item : Json) (path : Bytes) (display : DisplayConfig) :
    Loading (Option CardConfig) := do
  match item with
  | .object item =>
      let id ← requiredIdentifier item "id" path
      let type ← requiredString item "type" path
      let hold ← requiredDuration item "hold" path minimumCardHold maximumCardHold
      let transition ← parseCardTransition item path
      match id, type, hold, transition with
      | some id, some type, some hold, some transition =>
          let content ← parseCardContent round item path display type
          return content.map fun content => { id, hold, transition, content }
      | _, _, _, _ => return none
  | _ => reject (path ++ bytes " must be an object")

/-! ## Cards that were read fit the display -/

def CardContentConfig.Fits (display : DisplayConfig) : CardContentConfig → Prop
  | .bitmap card => PixelsFit card.palette card.pixels display.width display.height
  | .clock _ => 15 ≤ display.width ∧ 15 ≤ display.height
  | .indicators card => ∀ indicator ∈ card.indicators, indicator.toLayoutBounds.Inside display
  | .layout card => ∀ widget ∈ card.widgets, widget.Fits display

/-- A content that fits, of widgets that have a property. -/
def CardContentConfig.Meets (display : DisplayConfig) (property : LayoutWidgetConfig → Prop) :
    CardContentConfig → Prop
  | .layout card => ∀ widget ∈ card.widgets, property widget
  | content => content.Fits display

/-- An instant change takes no time, and any other one takes some. -/
def CardTransitionConfig.Timed (transition : CardTransitionConfig) : Prop :=
  (transition.type = .instant ∧ transition.duration = 0) ∨
    (transition.type ≠ .instant ∧ 0 < transition.duration ∧
      transition.duration ≤ maximumCardTransition)

/-- A card whose content fits, of widgets that have a property. -/
structure CardConfig.Meets (display : DisplayConfig) (property : LayoutWidgetConfig → Prop)
    (card : CardConfig) : Prop where
  hold : minimumCardHold ≤ card.hold
  transition : card.transition.Timed
  content : card.content.Meets display property

structure CardConfig.Fits (display : DisplayConfig) (card : CardConfig) : Prop where
  hold : minimumCardHold ≤ card.hold
  transition : 0 ≤ card.transition.duration
  content : card.content.Fits display

variable {round} {display : DisplayConfig} {path : Bytes} {item : Members}
  {property : LayoutWidgetConfig → Prop}

theorem CardContentConfig.fits_of_meets {content : CardContentConfig}
    (meets : content.Meets display (LayoutWidgetConfig.Fits display)) : content.Fits display := by
  cases content <;> exact meets

/-- No transition takes a negative time. -/
theorem CardTransitionConfig.Timed.nonneg {transition : CardTransitionConfig}
    (timed : transition.Timed) : 0 ≤ transition.duration := by
  rcases timed with ⟨-, zero⟩ | ⟨-, positive, -⟩
  · exact zero.ge
  · exact positive.le

/-- A transition that is not a cut has a duration within its bounds. -/
theorem parseTimedTransition_ensures {type : Bytes} :
    Ensures (OfSome CardTransitionConfig.Timed) (parseTimedTransition item path type) := by
  have animated : ∀ entry ∈ transitionNames, entry.2 ≠ .instant := by decide
  unfold parseTimedTransition
  split
  · exact ensures_reject
  next known =>
    have moves := animated _ (List.mem_of_find?_eq_some known)
    exact requiredDuration_ensures.bindMap fun _ inside => Or.inr ⟨moves, inside⟩

/-- A card's transition is a cut or timed within its bounds. -/
theorem parseCardTransition_ensures :
    Ensures (OfSome CardTransitionConfig.Timed) (parseCardTransition item path) := by
  unfold parseCardTransition
  dsimp only
  split
  · exact Ensures.pure (OfSome.some (Or.inl ⟨rfl, rfl⟩))
  · apply Ensures.step
    intro _
    apply (Ensures.anySome _).bindSome
    · exact Ensures.pure OfSome.none
    intro type _
    dsimp only
    split
    · split
      · exact ensures_reject
      · exact Ensures.pure (OfSome.some (Or.inl ⟨rfl, rfl⟩))
    · exact parseTimedTransition_ensures
  · exact ensures_reject

/-- A bitmap card has nothing else to meet. -/
theorem parseBitmapCard_ensures :
    Ensures (OfSome (CardContentConfig.Meets display property)) (parseBitmapCard item path display) := by
  apply Ensures.step
  intro _
  apply (Ensures.anySome _).bindSome
  · exact Ensures.pure OfSome.none
  intro paletteField _
  apply Ensures.step
  intro palette
  dsimp only
  split
  next rows _ =>
    split
    · exact ensures_reject
    next height =>
      apply parsePixelRows_ensures.bind
      intro pixels fits
      split
      · rw [Decidable.not_not.mp height] at fits
        exact Ensures.pure (OfSome.some fits)
      · exact Ensures.pure OfSome.none
  · exact ensures_reject

/-- A clock card has nothing else to meet. -/
theorem parseClockCard_ensures :
    Ensures (OfSome (CardContentConfig.Meets display property)) (parseClockCard item path display) := by
  apply Ensures.step
  intro _
  dsimp only
  split
  · exact ensures_reject
  next large =>
    rw [not_or, Nat.not_lt, Nat.not_lt] at large
    apply Ensures.step
    intro localColor
    apply Ensures.step
    intro utcColor
    split
    · exact Ensures.pure (OfSome.some large)
    · exact Ensures.pure OfSome.none

/-- The indicators of a card are inside the display. -/
theorem parseIndicatorCard_ensures :
    Ensures (OfSome (CardContentConfig.Meets display property))
      (parseIndicatorCard item path display) := by
  apply Ensures.step
  intro _
  apply (Ensures.anySome _).bindSome
  · exact Ensures.pure OfSome.none
  intro items _
  apply (collectDistinct_ensures fun _ _ => parseIndicatorConfig_ensures).bind
  intro indicators collected
  split
  · exact Ensures.pure OfSome.none
  · exact Ensures.pure (OfSome.some collected.each)

/-- The widgets of a list have what their reader promises. -/
theorem parseWidgetList_ensures (promise : WidgetPromise round display property)
    {widgets : Json} :
    Ensures (OfSome (CardContentConfig.Meets display property))
      (parseWidgetList round widgets path display) := by
  apply (Ensures.anySome _).bindSome
  · exact Ensures.pure OfSome.none
  intro items _
  apply (collectDistinct_ensures fun _ _ => promise _ _ _ fun _ absent =>
    absurd absent (Option.not_mem_none _)).bind
  intro widgets collected
  split
  · exact Ensures.pure OfSome.none
  · exact Ensures.pure (OfSome.some collected.each)

/-- The rectangle of a display that has a pixel is inside it. -/
theorem DisplayConfig.bounds_inside (width : 0 < display.width) (height : 0 < display.height) :
    display.bounds.Inside display where
  width := width
  height := height
  right := (Nat.zero_add _).le
  bottom := (Nat.zero_add _).le

/-- So have those of a tree. -/
theorem parseLayoutRoot_ensures (promise : WidgetPromise round display property) {root : Json}
    (inside : display.bounds.Inside display) :
    Ensures (OfSome (CardContentConfig.Meets display property))
      (parseLayoutRoot round root path display) := by
  unfold parseLayoutRoot
  dsimp only
  split
  · split
    · exact ensures_reject
    · have start : LayoutScan.Each property {} := fun _ member => nomatch member
      apply (parseLayoutNode_reads promise _ _ _ _ _ inside start).bind
      intro result fits
      split
      · exact Ensures.pure OfSome.none
      · split
        · exact ensures_reject
        · exact Ensures.pure (OfSome.some fits)
  · exact ensures_reject

/-- A layout card is a list or a tree of such widgets. -/
theorem parseLayoutCard_ensures (promise : WidgetPromise round display property)
    (inside : display.bounds.Inside display) :
    Ensures (OfSome (CardContentConfig.Meets display property))
      (parseLayoutCard round item path display) := by
  apply Ensures.step
  intro _
  split
  · exact parseWidgetList_ensures promise
  · exact parseLayoutRoot_ensures promise inside
  · exact ensures_reject

/-- The content of a card meets what its type asks. -/
theorem parseCardContent_ensures (promise : WidgetPromise round display property)
    {type : Bytes} (inside : display.bounds.Inside display) :
    Ensures (OfSome (CardContentConfig.Meets display property))
      (parseCardContent round item path display type) := by
  have each : ∀ entry ∈ cardTypes round, Ensures (OfSome (CardContentConfig.Meets display property))
      (entry.2 item path display) := by
    simp only [cardTypes, List.forall_mem_cons]
    exact ⟨parseBitmapCard_ensures, parseClockCard_ensures, parseIndicatorCard_ensures,
      parseLayoutCard_ensures promise inside, List.forall_mem_nil _⟩
  unfold parseCardContent
  split
  next parse known => exact each _ (List.mem_of_find?_eq_some known)
  · exact Ensures.step fun _ => ensures_reject

/-- A card that is read is timed, and its content meets what it has to. -/
theorem parseCard_meets (promise : WidgetPromise round display property) {item : Json}
    (inside : display.bounds.Inside display) :
    Ensures (OfSome (CardConfig.Meets display property)) (parseCard round item path display) := by
  unfold parseCard
  split
  · apply Ensures.step
    intro id
    apply Ensures.step
    intro type
    apply requiredDuration_ensures.bind
    intro hold hhold
    apply parseCardTransition_ensures.bind
    intro transition htransition
    split
    next id type hold transition =>
      apply (parseCardContent_ensures promise inside).bindMap
      exact fun content meets => ⟨(hhold hold rfl).1, htransition transition rfl, meets⟩
    · exact Ensures.pure OfSome.none
  · exact ensures_reject

/-- A card that is read fits the display. -/
theorem parseCard_ensures {item : Json} (inside : display.bounds.Inside display) :
    Ensures (OfSome (CardConfig.Fits display)) (parseCard round item path display) := by
  apply (parseCard_meets parseLayoutWidget_fits inside).mono
  intro result meets card same
  exact ⟨(meets card same).hold, (meets card same).transition.nonneg,
    CardContentConfig.fits_of_meets (meets card same).content⟩

end PixelStatus
