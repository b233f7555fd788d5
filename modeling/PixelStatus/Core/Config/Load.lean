/-
# Loading a configuration

The whole document is read even where a part of it is wrong. A configuration is
returned only when no part wrote an error, so it has every property that the
readers promise.
-/

import PixelStatus.Core.Config.Appearances
import PixelStatus.Core.Config.Cards

namespace PixelStatus

open Logged

/-- What the loader finds at its path. -/
inductive ConfigFile
  | unopened
  | unsized
  | unreadable (length : Nat)
  | contents (text : Bytes)

structure ConfigLoadResult where
  config : Option AppConfig := none
  errors : List Bytes := []

variable (platform : Platform) (round : Rounding)

def parseSchemaVersion (root : Members) : Loading Int32 := do
  let version : Option Int32 :=
    match root.field "schema_version" with
    | some (.unsigned value) => some (Int32.ofInt value.toNat)
    | some (.integer value) => some (Int32.ofInt value.toInt)
    | _ => none
  match version with
  | none =>
      addError (bytes "schema_version must be the integer 1")
      return 1
  | some version =>
      if version ≠ 1 then addError (bytes "Only schema_version 1 is supported")
      return version

/-- The background of the display, which a wrong colour leaves at its default. -/
def parseBackground (display : Members) (default : Rgb) : Loading Rgb := do
  let color ← optionalColor display "background" (bytes "display") default
  return color.getD default

/-- The limit on the pixels of a display whose sides were read. -/
def checkPixelCount : Option Nat → Option Nat → Loading Unit
  | some width, some height =>
      if width > maximumPixels / height then
        addError (bytes "display contains too many pixels")
      else return ()
  | _, _ => return ()

def parseDisplay (root : Members) : Loading DisplayConfig := do
  let defaults : DisplayConfig := {}
  match root.field "display" with
  | some (.object display) =>
      rejectUnknownFields display ["width", "height", "background"] (bytes "display")
      let width ← boundedSize display "width" (bytes "display") 1 maximumDimension
      let height ← boundedSize display "height" (bytes "display") 1 maximumDimension
      checkPixelCount width height
      let background ← parseBackground display defaults.background
      return .mk (width.getD defaults.width) (height.getD defaults.height) background
  | _ =>
      addError (bytes "display must be an object")
      return defaults

/-- One status of the object of statuses. -/
def parseStatus (statuses : Statuses) (status : Bytes × Json) : Loading Statuses := do
  let path := bytes "statuses." ++ status.1
  if !isValidIdentifier status.1 then
    addError (path
      ++ bytes " name must contain 1-64 letters, digits, dots, underscores, or hyphens")
    return statuses
  else match status.2 with
    | .object value =>
        match ← parseAppearance round value path with
        | none => return statuses
        | some appearance => return statuses.emplace status.1 appearance
    | _ =>
        addError (path ++ bytes " must be an object")
        return statuses

def parseStatuses (root : Members) : Loading Statuses := do
  match root.field "statuses" with
  | some (.object fields) =>
      if fields = [] then
        addError (bytes "statuses must be a non-empty object")
        return ∅
      else if fields.length > maximumStatuses then
        addError (bytes "statuses exceeds the limit of 256 entries")
        return ∅
      else
        let statuses ← fields.foldlM (parseStatus round) ∅
        if !Members.contains fields "unknown" then
          addError (bytes "statuses.unknown is required")
        if !Members.contains fields "stale" then
          addError (bytes "statuses.stale is required")
        return statuses
  | _ =>
      addError (bytes "statuses must be a non-empty object")
      return ∅

def parseMonitors (root : Members) (statuses : Statuses) : Loading (List PullMonitorConfig) := do
  let wrongCount := bytes "monitors must be an array with no more than 256 entries"
  match root.field "monitors" with
  | none => return []
  | some (.array monitors) =>
      if monitors.length > maximumMonitors then
        addError wrongCount
        return []
      else
        collectDistinct PullMonitorConfig.id
          (fun item path => parsePullMonitor platform round item path statuses)
          (bytes "monitors") (bytes "monitor") monitors
  | some _ =>
      addError wrongCount
      return []

/-- The legacy indicators, drawn without a deck. -/
def parseIndicators (indicators : Json) (display : DisplayConfig) :
    Loading (List IndicatorConfig) := do
  match indicators with
  | .array items =>
      if items = [] then
        addError (bytes "indicators must be a non-empty array")
        return []
      else if items.length > maximumIndicators then
        addError (bytes "indicators exceeds the limit of 1024 entries")
        return []
      else
        collectDistinct IndicatorConfig.id
          (fun item path => parseIndicatorConfig item path display)
          (bytes "indicators") (bytes "indicator") items
  | _ =>
      addError (bytes "indicators must be a non-empty array")
      return []

/-! ## The deck -/

/-- The deck loop: the ids it has met, the widgets it has counted and the cards
it has kept. -/
structure DeckScan where
  ids : List Bytes := []
  totalWidgets : Nat := 0
  cards : List CardConfig := []

/-- The widgets that count toward the limit on all cards. -/
def CardContentConfig.widgetCount : CardContentConfig → Nat
  | .indicators card => card.indicators.length
  | .layout card => card.widgets.length
  | _ => 0

/-- The aggregates of a card. -/
def CardContentConfig.aggregates : CardContentConfig → List LayoutAggregateStatusConfig
  | .layout card => card.widgets.filterMap fun widget =>
      match widget with
      | .aggregateStatus aggregate => some aggregate
      | _ => none
  | _ => []

/-- An error for every status that an aggregate names and the configuration
does not define. -/
def requireAggregateStatuses (content : CardContentConfig) (statuses : Statuses)
    (path : Bytes) : Loading Unit :=
  content.aggregates.forM fun aggregate =>
    aggregate.priority.forM fun status =>
      requireStatus status statuses
        (path ++ bytes " aggregate widget " ++ aggregate.id
          ++ bytes " references undefined status: " ++ status)

/-- One card of the deck. -/
def parseDeckCard (display : DisplayConfig) (statuses : Statuses) (scan : DeckScan)
    (item : Json × Nat) : Loading DeckScan := do
  let path := itemPath (bytes "cards") item.2
  match ← parseCard round item.1 path display with
  | none => return scan
  | some card =>
      if card.id ∈ scan.ids then
        addError (path ++ bytes ".id duplicates an earlier card")
        return scan
      else
        requireAggregateStatuses card.content statuses path
        let scan := { scan with
          ids := card.id :: scan.ids
          totalWidgets := scan.totalWidgets + card.content.widgetCount }
        if scan.totalWidgets > maximumLayoutWidgets then
          addError (bytes "cards contain more than 1024 widgets in total")
          return scan
        else return { scan with cards := scan.cards ++ [card] }

def parseDeck (cards : Json) (display : DisplayConfig) (statuses : Statuses) :
    Loading (List CardConfig) := do
  let wrongCount := bytes "cards must be an array with between 1 and 32 entries"
  match cards with
  | .array items =>
      if items = [] ∨ items.length > maximumCards then
        addError wrongCount
        return []
      else
        let scan ← items.zipIdx.foldlM (parseDeckCard round display statuses) {}
        return scan.cards
  | _ =>
      addError wrongCount
      return []

/-- What the display shows: legacy indicators or a deck of cards. -/
def parseContents (root : Members) (display : DisplayConfig) (statuses : Statuses) :
    Loading (List IndicatorConfig × List CardConfig) := do
  match root.field "indicators", root.field "cards" with
  | some indicators, none => return (← parseIndicators indicators display, [])
  | none, some cards => return ([], ← parseDeck round cards display statuses)
  | _, _ =>
      addError (bytes "configuration must define exactly one of indicators or cards")
      return ([], [])

/-! ## The document -/

def parseConfig (root : Members) : Loading AppConfig := do
  rejectUnknownFields root
    ["schema_version", "display", "statuses", "monitors", "indicators", "cards"]
    (bytes "configuration")
  let schemaVersion ← parseSchemaVersion root
  let display ← parseDisplay root
  let statuses ← parseStatuses round root
  let monitors ← parseMonitors platform round root statuses
  let (indicators, cards) ← parseContents round root display statuses
  return { schemaVersion, display, statuses, monitors, indicators, cards }

/-- The result of a run: the configuration when no error was written. -/
def finishLoading (loaded : Loading AppConfig) : ConfigLoadResult where
  config := if loaded.log = [] then some loaded.value else none
  errors := loaded.log

/-- A load that ends with one error. -/
def failLoading (message : Bytes) : ConfigLoadResult := { errors := [message] }

/-- `load_config_file`; `parse` is the library's parser, which yields nothing for
a discarded document. -/
def loadConfigFile (parse : Bytes → Option Json) (path : Bytes) (file : ConfigFile) :
    ConfigLoadResult :=
  let oversized := failLoading (bytes "Configuration file exceeds the 1 MiB host limit")
  match file with
  | .unopened => failLoading (bytes "Unable to open configuration file: " ++ path)
  | .unsized => oversized
  | .unreadable length =>
      if length > maximumConfigBytes then oversized
      else failLoading (bytes "Unable to read configuration file: " ++ path)
  | .contents text =>
      if text.length > maximumConfigBytes then oversized
      else match parse text with
        | some (.object root) => finishLoading (parseConfig platform round root)
        | _ => failLoading (bytes "Configuration root must be a valid JSON object")

/-! ## What is accepted -/

structure AppConfig.Accepted (platform : Platform) (config : AppConfig) : Prop where
  display : config.display.bounds.Inside config.display
  monitors : Collected PullMonitorConfig.id
    (PullMonitorConfig.Accepted platform config.statuses) maximumMonitors config.monitors
  indicators : ∀ indicator ∈ config.indicators,
    indicator.toLayoutBounds.Inside config.display
  cards : ∀ card ∈ config.cards, card.Fits config.display

variable {platform round} {root : Members} {display : DisplayConfig} {statuses : Statuses}

/-- The sides of a display are in their range, whatever of it was read. -/
theorem parseDisplay_sides : Ensures (fun display =>
      (1 ≤ display.width ∧ display.width ≤ maximumDimension) ∧
        1 ≤ display.height ∧ display.height ≤ maximumDimension) (parseDisplay root) := by
  unfold parseDisplay
  dsimp only
  split
  · apply Ensures.step
    intro _
    apply boundedSize_ensures.bind
    intro width hwidth
    apply boundedSize_ensures.bind
    intro height hheight
    apply Ensures.step
    intro _
    apply Ensures.step
    intro background
    apply Ensures.pure
    exact ⟨hwidth.getD (by decide), hheight.getD (by decide)⟩
  · exact ensures_addError_bind

/-- A display that is read has a pixel. -/
theorem parseDisplay_ensures :
    Ensures (fun display => display.bounds.Inside display) (parseDisplay root) :=
  parseDisplay_sides.mono fun _ sides => DisplayConfig.bounds_inside sides.1.1 sides.2.1

/-- The monitors are accepted, have distinct ids and are few enough. -/
theorem parseMonitors_ensures :
    Ensures (Collected PullMonitorConfig.id (PullMonitorConfig.Accepted platform statuses)
      maximumMonitors) (parseMonitors platform round root statuses) := by
  unfold parseMonitors
  dsimp only
  split
  · exact Ensures.pure ⟨Nat.zero_le _, List.nodup_nil, List.forall_mem_nil _⟩
  · split
    · exact ensures_addError_bind
    next few =>
      apply (collectDistinct_ensures fun _ _ => parsePullMonitor_ensures).mono
      intro monitors collected
      exact { collected with count := collected.count.trans (Nat.not_lt.mp few) }
  · exact ensures_addError_bind

/-- The legacy indicators are inside the display. -/
theorem parseIndicators_ensures {indicators : Json} :
    Ensures (fun indicators => ∀ indicator ∈ indicators,
      indicator.toLayoutBounds.Inside display) (parseIndicators indicators display) := by
  unfold parseIndicators
  split
  · split
    · exact ensures_addError_bind
    · split
      · exact ensures_addError_bind
      · apply (collectDistinct_ensures fun _ _ => parseIndicatorConfig_ensures).mono
        exact fun indicators collected => collected.each
  · exact ensures_addError_bind

/-- What the reader of a card promises of it. -/
def CardPromise (round : Rounding) (display : DisplayConfig) (property : CardConfig → Prop) :
    Prop :=
  ∀ item path, Ensures (OfSome property) (parseCard round item path display)

section

variable {property : CardConfig → Prop} (promise : CardPromise round display property)
include promise

/-- A card of the deck has what its reader promises. -/
theorem parseDeckCard_ensures {scan : DeckScan} {item : Json × Nat}
    (fits : ∀ card ∈ scan.cards, property card) :
    Ensures (fun scan => ∀ card ∈ scan.cards, property card)
      (parseDeckCard round display statuses scan item) := by
  apply (promise _ _).bindSome
  · exact Ensures.pure fits
  intro card hcard
  dsimp only
  split
  · exact ensures_addError_bind
  · apply Ensures.step
    intro _
    split
    · exact ensures_addError_bind
    · apply Ensures.pure
      exact List.forall_mem_append.mpr ⟨fits, List.forall_mem_singleton.mpr hcard⟩

/-- So have all cards of the deck. -/
theorem parseDeck_ensures {cards : Json} :
    Ensures (fun cards => ∀ card ∈ cards, property card)
      (parseDeck round cards display statuses) := by
  unfold parseDeck
  dsimp only
  split
  · split
    · exact ensures_addError_bind
    · have start : ∀ card ∈ ({} : DeckScan).cards, property card := List.forall_mem_nil _
      apply (Ensures.foldlM (fun scan : DeckScan => ∀ card ∈ scan.cards, property card)
        start fun _ _ _ fits => parseDeckCard_ensures promise fits).bind
      exact fun scan fits => Ensures.pure fits
  · exact ensures_addError_bind

/-- What is shown is inside the display and as promised. -/
theorem parseContents_ensures :
    Ensures (fun contents =>
        (∀ indicator ∈ contents.1, indicator.toLayoutBounds.Inside display) ∧
          ∀ card ∈ contents.2, property card)
      (parseContents round root display statuses) := by
  unfold parseContents
  split
  · apply parseIndicators_ensures.bind
    exact fun indicators placed => Ensures.pure ⟨placed, List.forall_mem_nil _⟩
  · apply (parseDeck_ensures promise).bind
    exact fun cards fit => Ensures.pure ⟨List.forall_mem_nil _, fit⟩
  · exact ensures_addError_bind

end

/-- A configuration that is read without an error is accepted. -/
theorem parseConfig_ensures :
    Ensures (AppConfig.Accepted platform) (parseConfig platform round root) := by
  apply Ensures.step
  intro _
  apply Ensures.step
  intro schemaVersion
  apply parseDisplay_ensures.bind
  intro display inside
  apply Ensures.step
  intro statuses
  apply parseMonitors_ensures.bind
  intro monitors hmonitors
  apply (parseContents_ensures fun _ _ => parseCard_ensures inside).bind
  intro contents hcontents
  exact Ensures.pure ⟨inside, hmonitors, hcontents.1, hcontents.2⟩

/-- A configuration that is returned is what a silent run of the readers returned. -/
theorem parseConfig_of_loadConfigFile {parse : Bytes → Option Json} {path : Bytes}
    {file : ConfigFile} {config : AppConfig}
    (loaded : (loadConfigFile platform round parse path file).config = some config) :
    ∃ root, (parseConfig platform round root).log = [] ∧
      (parseConfig platform round root).value = config := by
  unfold loadConfigFile at loaded
  dsimp only at loaded
  split at loaded
  · cases loaded
  · cases loaded
  · split at loaded <;> cases loaded
  · split at loaded
    · cases loaded
    · split at loaded
      next root _ =>
        unfold finishLoading at loaded
        split at loaded
        next silent => exact ⟨root, silent, Option.some.inj loaded⟩
        · cases loaded
      · cases loaded

/-- A configuration that is returned has what its readers promise. -/
theorem accepted_of_loadConfigFile {parse : Bytes → Option Json} {path : Bytes}
    {file : ConfigFile} {config : AppConfig}
    (loaded : (loadConfigFile platform round parse path file).config = some config) :
    config.Accepted platform := by
  obtain ⟨root, silent, rfl⟩ := parseConfig_of_loadConfigFile loaded
  exact parseConfig_ensures.value silent

/-- A document whose readers write no error is loaded. -/
theorem loadConfigFile_of_silent {parse : Bytes → Option Json} {path text : Bytes}
    (small : text.length ≤ maximumConfigBytes) (parsed : parse text = some (.object root))
    (silent : (parseConfig platform round root).log = []) :
    (loadConfigFile platform round parse path (.contents text)).config =
      some (parseConfig platform round root).value := by
  unfold loadConfigFile
  dsimp only
  rw [if_neg (Nat.not_lt.mpr small), parsed]
  exact if_pos silent

/-! ## A small configuration -/

/-- Members by their names. -/
def members (fields : List (String × Json)) : Members :=
  fields.map fun field => (bytes field.1, field.2)

def textJson (text : String) : Json := .string (bytes text)

def solidStatus (color : String) : Json :=
  .object (members [("appearance", .object (members [("solid", textJson color)]))])

/-- An HTTP monitor of a status code. -/
def siteMonitor : Json :=
  .object (members
    [("evaluate", .array
      [.object (members
        [("status", textJson "ok"),
          ("when", .object (members
            [("value", .object (members [("equals", .unsigned 200)]))]))])]),
      ("headers", .object (members [("Accept", textJson "text/plain")])),
      ("id", textJson "site"), ("interval", textJson "30s"),
      ("observe", .object (members [("status_code", .boolean true)])),
      ("type", textJson "http"), ("url", textJson "http://status.example.test/")])

/-- A deck of a layout tree and a clock, over these monitors. -/
def deckDocument (monitors : List Json) : Members :=
  members
    [("cards", .array
      [.object (members
        [("hold", textJson "5s"), ("id", textJson "overview"),
          ("root", .object (members
            [("children", .array
              [.object (members
                [("id", textJson "time"), ("size", .unsigned 15),
                  ("timezone", textJson "utc"), ("type", textJson "clock")]),
                .object (members
                  [("id", textJson "site"), ("source", textJson "site"),
                    ("type", textJson "indicator")])]),
              ("gap", .unsigned 1), ("type", textJson "row")])),
          ("type", textJson "layout")]),
        .object (members
          [("hold", textJson "1s"), ("id", textJson "clock"),
            ("transition", .object (members
              [("duration", textJson "500ms"), ("type", textJson "fade")])),
            ("type", textJson "clock")])]),
      ("display", .object (members [("height", .unsigned 16), ("width", .unsigned 24)])),
      ("monitors", .array monitors),
      ("schema_version", .unsigned 1),
      ("statuses", .object (members
        [("communication_failure", solidStatus "#FF0000"), ("ok", solidStatus "#00FF00"),
          ("stale", solidStatus "#888888"), ("unknown", solidStatus "#0000FF")]))]

def sampleDocument : Members := deckDocument [siteMonitor]

def sampleConfig : AppConfig := (parseConfig .linux Double.exact sampleDocument).value

/-- The small configuration is loaded. -/
theorem sampleDocument_loads {path : Bytes} :
    (loadConfigFile .linux Double.exact (fun _ => some (.object sampleDocument)) path
      (.contents [])).config = some sampleConfig :=
  loadConfigFile_of_silent (Nat.zero_le _) rfl (by decide +kernel)

end PixelStatus
