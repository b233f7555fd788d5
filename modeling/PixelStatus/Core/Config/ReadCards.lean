/-
# The cards of a loaded configuration

Every card of a configuration that the loader returns was read without an error,
so what its reader promises holds of it. Besides fitting the display, a bar has
a range, and a grid keeps the limits on its numbers.
-/

import PixelStatus.Core.Config.LayoutGeometry

namespace PixelStatus

open Logged

/-- What the readers check of the values of a widget. -/
def LayoutWidgetConfig.Checked : LayoutWidgetConfig → Prop
  | .bar config => config.Ranged
  | .statusGrid config => config.Limited
  | _ => True

variable {round : Rounding} {display : DisplayConfig} {path : Bytes} {item : Members}
  {assigned : Option LayoutBounds}

/-! ## Widgets -/

/-- A widget that is read has passed the checks of its kind. -/
theorem parseLayoutWidget_checked :
    WidgetPromise round display LayoutWidgetConfig.Checked := by
  intro item path assigned _
  have unchecked {α : Type} (wrap : α → LayoutWidgetConfig) (checked : ∀ config, (wrap config).Checked)
      (program : Loading (Option α)) : Ensures (OfSome LayoutWidgetConfig.Checked)
        (program >>= fun config => pure (config.map wrap)) :=
    (Ensures.anySome program).bindMap fun config _ => checked config
  apply parseLayoutWidget_each
  simp only [widgetTypes, List.forall_mem_cons]
  refine ⟨?_, ?_, ?_, ?_, ?_, ?_, List.forall_mem_nil _⟩
  · exact fun item path => unchecked .indicator (fun _ => trivial) _
  · exact fun item path => unchecked .clock (fun _ => trivial) _
  · exact fun item path =>
      (parseLayoutBarConfig_ensures (Ensures.anySome _)).bindMap fun _ h => h.2
  · exact fun item path =>
      (parseLayoutStatusGridConfig_ensures (Ensures.anySome _)).bindMap fun _ h => h.2.2
  · exact fun item path => unchecked .aggregateStatus (fun _ => trivial) _
  · exact fun item path => unchecked .bitmap (fun _ => trivial) _

/-! ## Cards -/

/-- Two promises about the widgets are one. -/
theorem WidgetPromise.and {property other : LayoutWidgetConfig → Prop}
    (promise : WidgetPromise round display property) (hother : WidgetPromise round display other) :
    WidgetPromise round display fun widget => property widget ∧ other widget := by
  intro item path assigned trusted
  apply ((promise item path assigned trusted).and (hother item path assigned trusted)).mono
  exact fun result both widget same => ⟨both.1 widget same, both.2 widget same⟩

/-- A widget that fits, with its values checked. -/
structure LayoutWidgetConfig.Sound (display : DisplayConfig) (widget : LayoutWidgetConfig) :
    Prop where
  fits : widget.Fits display
  checked : widget.Checked

/-- A widget that is read fits and is checked. -/
theorem parseLayoutWidget_sound :
    WidgetPromise round display (LayoutWidgetConfig.Sound display) := by
  intro item path assigned trusted
  apply (parseLayoutWidget_fits.and parseLayoutWidget_checked item path assigned trusted).mono
  exact fun result both widget same => ⟨(both widget same).1, (both widget same).2⟩

/-- A card that fits, of widgets with checked values. -/
abbrev CardConfig.Sound (display : DisplayConfig) (card : CardConfig) : Prop :=
  card.Meets display (LayoutWidgetConfig.Sound display)

/-- What the loader promises of the display and its cards. -/
structure AppConfig.Sound (config : AppConfig) : Prop where
  limited : config.display.Limited
  inside : config.display.bounds.Inside config.display
  cards : ∀ card ∈ config.cards, card.Sound config.display

variable {platform : Platform} {config : AppConfig}

/-- So is every widget of a configuration that is read. -/
theorem parseConfig_sound {root : Members} :
    Ensures AppConfig.Sound (parseConfig platform round root) := by
  apply Ensures.step
  intro _
  apply Ensures.step
  intro schemaVersion
  apply (parseDisplay_limited.and parseDisplay_ensures).bind
  rintro display ⟨limited, inside⟩
  apply Ensures.step
  intro statuses
  apply Ensures.step
  intro monitors
  apply (parseContents_ensures fun _ _ => parseCard_meets parseLayoutWidget_sound inside).bind
  intro contents hcontents
  exact Ensures.pure ⟨limited, inside, hcontents.2⟩

/-- So it is in every loaded configuration. -/
theorem sound_of_loadConfigFile {parse : Bytes → Option Json} {path : Bytes} {file : ConfigFile}
    (loaded : (loadConfigFile platform round parse path file).config = some config) :
    config.Sound := by
  obtain ⟨root, silent, rfl⟩ := parseConfig_of_loadConfigFile loaded
  exact parseConfig_sound.value silent

/-- The widgets of a card. -/
def CardContentConfig.widgets : CardContentConfig → List LayoutWidgetConfig
  | .layout content => content.widgets
  | _ => []

/-- The widgets on all cards. -/
def AppConfig.widgets (config : AppConfig) : List LayoutWidgetConfig :=
  config.cards.flatMap fun card => card.content.widgets

/-- Every widget of a loaded configuration fits and has checked values. -/
theorem AppConfig.Sound.widget {widget : LayoutWidgetConfig} (sound : config.Sound)
    (shown : widget ∈ config.widgets) : widget.Sound config.display := by
  obtain ⟨card, member, inside⟩ := List.mem_flatMap.mp shown
  have meets := (sound.cards card member).content
  cases content : card.content with
  | layout widgets =>
      rw [content] at meets inside
      exact meets widget inside
  | bitmap | clock | indicators =>
      rw [content] at inside
      cases inside

/-! ## A card of several widgets -/

/-- An aggregate, a bar, a clock with a source and a grid on one card. -/
def panelDocument : Members :=
  members
    [("cards", .array
      [.object (members
        [("hold", textJson "5s"), ("id", textJson "panel"), ("type", textJson "layout"),
          ("widgets", .array
            [.object (members
                [("colors", .object (members
                    [("communication_failure", textJson "#FF0000"), ("ok", textJson "#00FF00")])),
                  ("height", .unsigned 2), ("id", textJson "summary"),
                  ("priority", .array [textJson "communication_failure", textJson "ok"]),
                  ("sources", .array [textJson "site", textJson "mail"]),
                  ("type", textJson "aggregate_status"), ("width", .unsigned 2),
                  ("x", .unsigned 0), ("y", .unsigned 0)]),
              .object (members
                [("height", .unsigned 1), ("id", textJson "load"), ("maximum", .unsigned 100),
                  ("minimum", .unsigned 0), ("source", textJson "load"),
                  ("type", textJson "bar"), ("width", .unsigned 10), ("x", .unsigned 0),
                  ("y", .unsigned 8)]),
              .object (members
                [("height", .unsigned 7), ("id", textJson "departure"),
                  ("source", textJson "departure"), ("timezone", textJson "utc"),
                  ("type", textJson "clock"), ("width", .unsigned 15), ("x", .unsigned 0),
                  ("y", .unsigned 10)]),
              .object (members
                [("columns", .unsigned 2), ("gap", .unsigned 1), ("height", .unsigned 5),
                  ("id", textJson "hosts"),
                  ("sources", .array [textJson "a", textJson "b", textJson "c"]),
                  ("type", textJson "status_grid"), ("width", .unsigned 7), ("x", .unsigned 3),
                  ("y", .unsigned 0)])])])]),
      ("display", .object (members [("height", .unsigned 20), ("width", .unsigned 24)])),
      ("schema_version", .unsigned 1),
      ("statuses", .object (members
        [("communication_failure", solidStatus "#FF0000"), ("ok", solidStatus "#00FF00"),
          ("stale", solidStatus "#888888"), ("unknown", solidStatus "#0000FF")]))]

def panelConfig : AppConfig := (parseConfig .linux Double.exact panelDocument).value

/-- The configuration with a widget of each kind is loaded. -/
theorem panelDocument_loads {path : Bytes} :
    (loadConfigFile .linux Double.exact (fun _ => some (.object panelDocument)) path
      (.contents [])).config = some panelConfig :=
  loadConfigFile_of_silent (Nat.zero_le _) rfl (by decide +kernel)

/-- The kinds of the widgets, by their places. -/
theorem panelConfig_kinds : panelConfig.widgets.map LayoutWidgetConfig.ctorIdx = [4, 2, 1, 3] := by
  decide +kernel

/-- It shows a widget of every kind that is asked for. -/
theorem exists_panel_widget {kind : Nat} (listed : kind ∈ [4, 2, 1, 3]) :
    ∃ widget ∈ panelConfig.widgets, widget.ctorIdx = kind := by
  rw [← panelConfig_kinds] at listed
  exact List.mem_map.mp listed

end PixelStatus
