/-
# The sources that a configuration shows

The simulator collects every source that an indicator or a widget names, each
once and in the order of the document. These are the sources that a rendering
can ask the store for.
-/

import PixelStatus.Core.MissingSources
import PixelStatus.Logic.FirstSeen

namespace PixelStatus

/-- The sources of an indicator. -/
def insertIndicator (collected : FirstSeen Bytes) (indicator : IndicatorConfig) :
    FirstSeen Bytes :=
  collected.insert indicator.source

/-- The sources of a widget. A clock without a source shows the wall time. -/
def insertWidget (collected : FirstSeen Bytes) : LayoutWidgetConfig → FirstSeen Bytes
  | .indicator indicator => collected.insert indicator.source
  | .bar bar => collected.insert bar.source
  | .clock clock => if clock.source ≠ [] then collected.insert clock.source else collected
  | .statusGrid grid => grid.sources.foldl FirstSeen.insert collected
  | .aggregateStatus aggregate => aggregate.sources.foldl FirstSeen.insert collected
  | .bitmap _ => collected

/-- The sources of a card. -/
def insertCard (collected : FirstSeen Bytes) (card : CardConfig) : FirstSeen Bytes :=
  match card.content with
  | .indicators content => content.indicators.foldl insertIndicator collected
  | .layout content => content.widgets.foldl insertWidget collected
  | _ => collected

def uniqueSources (config : AppConfig) : List Bytes :=
  (config.cards.foldl insertCard (config.indicators.foldl insertIndicator .empty)).items

variable {collected : FirstSeen Bytes} {list : List Bytes}

open FirstSeen

/-- A widget gives the collector its sources. -/
theorem insertWidget_holds (holds : collected.Holds list) (widget : LayoutWidgetConfig) :
    (insertWidget collected widget).Holds (list ++ widget.sources) := by
  cases widget with
  | indicator indicator => exact holds.insert indicator.source
  | bar bar => exact holds.insert bar.source
  | statusGrid grid => exact holds.insertAll grid.sources
  | aggregateStatus aggregate => exact holds.insertAll aggregate.sources
  | bitmap bitmap => exact (List.append_nil list).symm ▸ holds
  | clock clock =>
      rw [insertWidget, LayoutWidgetConfig.sources]
      by_cases wall : clock.source = []
      · rw [if_neg (not_not_intro wall), if_pos wall, List.append_nil]
        exact holds
      · rw [if_pos wall, if_neg wall]
        exact holds.insert clock.source

/-- An indicator gives it its source. -/
theorem insertIndicator_holds (holds : collected.Holds list) (indicator : IndicatorConfig) :
    (insertIndicator collected indicator).Holds (list ++ [indicator.source]) :=
  holds.insert indicator.source

/-- A card gives it those of its widgets. -/
theorem insertCard_holds (holds : collected.Holds list) (card : CardConfig) :
    (insertCard collected card).Holds (list ++ card.content.sources) := by
  unfold insertCard CardContentConfig.sources
  cases card.content with
  | layout content =>
      have widgets := holds.foldl (fun _ _ widget holds => insertWidget_holds holds widget)
        content.widgets
      exact widgets
  | indicators content =>
      have indicators := holds.foldl
        (fun _ _ indicator holds => insertIndicator_holds holds indicator) content.indicators
      rw [CardContentConfig.drawn, Option.getD_some, List.flatMap_map]
      exact indicators
  | bitmap content | clock content =>
      have nothing : collected.Holds (list ++ []) := (List.append_nil list).symm ▸ holds
      exact nothing

/-- What is collected are the shown sources in the order of their first mention. -/
theorem uniqueSources_eq (config : AppConfig) :
    uniqueSources config = config.shownSources.eraseDups := by
  have indicators := holds_empty.foldl
    (fun _ _ indicator holds => insertIndicator_holds holds indicator) config.indicators
  have cards := indicators.foldl (fun _ _ card holds => insertCard_holds holds card) config.cards
  rw [List.nil_append, ← List.map_eq_flatMap] at cards
  unfold uniqueSources AppConfig.shownSources
  exact cards

/-- The collected sources are the shown ones. -/
theorem mem_uniqueSources {config : AppConfig} {source : Bytes} :
    source ∈ uniqueSources config ↔ source ∈ config.shownSources := by
  rw [uniqueSources_eq, List.mem_eraseDups]

end PixelStatus
