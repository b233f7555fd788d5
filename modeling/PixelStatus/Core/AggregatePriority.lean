/-
# The priority of an aggregate

An aggregate shows the colour of the first status in its list that one of its
sources has, with an expired source counted as stale and a missing one as
unknown. The choice is the least rank of the sources' statuses.
-/

import PixelStatus.Core.Config.ReadCards
import PixelStatus.Core.RenderAccepted
import PixelStatus.Core.WidgetLayers
import PixelStatus.Logic.LeastRank

namespace PixelStatus

section

variable {states : StateStore} {now : TimePoint} {priority : List Bytes}

/-- A source has its stored status, unless that has expired or there is none. -/
theorem statusOf_eq (source : Bytes) : statusOf states now source =
    ((states.states.lookup source).map fun entry =>
      if entry.state.expiredAt now then staleStatus else entry.state.status).getD
        (bytes "unknown") := by
  unfold statusOf StateStore.resolve
  simp only [Option.map_map, Function.comp_def, resolveEntry_effectiveStatus]

/-- One source lowers the choice to the rank of its status. -/
theorem selectPriority_min {best : Nat} {report : RenderReport} {source : Bytes}
    (bounded : best ≤ priority.length) :
    (selectPriority states now priority (best, report) source).1 =
      min best (priority.idxOf (statusOf states now source)) := by
  unfold selectPriority
  dsimp only
  rw [← statusOf, List.idxOf_eq_getD_idxOf?]
  cases priority.idxOf? (statusOf states now source) with
  | none => exact (min_eq_left bounded).symm
  | some found => rfl

/-- The loop over the sources finds the least place in the order. -/
theorem foldl_selectPriority {sources : List Bytes} {best : Nat} {report : RenderReport}
    (bounded : best ≤ priority.length) :
    (sources.foldl (selectPriority states now priority) (best, report)).1 =
      leastRank (fun source => priority.idxOf (statusOf states now source)) best sources := by
  induction sources generalizing best report with
  | nil => rfl
  | cons source sources ih =>
      rw [List.foldl_cons, LeastRank.cons, ← @selectPriority_min _ _ _ _ report _ bounded]
      exact ih ((selectPriority_min bounded).trans_le ((min_le_left _ _).trans bounded))

end

/-- The choice is the least rank. -/
theorem selectedPriority_eq (states : StateStore) (now : TimePoint)
    (aggregate : LayoutAggregateStatusConfig) : selectedPriority states now aggregate =
      leastRank (fun source => aggregate.priority.idxOf (statusOf states now source))
        aggregate.priority.length aggregate.sources :=
  foldl_selectPriority le_rfl

/-- A status is the effective one of some source. -/
def InForce (states : StateStore) (now : TimePoint) (sources : List Bytes) (status : Bytes) :
    Prop :=
  ∃ source ∈ sources, statusOf states now source = status

section

variable {states : StateStore} {now : TimePoint} {aggregate : LayoutAggregateStatusConfig}

/-- The first status of the list that is in force is chosen. -/
theorem selectedPriority_of_first {earlier later : List Bytes} {status : Bytes}
    (priority : aggregate.priority = earlier ++ status :: later)
    (first : InForce states now aggregate.sources status)
    (none : ∀ other ∈ earlier, ¬ InForce states now aggregate.sources other) :
    selectedPriority states now aggregate = earlier.length := by
  rw [selectedPriority_eq]
  apply le_antisymm
  · obtain ⟨source, member, rfl⟩ := first
    have unlisted : statusOf states now source ∉ earlier :=
      fun listed => none _ listed ⟨source, member, rfl⟩
    have rank : aggregate.priority.idxOf (statusOf states now source) = earlier.length := by
      rw [priority, List.idxOf_append_of_notMem unlisted, List.idxOf_cons_self, Nat.add_zero]
    exact rank ▸ LeastRank.le_rank member
  · apply LeastRank.le_iff.mpr
    rw [priority]
    refine ⟨by simp, fun source member => ?_⟩
    have unlisted : statusOf states now source ∉ earlier :=
      fun listed => none _ listed ⟨source, member, rfl⟩
    rw [List.idxOf_append_of_notMem unlisted]
    exact Nat.le_add_right _ _

/-- No status is chosen when none of the list is in force. -/
theorem selectedPriority_of_none
    (none : ∀ status ∈ aggregate.priority, ¬ InForce states now aggregate.sources status) :
    selectedPriority states now aggregate = aggregate.priority.length := by
  rw [selectedPriority_eq]
  apply le_antisymm LeastRank.le_limit
  apply LeastRank.le_iff.mpr
  refine ⟨le_rfl, fun source member => ?_⟩
  have unlisted : statusOf states now source ∉ aggregate.priority :=
    fun listed => none _ listed ⟨source, member, rfl⟩
  exact (List.idxOf_eq_length unlisted).ge

end

/-- The colour with which an aggregate fills its rectangle. -/
def aggregateFill (states : StateStore) (now : TimePoint)
    (aggregate : LayoutAggregateStatusConfig) : Option Rgb :=
  aggregateColor aggregate (selectedPriority states now aggregate)

/-- How an aggregate chooses its colour. -/
structure AggregateLaw (aggregate : LayoutAggregateStatusConfig) : Prop where
  first : ∀ states now earlier status later, aggregate.priority = earlier ++ status :: later →
    InForce states now aggregate.sources status →
    (∀ other ∈ earlier, ¬ InForce states now aggregate.sources other) →
    ∃ color, aggregate.colors.lookup status = some color ∧
      aggregateFill states now aggregate = some color
  default : ∀ states now,
    (∀ status ∈ aggregate.priority, ¬ InForce states now aggregate.sources status) →
    aggregateFill states now aggregate = some aggregate.defaultColor
  unordered : ∀ states now sources, (∀ source, source ∈ sources ↔ source ∈ aggregate.sources) →
    aggregateFill states now { aggregate with sources } = aggregateFill states now aggregate
  unlisted : ∀ states now (keep : Bytes → Bool),
    (∀ source ∈ aggregate.sources, keep source = false →
      statusOf states now source ∉ aggregate.priority) →
    aggregateFill states now { aggregate with sources := aggregate.sources.filter keep } =
      aggregateFill states now aggregate
  moved : ∀ states now otherStates otherNow,
    (∀ source ∈ aggregate.sources, aggregate.priority.idxOf (statusOf otherStates otherNow source) ≤
      aggregate.priority.idxOf (statusOf states now source)) →
    selectedPriority otherStates otherNow aggregate ≤ selectedPriority states now aggregate
  added : ∀ states now sources, aggregate.sources ⊆ sources →
    selectedPriority states now { aggregate with sources } ≤ selectedPriority states now aggregate

variable {display : DisplayConfig} {aggregate : LayoutAggregateStatusConfig}

/-- An aggregate that fits obeys the law. -/
theorem aggregateLaw_of_fits (fits : aggregate.Fits display) : AggregateLaw aggregate where
  first states now earlier status later priority inForce none := by
    have listed : status ∈ aggregate.priority := by simp [priority]
    obtain ⟨color, colored⟩ := Option.isSome_iff_exists.mp
      (AList.lookup_isSome.mpr (fits.colored status listed))
    refine ⟨color, colored, ?_⟩
    rw [aggregateFill, selectedPriority_of_first priority inForce none, aggregateColor, priority,
      List.getElem?_append_right le_rfl, Nat.sub_self]
    exact colored
  default states now none := by
    rw [aggregateFill, selectedPriority_of_none none, aggregateColor,
      List.getElem?_eq_none le_rfl]
  unordered states now sources same := by
    have chosen : selectedPriority states now { aggregate with sources } =
        selectedPriority states now aggregate := by
      rw [selectedPriority_eq, selectedPriority_eq]
      exact LeastRank.congr same
    rw [aggregateFill, chosen]
    rfl
  unlisted states now keep idle := by
    have chosen : selectedPriority states now
        { aggregate with sources := aggregate.sources.filter keep } =
          selectedPriority states now aggregate := by
      rw [selectedPriority_eq, selectedPriority_eq]
      apply LeastRank.filter
      exact fun source member dropped => (List.idxOf_eq_length (idle source member dropped)).ge
    rw [aggregateFill, chosen]
    rfl
  moved states now otherStates otherNow earlier := by
    rw [selectedPriority_eq, selectedPriority_eq]
    exact LeastRank.mono fun source member => ⟨source, member, earlier source member⟩
  added states now sources more := by
    rw [selectedPriority_eq, selectedPriority_eq]
    exact LeastRank.mono fun source member => ⟨source, more member, le_rfl⟩

/-- Drawing an aggregate fills its rectangle with the chosen colour. -/
theorem renderAggregateStatus_fills (fits : aggregate.Fits display) {canvas : Canvas}
    (sound : canvas.Sound display) (states : StateStore) (now : TimePoint) :
    ∃ color drawn, aggregateFill states now aggregate = some color ∧
      renderAggregateStatus states now aggregate canvas = .ok drawn ∧
      Frame.Paints (rectangle aggregate.toLayoutBounds color) canvas.output drawn.output := by
  obtain ⟨color, chosen⟩ := aggregateColor_isSome fits (selectedPriority states now aggregate)
  obtain ⟨drawn, succeeds, -, paints⟩ := (renderAggregateStatus_draws aggregate).paints
    (renderAggregateStatus_reaches sound fits)
  refine ⟨color, drawn, chosen, succeeds, ?_⟩
  rw [aggregateStatusLayer, chosen] at paints
  exact paints

variable {platform : Platform} {round : Rounding} {parse : Bytes → Option Json} {path : Bytes}
  {file : ConfigFile} {config : AppConfig}

/-- Every aggregate of a loaded configuration fills its rectangle with the colour
of the first status in its list that is in force, and with its default when there
is none. Sources count by their effective statuses alone. -/
theorem aggregate_law
    (loaded : (loadConfigFile platform round parse path file).config = some config)
    (shown : .aggregateStatus aggregate ∈ config.widgets) :
    AggregateLaw aggregate ∧
    (∀ states now (canvas : Canvas), canvas.Sound config.display →
      ∃ color drawn, aggregateFill states now aggregate = some color ∧
        renderAggregateStatus states now aggregate canvas = .ok drawn ∧
        Frame.Paints (rectangle aggregate.toLayoutBounds color) canvas.output drawn.output) ∧
    ∀ (states : StateStore) now source, statusOf states now source =
      ((states.states.lookup source).map fun entry =>
        if entry.state.expiredAt now then staleStatus else entry.state.status).getD
          (bytes "unknown") := by
  have fits : aggregate.Fits config.display :=
    ((sound_of_loadConfigFile loaded).widget shown).fits
  refine ⟨aggregateLaw_of_fits fits, ?_, fun states now source => statusOf_eq source⟩
  exact fun states now canvas sound => renderAggregateStatus_fills fits sound states now

/-- The aggregate of the panel obeys the law. -/
theorem aggregate_law_panel : ∃ aggregate, .aggregateStatus aggregate ∈ panelConfig.widgets ∧
    AggregateLaw aggregate := by
  obtain ⟨widget, shown, kind⟩ := @exists_panel_widget 4 (by decide)
  cases widget with
  | aggregateStatus aggregate =>
      exact ⟨aggregate, shown, (aggregate_law (@panelDocument_loads []) shown).1⟩
  | indicator | clock | bar | statusGrid | bitmap => cases kind

end PixelStatus
