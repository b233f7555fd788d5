/-
# Every shown source is named

The readers of indicators, widgets and cards let no source into the configuration
that is no identifier. So a loaded configuration shows no source with the empty
name, which the store would refuse.
-/

import PixelStatus.Core.ShownSources

namespace PixelStatus

open Logged

/-- All of these are identifiers. -/
def Named (sources : List Bytes) : Prop := ∀ source ∈ sources, isValidIdentifier source = true

variable {round : Rounding} {display : DisplayConfig} {path : Bytes} {item : Members}
  {assigned : Option LayoutBounds}

/-- One valid source. -/
theorem Named.singleton {source : Bytes} (valid : isValidIdentifier source = true) :
    Named [source] := List.forall_mem_singleton.mpr valid

theorem named_nil : Named [] := List.forall_mem_nil _

/-! ## Indicators and widgets -/

/-- A legacy indicator names a valid source. -/
theorem parseIndicatorConfig_named {item : Json} :
    Ensures (OfSome fun indicator : IndicatorConfig => isValidIdentifier indicator.source = true)
      (parseIndicatorConfig item path display) := by
  unfold parseIndicatorConfig
  split
  · apply Ensures.step
    intro _
    apply Ensures.step
    intro id
    apply requiredIdentifier_ensures.bind
    intro source valid
    apply Ensures.step
    intro bounds
    split
    next id source bounds => exact (Ensures.anySome _).bindMap fun _ _ => valid source rfl
    · exact Ensures.pure OfSome.none
  · exact ensures_reject

/-- So does an indicator of a layout. -/
theorem parseLayoutIndicatorConfig_named :
    Ensures (OfSome fun indicator : IndicatorConfig => isValidIdentifier indicator.source = true)
      (parseLayoutIndicatorConfig item path display assigned) := by
  apply Ensures.step
  intro _
  apply Ensures.step
  intro id
  apply requiredIdentifier_ensures.bind
  intro source valid
  apply Ensures.step
  intro bounds
  split
  next id source bounds =>
    apply Ensures.step
    intro _
    split
    · exact Ensures.pure (OfSome.some (valid source rfl))
    · exact Ensures.pure OfSome.none
  · exact Ensures.pure OfSome.none

/-- An identifier that may be left out is valid. -/
theorem optionalIdentifier_ensures {key : String} :
    Ensures (OfSome fun value => isValidIdentifier value = true)
      (optionalIdentifier item key path) := by
  unfold optionalIdentifier
  split
  · exact Ensures.pure OfSome.none
  · split
    next valid => exact Ensures.pure (OfSome.some valid)
    · exact ensures_reject
  · exact ensures_reject

/-- A clock names a valid source or none. -/
theorem parseLayoutClockConfig_named :
    Ensures (OfSome fun clock : LayoutClockConfig => Named (LayoutWidgetConfig.clock clock).sources)
      (parseLayoutClockConfig item path display assigned) := by
  apply Ensures.step
  intro _
  apply Ensures.step
  intro id
  apply Ensures.step
  intro bounds
  apply Ensures.step
  intro timezone
  apply optionalIdentifier_ensures.bind
  intro source valid
  split
  next id bounds timezone =>
    apply Ensures.step
    intro _
    split
    · exact Ensures.pure OfSome.none
    · split
      · exact ensures_reject
      · apply (Ensures.anySome _).bindSome
        · exact Ensures.pure OfSome.none
        intro zone _
        apply (Ensures.anySome _).bindMap
        intro color _
        rw [LayoutWidgetConfig.sources]
        split
        · exact named_nil
        next sourced =>
          cases source with
          | none => exact absurd rfl sourced
          | some source => exact Named.singleton (valid source rfl)
  · exact Ensures.pure OfSome.none

/-- A bar names a valid source. -/
theorem parseLayoutBarConfig_named :
    Ensures (OfSome fun bar : LayoutBarConfig => isValidIdentifier bar.source = true)
      (parseLayoutBarConfig round item path display assigned) := by
  apply Ensures.step
  intro _
  apply Ensures.step
  intro id
  apply requiredIdentifier_ensures.bind
  intro source valid
  apply Ensures.step
  intro bounds
  apply Ensures.step
  intro minimum
  apply Ensures.step
  intro maximum
  split
  next id source bounds minimum maximum =>
    apply Ensures.step
    intro _
    split
    · exact Ensures.pure OfSome.none
    · split
      · exact ensures_reject
      · apply (Ensures.anySome _).bindSome
        · exact Ensures.pure OfSome.none
        intro direction _
        exact (Ensures.anySome _).bindMap fun _ _ => valid source rfl
  · exact Ensures.pure OfSome.none

/-- A list of identifiers names valid ones. -/
theorem distinctIdentifiers_named {items : List Json} {invalid duplicate : Bytes} :
    Ensures (fun kept => Named kept.items) (distinctIdentifiers items path invalid duplicate) := by
  apply Ensures.foldlM (fun kept : Kept (List Bytes) => Named kept.items)
  · exact named_nil
  intro kept item _ named
  unfold keepIdentifier
  split
  next text _ =>
    split
    · exact ensures_addError_bind
    next valid =>
      split
      · exact ensures_addError_bind
      · apply Ensures.pure
        rw [Bool.not_eq_true', Bool.not_eq_false] at valid
        exact List.forall_mem_append.mpr ⟨named, Named.singleton valid⟩
  · exact ensures_addError_bind

/-- A grid names valid sources. -/
theorem parseLayoutStatusGridConfig_named :
    Ensures (OfSome fun grid : LayoutStatusGridConfig => Named grid.sources)
      (parseLayoutStatusGridConfig item path display assigned) := by
  apply Ensures.step
  intro _
  apply Ensures.step
  intro id
  apply Ensures.step
  intro bounds
  apply (Ensures.anySome _).bindSome
  · exact Ensures.pure OfSome.none
  intro sourcesField _
  apply Ensures.step
  intro columns
  apply (Ensures.anySome _).bindSome
  · exact Ensures.pure OfSome.none
  intro gap _
  dsimp only
  split
  · apply Ensures.step
    intro _
    split
    · exact Ensures.pure OfSome.none
    · apply distinctIdentifiers_named.bind
      intro sources named
      split
      · exact ensures_reject
      · split
        · exact Ensures.pure (OfSome.some named)
        · exact Ensures.pure OfSome.none
  · exact Ensures.pure OfSome.none

/-- So does an aggregate. -/
theorem parseLayoutAggregateStatusConfig_named :
    Ensures (OfSome fun aggregate : LayoutAggregateStatusConfig => Named aggregate.sources)
      (parseLayoutAggregateStatusConfig item path display assigned) := by
  apply Ensures.step
  intro _
  apply Ensures.step
  intro id
  apply Ensures.step
  intro bounds
  apply (Ensures.anySome _).bindSome
  · exact Ensures.pure OfSome.none
  intro sourcesField _
  apply (Ensures.anySome _).bindSome
  · exact Ensures.pure OfSome.none
  intro priorityField _
  apply (Ensures.anySome _).bindSome
  · exact Ensures.pure OfSome.none
  intro colorsField _
  dsimp only
  split
  · apply Ensures.step
    intro _
    split
    · exact Ensures.pure OfSome.none
    · apply distinctIdentifiers_named.bind
      intro sources named
      apply Ensures.step
      intro priority
      apply Ensures.step
      intro colors
      apply Ensures.step
      intro _
      apply (Ensures.anySome _).bindSome
      · exact Ensures.pure OfSome.none
      intro defaultColor _
      dsimp only
      split
      · exact Ensures.pure (OfSome.some named)
      · exact Ensures.pure OfSome.none
  · exact Ensures.pure OfSome.none

/-- So does every widget. -/
theorem parseLayoutWidget_named :
    WidgetPromise round display fun widget => Named widget.sources := by
  intro item path assigned _
  apply parseLayoutWidget_each
  simp only [widgetTypes, List.forall_mem_cons]
  refine ⟨?_, ?_, ?_, ?_, ?_, ?_, List.forall_mem_nil _⟩
  · exact fun item path => parseLayoutIndicatorConfig_named.bindMap fun _ => Named.singleton
  · exact fun item path => parseLayoutClockConfig_named.bindMap fun _ named => named
  · exact fun item path => parseLayoutBarConfig_named.bindMap fun _ => Named.singleton
  · exact fun item path => parseLayoutStatusGridConfig_named.bindMap fun _ named => named
  · exact fun item path => parseLayoutAggregateStatusConfig_named.bindMap fun _ named => named
  · exact fun item path => (Ensures.anySome _).bindMap fun _ _ => named_nil

/-! ## Cards -/

/-- The sources of a layout are those of its widgets. -/
theorem named_layout {widgets : List LayoutWidgetConfig}
    (named : ∀ widget ∈ widgets, Named widget.sources) :
    Named (CardContentConfig.layout { widgets }).sources := by
  intro source asked
  obtain ⟨widget, member, asks⟩ := List.mem_flatMap.mp asked
  exact named widget member source asks

/-- The sources of indicators, one by one. -/
theorem named_indicators {indicators : List IndicatorConfig}
    (named : ∀ indicator ∈ indicators, isValidIdentifier indicator.source = true) :
    Named (CardContentConfig.indicators { indicators }).sources := by
  intro source asked
  obtain ⟨widget, member, asks⟩ := List.mem_flatMap.mp asked
  obtain ⟨indicator, listed, rfl⟩ := List.mem_map.mp member
  obtain rfl := List.mem_singleton.mp asks
  exact named indicator listed

theorem parseBitmapCard_named : Ensures (OfSome fun content => Named content.sources)
    (parseBitmapCard item path display) := by
  apply Ensures.step
  intro _
  apply (Ensures.anySome _).bindSome
  · exact Ensures.pure OfSome.none
  intro paletteField _
  apply Ensures.step
  intro palette
  dsimp only
  split
  · split
    · exact ensures_reject
    · apply Ensures.step
      intro pixels
      split
      · exact Ensures.pure (OfSome.some named_nil)
      · exact Ensures.pure OfSome.none
  · exact ensures_reject

theorem parseClockCard_named : Ensures (OfSome fun content => Named content.sources)
    (parseClockCard item path display) := by
  apply Ensures.step
  intro _
  dsimp only
  split
  · exact ensures_reject
  · apply Ensures.step
    intro localColor
    apply Ensures.step
    intro utcColor
    split
    · exact Ensures.pure (OfSome.some named_nil)
    · exact Ensures.pure OfSome.none

/-- An indicator card names valid sources. -/
theorem parseIndicatorCard_named : Ensures (OfSome fun content => Named content.sources)
    (parseIndicatorCard item path display) := by
  apply Ensures.step
  intro _
  apply (Ensures.anySome _).bindSome
  · exact Ensures.pure OfSome.none
  intro items _
  apply (collectDistinct_ensures fun _ _ => parseIndicatorConfig_named).bind
  intro indicators collected
  split
  · exact Ensures.pure OfSome.none
  · exact Ensures.pure (OfSome.some (named_indicators collected.each))

/-- So does a layout card. -/
theorem parseLayoutCard_named (inside : display.bounds.Inside display) :
    Ensures (OfSome fun content => Named content.sources)
      (parseLayoutCard round item path display) := by
  apply Ensures.step
  intro _
  split
  · apply (Ensures.anySome _).bindSome
    · exact Ensures.pure OfSome.none
    intro items _
    apply (collectDistinct_ensures fun _ _ => parseLayoutWidget_named _ _ _ fun _ absent =>
      absurd absent (Option.not_mem_none _)).bind
    intro widgets collected
    split
    · exact Ensures.pure OfSome.none
    · exact Ensures.pure (OfSome.some (named_layout collected.each))
  · unfold parseLayoutRoot
    dsimp only
    split
    · split
      · exact ensures_reject
      · have start : LayoutScan.Each (fun widget => Named widget.sources) {} :=
          fun _ member => nomatch member
        apply (parseLayoutNode_reads parseLayoutWidget_named _ _ _ _ _ inside start).bind
        intro result named
        split
        · exact Ensures.pure OfSome.none
        · split
          · exact ensures_reject
          · exact Ensures.pure (OfSome.some (named_layout named))
    · exact ensures_reject
  · exact ensures_reject

/-- So does every card. -/
theorem parseCard_named (inside : display.bounds.Inside display) :
    CardPromise round display fun card => Named card.content.sources := by
  have contents (item : Members) (path type : Bytes) :
      Ensures (OfSome fun content => Named content.sources)
        (parseCardContent round item path display type) := by
    have each : ∀ entry ∈ cardTypes round,
        Ensures (OfSome fun content => Named content.sources) (entry.2 item path display) := by
      simp only [cardTypes, List.forall_mem_cons]
      exact ⟨parseBitmapCard_named, parseClockCard_named, parseIndicatorCard_named,
        parseLayoutCard_named inside, List.forall_mem_nil _⟩
    unfold parseCardContent
    split
    next parse known => exact each _ (List.mem_of_find?_eq_some known)
    · exact Ensures.step fun _ => ensures_reject
  intro item path
  unfold parseCard
  split
  · apply Ensures.step
    intro id
    apply Ensures.step
    intro type
    apply Ensures.step
    intro hold
    apply Ensures.step
    intro transition
    split
    · exact (contents _ _ _).bindMap fun _ named => named
    · exact Ensures.pure OfSome.none
  · exact ensures_reject

/-! ## The document -/

/-- Whatever is shown names valid sources. -/
theorem parseContents_named {root : Members} {statuses : Statuses}
    (inside : display.bounds.Inside display) :
    Ensures (fun contents =>
        (∀ indicator ∈ contents.1, isValidIdentifier indicator.source = true) ∧
          ∀ card ∈ contents.2, Named card.content.sources)
      (parseContents round root display statuses) := by
  unfold parseContents
  split
  next indicators _ _ =>
    have named : Ensures (fun indicators : List IndicatorConfig =>
        ∀ indicator ∈ indicators, isValidIdentifier indicator.source = true)
        (parseIndicators indicators display) := by
      unfold parseIndicators
      split
      · split
        · exact ensures_addError_bind
        · split
          · exact ensures_addError_bind
          · apply (collectDistinct_ensures fun _ _ => parseIndicatorConfig_named).mono
            exact fun indicators collected => collected.each
      · exact ensures_addError_bind
    apply named.bind
    exact fun indicators named => Ensures.pure ⟨named, List.forall_mem_nil _⟩
  · apply (parseDeck_ensures (parseCard_named inside)).bind
    exact fun cards named => Ensures.pure ⟨List.forall_mem_nil _, named⟩
  · exact ensures_addError_bind

/-- So does a configuration that is read. -/
theorem parseConfig_named {platform : Platform} {root : Members} :
    Ensures (fun config => Named config.shownSources) (parseConfig platform round root) := by
  apply Ensures.step
  intro _
  apply Ensures.step
  intro schemaVersion
  apply parseDisplay_ensures.bind
  intro display inside
  apply Ensures.step
  intro statuses
  apply Ensures.step
  intro monitors
  apply (parseContents_named inside).bind
  rintro contents ⟨indicators, cards⟩
  apply Ensures.pure
  intro source shown
  rcases List.mem_append.mp shown with alone | carded
  · obtain ⟨indicator, member, rfl⟩ := List.mem_map.mp alone
    exact indicators indicator member
  · obtain ⟨card, member, asked⟩ := List.mem_flatMap.mp carded
    exact cards card member source asked

/-- Every source that a loaded configuration shows is an identifier. -/
theorem named_of_loadConfigFile {platform : Platform} {parse : Bytes → Option Json} {path : Bytes}
    {file : ConfigFile} {config : AppConfig}
    (loaded : (loadConfigFile platform round parse path file).config = some config) :
    Named config.shownSources := by
  obtain ⟨root, silent, rfl⟩ := parseConfig_of_loadConfigFile loaded
  exact parseConfig_named.value silent

end PixelStatus
