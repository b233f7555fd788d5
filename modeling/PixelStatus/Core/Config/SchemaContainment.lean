/-
# The schema and the loader on explicit widgets

Two recognizers of one language, written by hand. Every widget that the loader
reads passes the schema, but for the field that the schema of a clock leaves
out.
-/

import PixelStatus.Core.Config.SchemaReaders

namespace PixelStatus

open Logged

namespace LayoutWidgetSchema

open Schema

variable {item : Members} {path : Bytes} {display : DisplayConfig} {round : Rounding}

/-! ## Widgets -/

/-- An object whose fields are those of a widget type, as its schema lists them. -/
theorem closed_of_written {needed : List String} {known : List (String × Schema)}
    {own : List String}
    (fields : ∀ field ∈ item, field.1 ∈ (widgetFields own none).map bytes)
    (covered : (widgetFields own none).map bytes ⊆ known.map fun property => bytes property.1)
    (passes : ∀ property ∈ known, Passes item property.1 property.2)
    (has : ∀ name ∈ needed, (item.field name).isSome = true) :
    closedObject needed known (.object item) = true :=
  closedObject_of (fun field member => covered (fields field member)) passes has

/-- The fields of an object that has no such field are the others. -/
theorem fields_without {own : List String} {absent : String}
    (fields : ∀ field ∈ item, field.1 ∈ own.map bytes) (missing : item.field absent = none) :
    ∀ field ∈ item, field.1 ∈ (own.filter (· ≠ absent)).map bytes := by
  intro field member
  obtain ⟨name, listed, same⟩ := List.mem_map.mp (fields field member)
  refine List.mem_map.mpr ⟨name, List.mem_filter.mpr ⟨listed, decide_eq_true ?_⟩, same⟩
  rintro rfl
  have apart := List.lookup_eq_none_iff.mp missing field member
  exact absurd same (bne_iff_ne.mp apart)

section

variable (id : Written item "id" identifier)
include id

/-- An indicator with fields of these kinds passes its schema. -/
theorem indicatorSchema_of
    (fields : ∀ field ∈ item, field.1 ∈ (widgetFields ["source"] none).map bytes)
    (type : Written item "type" (textConst "indicator"))
    (source : Written item "source" identifier) (sides : RectangleWritten item 1 1) :
    indicatorSchema (.object item) = true := by
  apply closed_of_written fields (by decide)
  · simp only [rectangle, List.cons_append, List.nil_append, List.forall_mem_cons]
    exact ⟨id.passes, type.passes, source.passes, sides.x.passes, sides.y.passes,
      sides.width.passes, sides.height.passes, List.forall_mem_nil _⟩
  · simp only [List.forall_mem_cons]
    exact ⟨id.has, type.has, source.has, sides.x.has, sides.y.has, sides.width.has,
      sides.height.has, List.forall_mem_nil _⟩

/-- The loader knows one field of a clock more than the schema. -/
theorem clockSchema_of
    (fields : ∀ field ∈ item,
      field.1 ∈ (widgetFields ["timezone", "color", "source"] none).map bytes)
    (missing : item.field "source" = none) (type : Written item "type" (textConst "clock"))
    (timezone : Written item "timezone" (textEnum ["local", "utc"]))
    (rgb : Passes item "color" color) (sides : RectangleWritten item 15 7) :
    clockSchema (.object item) = true := by
  apply closedObject_of
  · intro field member
    have names : ∀ name ∈ ((widgetFields ["timezone", "color", "source"] none).filter
        (· ≠ "source")).map bytes, name ∈ ["id", "type", "timezone", "color", "x", "y",
          "width", "height"].map bytes := by decide
    exact names _ (fields_without fields missing field member)
  · simp only [rectangle, List.cons_append, List.nil_append, List.forall_mem_cons]
    exact ⟨id.passes, type.passes, timezone.passes, rgb, sides.x.passes, sides.y.passes,
      sides.width.passes, sides.height.passes, List.forall_mem_nil _⟩
  · simp only [List.forall_mem_cons]
    exact ⟨id.has, type.has, timezone.has, sides.x.has, sides.y.has, sides.width.has,
      sides.height.has, List.forall_mem_nil _⟩

/-- A bar with fields of these kinds passes its schema. -/
theorem barSchema_of
    (fields : ∀ field ∈ item, field.1 ∈ (widgetFields
      ["source", "direction", "minimum", "maximum", "track_color"] none).map bytes)
    (type : Written item "type" (textConst "bar")) (source : Written item "source" identifier)
    (direction : Passes item "direction" (textEnum ["right", "left", "up", "down"]))
    (minimum : Passes item "minimum" isNumber) (maximum : Passes item "maximum" isNumber)
    (rgb : Passes item "track_color" color) (sides : RectangleWritten item 1 1) :
    barSchema (.object item) = true := by
  apply closed_of_written fields (by decide)
  · simp only [rectangle, List.cons_append, List.nil_append, List.forall_mem_cons]
    exact ⟨id.passes, type.passes, source.passes, sides.x.passes, sides.y.passes,
      sides.width.passes, sides.height.passes, direction, minimum, maximum, rgb,
      List.forall_mem_nil _⟩
  · simp only [List.forall_mem_cons]
    exact ⟨id.has, type.has, source.has, sides.x.has, sides.y.has, sides.width.has,
      sides.height.has, List.forall_mem_nil _⟩

/-- A status grid with fields of these kinds passes its schema. -/
theorem statusGridSchema_of
    (fields : ∀ field ∈ item,
      field.1 ∈ (widgetFields ["sources", "columns", "gap"] none).map bytes)
    (type : Written item "type" (textConst "status_grid"))
    (sources : Written item "sources"
      (allOf [isArray, minItems 1, maxItems 1024, items identifier]))
    (columns : Written item "columns" (integerBetween 1 1024))
    (gap : Passes item "gap" (integerBetween 0 256)) (sides : RectangleWritten item 1 1) :
    statusGridSchema (.object item) = true := by
  apply closed_of_written fields (by decide)
  · simp only [rectangle, List.cons_append, List.nil_append, List.forall_mem_cons]
    exact ⟨id.passes, type.passes, sources.passes, columns.passes, gap, sides.x.passes,
      sides.y.passes, sides.width.passes, sides.height.passes, List.forall_mem_nil _⟩
  · simp only [List.forall_mem_cons]
    exact ⟨id.has, type.has, sources.has, columns.has, sides.x.has, sides.y.has,
      sides.width.has, sides.height.has, List.forall_mem_nil _⟩

/-- An aggregate with fields of these kinds passes its schema. -/
theorem aggregateStatusSchema_of
    (fields : ∀ field ∈ item, field.1 ∈ (widgetFields
      ["sources", "priority", "colors", "default_color"] none).map bytes)
    (type : Written item "type" (textConst "aggregate_status"))
    (sources : Written item "sources"
      (allOf [isArray, minItems 1, maxItems 1024, uniqueItems, items identifier]))
    (priority : Written item "priority"
      (allOf [isArray, minItems 1, maxItems 256, uniqueItems, items identifier]))
    (colors : Written item "colors" (allOf [isObject, minProperties 1, maxProperties 256,
      propertyNames identifier, properties [] color]))
    (rgb : Passes item "default_color" color) (sides : RectangleWritten item 1 1) :
    aggregateStatusSchema (.object item) = true := by
  apply closed_of_written fields (by decide)
  · simp only [rectangle, List.cons_append, List.nil_append, List.forall_mem_cons]
    exact ⟨id.passes, type.passes, sources.passes, priority.passes, colors.passes, rgb,
      sides.x.passes, sides.y.passes, sides.width.passes, sides.height.passes,
      List.forall_mem_nil _⟩
  · simp only [List.forall_mem_cons]
    exact ⟨id.has, type.has, sources.has, priority.has, colors.has, sides.x.has,
      sides.y.has, sides.width.has, sides.height.has, List.forall_mem_nil _⟩

/-- A bitmap with fields of these kinds passes its schema. -/
theorem bitmapSchema_of
    (fields : ∀ field ∈ item, field.1 ∈ (widgetFields ["palette", "pixels"] none).map bytes)
    (type : Written item "type" (textConst "bitmap"))
    (palette : Written item "palette" (allOf [isObject, minProperties 1, maxProperties 32,
      propertyNames (allOf [minLength 1, maxLength 1, pattern printablePattern]),
      properties [] color]))
    (pixels : Written item "pixels" (allOf [isArray, minItems 1, maxItems 256,
      items (allOf [isString, minLength 1, maxLength 256])]))
    (sides : RectangleWritten item 1 1) : bitmapSchema (.object item) = true := by
  apply closed_of_written fields (by decide)
  · simp only [rectangle, List.cons_append, List.nil_append, List.forall_mem_cons]
    exact ⟨id.passes, type.passes, palette.passes, pixels.passes, sides.x.passes,
      sides.y.passes, sides.width.passes, sides.height.passes, List.forall_mem_nil _⟩
  · simp only [List.forall_mem_cons]
    exact ⟨id.has, type.has, palette.has, pixels.has, sides.x.has, sides.y.has,
      sides.width.has, sides.height.has, List.forall_mem_nil _⟩

end

/-! ## Readers of widgets -/

/-- An indicator that is read passes its schema. -/
theorem parseLayoutIndicatorConfig_passes
    (typed : item.field "type" = some (.string (bytes "indicator"))) :
    Ensures (OfSome fun _ => indicatorSchema (.object item) = true)
      (parseLayoutIndicatorConfig item path display none) := by
  have type : Written item "type" (textConst "indicator") :=
    Written.of_field typed (const_string.mpr rfl)
  apply rejectUnknownFields_ensures.bind
  intro _ fields
  apply requiredIdentifier_written.bind
  intro id hid
  apply requiredIdentifier_written.bind
  intro source hsource
  apply parseLayoutBounds_read.bind
  intro bounds hbounds
  split
  next id source bounds =>
    have sides := (hbounds bounds rfl).written_one
    apply Ensures.step
    intro valid
    split
    · apply Ensures.pure
      apply OfSome.some
      exact indicatorSchema_of (hid id rfl) fields type (hsource source rfl) sides
    · exact Ensures.pure OfSome.none
  · exact Ensures.pure OfSome.none

/-- A clock without a source that is read passes its schema. -/
theorem parseLayoutClockConfig_passes
    (typed : item.field "type" = some (.string (bytes "clock")))
    (missing : item.field "source" = none) :
    Ensures (OfSome fun _ => clockSchema (.object item) = true)
      (parseLayoutClockConfig item path display none) := by
  have type : Written item "type" (textConst "clock") :=
    Written.of_field typed (const_string.mpr rfl)
  apply rejectUnknownFields_ensures.bind
  intro _ fields
  apply requiredIdentifier_written.bind
  intro id hid
  apply parseLayoutBounds_read.bind
  intro bounds hbounds
  apply requiredString_read.bind
  intro timezone htimezone
  apply Ensures.step
  intro source
  split
  next id bounds timezone =>
    apply Ensures.step
    intro valid
    split
    · exact Ensures.pure OfSome.none
    · split
      · exact ensures_reject
      next large =>
        rw [not_or, Nat.not_lt, Nat.not_lt] at large
        have sides := @RectangleRead.written _ _ 15 7 (hbounds bounds rfl)
          (by exact_mod_cast large.1) (by exact_mod_cast large.2)
        apply clockZone_known.bindSome
        · exact Ensures.pure OfSome.none
        intro zone hzone
        have zone : Written item "timezone" (textEnum ["local", "utc"]) :=
          Written.of_field (htimezone timezone rfl) (textEnum_passes hzone)
        apply optionalColor_passes.bindMap
        intro rgb color
        exact clockSchema_of (hid id rfl) fields missing type zone color sides
  · exact Ensures.pure OfSome.none

/-- A bar that is read passes its schema. -/
theorem parseLayoutBarConfig_passes
    (typed : item.field "type" = some (.string (bytes "bar"))) :
    Ensures (OfSome fun _ => barSchema (.object item) = true)
      (parseLayoutBarConfig round item path display none) := by
  have type : Written item "type" (textConst "bar") :=
    Written.of_field typed (const_string.mpr rfl)
  apply rejectUnknownFields_ensures.bind
  intro _ fields
  apply requiredIdentifier_written.bind
  intro id hid
  apply requiredIdentifier_written.bind
  intro source hsource
  apply parseLayoutBounds_read.bind
  intro bounds hbounds
  apply optionalFiniteNumber_passes.bind
  intro minimum hminimum
  apply optionalFiniteNumber_passes.bind
  intro maximum hmaximum
  split
  next id source bounds minimum maximum =>
    have sides := (hbounds bounds rfl).written_one
    apply Ensures.step
    intro valid
    split
    · exact Ensures.pure OfSome.none
    · split
      · exact ensures_reject
      · apply barDirection_passes.bindSome
        · exact Ensures.pure OfSome.none
        intro bar direction
        apply optionalColor_passes.bindMap
        intro rgb color
        exact barSchema_of (hid id rfl) fields type (hsource source rfl) direction
          (hminimum minimum rfl) (hmaximum maximum rfl) color sides
  · exact Ensures.pure OfSome.none

/-- A status grid that is read passes its schema. -/
theorem parseLayoutStatusGridConfig_passes
    (typed : item.field "type" = some (.string (bytes "status_grid"))) :
    Ensures (OfSome fun _ => statusGridSchema (.object item) = true)
      (parseLayoutStatusGridConfig item path display none) := by
  have type : Written item "type" (textConst "status_grid") :=
    Written.of_field typed (const_string.mpr rfl)
  apply rejectUnknownFields_ensures.bind
  intro _ fields
  apply requiredIdentifier_written.bind
  intro id hid
  apply parseLayoutBounds_read.bind
  intro bounds hbounds
  apply boundedArray_read.bindSome
  · exact Ensures.pure OfSome.none
  rintro values ⟨found, nonempty, few⟩
  apply (boundedSize_read.and boundedSize_ensures).bind
  intro columns hcolumns
  apply optionalSize_passes.bindSome
  · exact Ensures.pure OfSome.none
  intro size gap
  dsimp only
  split
  next id bounds columns =>
    have sides := (hbounds bounds rfl).written_one
    have counted := hcolumns.2 columns rfl
    have columns : Written item "columns" (integerBetween 1 1024) :=
      (hcolumns.1 columns rfl).written (by exact_mod_cast counted.1)
        (by exact_mod_cast counted.2.trans few)
    apply Ensures.step
    intro valid
    split
    · exact Ensures.pure OfSome.none
    · apply distinctIdentifiers_read.bind
      rintro kept ⟨same, -, each⟩
      have sources := identifiers_written found nonempty few same each
      split
      · exact ensures_reject
      · split
        · apply Ensures.pure
          apply OfSome.some
          exact statusGridSchema_of (hid id rfl) fields type sources columns gap sides
        · exact Ensures.pure OfSome.none
  · exact Ensures.pure OfSome.none

/-- An aggregate that is read passes its schema. -/
theorem parseLayoutAggregateStatusConfig_passes
    (typed : item.field "type" = some (.string (bytes "aggregate_status"))) :
    Ensures (OfSome fun _ => aggregateStatusSchema (.object item) = true)
      (parseLayoutAggregateStatusConfig item path display none) := by
  have type : Written item "type" (textConst "aggregate_status") :=
    Written.of_field typed (const_string.mpr rfl)
  apply rejectUnknownFields_ensures.bind
  intro _ fields
  apply requiredIdentifier_written.bind
  intro id hid
  apply parseLayoutBounds_read.bind
  intro bounds hbounds
  apply boundedArray_read.bindSome
  · exact Ensures.pure OfSome.none
  rintro sourceValues ⟨foundSources, someSources, fewSources⟩
  apply boundedArray_read.bindSome
  · exact Ensures.pure OfSome.none
  rintro priorityValues ⟨foundPriority, somePriority, fewPriority⟩
  apply boundedObject_read.bindSome
  · exact Ensures.pure OfSome.none
  rintro entries ⟨foundColors, someColors, fewColors⟩
  dsimp only
  split
  next id bounds =>
    have sides := (hbounds bounds rfl).written_one
    apply Ensures.step
    intro valid
    split
    · exact Ensures.pure OfSome.none
    · apply distinctIdentifiers_read.bind
      rintro kept ⟨same, distinct, each⟩
      have sources := distinct_written foundSources someSources fewSources same distinct each
      apply distinctIdentifiers_read.bind
      rintro kept ⟨same, distinct, each⟩
      have priority :=
        distinct_written foundPriority somePriority fewPriority same distinct each
      apply parseStatusColors_read.bind
      intro kept each
      have colors := colors_written foundColors someColors fewColors each
      apply Ensures.step
      intro _
      apply optionalColor_passes.bindSome
      · exact Ensures.pure OfSome.none
      intro rgb default
      dsimp only
      split
      · apply Ensures.pure
        apply OfSome.some
        exact aggregateStatusSchema_of (hid id rfl) fields type sources priority colors default
          sides
      · exact Ensures.pure OfSome.none
  · exact Ensures.pure OfSome.none

/-- A bitmap that is read passes its schema. -/
theorem parseLayoutBitmapConfig_passes
    (typed : item.field "type" = some (.string (bytes "bitmap"))) :
    Ensures (OfSome fun _ => bitmapSchema (.object item) = true)
      (parseLayoutBitmapConfig item path display none) := by
  have type : Written item "type" (textConst "bitmap") :=
    Written.of_field typed (const_string.mpr rfl)
  apply rejectUnknownFields_ensures.bind
  intro _ fields
  apply requiredIdentifier_written.bind
  intro id hid
  apply parseLayoutBounds_read.bind
  intro bounds hbounds
  split
  next id bounds =>
    have read := hbounds bounds rfl
    apply Ensures.step
    intro valid
    split
    · exact Ensures.pure OfSome.none
    · apply boundedObject_read.bindSome
      · exact Ensures.pure OfSome.none
      rintro entries ⟨foundPalette, somePalette, fewPalette⟩
      apply (parsePalette_read.and parsePalette_printable).bind
      rintro kept ⟨each, printable⟩
      have palette := colors_written foundPalette somePalette fewPalette each
      dsimp only
      split
      next rows foundPixels =>
        split
        · exact ensures_reject
        next counted =>
          apply (parsePixelRows_read.and parsePixelRows_ensures).bind
          rintro rowsKept ⟨same, fits⟩
          have count : rows.length = bounds.height := Decidable.not_not.mp counted
          have each := rows_pass fits printable read.wide
          have high := read.high
          rw [← same] at each
          rw [← count] at high
          have pixels : Written item "pixels" (allOf [isArray, minItems 1, maxItems 256,
              items (allOf [isString, minLength 1, maxLength 256])]) := by
            apply Written.of_field foundPixels
            rw [allOf_cons, allOf_cons, allOf_cons, allOf_cons, each]
            simp [isArray, minItems, maxItems, high]
          split
          · apply Ensures.pure
            apply OfSome.some
            exact bitmapSchema_of (hid id rfl) fields type palette pixels read.written_one
          · exact Ensures.pure OfSome.none
      · exact ensures_reject
  · exact Ensures.pure OfSome.none

/-! ## The whole definition -/

/-- The alternatives by the types that they ask for. -/
def alternatives : List (Bytes × Schema) :=
  [(bytes "indicator", indicatorSchema), (bytes "clock", clockSchema), (bytes "bar", barSchema),
    (bytes "status_grid", statusGridSchema), (bytes "aggregate_status", aggregateStatusSchema),
    (bytes "bitmap", bitmapSchema)]

/-- An alternative only passes objects of its type. -/
theorem alternatives_apart {type : Bytes} (typed : item.field "type" = some (.string type)) :
    ∀ entry ∈ alternatives, entry.2 (.object item) = true → entry.1 = type := by
  have apart {name : String} {needed : List String} {known : List (String × Schema)}
      (property : propertySchema known never (bytes "type") = textConst name)
      (passes : closedObject needed known (.object item) = true) : bytes name = type := by
    have holds := closedObject_field passes typed
    rw [property] at holds
    exact (Json.string.inj (const_string.mp holds)).symm
  simp only [alternatives, List.forall_mem_cons]
  exact ⟨apart rfl, apart rfl, apart rfl, apart rfl, apart rfl, apart rfl,
    List.forall_mem_nil _⟩

/-- The alternative for an object's type decides. -/
theorem layoutWidget_eq {type : Bytes} {schema : Schema}
    (typed : item.field "type" = some (.string type)) (member : (type, schema) ∈ alternatives) :
    layoutWidget (.object item) = schema (.object item) :=
  oneOf_tagged (by decide) (alternatives_apart typed) member

/-- A clock that shows a source. -/
def ClockWithSource : Json → Prop
  | .object item =>
      Members.field item "type" = some (.string (bytes "clock")) ∧
        (Members.field item "source").isSome = true
  | _ => False

/-- No alternative of the schema is a clock with a source. -/
theorem layoutWidget_clock_source {widget : Json} (clock : ClockWithSource widget) :
    layoutWidget widget = false := by
  cases widget with
  | object item =>
      obtain ⟨typed, some⟩ := clock
      obtain ⟨source, found⟩ := Option.isSome_iff_exists.mp some
      have decides : layoutWidget (.object item) = clockSchema (.object item) :=
        layoutWidget_eq typed (by simp [alternatives])
      rw [decides]
      by_contra passes
      have holds := closedObject_field (eq_true_of_ne_false passes) found
      have unlisted : propertySchema ([("id", identifier), ("type", textConst "clock"),
        ("timezone", textEnum ["local", "utc"]), ("color", color)] ++ rectangle 15 7) never
          (bytes "source") source = false := rfl
      exact Bool.false_ne_true (unlisted.symm.trans holds)
  | null | boolean | integer | unsigned | float | string | array => cases clock

/-- Whatever its type, a widget that is read passes. -/
theorem widgetTypes_pass {type : Bytes} (typed : item.field "type" = some (.string type))
    (plain : ¬ClockWithSource (.object item)) :
    ∀ entry ∈ widgetTypes round, bytes entry.1 = type →
      Ensures (OfSome fun _ => layoutWidget (.object item) = true)
        (entry.2 item path display none) := by
  have decided {schema : Schema} (member : (type, schema) ∈ alternatives)
      (passes : schema (.object item) = true) : layoutWidget (.object item) = true :=
    (layoutWidget_eq typed member).trans passes
  simp only [widgetTypes, List.forall_mem_cons]
  refine ⟨?_, ?_, ?_, ?_, ?_, ?_, List.forall_mem_nil _⟩
  · rintro rfl
    exact (parseLayoutIndicatorConfig_passes typed).bindMap
      fun _ => decided (by simp [alternatives])
  · rintro rfl
    have missing : item.field "source" = none :=
      Option.not_isSome_iff_eq_none.mp fun some => plain ⟨typed, some⟩
    exact (parseLayoutClockConfig_passes typed missing).bindMap
      fun _ => decided (by simp [alternatives])
  · rintro rfl
    exact (parseLayoutBarConfig_passes typed).bindMap
      fun _ => decided (by simp [alternatives])
  · rintro rfl
    exact (parseLayoutStatusGridConfig_passes typed).bindMap
      fun _ => decided (by simp [alternatives])
  · rintro rfl
    exact (parseLayoutAggregateStatusConfig_passes typed).bindMap
      fun _ => decided (by simp [alternatives])
  · rintro rfl
    exact (parseLayoutBitmapConfig_passes typed).bindMap
      fun _ => decided (by simp [alternatives])

/-- Only a clock with a source is read and does not pass. -/
theorem parseLayoutWidget_passes {widget : Json} (plain : ¬ClockWithSource widget) :
    Ensures (OfSome fun _ => layoutWidget widget = true)
      (parseLayoutWidget round widget path display none) := by
  unfold parseLayoutWidget
  split
  next item =>
    apply requiredString_read.bindSome
    · exact Ensures.pure OfSome.none
    intro type typed
    dsimp only
    split
    next name parse known =>
      have same : bytes name = type := by simpa using List.find?_some known
      exact widgetTypes_pass typed plain _ (List.mem_of_find?_eq_some known) same
    · exact Ensures.step fun _ => ensures_reject
  · exact ensures_reject

/-- The schema passes a widget that the loader reads exactly when it is not a
clock that shows a source. -/
theorem layoutWidget_iff {widget : Json} {config : LayoutWidgetConfig}
    (silent : (parseLayoutWidget round widget path display none).log = [])
    (accepted : (parseLayoutWidget round widget path display none).value = some config) :
    layoutWidget widget = true ↔ ¬ClockWithSource widget := by
  refine ⟨?_, ?_⟩
  · intro passes clock
    exact Bool.false_ne_true ((layoutWidget_clock_source clock).symm.trans passes)
  · intro plain
    exact (parseLayoutWidget_passes plain).value silent config accepted

/-- A clock of the least size, showing a source or not. -/
def sampleClock (source : Members) : Json :=
  .object ([(bytes "height", .unsigned 7), (bytes "id", .string (bytes "reset"))] ++ source ++
    [(bytes "timezone", .string (bytes "utc")), (bytes "type", .string (bytes "clock")),
      (bytes "width", .unsigned 15), (bytes "x", .unsigned 0), (bytes "y", .unsigned 0)])

theorem layoutWidget_iff_sample : layoutWidget (sampleClock []) = true := by
  obtain ⟨config, accepted⟩ := Option.isSome_iff_exists.mp
    (show (parseLayoutWidget Double.exact (sampleClock []) [] {} none).value.isSome = true by
      decide +kernel)
  apply (layoutWidget_iff (by decide +kernel) accepted).mpr
  rintro ⟨-, some⟩
  cases some

/-- The loader reads the clock with a source, and the schema refuses it. -/
theorem layoutWidget_refuses_clock_source :
    (parseLayoutWidget Double.exact
      (sampleClock [(bytes "source", .string (bytes "reset"))]) [] {} none).log = [] ∧
    (parseLayoutWidget Double.exact
      (sampleClock [(bytes "source", .string (bytes "reset"))]) [] {} none).value.isSome = true ∧
    layoutWidget (sampleClock [(bytes "source", .string (bytes "reset"))]) = false := by
  decide +kernel

end LayoutWidgetSchema

end PixelStatus
