/-
# The integers of a document

What a document says at the place of each integer of a configuration, as a
number of any size. The library keeps an integer of up to 64 bits as it is,
signed or unsigned. The readers of the fields check the range of that number
before they convert it, so what they return is what was written.
-/

import Mathlib.Data.List.Forall2
import PixelStatus.Core.Config.LayoutGeometry

namespace PixelStatus

open Logged

/-- The integer that a value is. -/
def Json.integerValue : Json → Option Int
  | .integer value => some value.toInt
  | .unsigned value => some value.toNat
  | _ => none

def StateValue.integerValue : StateValue → Option Int
  | .integer value => some value.toInt
  | _ => none

namespace Members

variable (object : Members) (key : String)

/-- The integer in a field. -/
def integer : Option Int := (object.field key).bind Json.integerValue

/-- The integer in a field that may be left out. -/
def integerOr (default : Int) : Option Int :=
  match object.field key with
  | none => some default
  | some value => value.integerValue

/-- The items of an array in a field, none when the field is missing. -/
def items : List Json :=
  match object.field key with
  | some (.array items) => items
  | _ => []

variable {object key} {value : Json}

/-- A field's integer is that of its value. -/
theorem integer_of_field (found : object.field key = some value) :
    object.integer key = value.integerValue := by
  rw [integer, found, Option.bind_some]

/-- A number that is there is not replaced by the default. -/
theorem integerOr_of_contains {default : Int} (has : object.contains key = true) :
    object.integerOr key default = object.integer key := by
  obtain ⟨value, found⟩ := Option.isSome_iff_exists.mp has
  rw [integerOr, found, integer_of_field found]

/-- A number that is missing is the default. -/
theorem integerOr_of_missing {default : Int} (missing : ¬ object.contains key = true) :
    object.integerOr key default = some default := by
  have absent : object.field key = none := by simpa [contains] using missing
  rw [integerOr, absent]

/-- The items of a field that is an array. -/
theorem items_of_field {items : List Json} (found : object.field key = some (.array items)) :
    object.items key = items := by
  rw [Members.items, found]

end Members

/-! ## Fields -/

variable {object : Members} {key : String} {path : Bytes}

/-- A checked number is the number. -/
theorem checkSize_returns {value minimum maximum : Nat} :
    Returns (fun size => size = value) (checkSize value key path minimum maximum) := by
  unfold checkSize
  split
  · exact ensures_reject
  · exact Returns.pure rfl

/-- A size is the integer in its field, signed or unsigned. -/
theorem boundedSize_returns {minimum maximum : Nat} :
    Returns (fun size : Nat => object.integer key = some (size : Int))
      (boundedSize object key path minimum maximum) := by
  unfold boundedSize
  split
  next value found =>
    apply checkSize_returns.mono
    rintro result ⟨size, rfl, rfl⟩
    exact ⟨_, rfl, Members.integer_of_field found⟩
  next value found =>
    split
    · exact ensures_reject
    next positive =>
      apply checkSize_returns.mono
      rintro result ⟨size, rfl, rfl⟩
      have nonnegative : 0 ≤ value.toInt := Int64.le_iff_toInt_le.mp (Int64.not_lt.mp positive)
      have held : (value.toInt.toNat : Int) = value.toInt := Int.toNat_of_nonneg nonnegative
      exact ⟨_, rfl, (Members.integer_of_field found).trans (congrArg some held.symm)⟩
  · exact ensures_reject

/-- A number that is read is the one that is written. -/
theorem boundedSize_exact {minimum maximum : Nat} :
    Ensures (OfSome fun size : Nat => object.integer key = some (size : Int))
      (boundedSize object key path minimum maximum) := boundedSize_returns.ofSome

/-- So it is if it may be left out. -/
theorem optionalSize_exact {maximum : Nat} :
    Ensures (OfSome fun size : Nat => object.integerOr key 0 = some (size : Int))
      (optionalSize object key path maximum) := by
  unfold optionalSize
  split
  next has =>
    rw [Members.integerOr_of_contains has]
    exact boundedSize_exact
  next missing => exact Ensures.pure (OfSome.some (Members.integerOr_of_missing missing))

/-- A response limit is the one that is written, or the default. -/
theorem parseResponseLimit_returns :
    Returns (fun limit : Nat =>
        object.integerOr "maximum_response_bytes" 4096 = some (limit : Int))
      (parseResponseLimit object path) := by
  unfold parseResponseLimit
  split
  next has =>
    rw [Members.integerOr_of_contains has]
    exact boundedSize_returns
  next missing => exact Returns.pure (Members.integerOr_of_missing missing)

/-- A port is checked before it is made a 16-bit number. -/
theorem parsePort_exact :
    Ensures (OfSome fun port : UInt16 => object.integer "port" = some (port.toNat : Int))
      (parsePort object path) := by
  apply (boundedSize_exact.and boundedSize_ensures).bind
  rintro result ⟨exact, inside⟩
  apply Ensures.pure
  intro port same
  obtain ⟨number, rfl, rfl⟩ := Option.map_eq_some_iff.mp same
  have holds : (UInt16.ofNat number).toNat = number :=
    UInt16.toNat_ofNat_of_lt (Nat.lt_succ_of_le (inside number rfl).2)
  rw [exact number rfl, holds]

/-- A value that is an integer, and only such a value, becomes that integer. -/
theorem scalarStateValue_exact {value : Json} :
    Ensures (OfSome fun state : StateValue => state.integerValue = value.integerValue)
      (scalarStateValue value path) := by
  unfold scalarStateValue
  split
  · exact Ensures.pure (OfSome.some rfl)
  · exact Ensures.pure (OfSome.some rfl)
  next number =>
    split
    · exact ensures_reject
    next small =>
      have inside : number.toNat < 2 ^ 63 := by omega
      exact Ensures.pure (OfSome.some (congrArg some (Int64.toInt_ofNat_of_lt inside)))
  · exact Ensures.pure (OfSome.some rfl)
  · split
    · exact Ensures.pure (OfSome.some rfl)
    · exact ensures_reject
  · exact Ensures.pure (OfSome.some rfl)
  · exact ensures_reject

/-! ## Lists -/

section

variable {α : Type} {written : α → Json → Prop}

/-- A list of values that read some items in their order, without the next item. -/
theorem sublist_skip {values : List α} {items : List Json}
    (reads : List.SublistForall₂ written values items) (item : Json) :
    List.SublistForall₂ written values (items ++ [item]) := by
  obtain ⟨read, each, sublist⟩ := List.sublistForall₂_iff.mp reads
  exact List.sublistForall₂_iff.mpr
    ⟨read, each, sublist.trans (List.sublist_append_left items [item])⟩

/-- A list of values that read some items in their order, with what the next
item was read as. -/
theorem sublist_snoc {values : List α} {items : List Json} {item : Json} {next : Option α}
    (reads : List.SublistForall₂ written values items)
    (hnext : OfSome (fun value => written value item) next) :
    List.SublistForall₂ written (values ++ next.toList) (items ++ [item]) := by
  cases next with
  | none =>
      rw [Option.toList_none, List.append_nil]
      exact sublist_skip reads item
  | some value =>
      obtain ⟨read, each, sublist⟩ := List.sublistForall₂_iff.mp reads
      have last : List.Forall₂ written [value] [item] := .cons (hnext value rfl) .nil
      exact List.sublistForall₂_iff.mpr
        ⟨read ++ [item], List.rel_append each last, sublist.append (List.Sublist.refl [item])⟩

/-- As many values as items read all of them. -/
theorem forall₂_of_sublist {values : List α} {items : List Json}
    (reads : List.SublistForall₂ written values items) (count : values.length = items.length) :
    List.Forall₂ written values items := by
  obtain ⟨read, each, sublist⟩ := List.sublistForall₂_iff.mp reads
  obtain rfl := sublist.eq_of_length (each.length_eq.symm.trans count)
  exact each

/-- What is collected is what some of the items write, in their order. -/
theorem collectDistinct_exact {idOf : α → Bytes} {read : Json → Bytes → Loading (Option α)}
    (hread : ∀ item path, Ensures (OfSome fun value => written value item) (read item path))
    {path duplicate : Bytes} {items : List Json} :
    Ensures (fun values => List.SublistForall₂ written values items)
      (collectDistinct idOf read path duplicate items) := by
  apply Ensures.foldlM_zipIdx fun passed values => List.SublistForall₂ written values passed
  · exact .nil
  intro passed values item _ sofar
  apply (hread _ _).bindSome
  · exact Ensures.pure (sublist_skip sofar item.1)
  intro value hvalue
  dsimp only
  split
  · exact ensures_addError_bind
  · exact Ensures.pure (sublist_snoc sofar (OfSome.some hvalue))

end

/-! ## Monitors -/

/-- The operands of a comparison are those of the document: two bounds, or one
value that is compared with. -/
def OperandsWritten (operand : Json) (condition : EvaluationCondition) : Prop :=
  match condition.upperBound with
  | some bound => ∃ lower upper, operand = .array [lower, upper] ∧
      condition.expected.integerValue = lower.integerValue ∧
      bound.integerValue = upper.integerValue
  | none => condition.expected.integerValue = operand.integerValue

/-- A rule is the document's, with the operands of its condition if it has one. -/
def RuleWritten (rule : EvaluationRule) (item : Json) : Prop :=
  ∃ members, item = .object members ∧ ∀ condition ∈ rule.when, ∃ name operand,
    Members.field members "when"
        = some (.object [(bytes "value", .object [(name, operand)])]) ∧
      OperandsWritten operand condition

/-- The integers of a source are those of the monitor's fields. -/
def SourceWritten (monitor : Members) : MonitorSourceConfig → Prop
  | .http config =>
      monitor.integerOr "maximum_response_bytes" 4096 = some (config.maximumResponseBytes : Int)
  | .tcpConnect config => monitor.integer "port" = some (config.port.toNat : Int)
  | .tcpExchange config =>
      monitor.integer "port" = some (config.port.toNat : Int) ∧
        monitor.integerOr "maximum_response_bytes" 4096
          = some (config.maximumResponseBytes : Int)
  | .icmpPing _ | .dns _ => True

/-- A monitor is the document's of the same id. -/
def MonitorWritten (config : PullMonitorConfig) (item : Json) : Prop :=
  ∃ members, item = .object members ∧
    Members.field members "id" = some (.string config.id) ∧
    SourceWritten members config.source ∧
    List.SublistForall₂ RuleWritten config.evaluation.rules (Members.items members "evaluate")

/-- The operands of a condition are those that are written. -/
theorem parseOperands_exact {operation : ComparisonOperation} {operand : Json} :
    Ensures (OfSome (OperandsWritten operand)) (parseOperands operation operand path) := by
  unfold parseOperands
  split
  · exact Ensures.pure (OfSome.some rfl)
  · exact Ensures.pure (OfSome.some rfl)
  · exact ensures_reject
  · exact ensures_reject
  next lower upper =>
    apply scalarStateValue_exact.bind
    intro least hleast
    apply scalarStateValue_exact.bind
    intro most hmost
    split
    next least most =>
      exact Ensures.pure (OfSome.some
        ⟨lower, upper, rfl, hleast least rfl, hmost most rfl⟩)
    · exact Ensures.pure OfSome.none
  · exact ensures_reject
  · apply scalarStateValue_exact.bindSome
    · exact Ensures.pure OfSome.none
    intro expected written
    exact Ensures.pure (OfSome.some written)

/-- So are those of a condition that is read. -/
theorem parseEvaluationCondition_exact {condition : Json} :
    Ensures (OfSome fun parsed => ∃ name operand,
        condition = .object [(bytes "value", .object [(name, operand)])] ∧
          OperandsWritten operand parsed)
      (parseEvaluationCondition condition path) := by
  unfold parseEvaluationCondition
  dsimp only
  split
  next key name operand =>
    split
    next value =>
      split
      · exact ensures_reject
      · apply parseOperands_exact.mono
        intro result written parsed same
        exact ⟨name, operand, by rw [value], written parsed same⟩
    · exact ensures_reject
  · exact ensures_reject

/-- So are those of a rule. -/
theorem parseEvaluationRule_exact {item : Json} :
    Ensures (OfSome fun rule => RuleWritten rule item) (parseEvaluationRule item path) := by
  unfold parseEvaluationRule
  split
  next members =>
    split
    next condition found =>
      apply Ensures.step
      intro _
      apply Ensures.step
      intro status
      apply parseEvaluationCondition_exact.bind
      intro parsed written
      split
      next status parsed =>
        apply Ensures.pure
        apply OfSome.some
        refine ⟨members, rfl, ?_⟩
        intro same hsame
        obtain rfl := Option.mem_some_iff.mp hsame
        obtain ⟨name, operand, rfl, operands⟩ := written parsed rfl
        exact ⟨name, operand, found, operands⟩
      · exact Ensures.pure OfSome.none
    · apply Ensures.step
      intro _
      dsimp only
      split
      · apply Ensures.step
        intro _
        apply (Ensures.anySome _).bindMap
        intro status _
        exact ⟨members, rfl, fun _ absent => absurd absent (Option.not_mem_none _)⟩
      · exact ensures_reject
    · exact ensures_reject
  · exact ensures_reject

/-- So are those of all rules. -/
theorem parseEvaluationRules_exact {rules : List Json} :
    Ensures (fun parsed => List.SublistForall₂ RuleWritten parsed rules)
      (parseEvaluationRules rules path) := by
  apply Ensures.foldlM_zipIdx fun passed parsed => List.SublistForall₂ RuleWritten parsed passed
  · exact .nil
  intro passed parsed item _ sofar
  apply parseEvaluationRule_exact.bind
  intro rule hrule
  exact Ensures.pure (sublist_snoc sofar hrule)

/-- So are those of a policy. -/
theorem parseEvaluationPolicy_exact {platform : Platform} {statuses : Statuses} :
    Ensures (OfSome fun policy =>
        List.SublistForall₂ RuleWritten policy.rules (object.items "evaluate"))
      (parseEvaluationPolicy platform object path statuses) := by
  apply Ensures.step
  intro failure
  apply Ensures.step
  intro noMatch
  dsimp only
  split
  next rules found =>
    rw [Members.items_of_field found]
    split
    · exact ensures_reject
    · apply parseEvaluationRules_exact.bind
      intro parsed written
      split
      · exact ensures_reject
      · apply Ensures.step
        intro _
        exact Ensures.pure (OfSome.some written)
  · exact ensures_reject

/-! ### Sources -/

variable {round : Rounding}

/-- The integers of an HTTP monitor are those it writes. -/
theorem parseHttpMonitor_exact :
    Ensures (OfSome fun config => SourceWritten object (.http config))
      (parseHttpMonitor round object path) := by
  apply Ensures.step
  intro url
  apply Ensures.step
  intro method
  apply Ensures.step
  intro headers
  apply Ensures.step
  intro body
  apply Ensures.step
  intro timeout
  apply parseResponseLimit_returns.bind
  intro limit written
  apply (Ensures.anySome _).bindSome
  · exact Ensures.pure OfSome.none
  intro observed _
  dsimp only
  split
  · exact Ensures.pure (OfSome.some written)
  · exact Ensures.pure OfSome.none

/-- So are those of a TCP connect monitor. -/
theorem parseTcpConnectMonitor_exact :
    Ensures (OfSome fun config => SourceWritten object (.tcpConnect config))
      (parseTcpConnectMonitor object path) := by
  apply Ensures.step
  intro host
  apply parsePort_exact.bind
  intro port written
  apply Ensures.step
  intro timeout
  split
  next host port timeout => exact Ensures.pure (OfSome.some (written port rfl))
  · exact Ensures.pure OfSome.none

/-- The limit of an answer is the one that is written, or the default. -/
theorem parseAnswerLimit_exact {delimiter : Option Bytes} :
    Ensures (OfSome fun limit : Nat =>
        object.integerOr "maximum_response_bytes" 4096 = some (limit : Int))
      (parseAnswerLimit object path delimiter) := by
  apply parseResponseLimit_returns.bind
  intro limit written
  cases delimiter with
  | none => exact Ensures.pure (OfSome.some written)
  | some delimiter =>
      dsimp only
      split
      · exact ensures_reject
      · exact Ensures.pure (OfSome.some written)

/-- The integers of a TCP exchange are those it writes. -/
theorem parseTcpExchangeMonitor_exact :
    Ensures (OfSome fun config => SourceWritten object (.tcpExchange config))
      (parseTcpExchangeMonitor object path) := by
  apply Ensures.step
  intro host
  apply parsePort_exact.bind
  intro port hport
  apply Ensures.step
  intro timeout
  apply Ensures.step
  intro send
  apply Ensures.step
  intro readUntil
  apply parseAnswerLimit_exact.bind
  intro limit hlimit
  apply Ensures.step
  intro observation
  split
  next host port timeout send readUntil limit observation =>
    exact Ensures.pure (OfSome.some ⟨hport port rfl, hlimit limit rfl⟩)
  · exact Ensures.pure OfSome.none

/-- Every kind's reader returns a source with the monitor's integers. -/
theorem monitorKinds_exact : ∀ entry ∈ monitorKinds round, ∀ monitor path,
    Ensures (OfSome (SourceWritten monitor)) (entry.2.parse monitor path) := by
  simp only [monitorKinds, List.forall_mem_cons]
  refine ⟨?_, ?_, ?_, ?_, ?_, List.forall_mem_nil _⟩
  · exact fun _ _ => parseHttpMonitor_exact.bindMap fun _ written => written
  · exact fun _ _ => parseTcpConnectMonitor_exact.bindMap fun _ written => written
  · exact fun _ _ => (Ensures.anySome _).bindMap fun _ _ => trivial
  · exact fun _ _ => parseTcpExchangeMonitor_exact.bindMap fun _ written => written
  · exact fun _ _ => (Ensures.anySome _).bindMap fun _ _ => trivial

/-- So are those of every source. -/
theorem parseSource_exact {type : Option Bytes} :
    Ensures (OfSome (SourceWritten object)) (parseSource round object path type) := by
  unfold parseSource
  split
  next kind known =>
    obtain ⟨name, _, known⟩ := Option.bind_eq_some_iff.mp known
    obtain ⟨entry, found, rfl⟩ := Option.map_eq_some_iff.mp known
    exact monitorKinds_exact entry (List.mem_of_find?_eq_some found) object path
  · exact Ensures.pure OfSome.none

/-- An identifier is the text of its field. -/
theorem requiredIdentifier_read :
    Ensures (OfSome fun value => object.field key = some (.string value))
      (requiredIdentifier object key path) := by
  apply requiredString_read.bindSome
  · exact Ensures.pure OfSome.none
  intro value found
  dsimp only
  split
  · exact Ensures.pure (OfSome.some found)
  · exact ensures_reject

/-- The integers of a monitor are those it writes. -/
theorem parsePullMonitor_exact {platform : Platform} {statuses : Statuses} {item : Json} :
    Ensures (OfSome fun config => MonitorWritten config item)
      (parsePullMonitor platform round item path statuses) := by
  unfold parsePullMonitor
  split
  next members =>
    apply requiredIdentifier_read.bind
    intro id hid
    apply Ensures.step
    intro type
    apply Ensures.step
    intro _
    apply Ensures.step
    intro interval
    apply Ensures.step
    intro ttl
    apply parseEvaluationPolicy_exact.bind
    intro evaluation hevaluation
    apply parseSource_exact.bind
    intro source hsource
    split
    next id interval ttl evaluation source =>
      apply Ensures.pure
      apply OfSome.some
      exact ⟨members, rfl, hid id rfl, hsource source rfl, hevaluation evaluation rfl⟩
    · exact Ensures.pure OfSome.none
  · exact ensures_reject

/-! ## Rectangles and widgets -/

/-- The four numbers of a rectangle are those of the object. -/
structure BoundsWritten (item : Members) (bounds : LayoutBounds) : Prop where
  x : item.integer "x" = some (bounds.x : Int)
  y : item.integer "y" = some (bounds.y : Int)
  width : item.integer "width" = some (bounds.width : Int)
  height : item.integer "height" = some (bounds.height : Int)

/-- An indicator is the document's of the same id. -/
def IndicatorWritten (config : IndicatorConfig) (item : Json) : Prop :=
  ∃ members, item = .object members ∧
    Members.field members "id" = some (.string config.id) ∧
    BoundsWritten members config.toLayoutBounds

/-- The numbers of a widget besides its rectangle. -/
def ValuesWritten (item : Members) : LayoutWidgetConfig → Prop
  | .statusGrid config =>
      item.integer "columns" = some (config.columns : Int) ∧
        item.integerOr "gap" 0 = some (config.gap : Int)
  | _ => True

/-- A widget that an object describes, in a rectangle that the object may have
something to say of. -/
def DescribedBy (placed : Members → LayoutBounds → Prop) (widget : LayoutWidgetConfig)
    (item : Json) : Prop :=
  ∃ members, item = .object members ∧ placed members widget.bounds ∧
    ValuesWritten members widget

/-- A widget with the numbers of its object. -/
abbrev WidgetWritten : LayoutWidgetConfig → Json → Prop := DescribedBy BoundsWritten

variable {display : DisplayConfig} {assigned : Option LayoutBounds}

/-- A rectangle is the one that is written. -/
theorem parseRectangle_exact :
    Ensures (OfSome (BoundsWritten object)) (parseRectangle object path) := by
  apply boundedSize_exact.bind
  intro x hx
  apply boundedSize_exact.bind
  intro y hy
  apply boundedSize_exact.bind
  intro width hwidth
  apply boundedSize_exact.bind
  intro height hheight
  split
  next x y width height =>
    apply Ensures.pure
    apply OfSome.some
    exact ⟨hx x rfl, hy y rfl, hwidth width rfl, hheight height rfl⟩
  · exact Ensures.pure OfSome.none

/-- The check does not move the rectangle. -/
theorem requireInside_same {bounds : LayoutBounds} :
    Ensures (OfSome fun other => other = bounds) (requireInside display bounds path) := by
  unfold requireInside
  split
  · exact ensures_reject
  · exact Ensures.pure (OfSome.some rfl)

/-- A legacy indicator is where it is written. -/
theorem parseIndicatorConfig_exact {item : Json} :
    Ensures (OfSome fun config => IndicatorWritten config item)
      (parseIndicatorConfig item path display) := by
  unfold parseIndicatorConfig
  split
  next members =>
    apply Ensures.step
    intro _
    apply requiredIdentifier_read.bind
    intro id hid
    apply Ensures.step
    intro source
    apply parseRectangle_exact.bind
    intro bounds hbounds
    split
    next id source bounds =>
      apply requireInside_same.bindMap
      rintro other rfl
      exact ⟨members, rfl, hid id rfl, hbounds other rfl⟩
    · exact Ensures.pure OfSome.none
  · exact ensures_reject

/-- So is a widget that no split places. -/
theorem parseLayoutBounds_exact :
    Ensures (OfSome (BoundsWritten object)) (parseLayoutBounds object path display none) := by
  apply parseRectangle_exact.bindSome
  · exact Ensures.pure OfSome.none
  intro bounds written
  apply requireInside_same.mono
  intro result same other returned
  exact same other returned ▸ written

/-- The integers of a grid are those it writes. -/
theorem parseLayoutStatusGridConfig_exact :
    Ensures (OfSome fun config => ValuesWritten object (.statusGrid config))
      (parseLayoutStatusGridConfig object path display assigned) := by
  apply Ensures.step
  intro _
  apply Ensures.step
  intro id
  apply Ensures.step
  intro bounds
  apply (Ensures.anySome _).bindSome
  · exact Ensures.pure OfSome.none
  intro sourcesField _
  apply boundedSize_exact.bind
  intro columns hcolumns
  apply optionalSize_exact.bindSome
  · exact Ensures.pure OfSome.none
  intro gap hgap
  dsimp only
  split
  next id bounds columns =>
    apply Ensures.step
    intro valid
    split
    · exact Ensures.pure OfSome.none
    · apply Ensures.step
      intro sources
      split
      · exact ensures_reject
      · split
        · exact Ensures.pure (OfSome.some ⟨hcolumns columns rfl, hgap⟩)
        · exact Ensures.pure OfSome.none
  · exact Ensures.pure OfSome.none

section

variable {placed : Members → LayoutBounds → Prop}
  (bounded : ∀ item path,
    Ensures (OfSome (placed item)) (parseLayoutBounds item path display assigned))
include bounded

/-- The integers of a widget of any type are those it writes. -/
theorem widgetTypes_exact : ∀ entry ∈ widgetTypes round, ∀ item path,
    Ensures (OfSome fun widget : LayoutWidgetConfig => placed item widget.bounds ∧
        ValuesWritten item widget)
      (entry.2 item path display assigned) := by
  simp only [widgetTypes, List.forall_mem_cons]
  refine ⟨?_, ?_, ?_, ?_, ?_, ?_, List.forall_mem_nil _⟩
  · exact fun item path =>
      (parseLayoutIndicatorConfig_ensures (bounded item path)).bindMap fun _ h => ⟨h, trivial⟩
  · exact fun item path =>
      (parseLayoutClockConfig_ensures (bounded item path)).bindMap fun _ h => ⟨h.1, trivial⟩
  · exact fun item path =>
      (parseLayoutBarConfig_ensures (bounded item path)).bindMap fun _ h => ⟨h.1, trivial⟩
  · intro item path
    apply ((parseLayoutStatusGridConfig_ensures (bounded item path)).and
      parseLayoutStatusGridConfig_exact).bind
    rintro result ⟨hplaced, hvalues⟩
    apply Ensures.pure
    intro widget same
    obtain ⟨grid, rfl, rfl⟩ := Option.map_eq_some_iff.mp same
    exact ⟨(hplaced grid rfl).1, hvalues grid rfl⟩
  · exact fun item path =>
      (parseLayoutAggregateStatusConfig_ensures (bounded item path)).bindMap
        fun _ h => ⟨h.1, trivial⟩
  · exact fun item path =>
      (parseLayoutBitmapConfig_ensures (bounded item path)).bindMap fun _ h => ⟨h.1, trivial⟩

/-- So are those of every widget that is read. -/
theorem parseLayoutWidget_exact {item : Json} :
    Ensures (OfSome fun widget => DescribedBy placed widget item)
      (parseLayoutWidget round item path display assigned) := by
  unfold parseLayoutWidget
  split
  next members =>
    apply (Ensures.anySome _).bindSome
    · exact Ensures.pure OfSome.none
    intro type _
    dsimp only
    split
    next parse known =>
      apply (widgetTypes_exact bounded _ (List.mem_of_find?_eq_some known) members path).mono
      exact fun result described widget same => ⟨members, rfl, described widget same⟩
    · exact Ensures.step fun _ => ensures_reject
  · exact ensures_reject

end

end PixelStatus
