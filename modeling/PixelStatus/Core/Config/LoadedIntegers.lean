/-
# The integers of a loaded configuration

Every integer of a configuration that the loader returns is the one that the
document writes in the same place, except for the version of the schema: it is
converted to an `int` before it is compared with 1, so any document whose
version is 1 in its low 32 bits is loaded as one of version 1.

The rectangles of a layout tree are not written in it. They are those of a sound
tree whose gaps, sizes and weights are.
-/

import PixelStatus.Core.Config.ExplicitWidgets
import PixelStatus.Core.Config.WrittenIntegers

namespace PixelStatus

open Logged

variable {display : DisplayConfig} {object : Members} {path : Bytes} {round : Rounding}

/-! ## Trees -/

/-- What a child of a split asks for is what it writes: its size, or its weight,
which is 1 when it writes none. -/
def AllocationWritten (allocation : Allocation) (child : Json) : Prop :=
  ∃ members, child = .object members ∧
    if allocation.fixed then Members.integer members "size" = some (allocation.value : Int)
    else Members.field members "size" = none ∧
      Members.integerOr members "weight" 1 = some (allocation.value : Int)

/-- The type that an inner node writes. -/
def Members.nodeType (members : Members) : Option LayoutNodeType :=
  match members.field "type" with
  | some (.string type) => layoutNodeType type
  | _ => none

/-- A placed tree has the shape and the numbers of a node of the document. -/
inductive TreeWritten : PlacedNode → Json → Prop
  | leaf {members : Members} {bounds : LayoutBounds} (type : members.nodeType = none) :
      TreeWritten (.leaf (.object members) bounds) (.object members)
  | stack {members : Members} {nodes : List PlacedNode} {bounds : LayoutBounds}
      (type : members.nodeType = some .stack)
      (each : List.Forall₂ TreeWritten nodes (members.items "children")) :
      TreeWritten (.stack bounds nodes) (.object members)
  | split {members : Members} {nodes : List PlacedNode} {bounds : LayoutBounds}
      {horizontal : Bool} {gap : Nat} {allocations : List Allocation}
      (type : members.nodeType = some (if horizontal then .row else .column))
      (hgap : members.integerOr "gap" 0 = some (gap : Int))
      (asked : List.Forall₂ AllocationWritten allocations (members.items "children"))
      (each : List.Forall₂ TreeWritten nodes (members.items "children")) :
      TreeWritten (.split horizontal gap allocations bounds nodes) (.object members)

/-- A child's size or weight is the one it writes. -/
theorem parseAllocation_exact {child : Json} :
    Ensures (OfSome fun allocation => AllocationWritten allocation child)
      (parseAllocation child path) := by
  unfold parseAllocation
  split
  next members =>
    dsimp only
    split
    · exact ensures_reject
    · split
      · apply boundedSize_exact.bindMap
        intro size written
        exact ⟨members, rfl, written⟩
      next unsized =>
        have absent : Members.field members "size" = none := by
          simpa [Members.contains] using unsized
        split
        next has =>
          apply boundedSize_exact.bindMap
          intro weight written
          exact ⟨members, rfl, absent, (Members.integerOr_of_contains has).trans written⟩
        next missing =>
          exact Ensures.pure (OfSome.some
            ⟨members, rfl, absent, Members.integerOr_of_missing missing⟩)
  · exact ensures_reject

/-- So are those of all children of a split. -/
theorem parseAllocations_exact {children : List Json} {index : Nat} :
    Ensures (OfSome fun allocations => List.Forall₂ AllocationWritten allocations children)
      (parseAllocations path index children) := by
  induction children generalizing index with
  | nil => exact Ensures.pure (OfSome.some .nil)
  | cons child rest ih =>
      apply parseAllocation_exact.bind
      intro allocation hallocation
      apply ih.bind
      intro allocations hallocations
      split
      next allocation allocations =>
        exact Ensures.pure (OfSome.some
          (.cons (hallocation allocation rfl) (hallocations allocations rfl)))
      · exact Ensures.pure OfSome.none

/-- A reader whose valid runs are over nodes that the placer makes trees of. -/
def WritesTree (place : NodePlacer) (read : NodeReader) : Prop :=
  ∀ item path bounds scan, Ensures
    (fun result => result.1 = true → TreeWritten (place item path bounds) item)
    (read item path bounds scan)

section

variable {place : NodePlacer} {read : NodeReader} {bounds : LayoutBounds} {scan : LayoutScan}

/-- Every extent makes a child. -/
theorem length_placeChildren {horizontal : Bool} {gap cursor : Nat} {extents : List Nat} :
    (placeChildren bounds horizontal gap cursor extents).length = extents.length := by
  induction extents generalizing cursor with
  | nil => rfl
  | cons extent extents ih => rw [placeChildren, List.length_cons, List.length_cons, ih]

/-- The children of a split are as their document writes them. -/
theorem parseSplitChildren_writes (writes : WritesTree place read) {children : List Json}
    {rectangles : List LayoutBounds} (count : rectangles.length = children.length) :
    Ensures (fun result => result.1 = true →
        List.Forall₂ TreeWritten (placeAll place path children rectangles) children)
      (parseSplitChildren read path children rectangles scan) := by
  have passed : Ensures (fun result => result.1 = true →
        List.Forall₂ TreeWritten (placeAll place path children rectangles)
          ((children.zip rectangles).zipIdx.map fun child => child.1.1))
      (parseSplitChildren read path children rectangles scan) := by
    apply Ensures.foldlM_passed fun passed (result : Bool × LayoutScan) => result.1 = true →
      List.Forall₂ TreeWritten
        (passed.map fun child : (Json × LayoutBounds) × Nat =>
          place child.1.1 (childPath path child.2) child.1.2)
        (passed.map fun child => child.1.1)
    · exact fun _ => .nil
    intro passed result child _ sofar
    apply (writes _ _ _ _).bind
    intro next hnext
    apply Ensures.pure
    intro valid
    have both := Bool.and_eq_true_iff.mp valid
    rw [List.map_append, List.map_append]
    exact List.rel_append (sofar both.1) (.cons (hnext both.2) .nil)
  have firsts : ((children.zip rectangles).zipIdx.map fun child => child.1.1) = children := by
    calc ((children.zip rectangles).zipIdx.map fun child => child.1.1)
        = ((children.zip rectangles).zipIdx.map Prod.fst).map Prod.fst := by rw [List.map_map]; rfl
      _ = children := by rw [List.zipIdx_map_fst, List.map_fst_zip count.ge]
  rw [firsts] at passed
  exact passed

/-- So is a child of a stack. -/
theorem parseStackChild_writes (writes : WritesTree place read) :
    WritesTree place (parseStackChild read) := by
  intro item path bounds scan
  unfold parseStackChild
  split
  · split
    · exact ensures_addError_bind
    · exact writes _ _ _ _
  · exact ensures_addError_bind

/-- A split is as its document writes it. -/
theorem parseSplit_writes (writes : WritesTree place read) {children : List Json}
    {horizontal : Bool} (type : object.nodeType = some (if horizontal then .row else .column))
    (written : object.items "children" = children) :
    Ensures (fun result => result.1 = true →
        TreeWritten (placeSplit place object path children bounds horizontal) (.object object))
      (parseSplit read object path children bounds horizontal scan) := by
  apply ((Ensures.self _).and optionalSize_exact).bind
  rintro gap ⟨⟨-, hgap⟩, hwritten⟩
  cases gap with
  | none => exact Ensures.pure (by simp)
  | some gap =>
  dsimp only
  split
  · exact ensures_addError_bind
  apply ((Ensures.self _).and (parseAllocations_ensures.and parseAllocations_exact)).bind
  rintro allocations ⟨⟨-, hallocations⟩, hasked, heach⟩
  cases allocations with
  | none => exact Ensures.pure (by simp)
  | some allocations =>
  obtain ⟨asked, -⟩ := hasked allocations rfl
  apply ((Ensures.self _).and (splitExtents_ensures asked)).bind
  rintro extents ⟨⟨-, hextents⟩, hresolved⟩
  cases extents with
  | none => exact Ensures.pure (by simp)
  | some extents =>
  have count : (placeChildren bounds horizontal gap (axisStart bounds horizontal)
      extents).length = children.length :=
    length_placeChildren.trans (hresolved extents rfl).1.count
  rw [placeSplit_eq hgap hallocations hextents]
  apply (parseSplitChildren_writes writes count).mono
  intro result nodes valid
  apply TreeWritten.split type
  · exact hwritten gap rfl
  · exact written.symm ▸ heach allocations rfl
  · exact written.symm ▸ nodes valid

/-- So is every inner node. -/
theorem parseInnerNode_writes (writes : WritesTree place read) {type : LayoutNodeType}
    (typed : object.nodeType = some type) :
    Ensures (fun result => result.1 = true →
        TreeWritten (placeInnerNode place object type path bounds) (.object object))
      (parseInnerNode read object type path bounds scan) := by
  apply Ensures.step
  intro _
  apply boundedArray_read.bindSome
  · exact Ensures.pure (by simp)
  rintro children ⟨found, -, -⟩
  have written := Members.items_of_field found
  simp only [placeInnerNode, found]
  cases type with
  | stack =>
      apply (parseSplitChildren_writes (parseStackChild_writes writes) (List.length_map _)).mono
      intro result nodes valid
      exact .stack typed (written.symm ▸ nodes valid)
  | row => exact parseSplit_writes writes typed written
  | column => exact parseSplit_writes writes typed written

/-- By induction over the levels below a node, a valid run is one over a tree
with the node's numbers. -/
theorem parseLayoutNode_writes (levels : Nat) :
    WritesTree (placeNode levels) (parseLayoutNode round display levels) := by
  induction levels with
  | zero =>
      intro item path bounds scan
      unfold parseLayoutNode enterNode
      split
      · dsimp only
        split
        · exact ensures_addError_bind
        · exact ensures_addError_bind
      · exact ensures_addError_bind
  | succ levels ih =>
      intro item path bounds scan
      unfold parseLayoutNode enterNode
      split
      next members =>
        dsimp only
        split
        · exact ensures_addError_bind
        apply ((Ensures.self _).and requiredString_read).bind
        rintro type ⟨⟨-, written⟩, found⟩
        cases type with
        | none => exact Ensures.pure (by simp)
        | some type =>
        have typed : Members.nodeType members = layoutNodeType type := by
          rw [Members.nodeType, found type rfl]
        simp only [placeNode, written, Option.bind_some]
        cases known : layoutNodeType type with
        | none => exact (Ensures.any _).mono fun _ _ _ => .leaf (typed.trans known)
        | some type => exact parseInnerNode_writes ih (typed.trans known)
      · exact ensures_addError_bind

end

/-! ## Cards -/

/-- The widgets take the rectangles of a sound tree over the display that has
the document's numbers, and their other numbers are the leaves'. -/
def LayoutWritten (display : DisplayConfig) (root : Json) (widgets : List LayoutWidgetConfig) :
    Prop :=
  ∃ tree, TreeWritten tree root ∧ tree.bounds = display.bounds ∧
    (∀ node ∈ tree.nodes, node.Sound) ∧
    List.Forall₂ (fun widget leaf => DescribedBy (fun _ bounds => bounds = leaf.2) widget leaf.1)
      widgets tree.leaves

/-- The integers of a content are those of the card's fields. -/
def ContentWritten (display : DisplayConfig) (item : Members) : CardContentConfig → Prop
  | .indicators content =>
      List.Forall₂ IndicatorWritten content.indicators (item.items "indicators")
  | .layout content =>
      (item.field "root" = none ∧
        List.Forall₂ WidgetWritten content.widgets (item.items "widgets")) ∨
      ∃ root, item.field "root" = some root ∧ LayoutWritten display root content.widgets
  | .bitmap _ | .clock _ => True

/-- A card is the document's of the same id. -/
def CardWritten (display : DisplayConfig) (card : CardConfig) (item : Json) : Prop :=
  ∃ members, item = .object members ∧
    Members.field members "id" = some (.string card.id) ∧
    ContentWritten display members card.content

/-- The integers of an indicator card are those it writes. -/
theorem parseIndicatorCard_exact :
    Ensures (OfSome (ContentWritten display object)) (parseIndicatorCard object path display) := by
  apply Ensures.step
  intro _
  apply boundedArray_read.bindSome
  · exact Ensures.pure OfSome.none
  rintro items ⟨found, -, -⟩
  apply (collectDistinct_exact fun _ _ => parseIndicatorConfig_exact).bind
  intro indicators reads
  split
  · exact Ensures.pure OfSome.none
  next count =>
    apply Ensures.pure
    apply OfSome.some
    rw [ContentWritten, Members.items_of_field found]
    exact forall₂_of_sublist reads (Decidable.not_not.mp count)

/-- So are those of a list of widgets. -/
theorem parseWidgetList_exact {widgets : Json} (found : object.field "widgets" = some widgets)
    (rootless : object.field "root" = none) :
    Ensures (OfSome (ContentWritten display object))
      (parseWidgetList round widgets path display) := by
  apply boundedArray_read.bindSome
  · exact Ensures.pure OfSome.none
  rintro items ⟨same, -, -⟩
  apply (collectDistinct_exact fun _ _ =>
    parseLayoutWidget_exact fun _ _ => parseLayoutBounds_exact).bind
  intro kept reads
  split
  · exact Ensures.pure OfSome.none
  next count =>
    apply Ensures.pure
    apply OfSome.some
    refine Or.inl ⟨rootless, ?_⟩
    rw [Members.items_of_field (found.trans same)]
    exact forall₂_of_sublist reads (Decidable.not_not.mp count)

/-- What was read as a leaf is described by it. -/
theorem ReadsLeaf.described {leaf : Json × LayoutBounds} {widget : LayoutWidgetConfig}
    (reads : ReadsLeaf round display leaf widget) :
    DescribedBy (fun _ bounds => bounds = leaf.2) widget leaf.1 := by
  obtain ⟨path, silent, same⟩ := reads
  have assigned (item : Members) (path : Bytes) : Ensures (OfSome fun bounds => bounds = leaf.2)
      (parseLayoutBounds item path display (some leaf.2)) := Ensures.pure (OfSome.some rfl)
  exact (parseLayoutWidget_exact assigned).value silent widget same

/-- The tree that is placed is the one that is written. -/
theorem parseLayoutRoot_writes {root : Json} :
    Ensures (OfSome fun _ => TreeWritten (layoutTree root path display) root)
      (parseLayoutRoot round root path display) := by
  unfold parseLayoutRoot
  dsimp only
  split
  · split
    · exact ensures_reject
    · apply (parseLayoutNode_writes _ _ _ _ {}).bind
      rintro ⟨valid, scan⟩ written
      dsimp only
      split
      · exact Ensures.pure OfSome.none
      next accepted =>
        split
        · exact ensures_reject
        · exact Ensures.pure (OfSome.some (written (by simpa using accepted)))
  · exact ensures_reject

/-- The integers of a tree's widgets are those it writes. -/
theorem parseLayoutRoot_exact (limited : display.Limited) (inside : display.bounds.Inside display)
    {root : Json} (found : object.field "root" = some root) :
    Ensures (OfSome (ContentWritten display object))
      (parseLayoutRoot round root path display) := by
  apply ((parseLayoutRoot_places limited inside).and parseLayoutRoot_writes).mono
  rintro result ⟨places, writes⟩ content returned
  obtain ⟨scan, rfl, -, -, placement⟩ := places content returned
  obtain ⟨widgets, same, reads⟩ := placement.leaves
  rw [List.flatMap_singleton] at reads
  rw [List.nil_append] at same
  refine Or.inr ⟨root, found, layoutTree root path display, ?_, ?_, ?_, ?_⟩
  · exact writes _ returned
  · exact placeNode_bounds _ _ _ _
  · exact placement.sound _ (List.mem_singleton_self _)
  · rw [same]
    exact (reads.imp fun leaf widget read => read.described).flip

/-- So are those of a layout card. -/
theorem parseLayoutCard_exact (limited : display.Limited)
    (inside : display.bounds.Inside display) :
    Ensures (OfSome (ContentWritten display object))
      (parseLayoutCard round object path display) := by
  apply Ensures.step
  intro _
  split
  next widgets found rootless => exact parseWidgetList_exact found rootless
  next root _ found => exact parseLayoutRoot_exact limited inside found
  · exact ensures_reject

/-- A bitmap card writes no integer. -/
theorem parseBitmapCard_exact :
    Ensures (OfSome (ContentWritten display object)) (parseBitmapCard object path display) := by
  apply Ensures.step
  intro _
  apply (Ensures.anySome _).bindSome
  · exact Ensures.pure OfSome.none
  intro paletteField _
  apply Ensures.step
  intro palette
  dsimp only
  split
  · split
    · exact ensures_reject
    · apply Ensures.step
      intro pixels
      split
      · exact Ensures.pure (OfSome.some trivial)
      · exact Ensures.pure OfSome.none
  · exact ensures_reject

/-- Nor does a clock card. -/
theorem parseClockCard_exact :
    Ensures (OfSome (ContentWritten display object)) (parseClockCard object path display) := by
  apply Ensures.step
  intro _
  dsimp only
  split
  · exact ensures_reject
  · apply Ensures.step
    intro localColor
    apply Ensures.step
    intro utcColor
    split
    · exact Ensures.pure (OfSome.some trivial)
    · exact Ensures.pure OfSome.none

/-- The integers of a card's content are those it writes. -/
theorem parseCardContent_exact (limited : display.Limited)
    (inside : display.bounds.Inside display) {type : Bytes} :
    Ensures (OfSome (ContentWritten display object))
      (parseCardContent round object path display type) := by
  have each : ∀ entry ∈ cardTypes round, Ensures (OfSome (ContentWritten display object))
      (entry.2 object path display) := by
    simp only [cardTypes, List.forall_mem_cons]
    exact ⟨parseBitmapCard_exact, parseClockCard_exact, parseIndicatorCard_exact,
      parseLayoutCard_exact limited inside, List.forall_mem_nil _⟩
  unfold parseCardContent
  split
  next parse known => exact each _ (List.mem_of_find?_eq_some known)
  · exact Ensures.step fun _ => ensures_reject

/-- So are those of the whole card. -/
theorem parseCard_exact (limited : display.Limited) (inside : display.bounds.Inside display)
    {item : Json} :
    Ensures (OfSome fun card => CardWritten display card item)
      (parseCard round item path display) := by
  unfold parseCard
  split
  next members =>
    apply requiredIdentifier_read.bind
    intro id hid
    apply Ensures.step
    intro type
    apply Ensures.step
    intro hold
    apply Ensures.step
    intro transition
    split
    next id type hold transition =>
      apply (parseCardContent_exact limited inside).bindMap
      exact fun content written => ⟨members, rfl, hid id rfl, written⟩
    · exact Ensures.pure OfSome.none
  · exact ensures_reject

/-! ## The document -/

/-- The integers of a configuration, apart from the version, are the document's. -/
structure PartsWritten (root : Members) (config : AppConfig) : Prop where
  display : ∃ display, root.field "display" = some (.object display) ∧
    Members.integer display "width" = some (config.display.width : Int) ∧
    Members.integer display "height" = some (config.display.height : Int)
  monitors : List.SublistForall₂ MonitorWritten config.monitors (root.items "monitors")
  indicators : List.SublistForall₂ IndicatorWritten config.indicators (root.items "indicators")
  cards : List.SublistForall₂ (CardWritten config.display) config.cards (root.items "cards")

/-- Every integer of a configuration is the document's, whose version is 1. -/
structure IntegersWritten (root : Members) (config : AppConfig) : Prop where
  version : root.integer "schema_version" = some config.schemaVersion.toInt
  supported : root.integer "schema_version" = some 1
  parts : PartsWritten root config

/-- The version that a document writes, if it is an integer, fits an `int`. -/
def VersionFits (root : Members) : Prop :=
  ∀ version ∈ root.integer "schema_version", -2 ^ 31 ≤ version ∧ version < 2 ^ 31

instance (root : Members) : Decidable (VersionFits root) :=
  inferInstanceAs (Decidable (∀ version ∈ root.integer "schema_version", _))

section

variable {platform : Platform} {root : Members} {statuses : Statuses}

/-- The sides of the display are those that are written. -/
theorem parseDisplay_exact :
    Ensures (fun config => ∃ display, root.field "display" = some (.object display) ∧
        Members.integer display "width" = some (config.width : Int) ∧
        Members.integer display "height" = some (config.height : Int))
      (parseDisplay root) := by
  unfold parseDisplay
  dsimp only
  split
  next display found =>
    apply Ensures.step
    intro _
    apply boundedSize_returns.bind
    intro width hwidth
    apply boundedSize_returns.bind
    intro height hheight
    apply Ensures.step
    intro _
    apply Ensures.step
    intro background
    exact Ensures.pure ⟨display, found, hwidth, hheight⟩
  · exact ensures_addError_bind

/-- The integers of the monitors are those they write. -/
theorem parseMonitors_exact :
    Ensures (fun monitors =>
        List.SublistForall₂ MonitorWritten monitors (root.items "monitors"))
      (parseMonitors platform round root statuses) := by
  unfold parseMonitors
  dsimp only
  split
  · exact Ensures.pure .nil
  next monitors found =>
    split
    · exact ensures_addError_bind
    · rw [Members.items_of_field found]
      exact collectDistinct_exact fun _ _ => parsePullMonitor_exact
  · exact ensures_addError_bind

/-- So are those of the legacy indicators. -/
theorem parseIndicators_exact {indicators : Json}
    (found : root.field "indicators" = some indicators) :
    Ensures (fun kept => List.SublistForall₂ IndicatorWritten kept (root.items "indicators"))
      (parseIndicators indicators display) := by
  unfold parseIndicators
  split
  · split
    · exact ensures_addError_bind
    · split
      · exact ensures_addError_bind
      · rw [Members.items_of_field found]
        exact collectDistinct_exact fun _ _ => parseIndicatorConfig_exact
  · exact ensures_addError_bind

/-- A card of the deck adds what it writes. -/
theorem parseDeckCard_exact (limited : display.Limited) (inside : display.bounds.Inside display)
    {scan : DeckScan} {passed : List Json} {item : Json × Nat}
    (sofar : List.SublistForall₂ (CardWritten display) scan.cards passed) :
    Ensures (fun next =>
        List.SublistForall₂ (CardWritten display) next.cards (passed ++ [item.1]))
      (parseDeckCard round display statuses scan item) := by
  apply (parseCard_exact limited inside).bindSome
  · exact Ensures.pure (sublist_skip sofar item.1)
  intro card hcard
  dsimp only
  split
  · exact ensures_addError_bind
  · apply Ensures.step
    intro _
    split
    · exact ensures_addError_bind
    · exact Ensures.pure (sublist_snoc sofar (OfSome.some hcard))

/-- So does the whole deck. -/
theorem parseDeck_exact (limited : display.Limited) (inside : display.bounds.Inside display)
    {cards : Json} (found : root.field "cards" = some cards) :
    Ensures (fun kept =>
        List.SublistForall₂ (CardWritten display) kept (root.items "cards"))
      (parseDeck round cards display statuses) := by
  unfold parseDeck
  dsimp only
  split
  next items =>
    rw [Members.items_of_field found]
    split
    · exact ensures_addError_bind
    · have start : List.SublistForall₂ (CardWritten display) ({} : DeckScan).cards [] := .nil
      apply (Ensures.foldlM_zipIdx (fun passed (scan : DeckScan) =>
        List.SublistForall₂ (CardWritten display) scan.cards passed) start _).bind
      · exact fun scan reads => Ensures.pure reads
      intro passed scan item _ sofar
      exact parseDeckCard_exact limited inside sofar
  · exact ensures_addError_bind

/-- The integers of what is shown are those that are written. -/
theorem parseContents_exact (limited : display.Limited)
    (inside : display.bounds.Inside display) :
    Ensures (fun contents =>
        List.SublistForall₂ IndicatorWritten contents.1 (root.items "indicators") ∧
          List.SublistForall₂ (CardWritten display) contents.2 (root.items "cards"))
      (parseContents round root display statuses) := by
  unfold parseContents
  split
  next indicators found _ =>
    apply (parseIndicators_exact found).bind
    exact fun kept reads => Ensures.pure ⟨reads, .nil⟩
  next cards _ found =>
    apply (parseDeck_exact limited inside found).bind
    exact fun kept reads => Ensures.pure ⟨.nil, reads⟩
  · exact ensures_addError_bind

/-- A version that is accepted is 1 as an `int`, whatever was written. -/
theorem parseSchemaVersion_exact :
    Ensures (fun version => version = 1 ∧ ∃ written,
        root.integer "schema_version" = some written ∧ Int32.ofInt written = 1)
      (parseSchemaVersion root) := by
  unfold parseSchemaVersion
  dsimp only
  split
  · exact ensures_addError_bind
  next version read =>
    split
    · exact ensures_addError_bind
    next supported =>
      obtain rfl := Decidable.not_not.mp supported
      apply Ensures.pure
      refine ⟨rfl, ?_⟩
      split at read
      next value found =>
        exact ⟨_, Members.integer_of_field found, Option.some.inj read⟩
      next value found =>
        exact ⟨_, Members.integer_of_field found, Option.some.inj read⟩
      · cases read

/-- Apart from the version, no integer is anything but what is written. -/
theorem parseConfig_exact :
    Ensures (fun config => PartsWritten root config ∧ config.schemaVersion = 1 ∧ ∃ written,
        root.integer "schema_version" = some written ∧ Int32.ofInt written = 1)
      (parseConfig platform round root) := by
  apply Ensures.step
  intro _
  apply parseSchemaVersion_exact.bind
  intro version hversion
  apply (parseDisplay_exact.and (parseDisplay_limited.and parseDisplay_ensures)).bind
  rintro display ⟨hdisplay, limited, inside⟩
  apply Ensures.step
  intro statuses
  apply parseMonitors_exact.bind
  intro monitors hmonitors
  apply (parseContents_exact limited inside).bind
  intro contents hcontents
  exact Ensures.pure ⟨⟨hdisplay, hmonitors, hcontents.1, hcontents.2⟩, hversion⟩

/-- An integer that is 1 as an `int` is 1 exactly when it fits. -/
theorem fits_iff {written : Int} (wraps : Int32.ofInt written = 1) :
    written = 1 ↔ -2 ^ 31 ≤ written ∧ written < 2 ^ 31 := by
  refine ⟨?_, ?_⟩
  · rintro rfl
    decide
  · intro fits
    have held : (Int32.ofInt written).toInt = written := Int32.toInt_ofInt_of_le fits.1 fits.2
    rw [← held, wraps]
    rfl

/-- What the loader returns is the value of a silent run over the document. -/
theorem parseConfig_of_contents {parse : Bytes → Option Json} {text : Bytes} {config : AppConfig}
    (parsed : parse text = some (.object root))
    (loaded : (loadConfigFile platform round parse path (.contents text)).config = some config) :
    (parseConfig platform round root).log = [] ∧
      (parseConfig platform round root).value = config := by
  unfold loadConfigFile at loaded
  dsimp only at loaded
  split at loaded
  · cases loaded
  · rw [parsed] at loaded
    dsimp only [finishLoading] at loaded
    split at loaded
    next silent => exact ⟨silent, Option.some.inj loaded⟩
    · cases loaded

/-- Apart from the version, the integers of every loaded configuration are those
of its document. -/
theorem partsWritten_of_loadConfigFile {parse : Bytes → Option Json} {text : Bytes}
    {config : AppConfig} (parsed : parse text = some (.object root))
    (loaded : (loadConfigFile platform round parse path (.contents text)).config = some config) :
    PartsWritten root config := by
  obtain ⟨silent, rfl⟩ := parseConfig_of_contents parsed loaded
  exact (parseConfig_exact.value silent).1

end

/-- Every integer of a loaded configuration is the one that its document writes,
and the version written is 1, exactly when that version fits an `int`. -/
theorem loadConfigFile_integers (platform : Platform) (round : Rounding)
    (parse : Bytes → Option Json) (path text : Bytes) (root : Members) (config : AppConfig)
    (parsed : parse text = some (.object root))
    (loaded : (loadConfigFile platform round parse path (.contents text)).config = some config) :
    IntegersWritten root config ↔ VersionFits root := by
  obtain ⟨silent, rfl⟩ := parseConfig_of_contents parsed loaded
  obtain ⟨parts, version, written, found, wraps⟩ := parseConfig_exact.value silent
  refine ⟨?_, ?_⟩
  · intro exact other same
    obtain rfl : other = 1 := Option.some.inj ((Option.mem_def.mp same).symm.trans exact.supported)
    decide
  · intro fits
    obtain rfl : written = 1 := (fits_iff wraps).mpr (fits written found)
    refine ⟨?_, ?_, ?_⟩
    · rw [found, version]
      rfl
    · exact found
    · exact parts

/-- The sample document is loaded as it is written. -/
theorem loadConfigFile_integers_sample : IntegersWritten sampleDocument sampleConfig :=
  (loadConfigFile_integers .linux Double.exact (fun _ => some (.object sampleDocument)) [] []
    sampleDocument sampleConfig rfl sampleDocument_loads).mpr (by decide)

/-- The sample document with a version of 2 to the 32nd power and 1. -/
def wrappedDocument : Members :=
  Members.set "schema_version" (.unsigned 4294967297) sampleDocument

/-- It is loaded as a document of version 1. -/
theorem loadConfigFile_wraps :
    ∃ config, (loadConfigFile .linux Double.exact (fun _ => some (.object wrappedDocument)) []
        (.contents [])).config = some config ∧
      config.schemaVersion = 1 ∧
      wrappedDocument.integer "schema_version" = some 4294967297 ∧
      ¬ IntegersWritten wrappedDocument config := by
  have silent : (parseConfig .linux Double.exact wrappedDocument).log = [] := by decide +kernel
  have written : wrappedDocument.integer "schema_version" = some 4294967297 := by decide +kernel
  refine ⟨_, loadConfigFile_of_silent (Nat.zero_le _) rfl silent, ?_, written, ?_⟩
  · exact (parseConfig_exact.value silent).2.1
  · intro exact
    have same : (4294967297 : Int) = 1 := Option.some.inj (written.symm.trans exact.supported)
    exact absurd same (by decide)

end PixelStatus
