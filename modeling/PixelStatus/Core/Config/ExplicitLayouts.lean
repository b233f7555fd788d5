/-
# A layout tree means its explicit widgets

A card with a layout tree and the card that lists the tree's leaves with their
rectangles are the same card: the leaves are read the same, in the same order,
and ids that differ in the tree differ in the list.
-/

import PixelStatus.Core.Config.ExplicitWidgets
import PixelStatus.Core.Config.LayoutGeometry

namespace PixelStatus

open Logged

/-! ## Lists of items that are read -/

section

variable {α : Type} {idOf : α → Bytes} {read : Json → Bytes → Loading (Option α)}
  {path duplicate : Bytes}

/-- One item that is read, of an id that was not there before. -/
theorem collectItem_fresh {kept : List α} {item : Json × Nat} {value : α}
    (reads : ∀ path, read item.1 path = return some value) (fresh : idOf value ∉ kept.map idOf) :
    collectItem idOf read path duplicate kept item = return kept ++ [value] := by
  unfold collectItem
  rw [reads, pure_bind]
  dsimp only
  rw [if_neg fresh]

/-- Items that are read as values of distinct ids are all collected. -/
theorem collectDistinct_of_reads {items : List Json} {values : List α}
    (reads : List.Forall₂ (fun item value => ∀ path, read item path = return some value)
      items values)
    (distinct : (values.map idOf).Nodup) :
    collectDistinct idOf read path duplicate items = return values := by
  have collected : ∀ (index : Nat) (kept : List α), ((kept ++ values).map idOf).Nodup →
      (items.zipIdx index).foldlM (collectItem idOf read path duplicate) kept =
        return kept ++ values := by
    clear distinct
    induction reads with
    | nil =>
        intro index kept _
        rw [List.append_nil]
        rfl
    | @cons item value items values first _ ih =>
        intro index kept distinct
        have fresh : idOf value ∉ kept.map idOf := by
          rw [List.map_append, List.map_cons] at distinct
          intro member
          exact (List.disjoint_of_nodup_append distinct) member List.mem_cons_self
        rw [List.zipIdx_cons, List.foldlM_cons, collectItem_fresh first fresh, pure_bind]
        rw [List.append_cons] at distinct
        rw [@List.append_cons _ kept value values]
        exact ih (index + 1) (kept ++ [value]) distinct
  exact collected 0 [] distinct

end

/-! ## The explicit card -/

def explicitLeaf : Json × LayoutBounds → Json
  | (.object item, bounds) => .object (explicitWidget item bounds)
  | (item, _) => item

/-- The card with its root replaced by the leaves of the tree, written out. -/
def explicitCard (item : Members) (root : Json) (path : Bytes) (display : DisplayConfig) :
    Members :=
  (item.without ["root"]).set "widgets"
    (.array ((layoutTree root path display).leaves.map explicitLeaf))

variable {round : Rounding} {display : DisplayConfig} {path : Bytes} {root : Json}
  {item : Members}

/-- A leaf reads as the same widget when its rectangle is written into it. -/
theorem ReadsLeaf.explicit {leaf : Json × LayoutBounds} {widget : LayoutWidgetConfig}
    (reads : ReadsLeaf round display leaf widget) (limited : display.Limited)
    (inside : leaf.2.Inside display) (path : Bytes) :
    parseLayoutWidget round (explicitLeaf leaf) path display none = return some widget := by
  obtain ⟨treePath, silent, same⟩ := reads
  obtain ⟨json, bounds⟩ := leaf
  cases json with
  | object item =>
      have agreed := (@parseLayoutWidget_agrees item bounds display treePath path round limited
        inside).value silent
      exact eq_pure agreed.1 (agreed.2.trans same)
  | null | boolean | integer | unsigned | float | string | array => cases silent

/-- So do all leaves of a tree, one after the other. -/
theorem explicitLeaves_read {leaves : List (Json × LayoutBounds)}
    {widgets : List LayoutWidgetConfig} (limited : display.Limited)
    (reads : List.Forall₂ (ReadsLeaf round display) leaves widgets)
    (inside : ∀ leaf ∈ leaves, leaf.2.Inside display) :
    List.Forall₂ (fun item widget => ∀ path,
        parseLayoutWidget round item path display none = return some widget)
      (leaves.map explicitLeaf) widgets := by
  induction reads with
  | nil => exact .nil
  | cons first _ ih =>
      have parts := List.forall_mem_cons.mp inside
      exact .cons (first.explicit limited parts.1) (ih parts.2)

/-- The list of a tree's explicit leaves is read as the tree's widgets. -/
theorem parseWidgetList_explicit {leaves : List (Json × LayoutBounds)}
    {widgets : List LayoutWidgetConfig} (limited : display.Limited)
    (reads : List.Forall₂ (ReadsLeaf round display) leaves widgets)
    (inside : ∀ leaf ∈ leaves, leaf.2.Inside display)
    (distinct : (widgets.map LayoutWidgetConfig.id).Nodup) (some : widgets ≠ [])
    (few : widgets.length ≤ maximumLayoutWidgets) :
    parseWidgetList round (.array (leaves.map explicitLeaf)) path display =
      return Option.some (.layout { widgets }) := by
  have count : (leaves.map explicitLeaf).length = widgets.length := by
    rw [List.length_map, reads.length_eq]
  have bounded (message : Bytes) : boundedArray (Option.some (.array (leaves.map explicitLeaf)))
      maximumLayoutWidgets message = return Option.some (leaves.map explicitLeaf) := by
    rw [boundedArray, if_neg]
    rw [count, not_or]
    refine ⟨fun empty => some ?_, Nat.not_lt.mpr few⟩
    rw [← List.length_eq_zero_iff, ← count, empty, List.length_nil]
  unfold parseWidgetList
  rw [bounded, pure_bind]
  dsimp only
  rw [collectDistinct_of_reads (explicitLeaves_read limited reads inside) distinct, pure_bind,
    if_neg (not_not_intro count.symm)]

/-! ## The same card -/

/-- The explicit card has the fields of the card, apart from its widgets. -/
theorem explicitCard_field {key : String}
    (plain : bytes key ∉ (["widgets", "root"] : List String).map bytes) :
    (explicitCard item root path display).field key = item.field key := by
  simp only [List.map_cons, List.map_nil, List.mem_cons, List.not_mem_nil, or_false,
    not_or] at plain
  rw [explicitCard, Members.field_set_ne plain.1, Members.field_without]
  simpa using plain.2

/-- Its widgets are the leaves of the tree. -/
theorem explicitCard_widgets :
    (explicitCard item root path display).field "widgets" =
      some (.array ((layoutTree root path display).leaves.map explicitLeaf)) :=
  Members.field_set_self

/-- It has no tree. -/
theorem explicitCard_root : (explicitCard item root path display).field "root" = none := by
  rw [explicitCard, Members.field_set_ne (by decide)]
  exact Members.field_without_self (List.mem_singleton_self _)

/-- The list of explicit leaves reads as the tree does. -/
theorem parseLayoutRoot_follows (limited : display.Limited)
    (inside : display.bounds.Inside display) :
    Follows (parseLayoutRoot round root path display)
      (parseWidgetList round
        (.array ((layoutTree root path display).leaves.map explicitLeaf)) path display) := by
  constructor
  intro content same
  obtain ⟨scan, rfl, some, few, placement⟩ :=
    (parseLayoutRoot_places limited inside).value (congrArg Logged.log same) content
      (congrArg Logged.value same)
  obtain ⟨widgets, read, reads⟩ := placement.leaves
  have distinct := placement.distinct ⟨rfl, List.nodup_nil⟩
  rw [List.nil_append] at read
  rw [List.flatMap_singleton] at reads
  have leaves := PlacedNode.leaves_inside (layoutTree root path display)
    (placement.sound _ (List.mem_singleton_self _))
    (by rw [layoutTree, placeNode_bounds]; exact inside)
  rw [← read] at reads
  apply parseWidgetList_explicit limited reads leaves _ some few
  rw [← List.nodup_reverse, ← distinct.ids]
  exact distinct.nodup

/-- So the explicit card has the content of the card with the tree. -/
theorem parseLayoutCard_follows (limited : display.Limited)
    (inside : display.bounds.Inside display) (written : item.field "root" = some root) :
    Follows (parseLayoutCard round item path display)
      (parseLayoutCard round (explicitCard item root path display) path display) := by
  unfold parseLayoutCard
  apply Follows.bind
  · apply rejectUnknownFields_agrees
    intro known field member
    rcases Members.mem_set member with widgets | member
    · rw [widgets]
      decide
    · exact known field (Members.mem_without member).1
  intro _
  rw [explicitCard_widgets, explicitCard_root, written]
  dsimp only
  split
  next impossible => cases impossible
  next same =>
    cases same
    exact parseLayoutRoot_follows limited inside
  · exact Follows.of_agrees agrees_reject

theorem parseCardContent_layout :
    parseCardContent round item path display (bytes "layout") =
      parseLayoutCard round item path display := rfl

/-- The type of a layout card is read. -/
theorem requiredString_layout (layout : item.field "type" = some (.string (bytes "layout"))) :
    requiredString item "type" path = return some (bytes "layout") := by
  rw [requiredString, layout]
  rfl

/-- The whole card reads the same. -/
theorem parseCard_follows (limited : display.Limited) (inside : display.bounds.Inside display)
    (layout : item.field "type" = some (.string (bytes "layout")))
    (written : item.field "root" = some root) :
    Follows (parseCard round (.object item) path display)
      (parseCard round (.object (explicitCard item root path display)) path display) := by
  have same {key : String} (plain : bytes key ∉ (["widgets", "root"] : List String).map bytes) :
      (explicitCard item root path display).field key = item.field key :=
    explicitCard_field plain
  have hold : requiredDuration (explicitCard item root path display) "hold" path minimumCardHold
      maximumCardHold = requiredDuration item "hold" path minimumCardHold maximumCardHold := by
    rw [requiredDuration, requiredDuration, same (by decide)]
  have transition : parseCardTransition (explicitCard item root path display) path =
      parseCardTransition item path := by
    rw [parseCardTransition, parseCardTransition, same (by decide)]
  unfold parseCard
  dsimp only
  rw [requiredString_layout layout, requiredString_layout ((same (by decide)).trans layout),
    hold, transition]
  apply Follows.bind (requiredIdentifier_agrees (same (by decide)))
  intro id
  rw [pure_bind, pure_bind]
  apply Follows.bind (Agrees.refl _)
  intro hold
  apply Follows.bind (Agrees.refl _)
  intro transition
  split
  next known =>
    cases known
    rw [parseCardContent_layout, parseCardContent_layout]
    exact (parseLayoutCard_follows limited inside written).map
  · exact Follows.of_agrees (Agrees.refl _)

/-- A layout card with a tree that the loader accepts, with the tree replaced by
the list of its leaves in document order, each without its share and with its
rectangle written out, is accepted and is the same card. -/
theorem explicit_of_layout_tree {document : Members} {card : CardConfig}
    (sized : (parseDisplay document).log = [])
    (layout : item.field "type" = some (.string (bytes "layout")))
    (written : item.field "root" = some root)
    (silent : (parseCard round (.object item) path (parseDisplay document).value).log = [])
    (accepted : (parseCard round (.object item) path (parseDisplay document).value).value =
      some card) :
    (parseCard round (.object (explicitCard item root path (parseDisplay document).value)) path
      (parseDisplay document).value).log = [] ∧
    (parseCard round (.object (explicitCard item root path (parseDisplay document).value)) path
      (parseDisplay document).value).value = some card := by
  have follows := @parseCard_follows round _ path root item
    (parseDisplay_limited.value sized) (parseDisplay_ensures.value sized) layout written
  rw [follows.yields card (eq_pure silent accepted)]
  exact ⟨rfl, rfl⟩

/-- The card of the sample deck, written out, is the same card. -/
theorem explicit_of_layout_tree_sample : ∃ card,
    (parseCard Double.exact (.object sampleLayoutCard) [] sampleConfig.display).value =
      some card ∧
    (parseCard Double.exact (.object (explicitCard sampleLayoutCard
      ((sampleLayoutCard.field "root").getD .null) [] sampleConfig.display)) []
        sampleConfig.display).value = some card := by
  obtain ⟨card, accepted⟩ := Option.isSome_iff_exists.mp
    (show (parseCard Double.exact (.object sampleLayoutCard) []
      (parseDisplay sampleDocument).value).value.isSome = true by decide +kernel)
  have explicit := explicit_of_layout_tree (by decide +kernel) rfl rfl (by decide +kernel)
    accepted
  exact ⟨card, accepted, explicit.2⟩

end PixelStatus
