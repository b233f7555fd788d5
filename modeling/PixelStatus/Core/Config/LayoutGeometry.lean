/-
# The geometry of layout trees

What the splits of a tree add up to: its leaves lie inside the display, and the
leaves under different children of a row or a column have no pixel in common.
-/

import PixelStatus.Core.Config.Load
import PixelStatus.Core.Config.PlacedTree
import PixelStatus.Core.Rectangles

namespace PixelStatus

open Logged

variable {horizontal : Bool} {gap : Nat} {allocations : List Allocation} {bounds : LayoutBounds}
  {rectangles : List LayoutBounds} {display : DisplayConfig}

/-- The children of a split are within its rectangle. -/
theorem SplitGeometry.within
    (geometry : SplitGeometry horizontal gap allocations bounds rectangles) :
    ∀ rectangle ∈ rectangles, bounds.Within rectangle := by
  intro rectangle member
  have across := geometry.crossAxis rectangle member
  have along := geometry.laid.within member
  cases horizontal with
  | true =>
      simp only [axisStart, axisExtent, Bool.not_true, Bool.false_eq_true, if_true,
        if_false] at across along
      exact ⟨along.1, along.2, across.1.ge, by omega⟩
  | false =>
      simp only [axisStart, axisExtent, Bool.not_false, Bool.false_eq_true, if_true,
        if_false] at across along
      exact ⟨across.1.ge, by omega, along.1, along.2⟩

/-- No two children of a split have a pixel in common. -/
theorem SplitGeometry.apart
    (geometry : SplitGeometry horizontal gap allocations bounds rectangles) :
    rectangles.Pairwise LayoutBounds.Apart := by
  apply geometry.laid.ordered.imp
  intro first second ordered x y covered
  obtain ⟨⟨firstAcross, firstDown⟩, secondAcross, secondDown⟩ := covered
  cases horizontal with
  | true =>
      simp only [axisStart, axisExtent, if_true] at ordered
      omega
  | false =>
      simp only [axisStart, axisExtent, Bool.false_eq_true, if_false] at ordered
      omega

namespace PlacedNode

/-- The nodes of a node's nodes are its own. -/
theorem nodes_trans (tree : PlacedNode) {node below : PlacedNode} (member : node ∈ tree.nodes)
    (found : below ∈ node.nodes) : below ∈ tree.nodes := by
  induction tree using PlacedNode.induction with
  | leaf item bounds =>
      obtain rfl := List.mem_singleton.mp member
      exact found
  | stack bounds children ih | split horizontal gap allocations bounds children ih =>
      rcases List.mem_cons.mp member with rfl | later
      · exact found
      · rw [nodesOf_eq] at later
        obtain ⟨child, hchild, inside⟩ := List.mem_flatMap.mp later
        rw [nodes, nodesOf_eq]
        exact List.mem_cons_of_mem _ (List.mem_flatMap_of_mem hchild (ih child hchild inside))

/-- The nodes of a child of a node with these children. -/
theorem nodes_of_child (node : PlacedNode) {child : PlacedNode} {children : List PlacedNode}
    (nodes : node.nodes = node :: nodesOf children) (member : child ∈ children) :
    ∀ below ∈ child.nodes, below ∈ node.nodes := by
  intro below found
  rw [nodes, nodesOf_eq]
  exact List.mem_cons_of_mem _ (List.mem_flatMap_of_mem member found)

/-- What splits hand on from their rectangle to those of their children reaches
the leaves. -/
theorem leaves_inherit {property : LayoutBounds → Prop}
    (inherits : ∀ horizontal gap allocations bounds rectangles,
      SplitGeometry horizontal gap allocations bounds rectangles → property bounds →
        ∀ rectangle ∈ rectangles, property rectangle)
    (tree : PlacedNode) (sound : ∀ node ∈ tree.nodes, node.Sound)
    (start : property tree.bounds) : ∀ leaf ∈ tree.leaves, property leaf.2 := by
  induction tree using PlacedNode.induction with
  | leaf item bounds =>
      intro leaf member
      obtain rfl := List.mem_singleton.mp member
      exact start
  | stack bounds children ih =>
      intro leaf member
      rw [leaves, leavesOf_eq] at member
      obtain ⟨child, hchild, found⟩ := List.mem_flatMap.mp member
      have below := nodes_of_child (.stack bounds children) rfl hchild
      have here : child.bounds = bounds := sound _ List.mem_cons_self child hchild
      exact ih child hchild (fun node hnode => sound node (below node hnode))
        (here ▸ start) leaf found
  | split horizontal gap allocations bounds children ih =>
      intro leaf member
      rw [leaves, leavesOf_eq] at member
      obtain ⟨child, hchild, found⟩ := List.mem_flatMap.mp member
      have below := nodes_of_child (.split horizontal gap allocations bounds children) rfl hchild
      have here : SplitGeometry horizontal gap allocations bounds
        (children.map PlacedNode.bounds) := sound _ List.mem_cons_self
      exact ih child hchild (fun node hnode => sound node (below node hnode))
        (inherits _ _ _ _ _ here start _ (List.mem_map_of_mem hchild)) leaf found

/-- The leaves of a sound tree stay in its rectangle. -/
theorem leaves_within (tree : PlacedNode) (sound : ∀ node ∈ tree.nodes, node.Sound) :
    ∀ leaf ∈ tree.leaves, tree.bounds.Within leaf.2 := by
  refine @leaves_inherit tree.bounds.Within ?_ tree sound (.refl tree.bounds)
  intro _ _ _ bounds rectangles geometry within rectangle member
  exact within.trans (geometry.within rectangle member)

/-- The leaves of a sound tree are inside the display. -/
theorem leaves_inside (tree : PlacedNode) (sound : ∀ node ∈ tree.nodes, node.Sound)
    (inside : tree.bounds.Inside display) : ∀ leaf ∈ tree.leaves, leaf.2.Inside display :=
  leaves_inherit (fun _ _ _ _ _ geometry => geometry.inside) tree sound inside

/-- Leaves under different children of a split have no pixel in common. -/
theorem leaves_apart {horizontal : Bool} {gap : Nat} {allocations : List Allocation}
    {bounds : LayoutBounds} {children : List PlacedNode}
    (sound : ∀ node ∈ (PlacedNode.split horizontal gap allocations bounds children).nodes,
      node.Sound) :
    children.Pairwise fun first second =>
      ∀ leaf ∈ first.leaves, ∀ other ∈ second.leaves, leaf.2.Apart other.2 := by
  have geometry : SplitGeometry horizontal gap allocations bounds
    (children.map PlacedNode.bounds) := sound _ List.mem_cons_self
  have below {child : PlacedNode} (member : child ∈ children) :
      ∀ node ∈ child.nodes, node.Sound :=
    fun node found => sound node (nodes_of_child _ rfl member node found)
  apply (List.pairwise_map.mp geometry.apart).imp_of_mem
  intro first second hfirst hsecond apart leaf hleaf other hother x y covered
  have leafWithin := first.leaves_within (below hfirst) leaf hleaf
  have otherWithin := second.leaves_within (below hsecond) other hother
  exact apart x y ⟨leafWithin.covers covered.1, otherWithin.covers covered.2⟩

end PlacedNode

/-- Both sides of a display that was read are within the limit. -/
theorem parseDisplay_limited {root : Members} :
    Ensures DisplayConfig.Limited (parseDisplay root) :=
  parseDisplay_sides.mono fun _ sides => ⟨sides.1.2, sides.2.2⟩

/-! ## Accepted cards -/

variable {round : Rounding} {path : Bytes} {root : Json} {item : Members}

/-- The tree of a card's root. -/
def layoutTree (root : Json) (path : Bytes) (display : DisplayConfig) : PlacedNode :=
  placeNode (maximumLayoutDepth + 1) root (fieldPath path "root") display.bounds

/-- The widgets of a card with a tree are those of a run over the tree. -/
def TreeCard (round : Rounding) (display : DisplayConfig) (tree : PlacedNode)
    (content : CardContentConfig) : Prop :=
  ∃ scan : LayoutScan, content = .layout { widgets := scan.widgets } ∧ scan.widgets ≠ [] ∧
    scan.widgets.length ≤ maximumLayoutWidgets ∧ Placement round display [tree] {} scan

/-- A tree that is read is the card that its placement says. -/
theorem parseLayoutRoot_places (limited : display.Limited)
    (inside : display.bounds.Inside display) :
    Ensures (OfSome (TreeCard round display (layoutTree root path display)))
      (parseLayoutRoot round root path display) := by
  unfold parseLayoutRoot
  dsimp only
  split
  next members =>
    split
    · exact ensures_reject
    · apply (parseLayoutNode_places limited _ _ _ _ {} inside).bind
      rintro ⟨valid, scan⟩ placement
      dsimp only
      split
      · exact Ensures.pure OfSome.none
      next accepted =>
        split
        · exact ensures_reject
        next counted =>
          have parts := not_or.mp counted
          apply Ensures.pure
          apply OfSome.some
          refine ⟨scan, rfl, parts.1, Nat.not_lt.mp parts.2, placement ?_⟩
          simpa using accepted
  · exact ensures_reject

/-- So is the card that the tree belongs to. -/
theorem parseLayoutCard_places (limited : display.Limited)
    (inside : display.bounds.Inside display) (written : item.field "root" = some root) :
    Ensures (OfSome (TreeCard round display (layoutTree root path display)))
      (parseLayoutCard round item path display) := by
  apply Ensures.step
  intro _
  rw [written]
  split
  next impossible => cases impossible
  next same =>
    cases same
    exact parseLayoutRoot_places limited inside
  · exact ensures_reject

/-- The widgets that a run reads take the rectangles of the leaves. -/
theorem bounds_of_readsLeaf {leaves : List (Json × LayoutBounds)}
    {widgets : List LayoutWidgetConfig}
    (reads : List.Forall₂ (ReadsLeaf round display) leaves widgets) :
    widgets.map LayoutWidgetConfig.bounds = leaves.map Prod.snd := by
  induction reads with
  | nil => rfl
  | cons first _ ih =>
      obtain ⟨path, silent, same⟩ := first
      rw [List.map_cons, List.map_cons, ih, parseLayoutWidget_assigned.value silent _ same]

/-- For a layout card with a tree that the loader accepts: every row and every
column is a split of its rectangle, with nothing of two children in common,
every stack gives its rectangle to all its children, every leaf lies inside the
display, and the widgets take the rectangles of the leaves. -/
theorem layout_geometry {document : Members} {content : LayoutCardConfig}
    (sized : (parseDisplay document).log = [])
    (silent : (parseLayoutCard round item path (parseDisplay document).value).log = [])
    (accepted : (parseLayoutCard round item path (parseDisplay document).value).value =
      some (.layout content))
    (written : item.field "root" = some root) :
    (∀ horizontal gap allocations bounds children,
      PlacedNode.split horizontal gap allocations bounds children ∈
          (layoutTree root path (parseDisplay document).value).nodes →
        SplitGeometry horizontal gap allocations bounds (children.map PlacedNode.bounds) ∧
        children.Pairwise fun first second => ∀ leaf ∈ first.leaves, ∀ other ∈ second.leaves,
          leaf.2.Apart other.2) ∧
    (∀ bounds children,
      PlacedNode.stack bounds children ∈
          (layoutTree root path (parseDisplay document).value).nodes →
        ∀ child ∈ children, child.bounds = bounds) ∧
    (∀ leaf ∈ (layoutTree root path (parseDisplay document).value).leaves,
      leaf.2.Inside (parseDisplay document).value) ∧
    content.widgets.map LayoutWidgetConfig.bounds =
      (layoutTree root path (parseDisplay document).value).leaves.map Prod.snd := by
  have limited := parseDisplay_limited.value sized
  have inside := parseDisplay_ensures.value sized
  generalize (parseDisplay document).value = display at *
  obtain ⟨scan, same, -, -, placement⟩ :=
    (parseLayoutCard_places limited inside written).value silent _ accepted
  cases same
  have sound : ∀ node ∈ (layoutTree root path display).nodes, node.Sound :=
    placement.sound _ (List.mem_singleton_self _)
  refine ⟨?_, ?_, ?_, ?_⟩
  · intro horizontal gap allocations bounds children member
    have below : ∀ node ∈ (PlacedNode.split horizontal gap allocations bounds children).nodes,
        node.Sound :=
      fun node found => sound node (PlacedNode.nodes_trans _ member found)
    exact ⟨sound _ member, PlacedNode.leaves_apart below⟩
  · intro bounds children member
    exact sound _ member
  · apply PlacedNode.leaves_inside _ sound
    rw [layoutTree, placeNode_bounds]
    exact inside
  · obtain ⟨widgets, same, reads⟩ := placement.leaves
    rw [List.flatMap_singleton] at reads
    rw [same, List.nil_append]
    exact bounds_of_readsLeaf reads

/-- The layout card of the sample deck. -/
def sampleLayoutCard : Members :=
  match sampleDocument.field "cards" with
  | some (.array (.object card :: _)) => card
  | _ => []

/-- A clock of fixed size and, one pixel on, an indicator that takes the rest. -/
theorem layout_geometry_sample : ∃ content,
    (parseLayoutCard Double.exact sampleLayoutCard [] sampleConfig.display).value =
      some (.layout content) ∧
    content.widgets.map LayoutWidgetConfig.bounds =
      [{ x := 0, y := 0, width := 15, height := 16 },
        { x := 16, y := 0, width := 8, height := 16 }] := by
  have layout : ∃ content, (parseLayoutCard Double.exact sampleLayoutCard []
      (parseDisplay sampleDocument).value).value = some (.layout content) := by
    have kind : (parseLayoutCard Double.exact sampleLayoutCard []
        (parseDisplay sampleDocument).value).value.map CardContentConfig.ctorIdx = some 3 := by
      decide +kernel
    obtain ⟨content, accepted, index⟩ := Option.map_eq_some_iff.mp kind
    cases content with
    | layout content => exact ⟨content, accepted⟩
    | bitmap | clock | indicators => cases index
  obtain ⟨content, accepted⟩ := layout
  have written : sampleLayoutCard.field "root" =
      some ((sampleLayoutCard.field "root").getD .null) := rfl
  have geometry := layout_geometry (by decide +kernel) (by decide +kernel) accepted written
  refine ⟨content, accepted, geometry.2.2.2.trans ?_⟩
  decide +kernel

end PixelStatus
