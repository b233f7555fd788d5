/-
# Placed layout trees

A layout tree with the rectangle of every node, as the loader's own readers
assign it. A run of the loader over a tree that it accepts reads the leaves in
document order, each with its rectangle, and every node of the tree is sound: a
stack hands its rectangle on and a split divides it.
-/

import PixelStatus.Core.Config.SplitGeometry

namespace PixelStatus

open Logged

inductive PlacedNode
  | leaf (item : Json) (bounds : LayoutBounds)
  | stack (bounds : LayoutBounds) (children : List PlacedNode)
  | split (horizontal : Bool) (gap : Nat) (allocations : List Allocation)
      (bounds : LayoutBounds) (children : List PlacedNode)

namespace PlacedNode

def bounds : PlacedNode → LayoutBounds
  | .leaf _ bounds => bounds
  | .stack bounds _ => bounds
  | .split _ _ _ bounds _ => bounds

mutual

/-- The leaves with their rectangles, in document order. -/
def leaves : PlacedNode → List (Json × LayoutBounds)
  | .leaf item bounds => [(item, bounds)]
  | .stack _ children => leavesOf children
  | .split _ _ _ _ children => leavesOf children

def leavesOf : List PlacedNode → List (Json × LayoutBounds)
  | [] => []
  | child :: children => child.leaves ++ leavesOf children

end

mutual

/-- The node and all nodes below it. -/
def nodes : PlacedNode → List PlacedNode
  | .leaf item bounds => [.leaf item bounds]
  | .stack bounds children => .stack bounds children :: nodesOf children
  | .split horizontal gap allocations bounds children =>
      .split horizontal gap allocations bounds children :: nodesOf children

def nodesOf : List PlacedNode → List PlacedNode
  | [] => []
  | child :: children => child.nodes ++ nodesOf children

end

/-- The leaves of a list of trees. -/
theorem leavesOf_eq (children : List PlacedNode) : leavesOf children = children.flatMap leaves := by
  induction children with
  | nil => rfl
  | cons child children ih => rw [leavesOf, ih, List.flatMap_cons]

/-- The nodes of a list of trees. -/
theorem nodesOf_eq (children : List PlacedNode) : nodesOf children = children.flatMap nodes := by
  induction children with
  | nil => rfl
  | cons child children ih => rw [nodesOf, ih, List.flatMap_cons]

/-- Induction over a tree, with the hypothesis for every child. -/
@[elab_as_elim]
theorem induction {motive : PlacedNode → Prop}
    (leaf : ∀ item bounds, motive (.leaf item bounds))
    (stack : ∀ bounds children, (∀ child ∈ children, motive child) →
      motive (.stack bounds children))
    (split : ∀ horizontal gap allocations bounds children,
      (∀ child ∈ children, motive child) →
        motive (.split horizontal gap allocations bounds children))
    (tree : PlacedNode) : motive tree := by
  refine @PlacedNode.rec motive (fun children => ∀ child ∈ children, motive child)
    leaf stack split (List.forall_mem_nil _) ?_ tree
  intro child children first rest
  exact List.forall_mem_cons.mpr ⟨first, rest⟩

/-- A stack gives every child its rectangle, and a split divides it. -/
def Sound : PlacedNode → Prop
  | .leaf _ _ => True
  | .stack bounds children => ∀ child ∈ children, child.bounds = bounds
  | .split horizontal gap allocations bounds children =>
      SplitGeometry horizontal gap allocations bounds (children.map PlacedNode.bounds)

end PlacedNode

/-! ## The tree of a node -/

/-- What places a node at a path in a rectangle. -/
abbrev NodePlacer := Json → Bytes → LayoutBounds → PlacedNode

/-- The children of a node, each in its rectangle. -/
def placeAll (place : NodePlacer) (path : Bytes) (children : List Json)
    (rectangles : List LayoutBounds) : List PlacedNode :=
  (children.zip rectangles).zipIdx.map fun child =>
    place child.1.1 (childPath path child.2) child.1.2

/-- A row or a column, with what the loader's readers find in it. -/
def placeSplit (place : NodePlacer) (item : Members) (path : Bytes) (children : List Json)
    (bounds : LayoutBounds) (horizontal : Bool) : PlacedNode :=
  let gap := (optionalSize item "gap" path maximumDimension).value.getD 0
  let allocations := (parseAllocations path 0 children).value.getD []
  let extents := (splitExtents path (axisExtent bounds horizontal)
    (gap * (children.length - 1)) allocations).value.getD []
  .split horizontal gap allocations bounds (placeAll place path children
    (placeChildren bounds horizontal gap (axisStart bounds horizontal) extents))

def placeInnerNode (place : NodePlacer) (item : Members) (type : LayoutNodeType)
    (path : Bytes) (bounds : LayoutBounds) : PlacedNode :=
  match item.field "children" with
  | some (.array children) =>
      match type with
      | .stack => .stack bounds (placeAll place path children (children.map fun _ => bounds))
      | .row => placeSplit place item path children bounds true
      | .column => placeSplit place item path children bounds false
  | _ => .stack bounds []

/-- The tree of a node with so many levels down to the nesting limit. -/
def placeNode : (levels : Nat) → NodePlacer
  | 0 => fun item _ bounds => .leaf item bounds
  | levels + 1 => fun item path bounds =>
      match item with
      | .object members =>
          match (requiredString members "type" path).value.bind layoutNodeType with
          | none => .leaf item bounds
          | some type => placeInnerNode (placeNode levels) members type path bounds
      | _ => .leaf item bounds

/-- A placed node has the rectangle it was given. -/
theorem placeNode_bounds (levels : Nat) (item : Json) (path : Bytes) (bounds : LayoutBounds) :
    (placeNode levels item path bounds).bounds = bounds := by
  cases levels with
  | zero => rfl
  | succ levels =>
      unfold placeNode
      split
      · split
        · rfl
        next type _ =>
          unfold placeInnerNode
          split
          · cases type <;> rfl
          · rfl
      · rfl

/-- Children that are placed where they are told to be take these rectangles. -/
theorem placeAll_bounds {place : NodePlacer} {path : Bytes} {children : List Json}
    {rectangles : List LayoutBounds}
    (placed : ∀ item path bounds, (place item path bounds).bounds = bounds)
    (count : rectangles.length = children.length) :
    (placeAll place path children rectangles).map PlacedNode.bounds = rectangles := by
  have same : (PlacedNode.bounds ∘ fun child : (Json × LayoutBounds) × Nat =>
      place child.1.1 (childPath path child.2) child.1.2) = Prod.snd ∘ Prod.fst := by
    funext child
    exact placed _ _ _
  rw [placeAll, List.map_map, same, ← List.map_map, List.zipIdx_map_fst]
  exact List.map_snd_zip count.le

/-! ## Runs over accepted trees -/

/-- A leaf is read as a widget, in the rectangle that it was assigned. -/
def ReadsLeaf (round : Rounding) (display : DisplayConfig) (leaf : Json × LayoutBounds)
    (widget : LayoutWidgetConfig) : Prop :=
  ∃ path, (parseLayoutWidget round leaf.1 path display (some leaf.2)).log = [] ∧
    (parseLayoutWidget round leaf.1 path display (some leaf.2)).value = some widget

/-- The ids that were seen are those of the widgets, without duplicates. -/
structure LayoutScan.Distinct (scan : LayoutScan) : Prop where
  ids : scan.ids = (scan.widgets.map LayoutWidgetConfig.id).reverse
  nodup : scan.ids.Nodup

/-- What a valid run over some trees does to the scan. -/
structure Placement (round : Rounding) (display : DisplayConfig) (trees : List PlacedNode)
    (scan after : LayoutScan) : Prop where
  sound : ∀ tree ∈ trees, ∀ node ∈ tree.nodes, node.Sound
  leaves : ∃ widgets, after.widgets = scan.widgets ++ widgets ∧
    List.Forall₂ (ReadsLeaf round display) (trees.flatMap PlacedNode.leaves) widgets
  distinct : scan.Distinct → after.Distinct

namespace Placement

variable {round : Rounding} {display : DisplayConfig} {scan middle after : LayoutScan}

theorem nil : Placement round display [] scan scan where
  sound := List.forall_mem_nil _
  leaves := ⟨[], (List.append_nil _).symm, .nil⟩
  distinct := id

/-- Two lists of children add their leaves one after the other. -/
theorem append {first second : List PlacedNode} (hfirst : Placement round display first scan middle)
    (hsecond : Placement round display second middle after) :
    Placement round display (first ++ second) scan after where
  sound := List.forall_mem_append.mpr ⟨hfirst.sound, hsecond.sound⟩
  leaves := by
    obtain ⟨earlier, hearlier, readEarlier⟩ := hfirst.leaves
    obtain ⟨later, hlater, readLater⟩ := hsecond.leaves
    refine ⟨earlier ++ later, ?_, ?_⟩
    · rw [hlater, hearlier, List.append_assoc]
    · rw [List.flatMap_append]
      exact List.rel_append readEarlier readLater
  distinct distinct := hsecond.distinct (hfirst.distinct distinct)

/-- A sound node whose children were run over. -/
theorem inner {node : PlacedNode} {children : List PlacedNode}
    (nodes : node.nodes = node :: children.flatMap PlacedNode.nodes)
    (leaves : node.leaves = children.flatMap PlacedNode.leaves) (sound : node.Sound)
    (placement : Placement round display children scan after) :
    Placement round display [node] scan after where
  sound := by
    intro tree same
    obtain rfl := List.mem_singleton.mp same
    rw [nodes]
    refine List.forall_mem_cons.mpr ⟨sound, fun below member => ?_⟩
    obtain ⟨child, hchild, found⟩ := List.mem_flatMap.mp member
    exact placement.sound child hchild below found
  leaves := by
    rw [List.flatMap_singleton, leaves]
    exact placement.leaves
  distinct := placement.distinct

/-- Counting a node changes nothing that is read from the scan. -/
theorem of_counted {trees : List PlacedNode} {nodes : Nat}
    (placement : Placement round display trees { scan with nodes } after) :
    Placement round display trees scan after where
  sound := placement.sound
  leaves := placement.leaves
  distinct distinct := placement.distinct ⟨distinct.ids, distinct.nodup⟩

end Placement

/-- A reader whose valid runs are runs over what the placer makes of the node. -/
def Places (round : Rounding) (display : DisplayConfig) (place : NodePlacer)
    (read : NodeReader) : Prop :=
  ∀ item path bounds scan, bounds.Inside display →
    Ensures (fun result => result.1 = true →
      Placement round display [place item path bounds] scan result.2)
      (read item path bounds scan)

section

variable {round : Rounding} {display : DisplayConfig} {place : NodePlacer} {read : NodeReader}
  {path : Bytes} {bounds : LayoutBounds} {scan : LayoutScan}

/-- The children of a split are placed in its rectangles. -/
theorem parseSplitChildren_places (places : Places round display place read)
    {children : List Json} {rectangles : List LayoutBounds}
    (inside : ∀ bounds ∈ rectangles, bounds.Inside display) :
    Ensures (fun result => result.1 = true →
        Placement round display (placeAll place path children rectangles) scan result.2)
      (parseSplitChildren read path children rectangles scan) := by
  apply Ensures.foldlM_passed fun passed (result : Bool × LayoutScan) => result.1 = true →
    Placement round display (passed.map fun child : (Json × LayoutBounds) × Nat =>
      place child.1.1 (childPath path child.2) child.1.2) scan result.2
  · exact fun _ => .nil
  intro passed result child member found
  have placed : child.1.2.Inside display :=
    inside _ (List.of_mem_zip (List.fst_mem_of_mem_zipIdx member)).2
  apply (places _ _ _ _ placed).bind
  intro next hnext
  apply Ensures.pure
  intro valid
  have both := Bool.and_eq_true_iff.mp valid
  rw [List.map_append]
  exact (found both.1).append (hnext both.2)

/-- A child of a stack is placed like a child of a split. -/
theorem parseStackChild_places (places : Places round display place read) :
    Places round display place (parseStackChild read) := by
  intro item path bounds scan inside
  unfold parseStackChild
  split
  · split
    · exact ensures_addError_bind
    · exact places _ _ _ _ inside
  · exact ensures_addError_bind

/-- Every child of a stack has the whole rectangle. -/
theorem parseStack_places (places : Places round display place read)
    (placed : ∀ item path bounds, (place item path bounds).bounds = bounds)
    {children : List Json} (inside : bounds.Inside display) :
    Ensures (fun result => result.1 = true → Placement round display
        [.stack bounds (placeAll place path children (children.map fun _ => bounds))]
        scan result.2)
      (parseStack read path children bounds scan) := by
  apply (parseSplitChildren_places (parseStackChild_places places) _).mono
  · intro result placement valid
    apply Placement.inner _ _ _ (placement valid)
    · rw [PlacedNode.nodes, PlacedNode.nodesOf_eq]
    · rw [PlacedNode.leaves, PlacedNode.leavesOf_eq]
    · intro child member
      have rectangles := @placeAll_bounds place path children (children.map fun _ => bounds)
        placed (List.length_map _)
      have same := List.mem_map_of_mem (f := PlacedNode.bounds) member
      rw [rectangles] at same
      obtain ⟨_, _, same⟩ := List.mem_map.mp same
      exact same.symm
  · intro rectangle member
    obtain ⟨_, _, rfl⟩ := List.mem_map.mp member
    exact inside

/-- A split places its children where its extents say. -/
theorem placeSplit_eq {item : Members} {children : List Json} {horizontal : Bool} {gap : Nat}
    {allocations : List Allocation} {extents : List Nat}
    (hgap : (optionalSize item "gap" path maximumDimension).value = some gap)
    (hallocations : (parseAllocations path 0 children).value = some allocations)
    (hextents : (splitExtents path (axisExtent bounds horizontal)
      (gap * (children.length - 1)) allocations).value = some extents) :
    placeSplit place item path children bounds horizontal =
      .split horizontal gap allocations bounds (placeAll place path children
        (placeChildren bounds horizontal gap (axisStart bounds horizontal) extents)) := by
  simp only [placeSplit, hgap, hallocations, hextents, Option.getD_some]

/-- The sides of a display that the loader accepts. -/
structure DisplayConfig.Limited (display : DisplayConfig) : Prop where
  width : display.width ≤ maximumDimension
  height : display.height ≤ maximumDimension

/-- The far side of a rectangle is within the largest display. -/
theorem axisFinish_le (limited : display.Limited) (inside : bounds.Inside display)
    (horizontal : Bool) :
    axisStart bounds horizontal + axisExtent bounds horizontal ≤ maximumDimension := by
  cases horizontal with
  | true => exact inside.right.trans limited.width
  | false => exact inside.bottom.trans limited.height

/-- The rectangles of a split's children lie inside the display as it does. -/
theorem SplitGeometry.inside {horizontal : Bool} {gap : Nat} {allocations : List Allocation}
    {rectangles : List LayoutBounds}
    (geometry : SplitGeometry horizontal gap allocations bounds rectangles)
    (inside : bounds.Inside display) : ∀ rectangle ∈ rectangles, rectangle.Inside display := by
  intro rectangle member
  have across := geometry.crossAxis rectangle member
  have along := geometry.laid.within member
  have positive := geometry.positive rectangle member
  have right := inside.right
  have bottom := inside.bottom
  cases horizontal with
  | true =>
      simp only [axisStart, axisExtent, Bool.not_true, Bool.false_eq_true, if_true,
        if_false] at across along positive
      exact ⟨positive, across.2 ▸ inside.height, by omega, by omega⟩
  | false =>
      simp only [axisStart, axisExtent, Bool.not_false, Bool.false_eq_true, if_true,
        if_false] at across along positive
      exact ⟨across.2 ▸ inside.width, positive, by omega, by omega⟩

/-- A split that is read is placed as it computes its extents. -/
theorem parseSplit_places (limited : display.Limited) (places : Places round display place read)
    (placed : ∀ item path bounds, (place item path bounds).bounds = bounds)
    {item : Members} {children : List Json} {horizontal : Bool} (nonempty : children ≠ [])
    (few : children.length ≤ maximumLayoutWidgets) (inside : bounds.Inside display) :
    Ensures (fun result => result.1 = true → Placement round display
        [placeSplit place item path children bounds horizontal] scan result.2)
      (parseSplit read item path children bounds horizontal scan) := by
  apply ((Ensures.self _).and optionalSize_ensures).bind
  rintro gap ⟨⟨-, hgap⟩, hlimit⟩
  cases gap with
  | none => exact Ensures.pure (by simp)
  | some gap =>
  dsimp only
  split
  · exact ensures_addError_bind
  apply ((Ensures.self _).and parseAllocations_ensures).bind
  rintro allocations ⟨⟨-, hallocations⟩, hasked⟩
  cases allocations with
  | none => exact Ensures.pure (by simp)
  | some allocations =>
  obtain ⟨asked, light⟩ := hasked allocations rfl
  have some : allocations ≠ [] := by
    rw [← List.length_pos_iff, asked.count]
    exact List.length_pos_iff.mpr nonempty
  have small : Limited horizontal gap allocations bounds :=
    { count := asked.count.le.trans few
      values := light
      gap := hlimit gap rfl
      finish := axisFinish_le limited inside horizontal }
  apply ((Ensures.self _).and (splitExtents_geometry asked some small)).bind
  rintro extents ⟨⟨-, hextents⟩, hgeometry⟩
  cases extents with
  | none => exact Ensures.pure (by simp)
  | some extents =>
  have geometry := hgeometry extents rfl
  rw [placeSplit_eq hgap hallocations hextents]
  apply (parseSplitChildren_places places (geometry.inside inside)).mono
  intro result placement valid
  apply Placement.inner _ _ _ (placement valid)
  · rw [PlacedNode.nodes, PlacedNode.nodesOf_eq]
  · rw [PlacedNode.leaves, PlacedNode.leavesOf_eq]
  · have count : (placeChildren bounds horizontal gap (axisStart bounds horizontal)
        extents).length = children.length := by
      rw [← geometry.shares.length_eq, asked.count]
    rw [PlacedNode.Sound, placeAll_bounds placed count]
    exact geometry

/-- Every inner node that is read is placed so. -/
theorem parseInnerNode_places (limited : display.Limited)
    (places : Places round display place read)
    (placed : ∀ item path bounds, (place item path bounds).bounds = bounds)
    {item : Members} {type : LayoutNodeType} (inside : bounds.Inside display) :
    Ensures (fun result => result.1 = true → Placement round display
        [placeInnerNode place item type path bounds] scan result.2)
      (parseInnerNode read item type path bounds scan) := by
  apply Ensures.step
  intro _
  apply boundedArray_read.bindSome
  · exact Ensures.pure (by simp)
  rintro children ⟨written, nonempty, few⟩
  simp only [placeInnerNode, written]
  cases type with
  | stack => exact parseStack_places places placed inside
  | row => exact parseSplit_places limited places placed nonempty few inside
  | column => exact parseSplit_places limited places placed nonempty few inside

/-- A leaf that is read is placed as one widget. -/
theorem parseLeaf_places {item : Json} :
    Ensures (fun result => result.1 = true →
        Placement round display [.leaf item bounds] scan result.2)
      (parseLeaf round display item path bounds scan) := by
  apply (Ensures.self _).bind
  rintro widget ⟨silent, same⟩
  cases widget with
  | none => exact Ensures.pure (by simp)
  | some widget =>
  dsimp only
  split
  · exact ensures_addError_bind
  next fresh =>
    apply Ensures.pure
    intro _
    refine ⟨?_, ?_, ?_⟩
    · simp [PlacedNode.nodes, PlacedNode.Sound]
    · exact ⟨[widget], rfl, .cons ⟨path, silent, same⟩ .nil⟩
    · intro distinct
      refine ⟨?_, ?_⟩
      · simp [distinct.ids]
      · exact List.nodup_cons.mpr ⟨fresh, distinct.nodup⟩

/-- By induction over the levels below a node, a valid run is one over its tree. -/
theorem parseLayoutNode_places (limited : display.Limited) (levels : Nat) :
    Places round display (placeNode levels) (parseLayoutNode round display levels) := by
  induction levels with
  | zero =>
      intro item path bounds scan _
      unfold parseLayoutNode enterNode
      split
      · dsimp only
        split <;> exact ensures_addError_bind
      · exact ensures_addError_bind
  | succ levels ih =>
      intro item path bounds scan inside
      unfold parseLayoutNode enterNode
      split
      next members =>
        dsimp only
        split
        · exact ensures_addError_bind
        apply (Ensures.self _).bind
        rintro type ⟨-, written⟩
        cases type with
        | none => exact Ensures.pure (by simp)
        | some type =>
        dsimp only
        have counted {trees : List PlacedNode} {reading : Loading (Bool × LayoutScan)}
            (h : Ensures (fun result => result.1 = true → Placement round display trees
              { scan with nodes := scan.nodes + 1 } result.2) reading) :
            Ensures (fun result => result.1 = true →
              Placement round display trees scan result.2) reading :=
          h.mono fun result placement valid => (placement valid).of_counted
        apply counted
        simp only [placeNode, written, Option.bind_some]
        cases known : layoutNodeType type with
        | none => exact parseLeaf_places
        | some type =>
            exact parseInnerNode_places limited ih (placeNode_bounds levels) inside
      · exact ensures_addError_bind

end

end PixelStatus
