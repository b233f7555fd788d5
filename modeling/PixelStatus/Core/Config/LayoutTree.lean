/-
# Reading layout trees

A tree of rows, columns and stacks assigns rectangles to its leaves, which are
widgets. The nesting limit makes the levels below a node a number that shrinks.
-/

import PixelStatus.Core.Config.WidgetsFit
import PixelStatus.Logic.Cuts

namespace PixelStatus

open Logged

/-- The parse state and the widgets found so far. -/
structure LayoutScan where
  nodes : Nat := 0
  ids : List Bytes := []
  widgets : List LayoutWidgetConfig := []

/-- A reader of nodes: whether the node was valid, and the state behind it. -/
abbrev NodeReader := Json → Bytes → LayoutBounds → LayoutScan → Loading (Bool × LayoutScan)

/-- An invalid node. -/
def refuseNode (scan : LayoutScan) (message : Bytes) : Loading (Bool × LayoutScan) := do
  addError message
  return (false, scan)

/-- The type of an inner node. -/
inductive LayoutNodeType
  | row
  | column
  | stack
  deriving DecidableEq

def layoutNodeType (type : Bytes) : Option LayoutNodeType :=
  if type = bytes "row" then some .row
  else if type = bytes "column" then some .column
  else if type = bytes "stack" then some .stack
  else none

/-! ## Splitting an extent -/

/-- What a child of a split asks for: a fixed size or a weight. -/
structure Allocation where
  fixed : Bool
  value : Nat
  deriving DecidableEq

def parseAllocation (child : Json) (path : Bytes) : Loading (Option Allocation) := do
  match child with
  | .object child =>
      let hasSize := Members.contains child "size"
      let hasWeight := Members.contains child "weight"
      if hasSize && hasWeight then
        reject (path ++ bytes " cannot specify both size and weight")
      else if hasSize then
        let size ← boundedSize child "size" path 1 maximumDimension
        return size.map fun value => { fixed := true, value }
      else if hasWeight then
        let weight ← boundedSize child "weight" path 1 maximumLayoutWeight
        return weight.map fun value => { fixed := false, value }
      else return some { fixed := false, value := 1 }
  | _ => reject (path ++ bytes " must be an object")

/-- The path of a child. -/
def childPath (path : Bytes) (index : Nat) : Bytes := itemPath (fieldPath path "children") index

/-- What the children from an index on ask for. An invalid child is reported
and makes the whole invalid. -/
def parseAllocations (path : Bytes) (index : Nat) :
    List Json → Loading (Option (List Allocation))
  | [] => return some []
  | child :: rest => do
      let allocation ← parseAllocation child (childPath path index)
      let allocations ← parseAllocations path (index + 1) rest
      match allocation, allocations with
      | some allocation, some allocations => return some (allocation :: allocations)
      | _, _ => return none

def fixedTotal (allocations : List Allocation) : Nat :=
  ((allocations.filter Allocation.fixed).map Allocation.value).sum

def totalWeight (allocations : List Allocation) : Nat :=
  ((allocations.filter fun allocation => !allocation.fixed).map Allocation.value).sum

def weightedCount (allocations : List Allocation) : Nat :=
  (allocations.filter fun allocation => !allocation.fixed).length

/-- The resolved sizes: the weighted children cut their extent in proportion to
the weights up to and including theirs. -/
def resolveExtents (path : Bytes) (extent total cumulative : Nat) :
    List Allocation → Loading (Option (List Nat))
  | [] => return some []
  | allocation :: rest => do
      if allocation.fixed then
        let extents ← resolveExtents path extent total cumulative rest
        return extents.map fun extents => allocation.value :: extents
      else
        let next := cumulative + allocation.value
        let resolved := cut extent total next - cut extent total cumulative
        if resolved = 0 then
          reject (path ++ bytes " weight rounding produced a zero-sized child")
        else
          let extents ← resolveExtents path extent total next rest
          return extents.map fun extents => resolved :: extents

/-- The sizes of the children of a split along its axis. -/
def splitExtents (path : Bytes) (extent totalGaps : Nat) (allocations : List Allocation) :
    Loading (Option (List Nat)) :=
  if fixedTotal allocations + totalGaps > extent then
    reject (path ++ bytes " fixed sizes and gaps exceed the available split extent")
  else
    let weightedExtent := extent - fixedTotal allocations - totalGaps
    if weightedCount allocations = 0 ∧ weightedExtent ≠ 0 then
      reject (path ++ bytes " fixed children and gaps must consume the split extent")
    else if weightedCount allocations > 0 ∧ weightedExtent < weightedCount allocations then
      reject (path ++ bytes " cannot allocate at least one pixel to each weighted child")
    else resolveExtents path weightedExtent (totalWeight allocations) 0 allocations

/-- Where a rectangle begins on the axis of a split. -/
def axisStart (bounds : LayoutBounds) (horizontal : Bool) : Nat :=
  if horizontal then bounds.x else bounds.y

def axisExtent (bounds : LayoutBounds) (horizontal : Bool) : Nat :=
  if horizontal then bounds.width else bounds.height

/-- The part of a rectangle that begins at a place on the axis. -/
def childBounds (bounds : LayoutBounds) (horizontal : Bool) (cursor extent : Nat) :
    LayoutBounds :=
  if horizontal then { bounds with x := cursor, width := extent }
  else { bounds with y := cursor, height := extent }

/-- The rectangles of the children, one behind the other. -/
def placeChildren (bounds : LayoutBounds) (horizontal : Bool) (gap cursor : Nat) :
    List Nat → List LayoutBounds
  | [] => []
  | extent :: extents =>
      childBounds bounds horizontal cursor extent ::
        placeChildren bounds horizontal gap (cursor + (extent + gap)) extents

/-! ## Nodes -/

variable (round : Rounding) (display : DisplayConfig)

/-- A leaf. -/
def parseLeaf (item : Json) (path : Bytes) (bounds : LayoutBounds) (scan : LayoutScan) :
    Loading (Bool × LayoutScan) := do
  match ← parseLayoutWidget round item path display (some bounds) with
  | none => return (false, scan)
  | some widget =>
      if widget.id ∈ scan.ids then
        refuseNode scan (path ++ bytes ".id duplicates an earlier widget on this card")
      else return (true,
        { scan with ids := widget.id :: scan.ids, widgets := scan.widgets ++ [widget] })

/-- The children of a split, each with the rectangle it was assigned. -/
def parseSplitChildren (read : NodeReader) (path : Bytes) (children : List Json)
    (rectangles : List LayoutBounds) (scan : LayoutScan) : Loading (Bool × LayoutScan) :=
  (children.zip rectangles).zipIdx.foldlM (fun (valid, scan) child => do
    let (childValid, scan) ← read child.1.1 (childPath path child.2) child.1.2 scan
    return (valid && childValid, scan)) (true, scan)

/-- One child of a stack, which may not ask for a share of it. -/
def parseStackChild (read : NodeReader) (child : Json) (path : Bytes) (bounds : LayoutBounds)
    (scan : LayoutScan) : Loading (Bool × LayoutScan) :=
  match child with
  | .object members =>
      if Members.contains members "size" || Members.contains members "weight" then
        refuseNode scan (path ++ bytes " cannot specify size or weight inside a stack")
      else read child path bounds scan
  | _ => refuseNode scan (path ++ bytes " must be an object")

/-- The children of a stack, all in the same rectangle. -/
def parseStack (read : NodeReader) (path : Bytes) (children : List Json)
    (bounds : LayoutBounds) (scan : LayoutScan) : Loading (Bool × LayoutScan) :=
  parseSplitChildren (parseStackChild read) path children
    (children.map fun _ => bounds) scan

/-- A row or a column. -/
def parseSplit (read : NodeReader) (item : Members) (path : Bytes) (children : List Json)
    (bounds : LayoutBounds) (horizontal : Bool) (scan : LayoutScan) :
    Loading (Bool × LayoutScan) := do
  match ← optionalSize item "gap" path maximumDimension with
  | none => return (false, scan)
  | some gap =>
      let extent := axisExtent bounds horizontal
      let totalGaps := gap * (children.length - 1)
      if totalGaps > extent then
        refuseNode scan (path ++ bytes " gaps exceed the available split extent")
      else match ← parseAllocations path 0 children with
        | none => return (false, scan)
        | some allocations =>
            match ← splitExtents path extent totalGaps allocations with
            | none => return (false, scan)
            | some extents =>
                let cursor := axisStart bounds horizontal
                parseSplitChildren read path children
                  (placeChildren bounds horizontal gap cursor extents) scan

/-- An inner node, whose children are read by `read`. -/
def parseInnerNode (read : NodeReader) (item : Members) (type : LayoutNodeType) (path : Bytes)
    (bounds : LayoutBounds) (scan : LayoutScan) : Loading (Bool × LayoutScan) := do
  let fields := ["type", "children", "size", "weight"]
  rejectUnknownFields item (if type = .stack then fields else "gap" :: fields) path
  match ← boundedArray (item.field "children") maximumLayoutWidgets
      (path ++ bytes ".children must contain between 1 and 1024 nodes") with
  | none => return (false, scan)
  | some children =>
      match type with
      | .stack => parseStack read path children bounds scan
      | .row => parseSplit read item path children bounds true scan
      | .column => parseSplit read item path children bounds false scan

/-- What is checked of every node, and what reads it if these checks pass. -/
def enterNode (item : Json) (path : Bytes) (scan : LayoutScan)
    (read : Members → LayoutScan → Loading (Bool × LayoutScan)) :
    Loading (Bool × LayoutScan) :=
  match item with
  | .object members =>
      let scan := { scan with nodes := scan.nodes + 1 }
      if scan.nodes > maximumLayoutNodes then
        refuseNode scan (path ++ bytes " exceeds the layout limit of 2048 nodes")
      else read members scan
  | _ => refuseNode scan (path ++ bytes " must be an object")

/-- `parse_layout_node` at the depth that leaves so many levels down to the
nesting limit. -/
def parseLayoutNode : (levels : Nat) → NodeReader
  | 0 => fun item path _ scan =>
      enterNode item path scan fun _ scan =>
        refuseNode scan (path ++ bytes " exceeds the layout nesting limit of 16")
  | levels + 1 => fun item path bounds scan =>
      enterNode item path scan fun members scan => do
        match ← requiredString members "type" path with
        | none => return (false, scan)
        | some type =>
            match layoutNodeType type with
            | none => parseLeaf round display item path bounds scan
            | some type =>
                parseInnerNode (parseLayoutNode levels) members type path bounds scan

end PixelStatus
