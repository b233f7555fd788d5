/-
# Reading widgets

A widget's rectangle is either written in the widget or assigned by the layout
tree around it. What a reader promises of a widget is what the renderer needs
to draw it: a rectangle inside the display and contents that fit it.
-/

import PixelStatus.Core.Config.HttpMonitors

namespace PixelStatus

open Logged

/-! ## Rectangles -/

/-- A nonempty rectangle inside the display. -/
structure LayoutBounds.Inside (display : DisplayConfig) (bounds : LayoutBounds) : Prop where
  width : 0 < bounds.width
  height : 0 < bounds.height
  right : bounds.x + bounds.width ≤ display.width
  bottom : bounds.y + bounds.height ≤ display.height

/-- The comparison that both readers of a rectangle make. -/
def LayoutBounds.exceeds (display : DisplayConfig) (bounds : LayoutBounds) : Bool :=
  bounds.x ≥ display.width || bounds.width > display.width - bounds.x
    || bounds.y ≥ display.height || bounds.height > display.height - bounds.y

/-- The four numbers of a rectangle. -/
def parseRectangle (item : Members) (path : Bytes) : Loading (Option LayoutBounds) := do
  let x ← boundedSize item "x" path 0 maximumDimension
  let y ← boundedSize item "y" path 0 maximumDimension
  let width ← boundedSize item "width" path 1 maximumDimension
  let height ← boundedSize item "height" path 1 maximumDimension
  match x, y, width, height with
  | some x, some y, some width, some height => return some { x, y, width, height }
  | _, _, _, _ => return none

/-- A rectangle that has to lie inside the display. -/
def requireInside (display : DisplayConfig) (bounds : LayoutBounds) (path : Bytes) :
    Loading (Option LayoutBounds) :=
  if bounds.exceeds display then
    reject (path ++ bytes " extends outside the configured display")
  else return some bounds

def parseIndicatorConfig (item : Json) (path : Bytes) (display : DisplayConfig) :
    Loading (Option IndicatorConfig) := do
  match item with
  | .object item =>
      rejectUnknownFields item ["id", "source", "x", "y", "width", "height"] path
      let id ← requiredIdentifier item "id" path
      let source ← requiredIdentifier item "source" path
      let bounds ← parseRectangle item path
      match id, source, bounds with
      | some id, some source, some bounds =>
          let bounds ← requireInside display bounds path
          return bounds.map fun bounds => { toLayoutBounds := bounds, id, source }
      | _, _, _ => return none
  | _ => reject (path ++ bytes " must be an object")

def parseLayoutBounds (item : Members) (path : Bytes) (display : DisplayConfig)
    (assigned : Option LayoutBounds) : Loading (Option LayoutBounds) := do
  match assigned with
  | some assigned => return some assigned
  | none =>
      match ← parseRectangle item path with
      | none => return none
      | some bounds => requireInside display bounds path

def layoutBoundsAreValid (bounds : LayoutBounds) (path : Bytes) : Loading Bool :=
  if bounds.width = 0 ∨ bounds.height = 0 then do
    addError (path ++ bytes " resolved to a zero-sized rectangle")
    return false
  else return true

/-- The fields of a widget: those of its type, and either a rectangle or the
fields of a child in a split. -/
def widgetFields (own : List String) (assigned : Option LayoutBounds) : List String :=
  ["id", "type"] ++ own ++
    if assigned.isSome then ["size", "weight"] else ["x", "y", "width", "height"]

/-- A colour that may be left out. -/
def optionalColor (item : Members) (key : String) (path : Bytes) (default : Rgb) :
    Loading (Option Rgb) :=
  match item.field key with
  | none => return some default
  | some field => colorValue field (fieldPath path key)

/-! ## Indicators, clocks and bars -/

def parseLayoutIndicatorConfig (item : Members) (path : Bytes) (display : DisplayConfig)
    (assigned : Option LayoutBounds) : Loading (Option IndicatorConfig) := do
  rejectUnknownFields item (widgetFields ["source"] assigned) path
  let id ← requiredIdentifier item "id" path
  let source ← requiredIdentifier item "source" path
  let bounds ← parseLayoutBounds item path display assigned
  match id, source, bounds with
  | some id, some source, some bounds =>
      if ← layoutBoundsAreValid bounds path then
        return some { toLayoutBounds := bounds, id, source }
      else return none
  | _, _, _ => return none

/-- The zone of a clock and the colour it has by default. -/
def clockZone (timezone path : Bytes) : Loading (Option (ClockTimeZone × Rgb)) :=
  if timezone = bytes "local" then return some (.local, { r := 0x00, g := 0xB0, b := 0xFF })
  else if timezone = bytes "utc" then return some (.utc, { r := 0xFF, g := 0xD6, b := 0x00 })
  else reject (path ++ bytes ".timezone must be local or utc")

def parseLayoutClockConfig (item : Members) (path : Bytes) (display : DisplayConfig)
    (assigned : Option LayoutBounds) : Loading (Option LayoutClockConfig) := do
  rejectUnknownFields item (widgetFields ["timezone", "color", "source"] assigned) path
  let id ← requiredIdentifier item "id" path
  let bounds ← parseLayoutBounds item path display assigned
  let timezone ← requiredString item "timezone" path
  let source ← optionalIdentifier item "source" path
  match id, bounds, timezone with
  | some id, some bounds, some timezone =>
      if !(← layoutBoundsAreValid bounds path)
          || (item.contains "source" && source.isNone) then
        return none
      else if bounds.width < 15 ∨ bounds.height < 7 then
        reject (path ++ bytes " requires bounds of at least 15x7 pixels")
      else match ← clockZone timezone path with
        | none => return none
        | some (timezone, default) =>
            let color ← optionalColor item "color" path default
            return color.map fun color =>
              { toLayoutBounds := bounds, id, timezone, color, source := source.getD [] }
  | _, _, _ => return none

variable (round : Rounding)

def optionalFiniteNumber (item : Members) (key : String) (default : Double) (path : Bytes) :
    Loading (Option Double) :=
  match item.field key with
  | none => return some default
  | some field =>
      match numberOf round field with
      | none => reject (fieldPath path key ++ bytes " must be a number")
      | some value =>
          if value.isFinite then return some value
          else reject (fieldPath path key ++ bytes " must be finite")

/-- The direction of a bar, to the right by default. -/
def barDirection (item : Members) (path : Bytes) : Loading (Option BarDirection) :=
  match item.field "direction" with
  | none => return some .right
  | some (.string direction) =>
      if direction = bytes "right" then return some .right
      else if direction = bytes "left" then return some .left
      else if direction = bytes "up" then return some .up
      else if direction = bytes "down" then return some .down
      else reject (path ++ bytes ".direction must be right, left, up, or down")
  | some _ => reject (path ++ bytes ".direction must be a string")

def parseLayoutBarConfig (item : Members) (path : Bytes) (display : DisplayConfig)
    (assigned : Option LayoutBounds) : Loading (Option LayoutBarConfig) := do
  rejectUnknownFields item
    (widgetFields ["source", "direction", "minimum", "maximum", "track_color"] assigned) path
  let id ← requiredIdentifier item "id" path
  let source ← requiredIdentifier item "source" path
  let bounds ← parseLayoutBounds item path display assigned
  let minimum ← optionalFiniteNumber round item "minimum" (.finite 0) path
  let maximum ← optionalFiniteNumber round item "maximum" (.finite 100) path
  match id, source, bounds, minimum, maximum with
  | some id, some source, some bounds, some minimum, some maximum =>
      if !(← layoutBoundsAreValid bounds path) then return none
      else if maximum.le minimum then
        reject (path ++ bytes ".maximum must be greater than .minimum")
      else match ← barDirection item path with
        | none => return none
        | some direction =>
            let trackColor ← optionalColor item "track_color" path display.background
            return trackColor.map fun trackColor =>
              { toLayoutBounds := bounds, id, source, direction, minimum, maximum, trackColor }
  | _, _, _, _, _ => return none

/-! ## Lists of identifiers and palettes -/

/-- What a loop has kept, and whether everything it met was valid. -/
structure Kept (α : Type) where
  items : α
  valid : Bool := true

/-- Report an item and go on without it. -/
def Kept.refuse {α : Type} (kept : Kept α) (message : Bytes) : Loading (Kept α) := do
  addError message
  return { kept with valid := false }

/-- Keep an identifier that is not there yet. The two texts are about an item
that is no identifier and about one that was there before. -/
def keepIdentifier (path invalid duplicate : Bytes) (kept : Kept (List Bytes))
    (item : Json × Nat) : Loading (Kept (List Bytes)) :=
  match item.1 with
  | .string text =>
      if !isValidIdentifier text then kept.refuse (itemPath path item.2 ++ invalid)
      else if text ∈ kept.items then kept.refuse (itemPath path item.2 ++ duplicate)
      else return { kept with items := kept.items ++ [text] }
  | _ => kept.refuse (itemPath path item.2 ++ invalid)

/-- The values of an array of distinct identifiers. -/
def distinctIdentifiers (items : List Json) (path invalid duplicate : Bytes) :
    Loading (Kept (List Bytes)) :=
  items.zipIdx.foldlM (keepIdentifier path invalid duplicate) { items := [] }

/-- The palette character that a key is. -/
def paletteKey : Bytes → Option UInt8
  | [character] => if character < 0x20 ∨ character > 0x7E then none else some character
  | _ => none

def parsePalette (palette : Members) (path : Bytes) :
    Loading (Kept (UnorderedMap UInt8 Rgb)) :=
  palette.foldlM (fun kept entry => do
    match paletteKey entry.1 with
    | none => kept.refuse (path ++ bytes ".palette keys must be one printable ASCII character")
    | some character =>
        match ← colorValue entry.2 (path ++ bytes ".palette." ++ entry.1) with
        | some color => return { kept with items := kept.items.emplace character color }
        | none => return { kept with valid := false }) { items := ∅ }

/-- Keep a row that is as wide as asked for and made of palette characters. -/
def keepPixelRow (path : Bytes) (width : Nat) (wrongWidth : Bytes)
    (palette : UnorderedMap UInt8 Rgb) (kept : Kept (List Bytes)) (row : Json × Nat) :
    Loading (Kept (List Bytes)) :=
  let rowPath := itemPath (fieldPath path "pixels") row.2
  match row.1 with
  | .string value =>
      if value.length ≠ width then kept.refuse (rowPath ++ wrongWidth)
      else if value.any fun character => character ∉ palette then
        kept.refuse (rowPath ++ bytes " uses a character missing from palette")
      else return { kept with items := kept.items ++ [value] }
  | _ => kept.refuse (rowPath ++ bytes " must be a string")

/-- The rows of a bitmap. -/
def parsePixelRows (rows : List Json) (path : Bytes) (width : Nat) (wrongWidth : Bytes)
    (palette : UnorderedMap UInt8 Rgb) : Loading (Kept (List Bytes)) :=
  rows.zipIdx.foldlM (keepPixelRow path width wrongWidth palette) { items := [] }

/-- The entries of an object whose number is bounded. -/
def boundedObject (value : Option Json) (maximum : Nat) (message : Bytes) :
    Loading (Option Members) :=
  match value with
  | some (.object entries) =>
      if entries = [] ∨ entries.length > maximum then reject message else return some entries
  | _ => reject message

/-- The items of an array whose number is bounded. -/
def boundedArray (value : Option Json) (maximum : Nat) (message : Bytes) :
    Loading (Option (List Json)) :=
  match value with
  | some (.array items) =>
      if items = [] ∨ items.length > maximum then reject message else return some items
  | _ => reject message

/-! ## Status grids, aggregates and bitmaps -/

/-- The rows that so many cells fill. -/
def gridRows (count columns : Nat) : Nat := (count + columns - 1) / columns

/-- Whether the cells and gaps do not fit the rectangle. -/
def gridOverflows (bounds : LayoutBounds) (count columns gap : Nat) : Bool :=
  let rows := gridRows count columns
  let horizontalGaps := gap * (columns - 1)
  let verticalGaps := gap * (rows - 1)
  horizontalGaps > bounds.width || bounds.width - horizontalGaps < columns
    || verticalGaps > bounds.height || bounds.height - verticalGaps < rows

/-- A number that may be left out, zero by default. -/
def optionalSize (item : Members) (key : String) (path : Bytes) (maximum : Nat) :
    Loading (Option Nat) :=
  if item.contains key then boundedSize item key path 0 maximum else return some 0

def parseLayoutStatusGridConfig (item : Members) (path : Bytes) (display : DisplayConfig)
    (assigned : Option LayoutBounds) : Loading (Option LayoutStatusGridConfig) := do
  rejectUnknownFields item (widgetFields ["sources", "columns", "gap"] assigned) path
  let id ← requiredIdentifier item "id" path
  let bounds ← parseLayoutBounds item path display assigned
  match ← boundedArray (item.field "sources") maximumLayoutWidgets
      (path ++ bytes ".sources must contain between 1 and 1024 identifiers") with
  | none => return none
  | some sourcesField =>
      let columns ← boundedSize item "columns" path 1 sourcesField.length
      match ← optionalSize item "gap" path maximumDimension with
      | none => return none
      | some gap =>
          match id, bounds, columns with
          | some id, some bounds, some columns =>
              if !(← layoutBoundsAreValid bounds path) then return none
              else
                let sources ← distinctIdentifiers sourcesField (fieldPath path "sources")
                  (bytes " must be a valid identifier")
                  (bytes " duplicates an earlier grid source")
                if gridOverflows bounds sourcesField.length columns gap then
                  reject (path ++ bytes " bounds cannot fit its grid cells and gaps")
                else if sources.valid then
                  return some
                    { toLayoutBounds := bounds, id, sources := sources.items, columns, gap }
                else return none
          | _, _, _ => return none

def parseLayoutBitmapConfig (item : Members) (path : Bytes) (display : DisplayConfig)
    (assigned : Option LayoutBounds) : Loading (Option LayoutBitmapConfig) := do
  rejectUnknownFields item (widgetFields ["palette", "pixels"] assigned) path
  let id ← requiredIdentifier item "id" path
  let bounds ← parseLayoutBounds item path display assigned
  match id, bounds with
  | some id, some bounds =>
      if !(← layoutBoundsAreValid bounds path) then return none
      else
        match ← boundedObject (item.field "palette") maximumBitmapPaletteEntries
            (path ++ bytes ".palette must contain between 1 and 32 entries") with
        | none => return none
        | some paletteField =>
            let palette ← parsePalette paletteField path
            let wrongHeight := path ++ bytes ".pixels must match the resolved widget height"
            match item.field "pixels" with
            | some (.array rows) =>
                if rows.length ≠ bounds.height then reject wrongHeight
                else
                  let pixels ← parsePixelRows rows path bounds.width
                    (bytes " must match the resolved widget width") palette.items
                  if palette.valid && pixels.valid then
                    return some
                      { toLayoutBounds := bounds, id, palette := palette.items,
                        pixels := pixels.items }
                  else return none
            | _ => reject wrongHeight
  | _, _ => return none

/-- The colours of the statuses in the priority list. -/
def parseStatusColors (colors : Members) (path : Bytes) (priority : List Bytes) :
    Loading (Kept (UnorderedMap Bytes Rgb)) :=
  colors.foldlM (fun kept entry => do
    let colorPath := path ++ bytes ".colors." ++ entry.1
    if !isValidIdentifier entry.1 then
      kept.refuse (colorPath ++ bytes " name must be a valid status identifier")
    else if entry.1 ∉ priority then
      kept.refuse (colorPath ++ bytes " is not listed in .priority")
    else match ← colorValue entry.2 colorPath with
      | some color => return { kept with items := kept.items.emplace entry.1 color }
      | none => return { kept with valid := false }) { items := ∅ }

/-- An error for every status of the priority list without a colour. -/
def requireStatusColors (priority : List Bytes) (colors : UnorderedMap Bytes Rgb)
    (path : Bytes) : Loading Unit :=
  priority.forM fun status =>
    if status ∈ colors then return ()
    else addError (path ++ bytes ".colors is missing priority status: " ++ status)

def parseLayoutAggregateStatusConfig (item : Members) (path : Bytes) (display : DisplayConfig)
    (assigned : Option LayoutBounds) : Loading (Option LayoutAggregateStatusConfig) := do
  rejectUnknownFields item
    (widgetFields ["sources", "priority", "colors", "default_color"] assigned) path
  let id ← requiredIdentifier item "id" path
  let bounds ← parseLayoutBounds item path display assigned
  match ← boundedArray (item.field "sources") maximumLayoutWidgets
      (path ++ bytes ".sources must contain between 1 and 1024 identifiers") with
  | none => return none
  | some sourcesField =>
  match ← boundedArray (item.field "priority") maximumStatuses
      (path ++ bytes ".priority must contain between 1 and 256 status identifiers") with
  | none => return none
  | some priorityField =>
  match ← boundedObject (item.field "colors") maximumStatuses
      (path ++ bytes ".colors must contain between 1 and 256 status colors") with
  | none => return none
  | some colorsField =>
  match id, bounds with
  | some id, some bounds =>
      if !(← layoutBoundsAreValid bounds path) then return none
      else
        let sources ← distinctIdentifiers sourcesField (fieldPath path "sources")
          (bytes " must be a valid identifier")
          (bytes " duplicates an earlier aggregate source")
        let priority ← distinctIdentifiers priorityField (fieldPath path "priority")
          (bytes " must be a valid status identifier")
          (bytes " duplicates an earlier aggregate priority")
        let colors ← parseStatusColors colorsField path priority.items
        requireStatusColors priority.items colors.items path
        let defaultColor ← optionalColor item "default_color" path display.background
        match defaultColor with
        | none => return none
        | some defaultColor =>
            if sources.valid && priority.valid && colors.valid
                && priority.items.all fun status => status ∈ colors.items then
              return some
                { toLayoutBounds := bounds, id, sources := sources.items,
                  priority := priority.items, colors := colors.items, defaultColor }
            else return none
  | _, _ => return none

/-- A reader of one kind of widget as a reader of widgets. -/
def asWidget {α : Type} (wrap : α → LayoutWidgetConfig)
    (parse : Members → Bytes → DisplayConfig → Option LayoutBounds → Loading (Option α))
    (item : Members) (path : Bytes) (display : DisplayConfig) (assigned : Option LayoutBounds) :
    Loading (Option LayoutWidgetConfig) := do
  let config ← parse item path display assigned
  return config.map wrap

/-- The readers by the types of the widgets. -/
def widgetTypes : List (String × (Members → Bytes → DisplayConfig → Option LayoutBounds →
    Loading (Option LayoutWidgetConfig))) :=
  [("indicator", asWidget .indicator parseLayoutIndicatorConfig),
    ("clock", asWidget .clock parseLayoutClockConfig),
    ("bar", asWidget .bar (parseLayoutBarConfig round)),
    ("status_grid", asWidget .statusGrid parseLayoutStatusGridConfig),
    ("aggregate_status", asWidget .aggregateStatus parseLayoutAggregateStatusConfig),
    ("bitmap", asWidget .bitmap parseLayoutBitmapConfig)]

def parseLayoutWidget (item : Json) (path : Bytes) (display : DisplayConfig)
    (assigned : Option LayoutBounds) : Loading (Option LayoutWidgetConfig) := do
  match item with
  | .object item =>
      match ← requiredString item "type" path with
      | none => return none
      | some type =>
          match (widgetTypes round).find? fun entry => bytes entry.1 = type with
          | some (_, parse) => parse item path display assigned
          | none =>
              rejectUnknownFields item
                ["id", "type", "source", "sources", "x", "y", "width", "height", "timezone",
                  "color", "direction", "minimum", "maximum", "track_color", "columns", "gap",
                  "palette", "pixels", "priority", "colors", "default_color", "size",
                  "weight"] path
              reject (path ++ bytes
                ".type must be indicator, clock, bar, status_grid, aggregate_status, or bitmap")
  | _ => reject (path ++ bytes " must be an object")

end PixelStatus
