/-
# The published schema of a layout widget

The definition `layoutWidget` of the version 1 configuration schema and the
definitions that it refers to, keyword by keyword.
-/

import PixelStatus.Core.Config.Widgets
import PixelStatus.Core.JsonSchema

namespace PixelStatus

open Logged

namespace LayoutWidgetSchema

open Schema

/-- `^[A-Za-z0-9_.-]+$` -/
def identifierPattern : List Piece :=
  [{ ranges := [(0x41, 0x5A), (0x61, 0x7A), (0x30, 0x39), (0x5F, 0x5F), (0x2E, 0x2E),
      (0x2D, 0x2D)], least := 1, most := none }]

/-- `[0-9A-Fa-f]{6}` -/
def hexDigits : Piece :=
  { ranges := [(0x30, 0x39), (0x41, 0x46), (0x61, 0x66)], least := 6, most := some 6 }

/-- `^#[0-9A-Fa-f]{6}$` -/
def colorPattern : List Piece :=
  [{ ranges := [(0x23, 0x23)], least := 1, most := some 1 }, hexDigits]

/-- `^[ -~]$` -/
def printablePattern : List Piece := [{ ranges := [(0x20, 0x7E)], least := 1, most := some 1 }]

def identifier : Schema := allOf [isString, minLength 1, maxLength 64, pattern identifierPattern]

def color : Schema := allOf [isString, pattern colorPattern]

def integerBetween (low high : ℚ) : Schema := allOf [isInteger, minimum low, maximum high]

def textConst (text : String) : Schema := const (.string (bytes text))

def textEnum (texts : List String) : Schema := enum (texts.map fun text => .string (bytes text))

/-- The properties of the rectangle of a widget with these least sides. -/
def rectangle (width height : ℚ) : List (String × Schema) :=
  [("x", integerBetween 0 256), ("y", integerBetween 0 256),
    ("width", integerBetween width 256), ("height", integerBetween height 256)]

def indicatorSchema : Schema :=
  closedObject ["id", "type", "source", "x", "y", "width", "height"]
    ([("id", identifier), ("type", textConst "indicator"), ("source", identifier)]
      ++ rectangle 1 1)

def clockSchema : Schema :=
  closedObject ["id", "type", "timezone", "x", "y", "width", "height"]
    ([("id", identifier), ("type", textConst "clock"),
      ("timezone", textEnum ["local", "utc"]), ("color", color)] ++ rectangle 15 7)

def barSchema : Schema :=
  closedObject ["id", "type", "source", "x", "y", "width", "height"]
    ([("id", identifier), ("type", textConst "bar"), ("source", identifier)] ++ rectangle 1 1
      ++ [("direction", textEnum ["right", "left", "up", "down"]), ("minimum", isNumber),
        ("maximum", isNumber), ("track_color", color)])

def statusGridSchema : Schema :=
  closedObject ["id", "type", "sources", "columns", "x", "y", "width", "height"]
    ([("id", identifier), ("type", textConst "status_grid"),
      ("sources", allOf [isArray, minItems 1, maxItems 1024, items identifier]),
      ("columns", integerBetween 1 1024), ("gap", integerBetween 0 256)] ++ rectangle 1 1)

def aggregateStatusSchema : Schema :=
  closedObject ["id", "type", "sources", "priority", "colors", "x", "y", "width", "height"]
    ([("id", identifier), ("type", textConst "aggregate_status"),
      ("sources", allOf [isArray, minItems 1, maxItems 1024, uniqueItems, items identifier]),
      ("priority", allOf [isArray, minItems 1, maxItems 256, uniqueItems, items identifier]),
      ("colors", allOf [isObject, minProperties 1, maxProperties 256,
        propertyNames identifier, properties [] color]),
      ("default_color", color)] ++ rectangle 1 1)

def bitmapSchema : Schema :=
  closedObject ["id", "type", "palette", "pixels", "x", "y", "width", "height"]
    ([("id", identifier), ("type", textConst "bitmap"),
      ("palette", allOf [isObject, minProperties 1, maxProperties 32,
        propertyNames (allOf [minLength 1, maxLength 1, pattern printablePattern]),
        properties [] color]),
      ("pixels", allOf [isArray, minItems 1, maxItems 256,
        items (allOf [isString, minLength 1, maxLength 256])])] ++ rectangle 1 1)

/-- `$defs/layoutWidget` -/
def layoutWidget : Schema :=
  oneOf [indicatorSchema, clockSchema, barSchema, statusGridSchema, aggregateStatusSchema,
    bitmapSchema]

end LayoutWidgetSchema

end PixelStatus
