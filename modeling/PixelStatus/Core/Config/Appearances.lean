/-
# Reading appearances

Each of the seven forms of an appearance is compiled to a timeline. The reader
of a form gets the form's own value and path.
-/

import PixelStatus.Core.Config.Fields

namespace PixelStatus

structure ParsedSteps where
  keyframes : List ColorKeyframe := []
  cycle : Duration := 0
  deriving DecidableEq

/-- The loop of `parse_steps` from the step of an index on. -/
def parseStepsFrom (path : Bytes) (transition : Transition) (index : Nat)
    (parsed : ParsedSteps) : List Json → Loading (Option ParsedSteps)
  | [] => return some parsed
  | .object step :: rest => do
      let stepPath := itemPath path index
      rejectUnknownFields step ["color", "duration"] stepPath
      match Members.field step "color", Members.field step "duration" with
      | some colorField, some durationField =>
          let color ← colorValue colorField (fieldPath stepPath "color")
          let duration ← durationValue durationField (fieldPath stepPath "duration")
          match color, duration with
          | some color, some duration =>
              if duration > maximumAppearanceDuration - parsed.cycle then
                reject (path ++ bytes " total duration must not exceed 24h")
              else
                let keyframe : ColorKeyframe :=
                  { at' := parsed.cycle, color, transitionToNext := transition }
                parseStepsFrom path transition (index + 1)
                  { keyframes := parsed.keyframes ++ [keyframe]
                    cycle := parsed.cycle + duration } rest
          | _, _ => return none
      | _, _ => reject (stepPath ++ bytes " requires color and duration")
  | _ :: _ => reject (itemPath path index ++ bytes " must be an object")

def parseSteps (value : Json) (path : Bytes) (minimumSteps : Nat) (transition : Transition) :
    Loading (Option ParsedSteps) :=
  let wrongCount := path ++ bytes " must contain between " ++ decimal minimumSteps
    ++ bytes " and 64 steps"
  match value with
  | .array steps =>
      if steps.length < minimumSteps ∨ steps.length > 64 then reject wrongCount
      else parseStepsFrom path transition 0 {} steps
  | _ => reject wrongCount

def parseSolid (solid : Json) (path : Bytes) : Loading (Option TimelineAppearance) := do
  let color ← colorValue solid path
  return color.map TimelineAppearance.solid

def parseBlink (blink : Json) (path : Bytes) : Loading (Option TimelineAppearance) := do
  match blink with
  | .object blink =>
      rejectUnknownFields blink ["color", "on", "off"] path
      match Members.field blink "color", Members.field blink "on", Members.field blink "off" with
      | some colorField, some onField, some offField =>
          let color ← colorValue colorField (fieldPath path "color")
          let on ← durationValue onField (fieldPath path "on")
          let off ← durationValue offField (fieldPath path "off")
          match on, off with
          | some on, some off =>
              if on > maximumAppearanceDuration - off then
                reject (path ++ bytes " total duration must not exceed 24h")
              else return color.map fun color => TimelineAppearance.blink color on off
          | _, _ => return none
      | _, _, _ => reject (path ++ bytes " requires color, on, and off")
  | _ => reject (path ++ bytes " must be an object")

/-- The loop over the colours of a toggle. -/
def parseToggleColors (path : Bytes) (period : Duration) (index : Nat)
    (keyframes : List ColorKeyframe) : List Json → Loading (Option (List ColorKeyframe))
  | [] => return some keyframes
  | value :: rest => do
      match ← colorValue value (itemPath (fieldPath path "colors") index) with
      | some color =>
          parseToggleColors path period (index + 1)
            (keyframes ++ [{ at' := period * index, color, transitionToNext := .step }]) rest
      | none => return none

def parseToggle (toggle : Json) (path : Bytes) : Loading (Option TimelineAppearance) := do
  match toggle with
  | .object toggle =>
      rejectUnknownFields toggle ["colors", "period"] path
      match Members.field toggle "colors" with
      | some (.array colors) =>
          if colors.length < 2 ∨ colors.length > 16 then
            reject (path ++ bytes ".colors must contain between 2 and 16 colors")
          else match Members.field toggle "period" with
            | none => reject (path ++ bytes ".period is required")
            | some periodField =>
                match ← durationValue periodField (fieldPath path "period") with
                | none => return none
                | some period =>
                    if period > maximumAppearanceDuration / colors.length then
                      reject (path ++ bytes " total duration must not exceed 24h")
                    else
                      let keyframes ← parseToggleColors path period 0 [] colors
                      return keyframes.map fun keyframes =>
                        TimelineAppearance.make keyframes (period * colors.length) true
      | _ => reject (path ++ bytes ".colors must contain between 2 and 16 colors")
  | _ => reject (path ++ bytes " must be an object")

/-- There and back again between two colours. -/
def backAndForth (first second : Rgb) (period : Duration) : TimelineAppearance :=
  TimelineAppearance.make
    [{ at' := 0, color := first, transitionToNext := .linear },
      { at' := period.tdiv 2, color := second, transitionToNext := .linear }] period true

def parseFade (fade : Json) (path : Bytes) : Loading (Option TimelineAppearance) := do
  match fade with
  | .object fade =>
      rejectUnknownFields fade ["from", "to", "period"] path
      match Members.field fade "from", Members.field fade "to", Members.field fade "period" with
      | some fromField, some toField, some periodField =>
          let source ← colorValue fromField (fieldPath path "from")
          let target ← colorValue toField (fieldPath path "to")
          match ← durationValue periodField (fieldPath path "period") with
          | none => return none
          | some period =>
              if period < 2 then reject (path ++ bytes ".period must be at least 2ms")
              else match source, target with
                | some source, some target => return some (backAndForth source target period)
                | _, _ => return none
      | _, _, _ => reject (path ++ bytes " requires from, to, and period")
  | _ => reject (path ++ bytes " must be an object")

variable (round : Rounding)

def parsePulse (pulse : Json) (path : Bytes) : Loading (Option TimelineAppearance) := do
  match pulse with
  | .object pulse =>
      rejectUnknownFields pulse ["color", "period", "minimum", "maximum"] path
      match Members.field pulse "color", Members.field pulse "period" with
      | some colorField, some periodField =>
          let color ← colorValue colorField (fieldPath path "color")
          let period ← durationValue periodField (fieldPath path "period")
          let minimum ← percentageValue round pulse "minimum" (round (1 / 10)) path
          let maximum ← percentageValue round pulse "maximum" (.finite 1) path
          match period with
          | none => return none
          | some period =>
              if period < 2 then reject (path ++ bytes ".period must be at least 2ms")
              else match color, minimum, maximum with
                | some color, some minimum, some maximum =>
                    if maximum.lt minimum then
                      reject (path ++ bytes ".minimum must not exceed maximum")
                    else return some (backAndForth (scaleBrightness round color minimum)
                      (scaleBrightness round color maximum) period)
                | _, _, _ => return none
      | _, _ => reject (path ++ bytes " requires color and period")
  | _ => reject (path ++ bytes " must be an object")

/-- Whether a sequence repeats, as it does by default. -/
def sequenceRepeat (sequence : Members) (path : Bytes) : Loading (Option Bool) :=
  match sequence.field "repeat" with
  | none => return some true
  | some (.boolean repeats) => return some repeats
  | some _ => reject (path ++ bytes ".repeat must be boolean")

def parseSequence (sequence : Json) (path : Bytes) : Loading (Option TimelineAppearance) := do
  match sequence with
  | .object sequence =>
      rejectUnknownFields sequence ["repeat", "steps"] path
      match ← sequenceRepeat sequence path with
      | none => return none
      | some repeats =>
          match Members.field sequence "steps" with
          | none => reject (path ++ bytes ".steps is required")
          | some steps =>
              let parsed ← parseSteps steps (fieldPath path "steps") 1 .step
              return parsed.map fun parsed =>
                TimelineAppearance.make parsed.keyframes parsed.cycle repeats
  | _ => reject (path ++ bytes " must be an object")

/-- The transition of a cycle, linear by default. -/
def cycleTransition (cycle : Members) (path : Bytes) : Loading (Option Transition) :=
  match cycle.field "transition" with
  | none => return some .linear
  | some (.string text) =>
      if text = bytes "linear" then return some .linear
      else if text = bytes "step" then return some .step
      else reject (path ++ bytes ".transition must be linear or step")
  | some _ => reject (path ++ bytes ".transition must be linear or step")

def parseCycle (cycle : Json) (path : Bytes) : Loading (Option TimelineAppearance) := do
  match cycle with
  | .object cycle =>
      rejectUnknownFields cycle ["transition", "steps"] path
      match ← cycleTransition cycle path with
      | none => return none
      | some transition =>
          match Members.field cycle "steps" with
          | none => reject (path ++ bytes ".steps is required")
          | some steps =>
              let parsed ← parseSteps steps (fieldPath path "steps") 2 transition
              return parsed.map fun parsed =>
                TimelineAppearance.make parsed.keyframes parsed.cycle true
  | _ => reject (path ++ bytes " must be an object")

/-- The readers of the forms, in the order in which the loader looks for them. -/
def appearanceForms : List (String × (Json → Bytes → Loading (Option TimelineAppearance))) :=
  [("solid", parseSolid), ("blink", parseBlink), ("toggle", parseToggle), ("fade", parseFade),
    ("pulse", parsePulse round), ("sequence", parseSequence), ("cycle", parseCycle)]

def parseAppearance (status : Members) (path : Bytes) : Loading (Option TimelineAppearance) := do
  let appearancePath := fieldPath path "appearance"
  match status.field "appearance" with
  | some (.object appearance) =>
      rejectUnknownFields status ["appearance"] path
      rejectUnknownFields appearance ((appearanceForms round).map Prod.fst) appearancePath
      if appearance.length ≠ 1 then
        reject (appearancePath ++ bytes " must define exactly one appearance type")
      else
        match (appearanceForms round).find? fun form => Members.contains appearance form.1 with
        | some (form, parse) =>
            match Members.field appearance form with
            | some value => parse value (fieldPath appearancePath form)
            | none => return none
        | none =>
            reject (appearancePath
              ++ bytes " must define solid, blink, toggle, fade, pulse, sequence, or cycle")
  | _ => reject (appearancePath ++ bytes " must be an object")

end PixelStatus
