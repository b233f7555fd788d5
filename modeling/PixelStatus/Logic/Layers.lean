/-
# Layers

A layer paints some of its places and leaves the others. Painted over another
one it hides what lies below where it paints; in a stack of layers every place
shows the last layer that paints it.
-/

import Mathlib.Data.List.Basic
import Mathlib.Data.Option.Basic

universe u v

/-- The colours of the places that are painted. -/
abbrev Layer (Place : Type u) (Color : Type v) := Place → Option Color

namespace Layer

variable {Place : Type u} {Color : Type v}

/-- The layer that paints nothing. -/
def blank : Layer Place Color := fun _ => none

/-- One colour in every place of a region. -/
def area (region : Place → Prop) [DecidablePred region] (color : Color) : Layer Place Color :=
  fun place => if region place then some color else none

/-- One layer beneath another. -/
def beneath (lower upper : Layer Place Color) : Layer Place Color :=
  fun place => (upper place).or (lower place)

/-- Layers in the order in which they are painted. -/
def stack (layers : List (Layer Place Color)) : Layer Place Color := layers.foldr beneath blank

/-- A layer that paints nowhere else. -/
def Within (region : Place → Prop) (layer : Layer Place Color) : Prop :=
  ∀ place color, layer place = some color → region place

variable {lower upper layer : Layer Place Color} {layers : List (Layer Place Color)}
  {place : Place} {color : Color}

/-- A blank layer shows nothing through. -/
theorem blank_beneath (layer : Layer Place Color) : beneath blank layer = layer :=
  funext fun _ => Option.or_none

/-- Layers may be put together in pairs from either end. -/
theorem beneath_assoc (first second third : Layer Place Color) :
    (first.beneath second).beneath third = first.beneath (second.beneath third) :=
  funext fun _ => (Option.or_assoc).symm

theorem stack_nil : stack ([] : List (Layer Place Color)) = blank := rfl

theorem stack_cons : stack (layer :: layers) = layer.beneath (stack layers) := rfl

/-- An area shows its colour exactly in its region. -/
theorem area_eq_some {region : Place → Prop} [DecidablePred region] {shown : Color} :
    area region color place = some shown ↔ region place ∧ color = shown := by
  unfold area
  split
  next covered => simp [covered]
  next uncovered => simp [uncovered]

/-- Where the upper layer is painted, it alone is seen. -/
theorem beneath_of_some (h : upper place = some color) : lower.beneath upper place = some color := by
  rw [beneath, h, Option.some_or]

/-- Where the upper layer is open, the lower one is seen. -/
theorem beneath_of_none (h : upper place = none) : lower.beneath upper place = lower place := by
  rw [beneath, h, Option.none_or]

/-- Over another colour a colour is seen where it is painted. -/
theorem beneath_eq_some_iff (other : lower place ≠ some color) :
    lower.beneath upper place = some color ↔ upper place = some color := by
  cases painted : upper place with
  | none =>
      rw [beneath_of_none painted]
      exact iff_of_false other (by simp)
  | some shown => rw [beneath_of_some painted]

/-! ## What a stack shows -/

/-- A place is bare when no layer paints it. -/
theorem stack_eq_none : stack layers place = none ↔ ∀ layer ∈ layers, layer place = none := by
  induction layers with
  | nil => simp [stack, blank]
  | cons head layers ih =>
      rw [stack_cons, beneath, Option.or_eq_none_iff, ih, List.forall_mem_cons, and_comm]

/-- A stack on a stack is the one beneath the other. -/
theorem stack_append (below above : List (Layer Place Color)) :
    stack (below ++ above) = (stack below).beneath (stack above) := by
  induction below with
  | nil => rw [List.nil_append, stack_nil, blank_beneath]
  | cons head below ih => rw [List.cons_append, stack_cons, ih, stack_cons, beneath_assoc]

/-- A place shows the last layer that paints it. -/
theorem stack_eq_some : stack layers place = some color ↔
    ∃ below layer above, layers = below ++ layer :: above ∧ layer place = some color ∧
      ∀ later ∈ above, later place = none := by
  refine ⟨?_, ?_⟩
  · intro shown
    induction layers with
    | nil => cases shown
    | cons head layers ih =>
        rw [stack_cons] at shown
        cases rest : stack layers place with
        | none =>
            rw [beneath_of_none rest] at shown
            exact ⟨[], head, layers, rfl, shown, stack_eq_none.mp rest⟩
        | some other =>
            rw [beneath_of_some rest] at shown
            obtain ⟨below, layer, above, rfl, painted, bare⟩ := ih (rest.trans shown)
            exact ⟨head :: below, layer, above, rfl, painted, bare⟩
  · rintro ⟨below, layer, above, rfl, painted, bare⟩
    have hidden : stack above place = none := stack_eq_none.mpr bare
    rw [stack_append, stack_cons]
    apply beneath_of_some
    rw [beneath_of_none hidden, painted]

/-- A stack paints only what one of its layers paints. -/
theorem exists_of_stack (shown : stack layers place = some color) :
    ∃ layer ∈ layers, layer place = some color := by
  obtain ⟨below, layer, above, rfl, painted, _⟩ := stack_eq_some.mp shown
  exact ⟨layer, List.mem_append_right below List.mem_cons_self, painted⟩

/-- Where all the layers that paint a place agree, their order does not matter. -/
theorem stack_of_agree (member : layer ∈ layers) (painted : layer place = some color)
    (agree : ∀ other ∈ layers, ∀ shown, other place = some shown → shown = color) :
    stack layers place = some color := by
  cases shown : stack layers place with
  | none => rw [stack_eq_none.mp shown layer member] at painted; cases painted
  | some other =>
      obtain ⟨painter, hpainter, paints⟩ := exists_of_stack shown
      rw [agree painter hpainter other paints]

/-- A place shows what its painters agree on. -/
theorem stack_eq_of_agree {shown : Option Color}
    (agree : ∀ layer ∈ layers, ∀ color, layer place = some color → shown = some color)
    (painted : ∀ color, shown = some color → ∃ layer ∈ layers, layer place = some color) :
    stack layers place = shown := by
  apply Option.ext
  intro color
  refine ⟨?_, ?_⟩
  · intro seen
    obtain ⟨layer, member, paints⟩ := exists_of_stack seen
    exact agree layer member color paints
  · intro same
    obtain ⟨layer, member, paints⟩ := painted color same
    apply stack_of_agree member paints
    intro other hother seen again
    exact Option.some.inj ((agree other hother seen again).symm.trans same)

/-- Pieces of a layer that cover it make it up. -/
theorem stack_of_pieces (pieces : ∀ piece ∈ layers, ∀ place color, piece place = some color →
      layer place = some color)
    (covered : ∀ place color, layer place = some color → ∃ piece ∈ layers,
      piece place = some color) : stack layers = layer :=
  funext fun place => stack_eq_of_agree (fun piece member => pieces piece member place)
    (covered place)

/-- Items whose layers leave a place alone can be left out there. -/
theorem stack_map_filter {α : Type*} {items : List α} {layer : α → Layer Place Color}
    {keep : α → Bool} (skipped : ∀ item ∈ items, keep item = false → layer item place = none) :
    stack ((items.filter keep).map layer) place = stack (items.map layer) place := by
  induction items with
  | nil => rfl
  | cons head items ih =>
      have parts := List.forall_mem_cons.mp skipped
      have rest := ih parts.2
      rw [List.map_cons, stack_cons, List.filter_cons]
      split
      · rw [List.map_cons, stack_cons, beneath, beneath, rest]
      next dropped =>
        rw [rest, beneath, parts.1 (Bool.eq_false_iff.mpr dropped), Option.or_none]

/-! ## One colour -/

/-- A layer of no other colour. -/
def Only (color : Color) (layer : Layer Place Color) : Prop :=
  ∀ place shown, layer place = some shown → shown = color

theorem Only.blank : Only color (Layer.blank : Layer Place Color) :=
  fun _ _ painted => nomatch painted

/-- An area of a colour shows no other. -/
theorem Only.area {region : Place → Prop} [DecidablePred region] :
    Only color (Layer.area region color) :=
  fun _ _ painted => (area_eq_some.mp painted).2.symm

/-- Two layers of one colour show no other together. -/
theorem Only.beneath (hlower : lower.Only color) (hupper : upper.Only color) :
    (lower.beneath upper).Only color := by
  intro place shown painted
  cases above : upper place with
  | none =>
      rw [beneath_of_none above] at painted
      exact hlower place shown painted
  | some other =>
      rw [beneath_of_some above] at painted
      obtain rfl := Option.some.inj painted
      exact hupper place other above

/-- A stack of layers of one colour shows no other. -/
theorem Only.stack (each : ∀ layer ∈ layers, layer.Only color) : (Layer.stack layers).Only color := by
  intro place shown painted
  obtain ⟨layer, member, paints⟩ := exists_of_stack painted
  exact each layer member place shown paints

/-- A stack of one colour shows it where any of its layers does. -/
theorem stack_of_only (each : ∀ layer ∈ layers, layer.Only color) :
    stack layers place = some color ↔ ∃ layer ∈ layers, layer place = some color := by
  refine ⟨?_, ?_⟩
  · exact exists_of_stack
  · rintro ⟨layer, member, painted⟩
    exact stack_of_agree member painted fun other hother shown paints =>
      each other hother place shown paints

/-- Layers of one colour are equal when they paint the same places. -/
theorem Only.ext {left right : Layer Place Color} (hleft : left.Only color)
    (hright : right.Only color)
    (same : ∀ place, left place = some color ↔ right place = some color) : left = right := by
  funext place
  apply Option.ext
  intro shown
  refine ⟨?_, ?_⟩
  · intro painted
    obtain rfl := hleft place shown painted
    exact (same place).mp painted
  · intro painted
    obtain rfl := hright place shown painted
    exact (same place).mpr painted

/-! ## Regions -/

section regions

variable {region : Place → Prop}

theorem Within.blank : Within region (Layer.blank : Layer Place Color) :=
  fun _ _ painted => nomatch painted

/-- An area paints nothing outside its region. -/
theorem Within.area [DecidablePred region] : Within region (Layer.area region color) :=
  fun _ _ painted => (area_eq_some.mp painted).1

/-- Two layers within a region stay within it together. -/
theorem Within.beneath (hlower : lower.Within region) (hupper : upper.Within region) :
    (lower.beneath upper).Within region := by
  intro place color painted
  cases shown : upper place with
  | none =>
      rw [beneath_of_none shown] at painted
      exact hlower place color painted
  | some other => exact hupper place other shown

/-- A stack of layers within a region stays within it. -/
theorem Within.stack (each : ∀ layer ∈ layers, layer.Within region) :
    (Layer.stack layers).Within region := by
  intro place color painted
  obtain ⟨layer, member, shown⟩ := exists_of_stack painted
  exact each layer member place color shown

/-- What stays within a region stays within a wider one. -/
theorem Within.mono {wider : Place → Prop} (within : layer.Within region)
    (widen : ∀ place, region place → wider place) : layer.Within wider :=
  fun place color painted => widen place (within place color painted)

/-- Outside its region a layer is open. -/
theorem Within.eq_none (within : layer.Within region) (outside : ¬ region place) :
    layer place = none :=
  Option.eq_none_iff_forall_ne_some.mpr fun color painted => outside (within place color painted)

end regions

end Layer
