/-
# Rectangles

Which pixels a rectangle covers, and how two rectangles lie to each other.
-/

import PixelStatus.Core.Config.Types

namespace PixelStatus

namespace LayoutBounds

/-- A rectangle covers a pixel. -/
def Covers (bounds : LayoutBounds) (x y : Nat) : Prop :=
  (bounds.x ≤ x ∧ x < bounds.x + bounds.width) ∧ bounds.y ≤ y ∧ y < bounds.y + bounds.height

instance (bounds : LayoutBounds) (x y : Nat) : Decidable (bounds.Covers x y) :=
  inferInstanceAs (Decidable ((_ ∧ _) ∧ _ ∧ _))

/-- Two rectangles have no pixel in common. -/
def Apart (first second : LayoutBounds) : Prop := ∀ x y, ¬ (first.Covers x y ∧ second.Covers x y)

/-- A rectangle lies within another one. -/
structure Within (outer inner : LayoutBounds) : Prop where
  left : outer.x ≤ inner.x
  right : inner.x + inner.width ≤ outer.x + outer.width
  top : outer.y ≤ inner.y
  bottom : inner.y + inner.height ≤ outer.y + outer.height

/-- A rectangle is within itself. -/
theorem Within.refl (bounds : LayoutBounds) : bounds.Within bounds :=
  ⟨Nat.le_refl _, Nat.le_refl _, Nat.le_refl _, Nat.le_refl _⟩

/-- What is within a part is within the whole. -/
theorem Within.trans {outer middle inner : LayoutBounds} (first : outer.Within middle)
    (second : middle.Within inner) : outer.Within inner where
  left := first.left.trans second.left
  right := second.right.trans first.right
  top := first.top.trans second.top
  bottom := second.bottom.trans first.bottom

/-- A part covers no place that the whole does not. -/
theorem Within.covers {outer inner : LayoutBounds} (within : outer.Within inner) {x y : Nat}
    (covered : inner.Covers x y) : outer.Covers x y :=
  ⟨⟨within.left.trans covered.1.1, covered.1.2.trans_le within.right⟩,
    within.top.trans covered.2.1, covered.2.2.trans_le within.bottom⟩

end LayoutBounds

end PixelStatus
