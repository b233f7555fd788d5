/-
# The symmetries of a square grid

A symmetry of a square exchanges the two axes or not, and then reverses either
of them or not. The eight of them form a group, which moves the places of a grid
with any number of rows; a picture that is moved by one of them can be moved
back by its inverse.
-/

import Mathlib.Algebra.Group.Action.Defs
import Mathlib.Algebra.Group.Basic

/-- A symmetry: an exchange of the axes, followed by reversals. -/
@[ext]
structure SquareSymmetry where
  exchange : Bool := false
  reverseX : Bool := false
  reverseY : Bool := false
  deriving DecidableEq

namespace SquareSymmetry

variable {size : Nat}

/-- Move a place of a grid. -/
def move (symmetry : SquareSymmetry) (place : Fin size × Fin size) : Fin size × Fin size :=
  let exchanged := if symmetry.exchange then (place.2, place.1) else place
  (if symmetry.reverseX then exchanged.1.rev else exchanged.1,
    if symmetry.reverseY then exchanged.2.rev else exchanged.2)

/-- First `first`, then `second`. -/
def after (second first : SquareSymmetry) : SquareSymmetry where
  exchange := second.exchange ^^ first.exchange
  reverseX := second.reverseX ^^ (if second.exchange then first.reverseY else first.reverseX)
  reverseY := second.reverseY ^^ (if second.exchange then first.reverseX else first.reverseY)

/-- The symmetry that moves everything back. -/
def back (symmetry : SquareSymmetry) : SquareSymmetry where
  exchange := symmetry.exchange
  reverseX := if symmetry.exchange then symmetry.reverseY else symmetry.reverseX
  reverseY := if symmetry.exchange then symmetry.reverseX else symmetry.reverseY

instance : One SquareSymmetry := ⟨{}⟩

instance : Mul SquareSymmetry := ⟨after⟩

instance : Inv SquareSymmetry := ⟨back⟩

instance : SMul SquareSymmetry (Fin size × Fin size) := ⟨move⟩

theorem one_def : (1 : SquareSymmetry) = {} := rfl

/-- The product sets the first factor behind the second. -/
theorem mul_def (second first : SquareSymmetry) : second * first = second.after first := rfl

theorem inv_def (symmetry : SquareSymmetry) : symmetry⁻¹ = symmetry.back := rfl

/-- A symmetry acts by moving places. -/
theorem smul_def (symmetry : SquareSymmetry) (place : Fin size × Fin size) :
    symmetry • place = symmetry.move place := rfl

instance : Group SquareSymmetry where
  mul_assoc first second third := by
    obtain ⟨e, x, y⟩ := first
    obtain ⟨e', x', y'⟩ := second
    cases e <;> cases e' <;> simp [mul_def, after]
  one_mul symmetry := by
    simp [one_def, mul_def, after]
  mul_one symmetry := by
    simp [one_def, mul_def, after]
  inv_mul_cancel symmetry := by
    obtain ⟨e, x, y⟩ := symmetry
    cases e <;> simp [one_def, mul_def, inv_def, after, back]

instance : MulAction SquareSymmetry (Fin size × Fin size) where
  one_smul place := rfl
  mul_smul second first place := by
    obtain ⟨e, x, y⟩ := first
    obtain ⟨e', x', y'⟩ := second
    cases e <;> cases e' <;> cases x <;> cases y <;> cases x' <;> cases y' <;>
      simp [smul_def, mul_def, move, after]

end SquareSymmetry
