/-
# Cutting an extent in proportion

An extent is cut at the multiples of its parts, rounded down. The cuts ascend
from zero to the whole extent, so neighbouring pieces meet and the pieces fill
the extent. No piece is a whole unit away from its exact share, so the pieces of
single parts differ by at most one unit.
-/

import Mathlib.Algebra.Order.Floor.Semifield
import Mathlib.Data.Rat.Floor
import Mathlib.Tactic.Linarith
import PixelStatus.Logic.Segments

/-- Where the piece behind so many of all the parts begins. -/
def cut (extent total part : Nat) : Nat := extent * part / total

namespace Cuts

variable {extent total part other : Nat}

/-- Cuts come in the order of their parts. -/
theorem mono (h : part ≤ other) : cut extent total part ≤ cut extent total other :=
  Nat.div_le_div_right (Nat.mul_le_mul_left extent h)

/-- The cut behind all parts is the end. -/
theorem whole (positive : 0 < total) : cut extent total total = extent :=
  Nat.mul_div_cancel extent positive

/-- No cut is behind the end. -/
theorem le_extent (positive : 0 < total) (h : part ≤ total) : cut extent total part ≤ extent :=
  calc cut extent total part ≤ cut extent total total := mono h
    _ = extent := whole positive

/-- When there is room for every part, each gets some of the extent. -/
theorem lt_next (positive : 0 < total) (room : total ≤ extent) :
    cut extent total part < cut extent total (part + 1) :=
  calc cut extent total part < extent * part / total + 1 := Nat.lt_succ_self _
    _ = (extent * part + total) / total := (Nat.add_div_right _ positive).symm
    _ ≤ (extent * part + extent) / total :=
        Nat.div_le_div_right (Nat.add_le_add_left room _)
    _ = cut extent total (part + 1) := by rw [← Nat.mul_succ]; rfl

/-- The piece of one part is the exact share, rounded down or up. -/
theorem piece_bounds (positive : 0 < total) :
    extent / total ≤ cut extent total (part + 1) - cut extent total part ∧
      cut extent total (part + 1) - cut extent total part ≤ extent / total + 1 := by
  have next : cut extent total (part + 1) = cut extent total part + extent / total +
      (if total ≤ extent * part % total + extent % total then 1 else 0) := by
    rw [cut, Nat.mul_succ, Nat.add_div positive, cut]
  rw [next]
  generalize extent / total = share
  split <;> omega

/-- The pieces, a gap apart from each other, fill the extent and the gaps. -/
theorem laid {gap first : Nat} (positive : 0 < total) :
    Segments.Laid (fun part => first + cut extent total part + part * gap)
      (fun part => cut extent total (part + 1) - cut extent total part) gap first
      (first + extent + gap * (total - 1)) (List.range total) := by
  apply Segments.Laid.range positive
  · simp [cut]
  · intro part _
    have ascending : cut extent total part ≤ cut extent total (part + 1) := mono (Nat.le_succ part)
    rw [Nat.succ_mul]
    omega
  · have last : total - 1 + 1 = total := Nat.sub_add_cancel positive
    have ascending : cut extent total (total - 1) ≤ cut extent total total := mono (Nat.sub_le _ _)
    rw [last, whole positive] at *
    rw [Nat.mul_comm gap]
    omega

/-- A cut is the exact one, rounded down. -/
theorem exact_bounds (extent total part : Nat) :
    (cut extent total part : ℚ) ≤ extent * part / total ∧
      (extent * part / total : ℚ) < cut extent total part + 1 := by
  have floor : ⌊((extent * part : ℕ) : ℚ) / (total : ℚ)⌋₊ = cut extent total part :=
    Nat.floor_div_eq_div _ _
  rw [← Nat.cast_mul, ← floor]
  refine ⟨?_, ?_⟩
  · exact Nat.floor_le (by positivity)
  · exact Nat.lt_floor_add_one _

/-- A piece differs by less than one from the exact share of its parts. -/
theorem piece_near (extent total part weight : Nat) :
    |((cut extent total (part + weight) - cut extent total part : ℕ) : ℚ) -
      extent * weight / total| < 1 := by
  have start := exact_bounds extent total part
  have stop := exact_bounds extent total (part + weight)
  have share : (extent * ((part + weight : ℕ) : ℚ) / total : ℚ) =
      extent * part / total + extent * weight / total := by
    rw [Nat.cast_add, mul_add, add_div]
  rw [Nat.cast_sub (mono (Nat.le_add_right _ _)), abs_lt]
  rw [share] at stop
  refine ⟨?_, ?_⟩
  · linarith
  · linarith

end Cuts
