/-
# Mixed colours

In exact arithmetic each channel of a mixture lies between the channels of the
two colours, rounded half up. Nothing of the second colour is in a mixture of
share zero.
-/

import PixelStatus.Core.Color
import Mathlib.Tactic.Linarith

namespace PixelStatus

/-- A channel so far between two others. -/
def mixedLevel (start finish : UInt8) (share : ℚ) : ℤ :=
  ⌊(start.toNat : ℚ) + (finish.toNat - start.toNat) * share + 1 / 2⌋

/-- A colour so far between two others. -/
structure Mixture (source target : Rgb) (share : ℚ) (shown : Rgb) : Prop where
  r : (shown.r.toNat : ℤ) = mixedLevel source.r target.r share
  g : (shown.g.toNat : ℤ) = mixedLevel source.g target.g share
  b : (shown.b.toNat : ℤ) = mixedLevel source.b target.b share

/-- A channel is not outside two others. -/
def LevelBetween (start finish level : UInt8) : Prop :=
  min start.toNat finish.toNat ≤ level.toNat ∧ level.toNat ≤ max start.toNat finish.toNat

/-- Each channel of a colour lies between those of two others. -/
structure ChannelsBetween (source target shown : Rgb) : Prop where
  r : LevelBetween source.r target.r shown.r
  g : LevelBetween source.g target.g shown.g
  b : LevelBetween source.b target.b shown.b

variable {start finish level : UInt8} {share : ℚ} {source target shown other : Rgb}

/-- A mixture of two numbers is not outside them. -/
theorem mix_bounds {low high : ℕ} (least : 0 ≤ share) (most : share ≤ 1) :
    ((min low high : ℕ) : ℚ) ≤ low + (high - low) * share ∧
      (low : ℚ) + (high - low) * share ≤ ((max low high : ℕ) : ℚ) := by
  rcases Nat.le_total low high with ordered | ordered
  · have span : (0 : ℚ) ≤ high - low := sub_nonneg.mpr (by exact_mod_cast ordered)
    have none := mul_nonneg span least
    have whole := mul_le_mul_of_nonneg_left most span
    rw [min_eq_left ordered, max_eq_right ordered]
    refine ⟨?_, ?_⟩
    · linarith
    · linarith
  · have span : (0 : ℚ) ≤ low - high := sub_nonneg.mpr (by exact_mod_cast ordered)
    have none := mul_nonneg span least
    have whole := mul_le_mul_of_nonneg_left most span
    rw [min_eq_right ordered, max_eq_left ordered]
    refine ⟨?_, ?_⟩
    · linarith
    · linarith

/-- A mixed level is between its two ends. -/
theorem mixedLevel_bounds (least : 0 ≤ share) (most : share ≤ 1) :
    ((min start.toNat finish.toNat : ℕ) : ℤ) ≤ mixedLevel start finish share ∧
      mixedLevel start finish share ≤ ((max start.toNat finish.toNat : ℕ) : ℤ) := by
  obtain ⟨above, below⟩ := @mix_bounds share start.toNat finish.toNat least most
  refine ⟨?_, ?_⟩
  · apply Int.le_floor.mpr
    rw [Int.cast_natCast]
    linarith
  · apply Int.le_of_lt_add_one
    apply Int.floor_lt.mpr
    rw [Int.cast_add, Int.cast_one, Int.cast_natCast]
    linarith

/-- With no share of the target the level is that of the source. -/
theorem mixedLevel_zero : mixedLevel start finish 0 = start.toNat := by
  rw [mixedLevel, mul_zero, add_zero]
  apply Int.floor_eq_iff.mpr
  refine ⟨?_, ?_⟩
  · push_cast
    linarith
  · push_cast
    linarith

/-- Without rounding a channel is mixed as it should be. -/
theorem mixChannel_exact (least : 0 ≤ share) (most : share ≤ 1) :
    ((mixChannel Double.exact (.finite share) start finish).toNat : ℤ) =
      mixedLevel start finish share := by
  obtain ⟨low, high⟩ := @mixedLevel_bounds start finish share least most
  have unsigned : ¬ ((start.toNat : ℚ) + (finish.toNat - start.toNat) * share < 0) :=
    not_lt.mpr ((Nat.cast_nonneg _).trans (mix_bounds least most).1)
  have value : lround (Double.add Double.exact (.finite start.toNat)
      (Double.mul Double.exact (.finite ((finish.toNat : ℚ) - start.toNat)) (.finite share))) =
        mixedLevel start finish share := by
    simp only [Double.mul, Double.exact, Double.add, lround, if_neg unsigned]
    rfl
  have source := start.toNat_lt
  have target := finish.toNat_lt
  have natural : 0 ≤ mixedLevel start finish share := (Int.natCast_nonneg _).trans low
  unfold mixChannel
  dsimp only
  rw [value, UInt8.toNat_ofNat', Nat.mod_eq_of_lt (by omega), Int.toNat_of_nonneg natural]

/-- Exact interpolation mixes every channel. -/
theorem interpolate_exact (least : 0 ≤ share) (most : share ≤ 1) :
    Mixture source target share (interpolate Double.exact source target (.finite share)) := by
  have clamped : Double.clamp (.finite share) (.finite 0) (.finite 1) = .finite share := by
    simp only [Double.clamp, Double.lt, Double.compare, decide_eq_true_eq, if_neg (not_lt.mpr least),
      if_neg (not_lt.mpr most)]
  unfold interpolate
  rw [clamped]
  exact ⟨mixChannel_exact least most, mixChannel_exact least most, mixChannel_exact least most⟩

namespace Mixture

/-- The share decides the colour. -/
theorem unique (mixed : Mixture source target share shown)
    (again : Mixture source target share other) : shown = other := by
  have same {left right : UInt8} {level : ℤ} (hleft : (left.toNat : ℤ) = level)
      (hright : (right.toNat : ℤ) = level) : left = right :=
    UInt8.toNat_inj.mp (by exact_mod_cast hleft.trans hright.symm)
  obtain ⟨r, g, b⟩ := shown
  obtain ⟨r', g', b'⟩ := other
  obtain rfl : r = r' := same mixed.r again.r
  obtain rfl : g = g' := same mixed.g again.g
  obtain rfl : b = b' := same mixed.b again.b
  rfl

theorem zero : Mixture source target 0 source := ⟨mixedLevel_zero.symm, mixedLevel_zero.symm,
  mixedLevel_zero.symm⟩

/-- A mixture is between its two colours. -/
theorem between (mixed : Mixture source target share shown) (least : 0 ≤ share)
    (most : share ≤ 1) : ChannelsBetween source target shown := by
  have channel {start finish level : UInt8} (same : (level.toNat : ℤ) =
      mixedLevel start finish share) : LevelBetween start finish level := by
    have bounds := @mixedLevel_bounds start finish share least most
    rw [← same] at bounds
    exact ⟨by exact_mod_cast bounds.1, by exact_mod_cast bounds.2⟩
  exact ⟨channel mixed.r, channel mixed.g, channel mixed.b⟩

end Mixture

end PixelStatus
