/-
# Tick clocks

A clock counts so many ticks a second in a signed word. Seconds become ticks by a
product that wraps around the word, and ticks become seconds by a quotient that
drops the rest. A number of seconds comes back exactly when the word counts it.
-/

import Mathlib.Algebra.Order.Ring.Int

/-- A rate in ticks a second and the number of values of the word. -/
structure TickClock where
  rate : ℕ
  values : ℕ

namespace TickClock

variable (clock : TickClock)

/-- The word's value for so many seconds. -/
def ticks (seconds : ℤ) : ℤ := (seconds * clock.rate).bmod clock.values

/-- The whole seconds of a value, toward zero. -/
def seconds (ticks : ℤ) : ℤ := ticks.tdiv clock.rate

/-- The values of the word. -/
def InWord (ticks : ℤ) : Prop := -clock.values ≤ ticks * 2 ∧ ticks * 2 < clock.values

/-- The word counts so many seconds. -/
def Counts (seconds : ℤ) : Prop := clock.InWord (seconds * clock.rate)

variable {clock} {ticks seconds : ℤ}

/-- A count of ticks is always a word. -/
theorem ticks_inWord (word : 0 < clock.values) (seconds : ℤ) :
    clock.InWord (clock.ticks seconds) := by
  have low : -((clock.values : ℤ) / 2) ≤ clock.ticks seconds := Int.le_bmod word
  have high : clock.ticks seconds < ((clock.values : ℤ) + 1) / 2 := Int.bmod_lt word
  refine ⟨?_, ?_⟩
  · omega
  · omega

/-- A product that does not fit has wrapped a whole number of times. -/
theorem ticks_wrapped (clock : TickClock) (seconds : ℤ) :
    ∃ wraps : ℤ, clock.ticks seconds + clock.values * wraps = seconds * clock.rate :=
  ⟨_, Int.bmod_add_bdiv _ _⟩

/-- Seconds that the clock can count are exact in ticks. -/
theorem ticks_of_counts (counted : clock.Counts seconds) :
    clock.ticks seconds = seconds * clock.rate :=
  Int.bmod_eq_of_le_mul_two counted.1 counted.2

/-- The seconds before the origin mirror those behind it. -/
theorem seconds_neg (clock : TickClock) (ticks : ℤ) : clock.seconds (-ticks) = -clock.seconds ticks :=
  Int.neg_tdiv _ _

/-- Whole seconds lie between zero and their value. -/
theorem seconds_mul_le (forward : 0 ≤ ticks) :
    0 ≤ clock.seconds ticks * clock.rate ∧ clock.seconds ticks * clock.rate ≤ ticks := by
  have parts : clock.seconds ticks * clock.rate + ticks.tmod clock.rate = ticks :=
    Int.tdiv_mul_add_tmod ticks clock.rate
  have rest : 0 ≤ ticks.tmod clock.rate := Int.tmod_nonneg _ forward
  have whole : 0 ≤ clock.seconds ticks :=
    Int.tdiv_nonneg forward (Int.natCast_nonneg clock.rate)
  refine ⟨mul_nonneg whole (Int.natCast_nonneg _), ?_⟩
  omega

/-- The rest is less than a second. -/
theorem seconds_mul_near (positive : 0 < clock.rate) (ticks : ℤ) :
    ticks - clock.rate < clock.seconds ticks * clock.rate ∧
      clock.seconds ticks * clock.rate < ticks + clock.rate := by
  have parts : clock.seconds ticks * clock.rate + ticks.tmod clock.rate = ticks :=
    Int.tdiv_mul_add_tmod ticks clock.rate
  have below : -(clock.rate : ℤ) < ticks.tmod clock.rate := Int.lt_tmod_of_pos ticks (by omega)
  have above : ticks.tmod clock.rate < clock.rate := Int.tmod_lt_of_pos ticks (by omega)
  refine ⟨?_, ?_⟩
  · omega
  · omega

/-- The whole seconds of a value of the word can be counted. -/
theorem counts_seconds (inWord : clock.InWord ticks) : clock.Counts (clock.seconds ticks) := by
  obtain ⟨low, high⟩ := inWord
  unfold Counts InWord
  rcases le_total 0 ticks with forward | backward
  · have between := @seconds_mul_le clock ticks forward
    omega
  · have between := @seconds_mul_le clock (-ticks) (Int.neg_nonneg_of_nonpos backward)
    rw [seconds_neg, neg_mul] at between
    omega

/-- Exactly the seconds that the word counts come back from it. -/
theorem seconds_ticks_iff (positive : 0 < clock.rate) (word : 0 < clock.values) :
    clock.seconds (clock.ticks seconds) = seconds ↔ clock.Counts seconds := by
  refine ⟨?_, ?_⟩
  · intro same
    rw [← same]
    exact counts_seconds (ticks_inWord word seconds)
  · intro counted
    rw [ticks_of_counts counted]
    exact Int.mul_tdiv_cancel seconds (Int.natCast_ne_zero.mpr positive.ne')

end TickClock
