/-
# Timelines

Stretches of given lengths lie one behind the other from zero on. When none is
negative, every position before the end lies in exactly one of them.
-/

import Mathlib.Algebra.Order.BigOperators.Group.List
import Mathlib.Algebra.Order.Group.Defs

universe u

namespace Timeline

variable {K : Type u} [AddCommGroup K]

/-- Where a stretch begins. -/
def start (lengths : List K) (index : ℕ) : K := (lengths.take index).sum

variable {length : K} {lengths : List K} {index other : ℕ} {position : K}

theorem start_zero : start lengths 0 = 0 := rfl

/-- A segment begins later by the length of one before it. -/
theorem start_cons : start (length :: lengths) (index + 1) = length + start lengths index :=
  List.sum_cons

/-- Behind the last segment all lengths have passed. -/
theorem start_length : start lengths lengths.length = lengths.sum := by
  rw [start, List.take_length]

/-- A stretch ends where the next one begins. -/
theorem start_succ (listed : lengths[index]? = some length) :
    start lengths (index + 1) = start lengths index + length := by
  rw [start, start, List.take_add_one, listed, List.sum_append, Option.toList_some,
    List.sum_singleton]

variable [LinearOrder K]

/-- A position lies in a stretch, which includes its start and not its end. -/
def Contains (lengths : List K) (index : ℕ) (position : K) : Prop :=
  start lengths index ≤ position ∧ position < start lengths (index + 1)

/-- Behind the last stretch there is none. -/
theorem Contains.lt_length (here : Contains lengths index position) : index < lengths.length := by
  by_contra beyond
  have long : lengths.length ≤ index := Nat.not_lt.mp beyond
  have same : start lengths (index + 1) = start lengths index := by
    rw [start, start, List.take_of_length_le long, List.take_of_length_le (Nat.le_succ_of_le long)]
  exact absurd (here.1.trans_lt here.2) (same ▸ lt_irrefl _)

variable [IsOrderedAddMonoid K]

/-- Without the first segment every position is less by its length. -/
theorem contains_cons : Contains (length :: lengths) (index + 1) position ↔
    Contains lengths index (position - length) := by
  rw [Contains, Contains, start_cons, start_cons, le_sub_iff_add_le', sub_lt_iff_lt_add']

/-- No segment begins before the timeline does. -/
theorem start_nonneg (nonneg : ∀ length ∈ lengths, 0 ≤ length) : 0 ≤ start lengths index :=
  List.sum_nonneg fun length member => nonneg length (List.mem_of_mem_take member)

/-- The segments begin in their order. -/
theorem start_mono (nonneg : ∀ length ∈ lengths, 0 ≤ length) (le : index ≤ other) :
    start lengths index ≤ start lengths other := by
  have rest : (lengths.take other).take index ++ (lengths.take other).drop index =
      lengths.take other := List.take_append_drop _ _
  rw [List.take_take, min_eq_left le] at rest
  rw [start, start, ← rest, List.sum_append]
  apply le_add_of_nonneg_right
  exact List.sum_nonneg fun length member =>
    nonneg length (List.mem_of_mem_take (List.mem_of_mem_drop member))

/-- A position lies in one stretch at most. -/
theorem contains_unique (nonneg : ∀ length ∈ lengths, 0 ≤ length)
    (here : Contains lengths index position) (there : Contains lengths other position) :
    index = other := by
  have before {first second : ℕ} (hfirst : Contains lengths first position)
      (hsecond : Contains lengths second position) : second ≤ first := by
    by_contra behind
    have ended : start lengths (first + 1) ≤ start lengths second :=
      start_mono nonneg (Nat.not_le.mp behind)
    exact absurd (hfirst.2.trans_le ended) (not_lt.mpr hsecond.1)
  exact le_antisymm (before there here) (before here there)

/-- Every position before the end lies in a stretch. -/
theorem exists_contains (begun : 0 ≤ position) (within : position < lengths.sum) :
    ∃ index, Contains lengths index position := by
  induction lengths generalizing position with
  | nil => exact absurd (begun.trans_lt within) (lt_irrefl _)
  | cons length lengths ih =>
      by_cases first : position < length
      · refine ⟨0, begun, ?_⟩
        rw [start_cons, start_zero, add_zero]
        exact first
      · rw [List.sum_cons] at within
        obtain ⟨index, here⟩ :=
          ih (sub_nonneg.mpr (not_lt.mp first)) (sub_lt_iff_lt_add'.mpr within)
        exact ⟨index + 1, contains_cons.mpr here⟩

end Timeline
