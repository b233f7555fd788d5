/-
# Pacing by a due time

A loop that looks at a clock does something once the clock has come to a due time,
and moves the due time a gap beyond the reading. However irregularly it looks, it
never acts twice within a gap, and its readings bound how often it acts.
-/

import Mathlib.Algebra.Order.Ring.Int

/-- The readings at which a paced loop has acted, the newest first, and the time at
which the next action is due. -/
structure Pacer (gap first due : Int) (times : List Int) : Prop where
  spaced : times.Pairwise fun later earlier => earlier + gap ≤ later
  before : ∀ time ∈ times, time + gap ≤ due
  count : times.length * gap ≤ due - first

namespace Pacer

variable {gap first due now : Int} {times : List Int}

/-- Nothing has been done before the first due time. -/
theorem start : Pacer gap first first [] where
  spaced := .nil
  before := List.forall_mem_nil _
  count := by rw [List.length_nil, Nat.cast_zero, zero_mul, sub_self]

/-- Once the clock has come to the due time, the loop acts. -/
theorem act (pacer : Pacer gap first due times) (nonneg : 0 ≤ gap) (reached : due ≤ now) :
    Pacer gap first (now + gap) (now :: times) where
  spaced := List.pairwise_cons.mpr
    ⟨fun earlier member => (pacer.before earlier member).trans reached, pacer.spaced⟩
  before := by
    refine List.forall_mem_cons.mpr ⟨le_rfl, fun earlier member => ?_⟩
    have ended := pacer.before earlier member
    omega
  count := by
    have counted := pacer.count
    rw [List.length_cons, Nat.cast_succ, add_one_mul]
    omega

end Pacer
