/-
# Arithmetic in machine words

Unsigned words hold the numbers below a limit. An operation has no result where
the word would wrap, so a computation that has a result is exact throughout.
-/

import Mathlib.Algebra.BigOperators.Group.List.Basic
import Mathlib.Algebra.Ring.Nat

namespace Checked

variable (limit : Nat) {left right start : Nat} {values : List Nat}

def add (left right : Nat) : Option Nat :=
  if left + right < limit then some (left + right) else none

def mul (left right : Nat) : Option Nat :=
  if left * right < limit then some (left * right) else none

/-- A difference wraps below zero only. -/
def sub (left right : Nat) : Option Nat :=
  if right ≤ left then some (left - right) else none

/-- A running total. -/
def sum (start : Nat) (values : List Nat) : Option Nat := values.foldlM (add limit) start

variable {limit}

/-- A sum below the limit is the sum. -/
theorem add_eq (h : left + right < limit) : add limit left right = some (left + right) := if_pos h

/-- A product below the limit is the product. -/
theorem mul_eq (h : left * right < limit) : mul limit left right = some (left * right) := if_pos h

/-- A difference that is not negative is the difference. -/
theorem sub_eq (h : right ≤ left) : sub left right = some (left - right) := if_pos h

/-- A total below the limit is below it all the way. -/
theorem sum_eq (h : start + values.sum < limit) :
    sum limit start values = some (start + values.sum) := by
  induction values generalizing start with
  | nil => rfl
  | cons value values ih =>
      rw [List.sum_cons, ← Nat.add_assoc] at h
      have first : add limit start value = some (start + value) :=
        add_eq (Nat.lt_of_le_of_lt (Nat.le_add_right _ _) h)
      rw [sum, List.foldlM_cons, first, List.sum_cons, ← Nat.add_assoc]
      exact ih h

end Checked
