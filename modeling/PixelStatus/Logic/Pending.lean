/-
# What is still pending

Several parties each hold an amount that is to be moved to a common account.
When one party changes, the sum of what is pending changes by as much.
-/

import Mathlib.Algebra.BigOperators.Group.List.Basic
import Mathlib.Algebra.Order.BigOperators.Group.List
import Mathlib.Algebra.Order.Ring.Nat

namespace Pending

universe u
variable {Party : Type u} {amount : Party → Nat} {parties : List Party} {party : Party}
  {index : Nat}

/-- The sum of the amounts. -/
def total (amount : Party → Nat) (parties : List Party) : Nat := (parties.map amount).sum

/-- The amounts of later parties are added. -/
theorem total_append (amount : Party → Nat) (parties later : List Party) :
    total amount (parties ++ later) = total amount parties + total amount later := by
  rw [total, List.map_append, List.sum_append, total, total]

/-- One party changes. -/
theorem total_modify (found : parties[index]? = some party) (change : Party → Party) :
    total amount (parties.modify index change) + amount party =
      total amount parties + amount (change party) := by
  induction parties generalizing index with
  | nil => cases found
  | cons first parties ih =>
      cases index with
      | zero =>
          obtain rfl := Option.some.inj found
          simp only [List.modify_zero_cons, total, List.map_cons, List.sum_cons]
          omega
      | succ index =>
          have rest := ih found
          simp only [total] at rest
          simp only [List.modify_succ_cons, total, List.map_cons, List.sum_cons]
          omega

/-- Nothing is pending once every party has settled. -/
theorem total_eq_zero (settled : ∀ party ∈ parties, amount party = 0) :
    total amount parties = 0 := by
  apply List.sum_eq_zero
  intro sum member
  obtain ⟨party, holds, rfl⟩ := List.mem_map.mp member
  exact settled party holds

end Pending
