/-
# Runs with counted steps

Some steps of a run are counted, each with an amount. A quantity that no step
raises by more than another one grows, and that every counted step lowers
against it by its amount, bounds how much is counted in all.
-/

import Mathlib.Logic.Relation

namespace Counted

universe u
variable {State : Type u} {step : State → State → Prop} {counted : State → State → Nat → Prop}
  {first middle last : State} {count : Nat}

/-- A run of steps, with what its counted steps amount to. -/
inductive Run (step : State → State → Prop) (counted : State → State → Nat → Prop) :
    State → State → Nat → Prop
  | refl (state : State) : Run step counted state state 0
  | step {first middle last : State} {count : Nat}
      (run : Run step counted first middle count) (next : step middle last) :
      Run step counted first last count
  | count {first middle last : State} {count amount : Nat}
      (run : Run step counted first middle count) (next : counted middle last amount) :
      Run step counted first last (count + amount)

namespace Run

/-- What steps of both kinds keep holds at the end of a run. -/
theorem keeps {motive : State → Prop} (run : Run step counted first last count)
    (start : motive first)
    (plain : ∀ state next, motive state → step state next → motive next)
    (special : ∀ state next amount, motive state → counted state next amount → motive next) :
    motive last := by
  induction run with
  | refl => exact start
  | step _ next ih => exact plain _ _ ih next
  | count _ next ih => exact special _ _ _ ih next

/-- Every counted step uses up its amount of the rank, which otherwise grows only
with the size. -/
theorem bound {motive : State → Prop} (rank size : State → Nat)
    (run : Run step counted first last count) (start : motive first)
    (plain : ∀ state next, motive state → step state next →
      motive next ∧ rank next + size state ≤ rank state + size next)
    (special : ∀ state next amount, motive state → counted state next amount →
      motive next ∧ amount + rank next + size state ≤ rank state + size next) :
    motive last ∧ count + rank last + size first ≤ rank first + size last := by
  induction run with
  | refl => exact ⟨start, by omega⟩
  | step _ next ih =>
      have after := plain _ _ ih.1 next
      exact ⟨after.1, by omega⟩
  | count _ next ih =>
      have after := special _ _ _ ih.1 next
      exact ⟨after.1, by omega⟩

end Run

end Counted
