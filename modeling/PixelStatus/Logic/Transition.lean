/-
# Reachable states

A system is given by its initial states and its step relation. Whatever holds
initially and survives every step holds of every reachable state; a proof may
also use that the state it steps from is itself reachable.
-/

import Mathlib.Logic.Relation

namespace Transition

universe u
variable {State : Type u} {initial : State → Prop} {step : State → State → Prop}
  {state next : State}

/-- A state reached from an initial one by finitely many steps. -/
def Reachable (initial : State → Prop) (step : State → State → Prop) (state : State) :
    Prop :=
  ∃ start, initial start ∧ Relation.ReflTransGen step start state

namespace Reachable

/-- An initial state is reached without a step. -/
theorem of_initial (hinitial : initial state) : Reachable initial step state :=
  ⟨state, hinitial, Relation.ReflTransGen.refl⟩

/-- One more step reaches its end. -/
theorem tail (reachable : Reachable initial step state) (hstep : step state next) :
    Reachable initial step next := by
  obtain ⟨start, hinitial, hrun⟩ := reachable
  exact ⟨start, hinitial, hrun.tail hstep⟩

/-- Induction over the run that reaches a state. -/
theorem induction {motive : State → Prop} (reachable : Reachable initial step state)
    (base : ∀ state, initial state → motive state)
    (preserved : ∀ state next, Reachable initial step state → motive state →
      step state next → motive next) : motive state := by
  obtain ⟨start, hinitial, hrun⟩ := reachable
  induction hrun with
  | refl => exact base start hinitial
  | tail hrun hstep ih =>
      exact preserved _ _ ⟨start, hinitial, hrun⟩ ih hstep

/-- A system with fewer steps reaches fewer states. -/
theorem mono {other : State → State → Prop} (reachable : Reachable initial step state)
    (hsteps : ∀ state next, step state next → other state next) :
    Reachable initial other state := by
  obtain ⟨start, hinitial, hrun⟩ := reachable
  exact ⟨start, hinitial, Relation.ReflTransGen.mono hsteps _ _ hrun⟩

end Reachable

end Transition
