/-
# Traces and refinement

The steps of a system may show an event. One system refines another when every
step is matched by a step that shows the same event, or is silent and leaves the
abstract state alone; then everything the one shows the other can show as well.
An event that uses up a rank of its own, which nothing raises, is shown no more
often than the rank at the start allows.
-/

import Mathlib.Logic.Relation

universe u v w

variable {State : Type u} {Abstract : Type v} {Event : Type w}
  {step : State → Option Event → State → Prop} {first last : State} {events : List Event}

/-- A run, with the events that it shows in their order. -/
inductive Trace (step : State → Option Event → State → Prop) : State → List Event → State → Prop
  | refl (state : State) : Trace step state [] state
  | tail {first middle last : State} {events : List Event} {event : Option Event}
      (trace : Trace step first events middle) (next : step middle event last) :
      Trace step first (events ++ event.toList) last

namespace Trace

/-- A run of steps is one of whatever steps they are. -/
theorem mono {step' : State → Option Event → State → Prop} (trace : Trace step first events last)
    (steps : ∀ state event next, step state event next → step' state event next) :
    Trace step' first events last := by
  induction trace with
  | refl => exact .refl _
  | tail _ next ih => exact ih.tail (steps _ _ _ next)

/-- What every step keeps holds at the end of a run. -/
theorem keeps {motive : State → Prop} (trace : Trace step first events last)
    (start : motive first)
    (preserved : ∀ state event next, motive state → step state event next → motive next) :
    motive last := by
  induction trace with
  | refl => exact start
  | tail _ next ih => exact preserved _ _ _ ih next

/-- Each event is shown no more often than it can lower its rank. -/
theorem count_add_le [DecidableEq Event] {motive : State → Prop} (rank : State → Event → Nat)
    (trace : Trace step first events last) (start : motive first)
    (preserved : ∀ state event next, motive state → step state event next → motive next)
    (silent : ∀ state next, motive state → step state none next →
      ∀ event, rank next event ≤ rank state event)
    (shown : ∀ state event next, motive state → step state (some event) next →
      rank next event < rank state event ∧
        ∀ other, other ≠ event → rank next other ≤ rank state other) (event : Event) :
    events.count event + rank last event ≤ rank first event := by
  induction trace with
  | refl => simp
  | @tail middle last events shows trace next ih =>
      have holds := trace.keeps start preserved
      cases shows with
      | none =>
          have kept := silent _ _ holds next event
          rw [Option.toList_none, List.append_nil]
          omega
      | some other =>
          obtain ⟨less, others⟩ := shown _ _ _ holds next
          rw [Option.toList_some, List.count_append, List.count_singleton]
          by_cases same : other = event
          · subst same
            rw [if_pos (beq_self_eq_true other)]
            omega
          · have kept := others event (Ne.symm same)
            rw [if_neg (by simpa using same)]
            omega

/-- The run of the abstract system that shows the same. -/
theorem refines {abstract : Abstract → Option Event → Abstract → Prop}
    {motive : State → Prop} (trace : Trace step first events last) (project : State → Abstract)
    (start : motive first)
    (preserved : ∀ state event next, motive state → step state event next → motive next)
    (matched : ∀ state event next, motive state → step state event next →
      (event = none ∧ project next = project state) ∨
        abstract (project state) event (project next)) :
    Trace abstract (project first) events (project last) := by
  induction trace with
  | refl => exact .refl _
  | tail trace next ih =>
      have holds := trace.keeps start preserved
      rcases matched _ _ _ holds next with ⟨rfl, same⟩ | step
      · rwa [same, Option.toList_none, List.append_nil]
      · exact ih.tail step

end Trace
