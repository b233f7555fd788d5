/-
# Refresh loops

A loop refreshes a store once an iteration, from whatever the outside did in it.
A refresh ends fresh, or failed with the failure noted in the store, or with an
exception that nobody catches. The last ends the loop: its thread is gone, and
the store stays what it was.
-/

import Mathlib.Data.List.Infix

namespace RefreshLoop

universe u v
variable {Store : Type u} {Input : Type v}

/-- How one refresh ends. -/
inductive Attempt (Store : Type u)
  | fresh (store : Store)
  | failed (store : Store)
  | escaped

/-- The store, whether the last attempt was fresh, and whether the thread runs. -/
structure Loop (Store : Type u) where
  store : Store
  fresh : Bool := false
  alive : Bool := true

variable (refresh : Input → Store → Attempt Store)

/-- One iteration; a loop whose thread ended attempts nothing any more. -/
def step (loop : Loop Store) (input : Input) : Loop Store :=
  if loop.alive then
    match refresh input loop.store with
    | .fresh store => { store, fresh := true }
    | .failed store => { store }
    | .escaped => { loop with fresh := false, alive := false }
  else loop

def run (start : Store) (inputs : List Input) : Loop Store :=
  inputs.foldl (step refresh) { store := start }

/-- After every iteration the loop goes on, and a store whose last attempt was
not fresh says so. -/
def Honest (Reports : Store → Prop) (start : Store) (inputs : List Input) : Prop :=
  ∀ earlier, earlier <+: inputs →
    (run refresh start earlier).alive = true ∧
      ((run refresh start earlier).fresh = false → Reports (run refresh start earlier).store)

/-- A refresh from this input never escapes, keeps the store's invariant, and
notes its own failure. -/
def Contained (Invariant Reports : Store → Prop) (input : Input) : Prop :=
  ∀ store, Invariant store →
    (∃ next, refresh input store = .fresh next ∧ Invariant next) ∨
      ∃ next, refresh input store = .failed next ∧ Invariant next ∧ Reports next

/-- What holds of a loop after contained iterations. -/
structure Sound (Invariant Reports : Store → Prop) (loop : Loop Store) : Prop where
  alive : loop.alive = true
  invariant : Invariant loop.store
  reports : loop.fresh = false → Reports loop.store

variable {refresh} {Invariant Reports : Store → Prop}

/-- An escape ends the thread and leaves the store. -/
theorem step_of_escaped {loop : Loop Store} {input : Input} (alive : loop.alive = true)
    (escapes : refresh input loop.store = .escaped) :
    step refresh loop input = { loop with fresh := false, alive := false } := by
  rw [step, alive, if_pos rfl, escapes]

/-- An escape right after a fresh attempt leaves that attempt's store. -/
theorem run_of_escaped {first second : Input} {start store : Store}
    (fresh : refresh first start = .fresh store) (escapes : refresh second store = .escaped) :
    run refresh start [first, second] = { store, fresh := false, alive := false } := by
  have before : run refresh start [first] = { store, fresh := true } := by
    rw [run, List.foldl_cons, List.foldl_nil, step, if_pos rfl, fresh]
  calc run refresh start [first, second] = step refresh (run refresh start [first]) second := rfl
    _ = { store, fresh := false, alive := false } := by
        rw [before]
        exact step_of_escaped rfl escapes

/-- A refresh that is contained keeps the loop sound. -/
theorem Sound.step {loop : Loop Store} {input : Input} (sound : Sound Invariant Reports loop)
    (contained : Contained refresh Invariant Reports input) :
    Sound Invariant Reports (step refresh loop input) := by
  rcases contained loop.store sound.invariant with
    ⟨next, ends, invariant⟩ | ⟨next, ends, invariant, reports⟩
  · have stepped : RefreshLoop.step refresh loop input = { store := next, fresh := true } := by
      simp only [RefreshLoop.step, sound.alive, if_true, ends]
    rw [stepped]
    exact ⟨rfl, invariant, fun impossible => nomatch impossible⟩
  · have stepped : RefreshLoop.step refresh loop input = { store := next } := by
      simp only [RefreshLoop.step, sound.alive, if_true, ends]
    rw [stepped]
    exact ⟨rfl, invariant, fun _ => reports⟩

/-- A run whose refreshes are all contained ends with a sound loop. -/
theorem Sound.run {start : Store} {inputs : List Input} (invariant : Invariant start)
    (reports : Reports start)
    (contained : ∀ input ∈ inputs, Contained refresh Invariant Reports input) :
    Sound Invariant Reports (run refresh start inputs) := by
  induction inputs using List.reverseRecOn with
  | nil => exact ⟨rfl, invariant, fun _ => reports⟩
  | append_singleton earlier input ih =>
      have before := ih fun other hother => contained other (List.mem_append_left _ hother)
      rw [RefreshLoop.run, List.foldl_append]
      exact before.step (contained input (List.mem_append_right _ (List.mem_singleton_self _)))

/-- A run of contained iterations is honest. -/
theorem honest_of_contained {start : Store} {inputs : List Input}
    (invariant : Invariant start) (reports : Reports start)
    (contained : ∀ input ∈ inputs, Contained refresh Invariant Reports input) :
    Honest refresh Reports start inputs := by
  intro earlier hearlier
  have sound : Sound Invariant Reports (run refresh start earlier) :=
    Sound.run invariant reports fun input hinput => contained input (hearlier.subset hinput)
  exact ⟨sound.alive, sound.reports⟩

/-- What each further input keeps exactly when it is safe, holds after every
prefix exactly when all inputs are. -/
theorem forall_prefix_iff {Holds : List Input → Prop} {Safe : Input → Prop}
    {inputs : List Input} (base : Holds [])
    (next : ∀ earlier input, (∀ other ∈ earlier, Safe other) →
      (Holds (earlier ++ [input]) ↔ Safe input)) :
    (∀ earlier, earlier <+: inputs → Holds earlier) ↔ ∀ input ∈ inputs, Safe input := by
  induction inputs using List.reverseRecOn with
  | nil =>
      refine ⟨?_, ?_⟩
      · exact fun _ _ impossible => absurd impossible List.not_mem_nil
      · intro _ earlier hearlier
        rw [List.prefix_nil.mp hearlier]
        exact base
  | append_singleton before input ih =>
      refine ⟨?_, ?_⟩
      · intro holds
        have safe : ∀ other ∈ before, Safe other := by
          apply ih.mp
          exact fun earlier hearlier => holds earlier (hearlier.trans (List.prefix_append _ _))
        have last : Safe input := (next before input safe).mp (holds _ List.prefix_rfl)
        intro other hother
        rcases List.mem_append.mp hother with hbefore | hlast
        · exact safe other hbefore
        · rw [List.mem_singleton.mp hlast]
          exact last
      · intro safe earlier hearlier
        have before_safe : ∀ other ∈ before, Safe other :=
          fun other hother => safe other (List.mem_append_left _ hother)
        rcases List.prefix_concat_iff.mp hearlier with rfl | shorter
        · exact (next before input before_safe).mpr
            (safe input (List.mem_append_right _ (List.mem_singleton_self input)))
        · exact ih.mpr before_safe earlier shorter

/-- When every input is contained or escapes from every store of the invariant,
the honest runs are those of contained inputs only. -/
theorem honest_iff {start : Store} {inputs : List Input} {Safe : Input → Prop}
    (invariant : Invariant start) (reports : Reports start)
    (contained : ∀ input, Safe input → Contained refresh Invariant Reports input)
    (escapes : ∀ input, ¬ Safe input → ∀ store, Invariant store →
      refresh input store = .escaped) :
    Honest refresh Reports start inputs ↔ ∀ input ∈ inputs, Safe input := by
  apply forall_prefix_iff
  · exact ⟨rfl, fun _ => reports⟩
  · intro earlier input before
    have sound : Sound Invariant Reports (run refresh start earlier) :=
      Sound.run invariant reports fun other hother => contained other (before other hother)
    refine ⟨?_, ?_⟩
    · intro after
      by_contra violated
      have ends := step_of_escaped sound.alive (escapes input violated _ sound.invariant)
      rw [run, List.foldl_append] at after
      exact nomatch (congrArg Loop.alive ends).symm.trans after.1
    · intro safe
      have next : Sound Invariant Reports (run refresh start (earlier ++ [input])) := by
        rw [run, List.foldl_append]
        exact sound.step (contained input safe)
      exact ⟨next.alive, next.reports⟩

end RefreshLoop
