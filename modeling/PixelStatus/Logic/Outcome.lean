/-
# Sequences of checks

A computation in `Except` succeeds when each of its steps does, and fails with
the error of the first step that does not. Two judgements follow the steps of a
computation: which errors may end it, and, with a state, which invariant it
keeps.
-/

import Mathlib.Control.Basic

namespace Outcome

universe u v
variable {ε : Type u} {α β : Type v} {step : Except ε α} {next : α → Except ε β}

/-- A step that succeeded is followed by the rest. -/
theorem ok_bind (value : α) : ((.ok value : Except ε α) >>= next) = next value := rfl

/-- Two steps succeed when both do. -/
theorem bind_eq_ok {result : β} :
    (step >>= next) = .ok result ↔ ∃ value, step = .ok value ∧ next value = .ok result := by
  cases step with
  | error error => exact ⟨(nomatch ·), fun ⟨_, impossible, _⟩ => nomatch impossible⟩
  | ok value => exact ⟨fun h => ⟨value, rfl, h⟩, fun ⟨_, same, h⟩ => Except.ok.inj same ▸ h⟩

/-- Two steps fail when the first or, behind its success, the second does. -/
theorem bind_eq_error {error : ε} :
    (step >>= next) = .error error ↔
      step = .error error ∨ ∃ value, step = .ok value ∧ next value = .error error := by
  cases step with
  | error other =>
      refine ⟨?_, ?_⟩
      · intro same
        exact Or.inl (congrArg Except.error (Except.error.inj same))
      · rintro (same | ⟨_, impossible, _⟩)
        · exact congrArg Except.error (Except.error.inj same)
        · cases impossible
  | ok value =>
      refine ⟨?_, ?_⟩
      · exact fun same => Or.inr ⟨value, rfl, same⟩
      · rintro (impossible | ⟨_, same, h⟩)
        · cases impossible
        · exact Except.ok.inj same ▸ h

/-- A fold that succeeds has kept what each of its steps keeps. -/
theorem foldlM_ok_keeps {program : β → α → Except ε β} {items : List α} {start result : β}
    {property : β → Prop} (ends : items.foldlM program start = .ok result) (hstart : property start)
    (hstep : ∀ value item next, item ∈ items → property value → program value item = .ok next →
      property next) : property result := by
  induction items generalizing start with
  | nil =>
      cases ends
      exact hstart
  | cons item items ih =>
      rw [List.foldlM_cons] at ends
      obtain ⟨next, reached, ends⟩ := bind_eq_ok.mp ends
      apply ih ends (hstep start item next List.mem_cons_self hstart reached)
      exact fun value other later member => hstep value other later (List.mem_cons_of_mem _ member)

/-- Whatever ends the computation early is allowed. -/
def FailsWith (allowed : ε → Prop) (computation : Except ε α) : Prop :=
  ∀ error, computation = .error error → allowed error

namespace FailsWith

variable {allowed : ε → Prop}

/-- A success is no failure of any kind. -/
theorem ok (value : α) : FailsWith allowed (.ok value : Except ε α) :=
  fun _ impossible => nomatch impossible

/-- A failure of an allowed kind. -/
theorem error {error : ε} (h : allowed error) :
    FailsWith allowed (.error error : Except ε α) :=
  fun _ same => Except.error.inj same ▸ h

/-- Two steps fail only as each of them may. -/
theorem bind (hstep : FailsWith allowed step)
    (hnext : ∀ value, step = .ok value → FailsWith allowed (next value)) :
    FailsWith allowed (step >>= next) := by
  intro error fails
  rcases bind_eq_error.mp fails with stopped | ⟨value, reached, stopped⟩
  · exact hstep error stopped
  · exact hnext value reached error stopped

/-- Two steps fail as allowed exactly when each of them does so where it is run. -/
theorem bind_iff : FailsWith allowed (step >>= next) ↔
    FailsWith allowed step ∧ ∀ value, step = .ok value → FailsWith allowed (next value) := by
  refine ⟨?_, ?_⟩
  · intro h
    refine ⟨?_, ?_⟩
    · exact fun error stopped => h error (bind_eq_error.mpr (Or.inl stopped))
    · exact fun value reached error stopped =>
        h error (bind_eq_error.mpr (Or.inr ⟨value, reached, stopped⟩))
  · exact fun ⟨hstep, hnext⟩ => hstep.bind hnext

/-- A failure is one of the allowed exactly when its error is. -/
theorem error_iff {error : ε} :
    FailsWith allowed (.error error : Except ε α) ↔ allowed error :=
  ⟨fun h => h error rfl, FailsWith.error⟩

/-- A computation that only fails with errors it may fail with succeeds when
none is allowed. -/
theorem ok_or_error {computation : Except ε α} (h : FailsWith allowed computation) :
    (∃ value, computation = .ok value) ∨
      ∃ error, computation = .error error ∧ allowed error := by
  cases computation with
  | ok value => exact Or.inl ⟨value, rfl⟩
  | error error => exact Or.inr ⟨error, rfl, h error rfl⟩

end FailsWith

/-- The computation succeeds with a value that has the property. -/
def Reaches (property : α → Prop) (computation : Except ε α) : Prop :=
  ∃ value, computation = .ok value ∧ property value

namespace Reaches

variable {property : α → Prop} {after : β → Prop}

/-- A success with the property. -/
theorem ok {value : α} (h : property value) : Reaches property (.ok value : Except ε α) :=
  ⟨value, rfl, h⟩

/-- What the first step reaches, the second may rely on. -/
theorem bind (hstep : Reaches property step)
    (hnext : ∀ value, property value → Reaches after (next value)) :
    Reaches after (step >>= next) := by
  obtain ⟨value, reached, holds⟩ := hstep
  obtain ⟨result, ends, hresult⟩ := hnext value holds
  exact ⟨result, bind_eq_ok.mpr ⟨value, reached, ends⟩, hresult⟩

/-- A fold succeeds when each of its steps keeps the property. -/
theorem foldlM {program : β → α → Except ε β} {items : List α} {start : β}
    (hstart : after start)
    (hstep : ∀ value item, item ∈ items → after value → Reaches after (program value item)) :
    Reaches after (items.foldlM program start) := by
  induction items generalizing start with
  | nil => exact ok hstart
  | cons item items ih =>
      rw [List.foldlM_cons]
      apply (hstep start item List.mem_cons_self hstart).bind
      intro value hvalue
      apply ih hvalue
      exact fun value other member => hstep value other (List.mem_cons_of_mem _ member)

end Reaches

/-- Whether it succeeds or fails, the computation ends with what it should. -/
def Ends (failed : ε → Prop) (property : α → Prop) (computation : Except ε α) : Prop :=
  FailsWith failed computation ∧ ∀ value, computation = .ok value → property value

namespace Ends

variable {failed : ε → Prop} {property : α → Prop} {after : β → Prop}

/-- An end with a success. -/
theorem ok {value : α} (h : property value) : Ends failed property (.ok value : Except ε α) := by
  refine ⟨?_, ?_⟩
  · exact FailsWith.ok value
  · intro _ same
    cases same
    exact h

/-- An end with a failure. -/
theorem error {error : ε} (h : failed error) :
    Ends failed property (.error error : Except ε α) := by
  refine ⟨?_, ?_⟩
  · exact FailsWith.error h
  · intro _ impossible
    cases impossible

/-- Whatever follows from how a computation ends, it ends with. -/
theorem imp {failed' : ε → Prop} {property' : α → Prop} {computation : Except ε α}
    (ends : Ends failed property computation) (weaker : ∀ error, failed error → failed' error)
    (follows : ∀ value, property value → property' value) :
    Ends failed' property' computation := by
  refine ⟨?_, ?_⟩
  · exact fun error stopped => weaker error (ends.1 error stopped)
  · exact fun value reached => follows value (ends.2 value reached)

/-- Where the first step has not failed, the second decides how both end. -/
theorem bind (hstep : Ends failed property step)
    (hnext : ∀ value, property value → Ends failed after (next value)) :
    Ends failed after (step >>= next) := by
  refine ⟨?_, ?_⟩
  · exact hstep.1.bind fun value reached => (hnext value (hstep.2 value reached)).1
  · intro result ends
    obtain ⟨value, reached, ends⟩ := bind_eq_ok.mp ends
    exact (hnext value (hstep.2 value reached)).2 result ends

/-- A fold ends as each of its steps does. -/
theorem foldlM {program : β → α → Except ε β} {items : List α} {start : β} (hstart : after start)
    (hstep : ∀ value item, after value → Ends failed after (program value item)) :
    Ends failed after (items.foldlM program start) := by
  induction items generalizing start with
  | nil => exact ok hstart
  | cons item items ih =>
      rw [List.foldlM_cons]
      exact (hstep start item hstart).bind fun value hvalue => ih hvalue

end Ends

variable {σ : Type v}

/-- From this state the program reaches the invariant, whatever ends it early is
allowed, and its result has the property. -/
def KeepsFrom (allowed : ε → Prop) (invariant : σ → Prop) (property : α → Prop)
    (program : StateT σ (Except ε) α) (state : σ) : Prop :=
  FailsWith allowed (program.run state) ∧
    ∀ value next, program.run state = .ok (value, next) → invariant next ∧ property value

/-- So it does from every state with the invariant. -/
def Keeps (allowed : ε → Prop) (invariant : σ → Prop) (property : α → Prop)
    (program : StateT σ (Except ε) α) : Prop :=
  ∀ state, invariant state → KeepsFrom allowed invariant property program state

section

variable {allowed : ε → Prop} {invariant : σ → Prop} {property : α → Prop}
  {after : β → Prop}

/-- A program that ends early ends whatever it is the start of. -/
theorem run_bind_error {program : StateT σ (Except ε) α} {rest : α → StateT σ (Except ε) β}
    {state : σ} {error : ε} (stops : program.run state = .error error) :
    (program >>= rest).run state = .error error := by
  rw [StateT.run_bind, stops]
  rfl

/-- A program that stops at once keeps everything. -/
theorem KeepsFrom.of_error {program : StateT σ (Except ε) α} {state : σ} {error : ε}
    (stops : program.run state = .error error) (h : allowed error) :
    KeepsFrom allowed invariant property program state := by
  rw [KeepsFrom, stops]
  exact ⟨FailsWith.error h, fun _ _ impossible => nomatch impossible⟩

/-- Two programs in a row keep what each keeps from where it starts. -/
theorem KeepsFrom.bind {program : StateT σ (Except ε) α} {rest : α → StateT σ (Except ε) β}
    {state : σ} (hprogram : KeepsFrom allowed invariant property program state)
    (hrest : ∀ value next, program.run state = .ok (value, next) → invariant next →
      property value → KeepsFrom allowed invariant after (rest value) next) :
    KeepsFrom allowed invariant after (program >>= rest) state := by
  rw [KeepsFrom, StateT.run_bind]
  refine ⟨?_, ?_⟩
  · apply hprogram.1.bind
    intro result reached
    have later := hprogram.2 result.1 result.2 reached
    exact (hrest result.1 result.2 reached later.1 later.2).1
  · intro value next ends
    obtain ⟨result, reached, ends⟩ := bind_eq_ok.mp ends
    have later := hprogram.2 result.1 result.2 reached
    exact (hrest result.1 result.2 reached later.1 later.2).2 value next ends

namespace Keeps

/-- Returning a value keeps the state. -/
theorem pure {value : α} (h : property value) :
    Keeps allowed invariant property (Pure.pure value) := by
  intro state holds
  refine ⟨?_, ?_⟩
  · exact FailsWith.ok (value, state)
  · intro _ _ same
    cases same
    exact ⟨holds, h⟩

/-- A computation without state leaves it as it is. -/
theorem lift {computation : Except ε α} (h : FailsWith allowed computation)
    (hvalue : ∀ value, computation = .ok value → property value) :
    Keeps allowed invariant property (liftM computation : StateT σ (Except ε) α) := by
  intro state holds
  cases computation with
  | ok value =>
      refine ⟨?_, ?_⟩
      · exact FailsWith.ok (value, state)
      · intro _ _ same
        cases same
        exact ⟨holds, hvalue value rfl⟩
  | error error =>
      exact ⟨FailsWith.error (h error rfl), fun _ _ impossible => nomatch impossible⟩

/-- Two programs in a row keep what each of them keeps. -/
theorem bind {program : StateT σ (Except ε) α} {rest : α → StateT σ (Except ε) β}
    (hprogram : Keeps allowed invariant property program)
    (hrest : ∀ value, property value → Keeps allowed invariant after (rest value)) :
    Keeps allowed invariant after (program >>= rest) := by
  intro state holds
  apply (hprogram state holds).bind
  exact fun value next _ kept hvalue => hrest value hvalue next kept

/-- One program for each item keeps what each of them keeps. -/
theorem mapM {γ : Type v} {program : γ → StateT σ (Except ε) α} {items : List γ}
    (h : ∀ item, Keeps allowed invariant (fun _ => True) (program item)) :
    Keeps allowed invariant (fun _ => True) (items.mapM program) := by
  induction items with
  | nil => exact pure trivial
  | cons item items ih =>
      rw [List.mapM_cons]
      exact (h item).bind fun value _ => ih.bind fun values _ => pure trivial

end Keeps

end

end Outcome
