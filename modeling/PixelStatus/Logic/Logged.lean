/-
# Programs that write a log

A program returns a value and writes entries that nobody reads or removes
before it has finished. A caller that only goes on after a silent run may rely
on what the program promises of its silent runs; a part that writes an entry
owes nothing more.
-/

import Mathlib.Control.Basic

universe u v
variable {ε : Type u} {α β γ : Type v}

/-- What a program promises of the value it may return. -/
def OfSome (property : α → Prop) (result : Option α) : Prop :=
  ∀ value, result = some value → property value

namespace OfSome

variable {property : α → Prop}

/-- Nothing was returned, so there is nothing to have the property. -/
theorem none : OfSome property Option.none := fun _ impossible => nomatch impossible

/-- A value with the property may be returned. -/
theorem some {value : α} (h : property value) : OfSome property (Option.some value) :=
  fun _ same => Option.some.inj same ▸ h

/-- A value that may be there, or a default. -/
theorem getD {value : Option α} {default : α} (h : OfSome property value)
    (hdefault : property default) : property (value.getD default) := by
  cases value with
  | none => exact hdefault
  | some value => exact h value rfl

end OfSome

structure Logged (ε : Type u) (α : Type v) where
  value : α
  log : List ε

namespace Logged

instance : Monad (Logged ε) where
  pure value := ⟨value, []⟩
  bind program rest :=
    ⟨(rest program.value).value, program.log ++ (rest program.value).log⟩

@[simp]
theorem value_pure (value : α) : (pure value : Logged ε α).value = value := rfl

@[simp]
theorem log_pure (value : α) : (pure value : Logged ε α).log = [] := rfl

@[simp]
theorem value_bind (program : Logged ε α) (rest : α → Logged ε β) :
    (program >>= rest).value = (rest program.value).value := rfl

@[simp]
theorem log_bind (program : Logged ε α) (rest : α → Logged ε β) :
    (program >>= rest).log = program.log ++ (rest program.value).log := rfl

instance : LawfulMonad (Logged ε) := LawfulMonad.mk' (Logged ε)
  (fun _ => by simp [Functor.map])
  (fun _ _ => rfl)
  (fun _ _ _ => by simp [Bind.bind])

/-- Add one entry. -/
def write (entry : ε) : Logged ε PUnit := ⟨⟨⟩, [entry]⟩

/-- A run that writes nothing returns a value with the property. -/
structure Ensures (property : α → Prop) (program : Logged ε α) : Prop where
  value : program.log = [] → property program.value

namespace Ensures

variable {property : α → Prop} {after : β → Prop}

/-- A program that only returns a value with the property. -/
theorem pure {value : α} (h : property value) :
    Ensures property (Pure.pure value : Logged ε α) :=
  ⟨fun _ => h⟩

/-- Every program promises as much as nothing. -/
theorem any (program : Logged ε α) : Ensures (fun _ => True) program := ⟨fun _ => trivial⟩

/-- Every program that may return a value promises as much as nothing. -/
theorem anySome (program : Logged ε (Option α)) : Ensures (OfSome fun _ => True) program :=
  ⟨fun _ _ _ => trivial⟩

/-- A weaker property is promised as well. -/
theorem mono {stronger : α → Prop} {program : Logged ε α} (h : Ensures stronger program)
    (weaken : ∀ value, stronger value → property value) : Ensures property program :=
  ⟨fun silent => weaken _ (h.value silent)⟩

/-- Two promises about one program are one promise. -/
theorem and {other : α → Prop} {program : Logged ε α} (h : Ensures property program)
    (hother : Ensures other program) :
    Ensures (fun value => property value ∧ other value) program :=
  ⟨fun silent => ⟨h.value silent, hother.value silent⟩⟩

/-- What a program returns is its value, and it was silent. -/
theorem self (program : Logged ε α) :
    Ensures (fun value => program.log = [] ∧ program.value = value) program :=
  ⟨fun silent => ⟨silent, rfl⟩⟩

/-- What the first program promises, the second may rely on. -/
theorem bind {program : Logged ε α} {rest : α → Logged ε β} (h : Ensures property program)
    (hrest : ∀ value, property value → Ensures after (rest value)) :
    Ensures after (program >>= rest) := by
  constructor
  intro silent
  have parts : program.log = [] ∧ (rest program.value).log = [] :=
    List.append_eq_nil_iff.mp silent
  exact (hrest program.value (h.value parts.1)).value parts.2

/-- A step whose value promises nothing. -/
theorem step {program : Logged ε α} {rest : α → Logged ε β}
    (hrest : ∀ value, Ensures after (rest value)) : Ensures after (program >>= rest) :=
  (any program).bind fun value _ => hrest value

/-- After an entry there is nothing left to promise. -/
theorem write_bind {entry : ε} {rest : PUnit → Logged ε β} :
    Ensures after (write entry >>= rest) :=
  ⟨fun silent => nomatch silent⟩

/-- A step that may return nothing, and what is done in either case. -/
theorem bindSome {program : Logged ε (Option α)} {rest : Option α → Logged ε β}
    (h : Ensures (OfSome property) program) (hnone : Ensures after (rest none))
    (hsome : ∀ value, property value → Ensures after (rest (some value))) :
    Ensures after (program >>= rest) := by
  apply h.bind
  intro value hvalue
  cases value with
  | none => exact hnone
  | some value => exact hsome value (hvalue value rfl)

/-- A value that may be returned is turned into another one. -/
theorem bindMap {program : Logged ε (Option α)} {function : α → β}
    (h : Ensures (OfSome property) program)
    (hvalue : ∀ value, property value → after (function value)) :
    Ensures (OfSome after) (program >>= fun value => Pure.pure (value.map function)) :=
  bindSome h (pure OfSome.none) fun value hsome => pure (OfSome.some (hvalue value hsome))

/-- A fold whose invariant speaks of the items it has passed. -/
theorem foldlM_passed (invariant : List α → γ → Prop) {step : γ → α → Logged ε γ}
    {items : List α} {start : γ} (hstart : invariant [] start)
    (hstep : ∀ passed value item, item ∈ items → invariant passed value →
      Ensures (invariant (passed ++ [item])) (step value item)) :
    Ensures (invariant items) (items.foldlM step start) := by
  induction items generalizing start invariant with
  | nil => exact pure hstart
  | cons item items ih =>
      rw [List.foldlM_cons]
      apply bind (hstep [] start item List.mem_cons_self hstart)
      intro value hvalue
      apply ih (fun passed => invariant (item :: passed)) hvalue
      intro passed value other member
      exact hstep (item :: passed) value other (List.mem_cons_of_mem _ member)

/-- A fold over numbered items, whose invariant speaks of the items without
their numbers. -/
theorem foldlM_zipIdx (invariant : List α → γ → Prop) {step : γ → α × Nat → Logged ε γ}
    {items : List α} {start : γ} (hstart : invariant [] start)
    (hstep : ∀ passed value item, item ∈ items.zipIdx → invariant passed value →
      Ensures (invariant (passed ++ [item.1])) (step value item)) :
    Ensures (invariant items) (items.zipIdx.foldlM step start) := by
  have passed : Ensures (invariant (items.zipIdx.map Prod.fst))
      (items.zipIdx.foldlM step start) := by
    apply foldlM_passed (fun numbered => invariant (numbered.map Prod.fst)) hstart
    intro numbered value item member hvalue
    rw [List.map_append]
    exact hstep (numbered.map Prod.fst) value item member hvalue
  rw [List.zipIdx_map_fst] at passed
  exact passed

/-- A fold whose invariant counts the items it has passed. -/
theorem foldlM_count (invariant : Nat → γ → Prop) {step : γ → α → Logged ε γ}
    {items : List α} {start : γ} (hstart : invariant 0 start)
    (hstep : ∀ count value item, item ∈ items → invariant count value →
      Ensures (invariant (count + 1)) (step value item)) :
    Ensures (invariant items.length) (items.foldlM step start) := by
  apply foldlM_passed (fun passed => invariant passed.length) hstart
  intro passed value item member hvalue
  rw [List.length_append]
  exact hstep passed.length value item member hvalue

/-- A fold keeps what each of its steps keeps. -/
theorem foldlM (invariant : γ → Prop) {step : γ → α → Logged ε γ} {items : List α}
    {start : γ} (hstart : invariant start)
    (hstep : ∀ value item, item ∈ items → invariant value →
      Ensures invariant (step value item)) :
    Ensures invariant (items.foldlM step start) :=
  foldlM_count (fun _ => invariant) hstart fun _ => hstep

/-- What each of a sequence of checks ensures, all of them ensure together. -/
theorem forM {check : α → Logged ε PUnit} {items : List α} {holds : α → Prop}
    (hcheck : ∀ item ∈ items, Ensures (fun _ => holds item) (check item)) :
    Ensures (fun _ => ∀ item ∈ items, holds item) (items.forM check) := by
  induction items with
  | nil => exact pure fun _ member => nomatch member
  | cons item items ih =>
      change Ensures _ (check item >>= fun _ => items.forM check)
      apply bind (hcheck item List.mem_cons_self)
      intro _ hitem
      apply (ih fun other member => hcheck other (List.mem_cons_of_mem _ member)).mono
      intro _ hitems
      exact List.forall_mem_cons.mpr ⟨hitem, hitems⟩

end Ensures

/-- A run that writes nothing returns a value, and one with the property. -/
abbrev Returns (property : α → Prop) (program : Logged ε (Option α)) : Prop :=
  Ensures (fun result => ∃ value, result = some value ∧ property value) program

namespace Returns

variable {property : α → Prop} {after : β → Prop} {program : Logged ε (Option α)}

/-- A program that only returns a value with the property returns one. -/
theorem pure {value : α} (h : property value) :
    Returns property (Pure.pure (some value) : Logged ε (Option α)) :=
  Ensures.pure ⟨value, rfl, h⟩

/-- What is done with a value that is returned. -/
theorem bind {rest : Option α → Logged ε β} (h : Returns property program)
    (hrest : ∀ value, property value → Ensures after (rest (some value))) :
    Ensures after (program >>= rest) := by
  apply Ensures.bind h
  rintro result ⟨value, rfl, hvalue⟩
  exact hrest value hvalue

/-- Whatever is returned has the property. -/
theorem ofSome (h : Returns property program) : Ensures (OfSome property) program := by
  apply h.mono
  rintro result ⟨value, rfl, hvalue⟩
  exact OfSome.some hvalue

/-- A value that is returned is turned into one with another property. -/
theorem map {function : α → β} (h : Returns property program)
    (hvalue : ∀ value, property value → after (function value)) :
    Returns after (program >>= fun result => Pure.pure (result.map function)) :=
  h.bind fun value holds => pure (hvalue value holds)

end Returns

/-- Every entry that a program writes is of this kind. -/
structure Writes (allowed : ε → Prop) (program : Logged ε α) : Prop where
  entries : ∀ entry ∈ program.log, allowed entry

namespace Writes

variable {allowed : ε → Prop}

/-- A program that only returns a value writes nothing. -/
theorem pure (value : α) : Writes allowed (Pure.pure value : Logged ε α) :=
  ⟨fun _ member => nomatch member⟩

/-- A program that writes one allowed entry. -/
theorem write {entry : ε} (h : allowed entry) : Writes allowed (write entry) :=
  ⟨fun _ member => List.mem_singleton.mp member ▸ h⟩

/-- Two programs in a row write what each of them writes. -/
theorem bind {program : Logged ε α} {rest : α → Logged ε β} (h : Writes allowed program)
    (hrest : ∀ value, Writes allowed (rest value)) : Writes allowed (program >>= rest) := by
  constructor
  intro entry member
  rw [log_bind, List.mem_append] at member
  cases member with
  | inl earlier => exact h.entries entry earlier
  | inr later => exact (hrest program.value).entries entry later

/-- A fold writes what its steps write. -/
theorem foldlM {step : γ → α → Logged ε γ} {items : List α} {start : γ}
    (hstep : ∀ value item, Writes allowed (step value item)) :
    Writes allowed (items.foldlM step start) := by
  induction items generalizing start with
  | nil => exact pure start
  | cons item items ih =>
      rw [List.foldlM_cons]
      exact (hstep start item).bind fun _ => ih

/-- A sequence of checks writes what each of them writes. -/
theorem forM {check : α → Logged ε PUnit} {items : List α}
    (hcheck : ∀ item, Writes allowed (check item)) : Writes allowed (items.forM check) := by
  induction items with
  | nil => exact pure PUnit.unit
  | cons item items ih =>
      change Writes allowed (check item >>= fun _ => items.forM check)
      exact (hcheck item).bind fun _ => ih

end Writes

/-- Whatever a silent run of one program returns, the other returns silently. -/
structure Agrees (program other : Logged ε α) : Prop where
  value : program.log = [] → other.log = [] ∧ other.value = program.value

namespace Agrees

/-- Every program agrees with itself. -/
theorem refl (program : Logged ε α) : Agrees program program := ⟨fun silent => ⟨silent, rfl⟩⟩

/-- A program that writes an entry agrees with any other. -/
theorem of_write {entry : ε} {rest : PUnit → Logged ε α} {other : Logged ε α} :
    Agrees (write entry >>= rest) other :=
  ⟨fun silent => by cases silent⟩

/-- Programs that agree step by step agree. -/
theorem bind {program other : Logged ε α} {rest otherRest : α → Logged ε β}
    (h : Agrees program other) (hrest : ∀ value, Agrees (rest value) (otherRest value)) :
    Agrees (program >>= rest) (other >>= otherRest) := by
  constructor
  intro silent
  have parts : program.log = [] ∧ (rest program.value).log = [] :=
    List.append_eq_nil_iff.mp silent
  obtain ⟨silentOther, same⟩ := h.value parts.1
  obtain ⟨silentRest, sameRest⟩ := (hrest program.value).value parts.2
  rw [log_bind, value_bind, silentOther, same]
  exact ⟨silentRest, sameRest⟩

/-- A step that agrees up to what the rest is given. -/
theorem bindMap {program other : Logged ε (Option α)} {function : α → β}
    (h : Agrees program other) :
    Agrees (program >>= fun value => Pure.pure (value.map function))
      (other >>= fun value => Pure.pure (value.map function)) :=
  h.bind fun _ => refl _

/-- After a program that cannot be silent anything may follow on the other side. -/
theorem of_ensures {program other : Logged ε α} (h : Ensures (fun _ => False) program) :
    Agrees program other :=
  ⟨fun silent => (h.value silent).elim⟩

/-- Folds whose steps agree do so themselves. -/
theorem foldlM {step other : γ → α → Logged ε γ} {items : List α} {start : γ}
    (hstep : ∀ value item, Agrees (step value item) (other value item)) :
    Agrees (items.foldlM step start) (items.foldlM other start) := by
  induction items generalizing start with
  | nil => exact refl _
  | cons item items ih =>
      rw [List.foldlM_cons, List.foldlM_cons]
      exact (hstep start item).bind fun _ => ih

/-- Sequences of checks that agree in pairs do so themselves. -/
theorem forM {check other : α → Logged ε PUnit} {items : List α}
    (hcheck : ∀ item, Agrees (check item) (other item)) :
    Agrees (items.forM check) (items.forM other) := by
  induction items with
  | nil => exact refl _
  | cons item items ih =>
      change Agrees (check item >>= fun _ => items.forM check)
        (other item >>= fun _ => items.forM other)
      exact (hcheck item).bind fun _ => ih

end Agrees

/-- A silent program does nothing but return its value. -/
theorem eq_pure {program : Logged ε α} {value : α} (silent : program.log = [])
    (same : program.value = value) : program = pure value := by
  cases program
  cases silent
  cases same
  rfl

/-- A value that a silent run of one program yields, the other yields silently. -/
structure Follows (program other : Logged ε (Option α)) : Prop where
  yields : ∀ value, program = pure (some value) → other = pure (some value)

namespace Follows

/-- Programs that agree yield the same values. -/
theorem of_agrees {program other : Logged ε (Option α)} (h : Agrees program other) :
    Follows program other := by
  constructor
  rintro value rfl
  have agreed := h.value rfl
  exact eq_pure agreed.1 agreed.2

/-- Where the first parts agree, only the rest has to follow. -/
theorem bind {program other : Logged ε α} {rest otherRest : α → Logged ε (Option β)}
    (h : Agrees program other) (hrest : ∀ value, Follows (rest value) (otherRest value)) :
    Follows (program >>= rest) (other >>= otherRest) := by
  constructor
  intro value same
  have parts : program.log = [] ∧ (rest program.value).log = [] :=
    List.append_eq_nil_iff.mp (congrArg log same)
  have agreed := h.value parts.1
  rw [eq_pure agreed.1 agreed.2, pure_bind]
  exact (hrest program.value).yields value (eq_pure parts.2 (congrArg Logged.value same))

/-- The values of both programs are turned into others. -/
theorem map {program other : Logged ε (Option α)} {function : α → β}
    (h : Follows program other) :
    Follows (program >>= fun value => Pure.pure (value.map function))
      (other >>= fun value => Pure.pure (value.map function)) := by
  constructor
  intro value same
  have silent : program.log = [] := (List.append_eq_nil_iff.mp (congrArg log same)).1
  obtain ⟨before, yielded, rfl⟩ := Option.map_eq_some_iff.mp (congrArg Logged.value same)
  rw [h.yields before (eq_pure silent yielded), pure_bind, Option.map_some]

end Follows

end Logged
