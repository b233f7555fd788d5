/-
# Writing to the places of a vector

A fold of writes leaves at a place what the writes to it agree on.
-/

import Mathlib.Data.List.Basic

namespace Scatter

universe u
variable {Value : Type u} {size place : Nat} {value : Value}

/-- Carry out the writes in their order. -/
def write (start : Vector Value size) (writes : List (Nat × Value)) : Vector Value size :=
  writes.foldl (fun vector item => vector.setIfInBounds item.1 item.2) start

/-- The first write comes first. -/
theorem write_cons (start : Vector Value size) (item : Nat × Value)
    (writes : List (Nat × Value)) :
    write start (item :: writes) = write (start.setIfInBounds item.1 item.2) writes := rfl

/-- Writes that agree with what is there change nothing. -/
theorem getElem_write_of_start {start : Vector Value size} {writes : List (Nat × Value)}
    (inside : place < size)
    (agree : ∀ item ∈ writes, item.1 = place → item.2 = value) (holds : start[place] = value) :
    (write start writes)[place] = value := by
  induction writes generalizing start with
  | nil => exact holds
  | cons item writes ih =>
      rw [List.forall_mem_cons] at agree
      rw [write_cons]
      apply ih agree.2
      rw [Vector.getElem_setIfInBounds inside]
      split
      next same => exact agree.1 same
      next => exact holds

/-- A place that is written holds what the writes to it agree on. -/
theorem getElem_write {start : Vector Value size} {writes : List (Nat × Value)}
    (inside : place < size)
    (agree : ∀ item ∈ writes, item.1 = place → item.2 = value)
    (written : ∃ item ∈ writes, item.1 = place) : (write start writes)[place] = value := by
  induction writes generalizing start with
  | nil =>
      obtain ⟨item, member, -⟩ := written
      cases member
  | cons item writes ih =>
      rw [List.forall_mem_cons] at agree
      rw [write_cons]
      by_cases same : item.1 = place
      · apply getElem_write_of_start inside agree.2
        rw [Vector.getElem_setIfInBounds inside, if_pos same, agree.1 same]
      · apply ih agree.2
        obtain ⟨other, member, there⟩ := written
        rcases List.mem_cons.mp member with rfl | later
        · exact absurd there same
        · exact ⟨other, later, there⟩

end Scatter
