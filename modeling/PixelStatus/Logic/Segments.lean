/-
# Segments along a line

Items that occupy segments of a line are laid when each begins a fixed gap
behind the one before it. Laid items stay between the two ends of their line,
and no two of them meet.
-/

import Mathlib.Data.List.Chain
import Mathlib.Data.List.Range

namespace Segments

universe u
variable {α : Type u} (start extent : α → Nat)

/-- Items laid from one end of a line to the other. -/
structure Laid (gap first finish : Nat) (items : List α) : Prop where
  nonempty : items ≠ []
  first : ∀ item ∈ items.head?, start item = first
  next : items.IsChain fun item following => start following = start item + extent item + gap
  last : ∀ item ∈ items.getLast?, start item + extent item = finish

namespace Laid

variable {start extent} {gap first finish : Nat} {item : α} {items : List α}

/-- One item that takes the whole line. -/
theorem singleton (begins : start item = first) (ends : start item + extent item = finish) :
    Laid start extent gap first finish [item] where
  nonempty := List.cons_ne_nil _ _
  first _ same := Option.some.inj same ▸ begins
  next := .singleton _
  last _ same := Option.some.inj same ▸ ends

/-- An item and, a gap behind it, the rest. -/
theorem cons (begins : start item = first)
    (rest : Laid start extent gap (first + extent item + gap) finish items) :
    Laid start extent gap first finish (item :: items) where
  nonempty := List.cons_ne_nil _ _
  first _ same := Option.some.inj same ▸ begins
  next := by
    apply List.isChain_cons.mpr
    refine ⟨?_, ?_⟩
    · intro following member
      rw [rest.first following member, begins]
    · exact rest.next
  last := by
    obtain ⟨second, others, rfl⟩ := List.exists_cons_of_ne_nil rest.nonempty
    rw [List.getLast?_cons_cons]
    exact rest.last

/-- Items that are numbered. -/
theorem range {count : Nat} {start extent : Nat → Nat} (positive : 0 < count)
    (begins : start 0 = first)
    (next : ∀ index, index + 1 < count → start (index + 1) = start index + extent index + gap)
    (ends : start (count - 1) + extent (count - 1) = finish) :
    Laid start extent gap first finish (List.range count) where
  nonempty := List.range_eq_nil.not.mpr positive.ne'
  first index same := by
    rw [List.head?_range, if_neg positive.ne'] at same
    cases same
    exact begins
  next := (List.isChain_range _ count).mpr fun index below => next index (by omega)
  last index same := by
    rw [List.getLast?_range, if_neg positive.ne'] at same
    cases same
    exact ends

/-- What is left without the first of several items. -/
theorem tail {second : α} (laid : Laid start extent gap first finish (item :: second :: items)) :
    Laid start extent gap (start second) finish (second :: items) where
  nonempty := List.cons_ne_nil _ _
  first _ same := congrArg start (Option.some.inj same).symm
  next := (List.isChain_cons_cons.mp laid.next).2
  last := by
    rw [← List.getLast?_cons_cons]
    exact laid.last

/-- No item reaches over an end of the line. -/
theorem within (laid : Laid start extent gap first finish items) (member : item ∈ items) :
    first ≤ start item ∧ start item + extent item ≤ finish := by
  induction items generalizing first item with
  | nil => cases member
  | cons head rest ih =>
      have begins : start head = first := laid.first head rfl
      cases rest with
      | nil =>
          obtain rfl := List.mem_singleton.mp member
          exact ⟨begins.ge, (laid.last item rfl).le⟩
      | cons second others =>
          have next := (List.isChain_cons_cons.mp laid.next).1
          rcases List.mem_cons.mp member with rfl | later
          · have following := (ih laid.tail List.mem_cons_self)
            omega
          · have inside := ih laid.tail later
            omega

/-- Every item ends before any later one begins. -/
theorem ordered (laid : Laid start extent gap first finish items) :
    items.Pairwise fun earlier later => start earlier + extent earlier ≤ start later := by
  induction items generalizing first with
  | nil => exact .nil
  | cons head rest ih =>
      cases rest with
      | nil => exact List.pairwise_singleton _ _
      | cons second others =>
          have next := (List.isChain_cons_cons.mp laid.next).1
          apply List.pairwise_cons.mpr
          refine ⟨?_, ?_⟩
          · intro later member
            have inside := laid.tail.within member
            omega
          · exact ih laid.tail

/-- A numbered item ends before any later one begins. -/
theorem ordered_range {count earlier later : Nat} {start extent : Nat → Nat}
    (laid : Laid start extent gap first finish (List.range count)) (before : earlier < later)
    (inside : later < count) : start earlier + extent earlier ≤ start later := by
  have ordered := List.pairwise_iff_getElem.mp laid.ordered earlier later
    (by rw [List.length_range]; omega) (by rwa [List.length_range]) before
  rwa [List.getElem_range, List.getElem_range] at ordered

end Laid

end Segments
