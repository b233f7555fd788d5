/-
# The trailing run of a history

Given a relation saying when an event continues the one before it, the trailing
run of a history is its longest suffix in which every event continues the
previous one. A tracker that looks only at the last event maintains it: the run
grows by a continuing event and starts anew at any other.
-/

import Mathlib.Data.List.Chain
import Mathlib.Data.List.Infix

namespace TrailingRun

universe u
variable {α : Type u} {continues : α → α → Prop} {history run : List α}

/-- `run` is the longest suffix of `history` whose events continue each other. -/
structure IsTrailingRun (continues : α → α → Prop) (history run : List α) : Prop where
  suffix : run <:+ history
  chain : run.IsChain continues
  longest : ∀ other, other <:+ history → other.IsChain continues →
    other.length ≤ run.length

namespace IsTrailingRun

/-- A history has one trailing run. -/
theorem unique {other : List α} (first : IsTrailingRun continues history run)
    (second : IsTrailingRun continues history other) : run = other := by
  have hle := second.longest run first.suffix first.chain
  have hge := first.longest other second.suffix second.chain
  rcases List.suffix_or_suffix_of_suffix first.suffix second.suffix with h | h
  · exact h.eq_of_length_le hge
  · exact (h.eq_of_length_le hle).symm

/-- The trailing run of a nonempty history contains its last event. -/
theorem ne_nil (trailing : IsTrailingRun continues history run)
    (nonempty : history ≠ []) : run ≠ [] := by
  rintro rfl
  have hlast := trailing.longest [history.getLast nonempty]
    ⟨history.dropLast, List.dropLast_append_getLast nonempty⟩ (List.isChain_singleton _)
  simp at hlast

/-- The run ends where the history ends. -/
theorem getLast?_eq (trailing : IsTrailingRun continues history run)
    (nonempty : history ≠ []) : run.getLast? = history.getLast? := by
  obtain ⟨before, rfl⟩ := trailing.suffix
  have hrun := trailing.ne_nil nonempty
  rw [List.getLast?_append_of_ne_nil before hrun]

/-- A history of one event is its own run. -/
theorem singleton (event : α) : IsTrailingRun continues [event] [event] where
  suffix := List.suffix_rfl
  chain := List.isChain_singleton event
  longest _ hsuffix _ := hsuffix.length_le

/-- A continuing event extends the run. -/
theorem snoc_of_continues {last next : α} (trailing : IsTrailingRun continues history run)
    (hlast : history.getLast? = some last) (hcontinues : continues last next) :
    IsTrailingRun continues (history ++ [next]) (run ++ [next]) where
  suffix := (List.suffix_append_inj_of_length_eq rfl).mpr ⟨trailing.suffix, rfl⟩
  chain := by
    have hnonempty : history ≠ [] := by
      rintro rfl
      simp at hlast
    refine List.isChain_append.mpr ⟨trailing.chain, List.isChain_singleton _, ?_⟩
    intro before hbefore after hafter
    rw [trailing.getLast?_eq hnonempty, hlast] at hbefore
    obtain rfl : last = before := by simpa using hbefore
    obtain rfl : next = after := by simpa using hafter
    exact hcontinues
  longest other hsuffix hchain := by
    rcases List.suffix_concat_iff.mp hsuffix with rfl | ⟨front, rfl, hfront⟩
    · simp
    · have hlen := trailing.longest front hfront (List.isChain_append.mp hchain).1
      simpa using hlen

/-- Any other event starts a run of its own. -/
theorem snoc_of_not_continues {last next : α} (hlast : history.getLast? = some last)
    (hbreak : ¬ continues last next) :
    IsTrailingRun continues (history ++ [next]) [next] where
  suffix := List.suffix_append history [next]
  chain := List.isChain_singleton next
  longest other hsuffix hchain := by
    rcases List.suffix_concat_iff.mp hsuffix with rfl | ⟨front, rfl, hfront⟩
    · simp
    -- A longer run would hold the pair that does not continue.
    · rcases List.eq_nil_or_concat front with rfl | ⟨init, before, rfl⟩
      · simp
      · rw [List.concat_eq_append] at hfront hchain
        obtain ⟨earlier, rfl⟩ := hfront
        have hsame : before = last := by
          rw [← List.append_assoc, List.getLast?_concat] at hlast
          exact Option.some.inj hlast
        have hpair := (List.isChain_append.mp hchain).2.2 before (by simp) next (by simp)
        exact absurd (hsame ▸ hpair) hbreak

end IsTrailingRun

end TrailingRun
