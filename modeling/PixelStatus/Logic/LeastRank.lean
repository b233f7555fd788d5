/-
# The least rank in a list

A running minimum over the ranks of a list, never above a limit. It depends only
on which ranks occur, so order, repetition and items at the limit do not matter,
and lower ranks give a lower result.
-/

import Mathlib.Order.Lattice
import Mathlib.Order.MinMax

universe u v

variable {α : Type u} {β : Type v} [LinearOrder β]

/-- The least rank of the items, and the limit when there is no lower one. -/
def leastRank (rank : α → β) (limit : β) (items : List α) : β :=
  items.foldl (fun best item => min best (rank item)) limit

namespace LeastRank

variable {rank other : α → β} {limit bound : β} {items rest : List α}

/-- The first item lowers the limit for the rest. -/
theorem cons (item : α) :
    leastRank rank limit (item :: items) = leastRank rank (min limit (rank item)) items := rfl

/-- A lower bound is one of the limit and of every rank. -/
theorem le_iff : bound ≤ leastRank rank limit items ↔
    bound ≤ limit ∧ ∀ item ∈ items, bound ≤ rank item := by
  induction items generalizing limit with
  | nil => simp [leastRank]
  | cons item items ih => rw [cons, ih, le_min_iff, List.forall_mem_cons, and_assoc]

/-- The least rank is never above the limit. -/
theorem le_limit : leastRank rank limit items ≤ limit := (le_iff.mp le_rfl).1

/-- The least rank is never above that of an item. -/
theorem le_rank {item : α} (member : item ∈ items) : leastRank rank limit items ≤ rank item :=
  (le_iff.mp le_rfl).2 item member

/-- Where every rank is matched by a lower one, the result is lower. -/
theorem mono (matched : ∀ item ∈ items, ∃ lower ∈ rest, other lower ≤ rank item) :
    leastRank other limit rest ≤ leastRank rank limit items := by
  apply le_iff.mpr
  refine ⟨?_, ?_⟩
  · exact le_limit
  · intro item member
    obtain ⟨lower, present, le⟩ := matched item member
    exact (le_rank present).trans le

/-- Only the items themselves matter. -/
theorem congr (same : ∀ item, item ∈ items ↔ item ∈ rest) :
    leastRank rank limit items = leastRank rank limit rest :=
  le_antisymm (mono fun item member => ⟨item, (same item).mpr member, le_rfl⟩)
    (mono fun item member => ⟨item, (same item).mp member, le_rfl⟩)

/-- Items whose rank is not below the limit have no influence. -/
theorem filter {keep : α → Bool} (idle : ∀ item ∈ items, keep item = false → limit ≤ rank item) :
    leastRank rank limit (items.filter keep) = leastRank rank limit items := by
  apply le_antisymm
  · apply le_iff.mpr
    refine ⟨le_limit, fun item member => ?_⟩
    cases kept : keep item with
    | true => exact le_rank (List.mem_filter.mpr ⟨member, kept⟩)
    | false => exact le_limit.trans (idle item member kept)
  · exact mono fun item member => ⟨item, (List.mem_filter.mp member).1, le_rfl⟩

end LeastRank
