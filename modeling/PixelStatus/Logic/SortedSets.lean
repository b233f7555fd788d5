/-
# Sets as sorted lists

A list that is sorted and rid of its repetitions says which elements it was made
of, and nothing else: not their order, and not how often they occurred.
-/

import Mathlib.Data.Finset.Card
import Mathlib.Data.List.Sort

namespace SortedSets

universe u
variable {α : Type u} [DecidableEq α]

/-- Of equal neighbours one is kept. -/
def unique : List α → List α
  | [] => []
  | [last] => [last]
  | first :: second :: rest =>
      if first = second then unique (second :: rest) else first :: unique (second :: rest)

/-- Dropping repetitions in a row loses no element. -/
@[simp]
theorem mem_unique {list : List α} {element : α} : element ∈ unique list ↔ element ∈ list := by
  fun_induction unique list with
  | case1 => rfl
  | case2 => rfl
  | case3 first rest ih => simp [ih]
  | case4 first second rest different ih =>
      rw [List.mem_cons, ih, List.mem_cons (l := second :: rest)]

/-- Neighbours that differ are all that is left. -/
theorem pairwise_unique {r : α → α → Prop} [IsTrans α r] [Std.Antisymm r] {list : List α}
    (sorted : list.Pairwise r) :
    (unique list).Pairwise fun first second => r first second ∧ first ≠ second := by
  fun_induction unique list with
  | case1 => exact .nil
  | case2 last => exact List.pairwise_singleton _ _
  | case3 first rest ih => exact ih sorted.tail
  | case4 first second rest different ih =>
      rw [List.pairwise_cons] at sorted ⊢
      refine ⟨?_, ih sorted.2⟩
      intro later member
      have before := sorted.1 later (mem_unique.mp member)
      refine ⟨before, ?_⟩
      rintro rfl
      have between : r second first := by
        rcases List.mem_cons.mp (mem_unique.mp member) with same | behind
        · exact absurd same different
        · exact (List.pairwise_cons.mp sorted.2).1 first behind
      exact different (Std.Antisymm.antisymm _ _ (sorted.1 second List.mem_cons_self) between)

variable (r : α → α → Prop) [DecidableRel r]

/-- The elements of a list in their order, each once. -/
def sortUnique (list : List α) : List α := unique (list.insertionSort r)

/-- The sorted list has the elements of the list. -/
@[simp]
theorem mem_sortUnique {list : List α} {element : α} :
    element ∈ sortUnique r list ↔ element ∈ list := by
  rw [sortUnique, mem_unique, List.mem_insertionSort]

variable [Std.Total r] [IsTrans α r] [Std.Antisymm r]

/-- The sorted list is strictly ordered. -/
theorem pairwise_sortUnique (list : List α) :
    (sortUnique r list).Pairwise fun first second => r first second ∧ first ≠ second :=
  pairwise_unique (List.pairwise_insertionSort r list)

/-- The sorted list has no repetitions. -/
theorem nodup_sortUnique (list : List α) : (sortUnique r list).Nodup :=
  (pairwise_sortUnique r list).imp fun ordered => ordered.2

/-- Two lists are made of the same elements exactly when this makes them one. -/
theorem sortUnique_eq_iff {list other : List α} :
    sortUnique r list = sortUnique r other ↔ ∀ element, element ∈ list ↔ element ∈ other := by
  refine ⟨?_, ?_⟩
  · intro same element
    rw [← mem_sortUnique r, same, mem_sortUnique]
  · intro same
    have perm : (sortUnique r list).Perm (sortUnique r other) :=
      (List.perm_ext_iff_of_nodup (nodup_sortUnique r list) (nodup_sortUnique r other)).mpr
        fun element => by rw [mem_sortUnique, mem_sortUnique, same]
    exact perm.eq_of_pairwise' ((pairwise_sortUnique r list).imp fun ordered => ordered.1)
      ((pairwise_sortUnique r other).imp fun ordered => ordered.1)

/-- There are as many as there are different elements. -/
theorem length_sortUnique (list : List α) : (sortUnique r list).length = list.toFinset.card := by
  rw [← List.toFinset_card_of_nodup (nodup_sortUnique r list)]
  congr 1
  ext element
  rw [List.mem_toFinset, List.mem_toFinset, mem_sortUnique]

end SortedSets
