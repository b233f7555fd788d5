/-
# Patches that overwrite

A patch covers some places of a state; it writes the target's value there and
leaves every other place alone. Applying patches in any order moves the state
toward the target, and reaches it when what no patch covers was right before.
-/

import Mathlib.Logic.Basic

namespace Overwrite

universe u v w x
variable {State : Type u} {Patch : Type v} {Place : Type w} {Value : Type x}
  {apply : State → Patch → State} {read : State → Place → Value} {target : Place → Value}
  {covers : Patch → Place → Prop}

/-- Each of the patches writes the target where it covers, and nothing elsewhere. -/
def Writes (apply : State → Patch → State) (read : State → Place → Value)
    (target : Place → Value) (covers : Patch → Place → Prop) (patches : List Patch) : Prop :=
  ∀ patch ∈ patches, ∀ state place,
    (covers patch place → read (apply state patch) place = target place) ∧
      (¬ covers patch place → read (apply state patch) place = read state place)

/-- A place that was right, or is covered by one of the patches, ends up right. -/
theorem read_foldl {patches : List Patch} (writes : Writes apply read target covers patches)
    {state : State} (place : Place)
    (right : (∃ patch ∈ patches, covers patch place) ∨ read state place = target place) :
    read (patches.foldl apply state) place = target place := by
  induction patches generalizing state with
  | nil => exact right.elim (fun ⟨_, member, _⟩ => nomatch member) id
  | cons patch patches ih =>
      apply ih fun other member => writes other (List.mem_cons_of_mem _ member)
      obtain ⟨written, kept⟩ := writes patch List.mem_cons_self state place
      by_cases covered : covers patch place
      · exact Or.inr (written covered)
      · cases right with
        | inl later =>
            obtain ⟨other, member, hcovers⟩ := later
            cases List.mem_cons.mp member with
            | inl same => exact absurd (same ▸ hcovers) covered
            | inr rest => exact Or.inl ⟨other, rest, hcovers⟩
        | inr before => exact Or.inr ((kept covered).trans before)

end Overwrite
