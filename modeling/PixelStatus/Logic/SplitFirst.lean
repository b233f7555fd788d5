/-
# Splitting at the first occurrence

Where a list first contains a marker, what stands before it and what stands
after it.
-/

import Mathlib.Data.List.Infix

universe u
variable {α : Type u}

/-- The marker occurs behind this text and behind no shorter one. -/
structure FirstBehind (marker list before : List α) : Prop where
  occurs : before ++ marker <+: list
  least : ∀ earlier, earlier ++ marker <+: list → before.length ≤ earlier.length

/-- There is one such text. -/
theorem FirstBehind.unique {marker list before other : List α}
    (first : FirstBehind marker list before) (second : FirstBehind marker list other) :
    before = other := by
  have same : before.length = other.length :=
    (first.least other second.occurs).antisymm (second.least before first.occurs)
  have inside := (List.prefix_append before marker).trans first.occurs
  have inside' := (List.prefix_append other marker).trans second.occurs
  exact (List.prefix_of_prefix_length_le inside inside' same.le).eq_of_length same

/-- A text that begins the list keeps its first occurrence. -/
theorem FirstBehind.append {marker list before : List α} (first : FirstBehind marker list before)
    (more : List α) : FirstBehind marker (list ++ more) before where
  occurs := first.occurs.trans (List.prefix_append list more)
  least := by
    intro earlier occurs
    refine Nat.le_of_not_lt fun shorter => ?_
    have room : (earlier ++ marker).length ≤ list.length := by
      have bound := first.occurs.length_le
      rw [List.length_append] at bound ⊢
      omega
    have inside := List.prefix_of_prefix_length_le occurs (List.prefix_append list more) room
    exact Nat.not_lt.mpr (first.least earlier inside) shorter

variable [DecidableEq α]

/-- The list before the first occurrence of the marker, and the list after it. -/
def splitFirst (marker : List α) : List α → Option (List α × List α)
  | [] => if marker = [] then some ([], []) else none
  | head :: rest =>
      if marker <+: head :: rest then some ([], (head :: rest).drop marker.length)
      else (splitFirst marker rest).map fun parts => (head :: parts.1, parts.2)

/-- There is nothing to split when the marker does not occur. -/
theorem splitFirst_of_not_infix {marker list : List α} (absent : ¬ marker <:+: list) :
    splitFirst marker list = none := by
  induction list with
  | nil =>
      rw [splitFirst, if_neg]
      exact fun empty => absent (empty ▸ List.nil_infix)
  | cons head rest ih =>
      rw [splitFirst, if_neg fun first => absent first.isInfix, ih, Option.map_none]
      exact fun later => absent (later.trans (List.suffix_cons head rest).isInfix)

/-- The first occurrence is the one behind a text without the marker's first element. -/
theorem splitFirst_append {first : α} {marker before : List α} (absent : first ∉ before)
    (rest : List α) :
    splitFirst (first :: marker) (before ++ (first :: marker ++ rest)) = some (before, rest) := by
  induction before with
  | nil =>
      rw [List.nil_append, List.cons_append, splitFirst, if_pos]
      · simp
      · exact List.prefix_append (first :: marker) rest
  | cons head before ih =>
      rw [List.mem_cons, not_or] at absent
      rw [List.cons_append, splitFirst, if_neg, ih absent.2, Option.map_some]
      intro starts
      exact absent.1 (List.cons_prefix_cons.mp starts).1

/-- A split is at the first place where the marker stands. -/
theorem splitFirst_eq_some_iff {marker list before after : List α} :
    splitFirst marker list = some (before, after) ↔
      list = before ++ (marker ++ after) ∧ FirstBehind marker list before := by
  induction list generalizing before with
  | nil =>
      rw [splitFirst]
      split
      next empty =>
        subst empty
        refine ⟨?_, ?_⟩
        · intro same
          cases same
          exact ⟨rfl, List.prefix_refl _, fun _ _ => Nat.zero_le _⟩
        · rintro ⟨parts, _⟩
          obtain ⟨rfl, rfl⟩ := List.append_eq_nil_iff.mp parts.symm
          rfl
      next nonempty =>
        refine iff_of_false (fun found => nomatch found) ?_
        rintro ⟨parts, _⟩
        have pieces := List.append_eq_nil_iff.mp parts.symm
        exact nonempty (List.append_eq_nil_iff.mp pieces.2).1
  | cons head rest ih =>
      rw [splitFirst]
      split
      next starts =>
        obtain ⟨behind, same⟩ := starts
        rw [← same, List.drop_left]
        refine ⟨?_, ?_⟩
        · intro found
          cases found
          exact ⟨rfl, List.prefix_append _ _, fun _ _ => Nat.zero_le _⟩
        · rintro ⟨parts, first⟩
          have empty : before = [] :=
            List.length_eq_zero_iff.mp (Nat.le_zero.mp (first.least [] (List.prefix_append _ _)))
          subst empty
          rw [List.append_cancel_left parts]
      next later =>
        rw [Option.map_eq_some_iff]
        refine ⟨?_, ?_⟩
        · rintro ⟨⟨front, behind⟩, found, same⟩
          cases same
          obtain ⟨rfl, first⟩ := ih.mp found
          refine ⟨rfl, List.cons_prefix_cons.mpr ⟨rfl, first.occurs⟩, ?_⟩
          intro earlier occurs
          cases earlier with
          | nil => exact absurd occurs later
          | cons _ earlier =>
              exact Nat.succ_le_succ (first.least earlier (List.cons_prefix_cons.mp occurs).2)
        · rintro ⟨parts, first⟩
          cases before with
          | nil => exact absurd ⟨after, parts.symm⟩ later
          | cons _ front =>
              obtain ⟨rfl, rfl⟩ := List.cons.inj parts
              refine ⟨(front, after), ih.mpr ⟨rfl, ?_, ?_⟩, rfl⟩
              · exact (List.cons_prefix_cons.mp first.occurs).2
              · intro earlier occurs
                have bound := first.least (head :: earlier) (List.cons_prefix_cons.mpr ⟨rfl, occurs⟩)
                exact Nat.le_of_succ_le_succ bound

/-- There is no split exactly when the marker stands nowhere. -/
theorem splitFirst_eq_none_iff {marker list : List α} :
    splitFirst marker list = none ↔ ¬ marker <:+: list := by
  refine ⟨?_, splitFirst_of_not_infix⟩
  intro unsplit occurs
  induction list with
  | nil =>
      rw [splitFirst, if_pos (List.infix_nil.mp occurs)] at unsplit
      cases unsplit
  | cons head rest ih =>
      rw [splitFirst] at unsplit
      split at unsplit
      · cases unsplit
      next later =>
        exact ih (Option.map_eq_none_iff.mp unsplit)
          ((List.infix_cons_iff.mp occurs).resolve_left later)
