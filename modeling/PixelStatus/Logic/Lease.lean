/-
# Leases

Owners hold lists of items, and a mark on each item says whether someone holds
it. The discipline is exclusive when no item is held twice and the marks tell
the truth. An idle owner may take unmarked items, marking them, and an owner may
give up part of what it holds, clearing those marks; both keep the discipline.
-/

import Mathlib.Data.List.Nodup
import Mathlib.Logic.Function.Basic

namespace Lease

universe u v
variable {Owner : Type u} {Item : Type v} {held : Owner → List Item}
  {marked : Item → Prop}

/-- Every item has at most one holder, and is marked exactly while it has one. -/
structure Exclusive (held : Owner → List Item) (marked : Item → Prop) : Prop where
  nodup : ∀ owner, (held owner).Nodup
  unique : ∀ {first second item}, item ∈ held first → item ∈ held second → first = second
  marked_iff : ∀ item, marked item ↔ ∃ owner, item ∈ held owner

namespace Exclusive

/-- Nothing is held and nothing marked at first. -/
theorem nobody (hheld : ∀ owner, held owner = []) (hmarked : ∀ item, ¬ marked item) :
    Exclusive held marked where
  nodup owner := by simp [hheld owner]
  unique {first _ item} hfirst _ := by simp [hheld first] at hfirst
  marked_iff item := by simp [hheld, hmarked item]

/-- The marked items are those that exactly one owner holds. -/
theorem marked_iff_existsUnique (exclusive : Exclusive held marked) (item : Item) :
    marked item ↔ ∃! owner, item ∈ held owner := by
  rw [exclusive.marked_iff item]
  exact ⟨fun ⟨owner, howner⟩ => ⟨owner, howner, fun _ hother =>
    exclusive.unique hother howner⟩, fun h => h.exists⟩

/-- Only what is held and which items are marked matters. -/
theorem congr {held' : Owner → List Item} {marked' : Item → Prop}
    (exclusive : Exclusive held marked) (hheld : ∀ owner, held' owner = held owner)
    (hmarked : ∀ item, marked' item ↔ marked item) : Exclusive held' marked' := by
  obtain rfl : held' = held := funext hheld
  exact ⟨exclusive.nodup, exclusive.unique, fun item =>
    (hmarked item).trans (exclusive.marked_iff item)⟩

variable [DecidableEq Owner] {owner : Owner}

/-- Only the holdings of one owner change. -/
theorem mem_update {items : List Item} {other : Owner} {item : Item} :
    item ∈ Function.update held owner items other ↔
      (other = owner ∧ item ∈ items) ∨ (other ≠ owner ∧ item ∈ held other) := by
  by_cases h : other = owner
  · subst h
    simp
  · simp [h]

/-- No owner holds an item twice after the change. -/
theorem nodup_update {items : List Item} (exclusive : Exclusive held marked)
    (hitems : items.Nodup) (other : Owner) :
    (Function.update held owner items other).Nodup := by
  by_cases h : other = owner
  · subst h
    simpa using hitems
  · simpa [h] using exclusive.nodup other

/-- An owner that holds nothing takes unmarked items and marks them. -/
theorem take {items : List Item} (exclusive : Exclusive held marked)
    (hidle : held owner = []) (hitems : items.Nodup)
    (hfree : ∀ item ∈ items, ¬ marked item) :
    Exclusive (Function.update held owner items) fun item => marked item ∨ item ∈ items where
  nodup := exclusive.nodup_update hitems
  unique {first second item} hfirst hsecond := by
    have htaken : ∀ other, item ∈ items → item ∉ held other := fun other hitem hheld =>
      hfree item hitem ((exclusive.marked_iff item).mpr ⟨other, hheld⟩)
    rcases mem_update.mp hfirst with ⟨rfl, hin⟩ | ⟨_, hin⟩
    · rcases mem_update.mp hsecond with ⟨rfl, _⟩ | ⟨_, hin'⟩
      · rfl
      · exact absurd hin' (htaken second hin)
    · rcases mem_update.mp hsecond with ⟨rfl, hin'⟩ | ⟨_, hin'⟩
      · exact absurd hin (htaken first hin')
      · exact exclusive.unique hin hin'
  marked_iff item := by
    rw [exclusive.marked_iff item]
    refine ⟨?_, ?_⟩
    · rintro (⟨other, hheld⟩ | hitem)
      · have hne : other ≠ owner := by
          rintro rfl
          simp [hidle] at hheld
        exact ⟨other, mem_update.mpr (Or.inr ⟨hne, hheld⟩)⟩
      · exact ⟨owner, mem_update.mpr (Or.inl ⟨rfl, hitem⟩)⟩
    · rintro ⟨other, hheld⟩
      rcases mem_update.mp hheld with ⟨_, hitem⟩ | ⟨_, hheld⟩
      · exact Or.inr hitem
      · exact Or.inl ⟨other, hheld⟩

/-- An owner gives up the first part of what it holds and clears those marks. -/
theorem drop {released kept : List Item} (exclusive : Exclusive held marked)
    (hsplit : held owner = released ++ kept) :
    Exclusive (Function.update held owner kept)
      fun item => marked item ∧ item ∉ released := by
  have hnodup := exclusive.nodup owner
  rw [hsplit] at hnodup
  have hkept : ∀ other item, item ∈ Function.update held owner kept other →
      item ∈ held other := by
    intro other item hitem
    rcases mem_update.mp hitem with ⟨rfl, hin⟩ | ⟨_, hin⟩
    · rw [hsplit]
      exact List.mem_append_right released hin
    · exact hin
  refine ⟨exclusive.nodup_update (List.nodup_append.mp hnodup).2.1,
    fun hfirst hsecond => exclusive.unique (hkept _ _ hfirst) (hkept _ _ hsecond), ?_⟩
  intro item
  refine ⟨?_, ?_⟩
  · rintro ⟨hmarked, hout⟩
    obtain ⟨other, hheld⟩ := (exclusive.marked_iff item).mp hmarked
    refine ⟨other, mem_update.mpr ?_⟩
    by_cases h : other = owner
    · subst h
      rw [hsplit] at hheld
      exact Or.inl ⟨rfl, (List.mem_append.mp hheld).resolve_left hout⟩
    · exact Or.inr ⟨h, hheld⟩
  · rintro ⟨other, hin⟩
    refine ⟨(exclusive.marked_iff item).mpr ⟨other, hkept _ _ hin⟩, fun hout => ?_⟩
    have hin_owner : item ∈ held owner := by
      rw [hsplit]
      exact List.mem_append_left kept hout
    rcases mem_update.mp hin with ⟨_, hitem⟩ | ⟨hne, hheld⟩
    · exact (List.nodup_append.mp hnodup).2.2 item hout item hitem rfl
    · exact hne (exclusive.unique hheld hin_owner)

end Exclusive

end Lease
