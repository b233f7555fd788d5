/-
# Lists without repetitions

A collector keeps what it is given in the order in which it first saw it. A set
beside the list tells it what it has seen, so that no insertion searches the list.
-/

import Mathlib.Data.Finset.Dedup
import Mathlib.Data.Finset.Insert

universe u v

/-- What has been collected, and the set of what has been seen. -/
structure FirstSeen (α : Type u) [DecidableEq α] where
  items : List α
  seen : Finset α
  agree : seen = items.toFinset
  distinct : items.Nodup

namespace FirstSeen

variable {α : Type u} [DecidableEq α]

/-- Nothing has been seen. -/
def empty : FirstSeen α where
  items := []
  seen := ∅
  agree := rfl
  distinct := List.nodup_nil

/-- The set knows exactly the items of the list. -/
theorem mem_seen (collected : FirstSeen α) {item : α} :
    item ∈ collected.seen ↔ item ∈ collected.items := by
  rw [collected.agree, List.mem_toFinset]

/-- The set and the list still agree when both take an item in. -/
theorem agree_insert (collected : FirstSeen α) (item : α) :
    insert item collected.seen = (collected.items ++ [item]).toFinset := by
  ext other
  rw [Finset.mem_insert, collected.mem_seen, List.mem_toFinset, List.mem_append,
    List.mem_singleton, or_comm]

/-- A fresh item is no repetition. -/
theorem distinct_insert (collected : FirstSeen α) {item : α} (fresh : item ∉ collected.seen) :
    (collected.items ++ [item]).Nodup := by
  rw [collected.mem_seen] at fresh
  exact List.nodup_append_comm.mp (List.nodup_cons.mpr ⟨fresh, collected.distinct⟩)

/-- Keep an item that has not been seen yet. -/
def insert (collected : FirstSeen α) (item : α) : FirstSeen α :=
  if known : item ∈ collected.seen then collected
  else
    { items := collected.items ++ [item]
      seen := Insert.insert item collected.seen
      agree := collected.agree_insert item
      distinct := collected.distinct_insert known }

variable [BEq α]

/-- The collector was given this list, one item after the other. -/
def Holds (list : List α) (collected : FirstSeen α) : Prop := collected.items = list.eraseDups

/-- Before the first round nothing was given. -/
theorem holds_empty : (empty : FirstSeen α).Holds [] := rfl

variable [LawfulBEq α] {collected : FirstSeen α} {list : List α}

/-- An insertion appends the item to what was given. -/
theorem Holds.insert (holds : collected.Holds list) (item : α) :
    (collected.insert item).Holds (list ++ [item]) := by
  have known : item ∈ collected.seen ↔ item ∈ list := by
    rw [collected.mem_seen, holds, List.mem_eraseDups]
  unfold FirstSeen.insert Holds
  split
  next old =>
    have nothing : [item].removeAll list = [] := by
      simpa [List.removeAll] using known.mp old
    rw [List.eraseDups_append, nothing, List.eraseDups_nil, List.append_nil]
    exact holds
  next fresh =>
    have whole : [item].removeAll list = [item] := by
      simpa [List.removeAll] using mt known.mpr fresh
    rw [List.eraseDups_append, whole]
    exact congrArg (· ++ [item]) holds

omit [LawfulBEq α] in
/-- A loop gives the collector what each of its rounds gives it. -/
theorem Holds.foldl {β : Type v} {step : FirstSeen α → β → FirstSeen α} {itemsOf : β → List α}
    (each : ∀ collected list round, Holds list collected →
      Holds (list ++ itemsOf round) (step collected round))
    (holds : collected.Holds list) (rounds : List β) :
    Holds (list ++ rounds.flatMap itemsOf) (rounds.foldl step collected) := by
  induction rounds generalizing collected list with
  | nil =>
      rw [List.flatMap_nil, List.append_nil]
      exact holds
  | cons round rounds ih =>
      rw [List.flatMap_cons, ← List.append_assoc]
      exact ih (each collected list round holds)

/-- A loop that inserts each item of a list. -/
theorem Holds.insertAll (holds : collected.Holds list) (items : List α) :
    Holds (list ++ items) (items.foldl FirstSeen.insert collected) := by
  have all := @Holds.foldl α _ _ collected list α FirstSeen.insert (fun item => [item])
    (fun _ _ item holds => holds.insert item) holds items
  rwa [List.flatMap_singleton'] at all

end FirstSeen
