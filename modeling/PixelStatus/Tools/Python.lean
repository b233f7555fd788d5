/-
# Python values

What `json.loads` returns, with integers of any size and texts as sequences of
code points: a JSON escape may name a surrogate that no UTF-8 text contains.
-/

import PixelStatus.Core.Basic

namespace PixelStatus

/-- A Python `str`. -/
abbrev PyText := List Nat

/-- The code points of a literal of the source. -/
def pyText (text : String) : PyText := text.toList.map Char.toNat

/-- A value of the types that JSON decodes to. -/
inductive PyValue
  | none
  | boolean (value : Bool)
  | integer (value : Int)
  | real (value : Double)
  | text (value : PyText)
  | list (items : List PyValue)
  | dict (items : List (PyText × PyValue))

namespace PyValue

/-- `document.get(name)`; a missing key reads as `None`. -/
def get (items : List (PyText × PyValue)) (name : PyText) : PyValue :=
  (items.lookup name).getD .none

/-- `value[name]` with a text index; `none` for a `KeyError` or a `TypeError`. -/
def subscript (value : PyValue) (name : PyText) : Option PyValue :=
  match value with
  | .dict items => items.lookup name
  | _ => Option.none

/-- `document[name] = value`: a new key goes to the end. -/
def setItem (items : List (PyText × PyValue)) (name : PyText) (value : PyValue) :
    List (PyText × PyValue) :=
  match items with
  | [] => [(name, value)]
  | (key, old) :: rest =>
      if name == key then (key, value) :: rest else (key, old) :: setItem rest name value

/-- Setting an item changes what its own name finds, and nothing else. -/
theorem lookup_setItem (items : List (PyText × PyValue)) (name other : PyText)
    (value : PyValue) :
    (setItem items name value).lookup other
      = if other = name then some value else items.lookup other := by
  induction items with
  | nil =>
      by_cases same : other = name
      · simp [setItem, same]
      · simp [setItem, same, List.lookup_cons, beq_false_of_ne same]
  | cons item rest ih =>
      obtain ⟨key, old⟩ := item
      by_cases hkey : name = key
      · subst hkey
        by_cases same : other = name
        · simp [setItem, same]
        · simp [setItem, same, List.lookup_cons, beq_false_of_ne same]
      · by_cases hother : other = key
        · subst hother
          simp [setItem, hkey, Ne.symm hkey]
        · simp [setItem, hkey, List.lookup_cons, beq_false_of_ne hother, ih]

/-- So does it for the lookup with a default. -/
theorem get_setItem (items : List (PyText × PyValue)) (name other : PyText)
    (value : PyValue) :
    get (setItem items name value) other
      = if other = name then value else get items other := by
  rw [get, lookup_setItem]
  split
  · rfl
  · rfl

/-- An optional text as the document shows it. -/
def ofText : Option PyText → PyValue
  | some content => .text content
  | Option.none => .none

/-- A list of dictionaries. -/
def asRecords : PyValue → Option (List (List (PyText × PyValue)))
  | .list items => items.mapM fun item =>
      match item with
      | .dict record => some record
      | _ => Option.none
  | _ => Option.none

/-- `record.get(name) == text`. -/
def hasText (record : List (PyText × PyValue)) (name : String) (text : PyText) : Bool :=
  match get record (pyText name) with
  | .text value => value = text
  | _ => false

def isDict : PyValue → Bool
  | .dict _ => true
  | _ => false

mutual

/-- The longest chain of values one in another. -/
def depth : PyValue → Nat
  | .list items => 1 + depthItems items
  | .dict items => 1 + depthMembers items
  | _ => 1

def depthItems : List PyValue → Nat
  | [] => 0
  | item :: rest => max (depth item) (depthItems rest)

def depthMembers : List (PyText × PyValue) → Nat
  | [] => 0
  | (_, value) :: rest => max (depth value) (depthMembers rest)

end

@[simp] theorem depth_text (value : PyText) : (text value).depth = 1 := rfl

@[simp] theorem depth_integer (value : Int) : (integer value).depth = 1 := rfl

@[simp] theorem depthMembers_nil : depthMembers [] = 0 := rfl

/-- A dictionary is one deeper than what it holds. -/
@[simp] theorem depth_dict_le {items : List (PyText × PyValue)} {limit : Nat} :
    (dict items).depth ≤ limit + 1 ↔ depthMembers items ≤ limit := by
  rw [depth, Nat.add_comm, Nat.add_le_add_iff_right]

/-- So is a list. -/
@[simp] theorem depth_list_le {items : List PyValue} {limit : Nat} :
    (list items).depth ≤ limit + 1 ↔ depthItems items ≤ limit := by
  rw [depth, Nat.add_comm, Nat.add_le_add_iff_right]

@[simp] theorem depthMembers_cons_le {name : PyText} {value : PyValue}
    {items : List (PyText × PyValue)} {limit : Nat} :
    depthMembers ((name, value) :: items) ≤ limit
      ↔ value.depth ≤ limit ∧ depthMembers items ≤ limit := max_le_iff

end PyValue

end PixelStatus
