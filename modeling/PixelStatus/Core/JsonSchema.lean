/-
# JSON schemas

The keywords of JSON Schema that the published contract uses, as checks of JSON
values. A keyword about one type of value passes every value of another type,
and a schema is the conjunction of its keywords.
-/

import PixelStatus.Core.Json

namespace PixelStatus

/-- A schema, as the check that a validator makes. -/
abbrev Schema := Json → Bool

namespace Schema

/-! ## Values -/

/-- The number that a value is. -/
def number : Json → Option ℚ
  | .integer value => some value.toInt
  | .unsigned value => some value.toNat
  | .float (.finite value) => some value
  | _ => none

/-- Numbers are equal by their values, objects by their keys' values. -/
def equal : Json → Json → Bool
  | .null, .null => true
  | .boolean left, .boolean right => left == right
  | .string left, .string right => left == right
  | .array left, .array right => equalItems left right
  | .object left, .object right => equalMembers left right
  | left, right => (number left).isSome && number left == number right
where
  equalItems : List Json → List Json → Bool
    | [], [] => true
    | left :: lefts, right :: rights => equal left right && equalItems lefts rights
    | _, _ => false
  equalMembers : List (Bytes × Json) → List (Bytes × Json) → Bool
    | [], [] => true
    | (key, left) :: lefts, (other, right) :: rights =>
        key == other && equal left right && equalMembers lefts rights
    | _, _ => false

/-- The characters of a text: every byte but those that continue one. -/
def characterCount (text : Bytes) : Nat := text.countP fun byte => byte < 0x80 || 0xBF < byte

/-! ## Keywords -/

/-- Every keyword of a schema passes. -/
def allOf (keywords : List Schema) : Schema := fun value =>
  keywords.all fun keyword => keyword value

/-- Exactly one alternative passes. -/
def oneOf (alternatives : List Schema) : Schema := fun value =>
  alternatives.countP (fun alternative => alternative value) == 1

/-- `false` as a schema. -/
def never : Schema := fun _ => false

def isString : Schema
  | .string _ => true
  | _ => false

def isNumber : Schema
  | .integer _ | .unsigned _ | .float _ => true
  | _ => false

/-- A number without a fraction is an integer, however it is written. -/
def isInteger : Schema := fun value => (number value).any Rat.isInt

def isArray : Schema
  | .array _ => true
  | _ => false

def isObject : Schema
  | .object _ => true
  | _ => false

def const (expected : Json) : Schema := equal expected

def enum (expected : List Json) : Schema := fun value => expected.any fun one => equal one value

def minimum (bound : ℚ) : Schema := fun value => (number value).all fun number => bound ≤ number

def maximum (bound : ℚ) : Schema := fun value => (number value).all fun number => number ≤ bound

def minLength (bound : Nat) : Schema
  | .string text => bound ≤ characterCount text
  | _ => true

def maxLength (bound : Nat) : Schema
  | .string text => characterCount text ≤ bound
  | _ => true

/-- A repeated class of ASCII characters in a pattern. -/
structure Piece where
  ranges : List (UInt8 × UInt8)
  least : Nat
  most : Option Nat

def Piece.covers (piece : Piece) (character : UInt8) : Bool :=
  piece.ranges.any fun range => range.1 ≤ character && character ≤ range.2

/-- A pattern that is anchored at both ends. -/
def matchesPieces : List Piece → Bytes → Bool
  | [], text => text.isEmpty
  | piece :: pieces, text =>
      (List.range (text.length + 1)).any fun count =>
        piece.least ≤ count && (piece.most.all fun most => count ≤ most)
          && (text.take count).all piece.covers && matchesPieces pieces (text.drop count)

def pattern (pieces : List Piece) : Schema
  | .string text => matchesPieces pieces text
  | _ => true

def minItems (bound : Nat) : Schema
  | .array values => bound ≤ values.length
  | _ => true

def maxItems (bound : Nat) : Schema
  | .array values => values.length ≤ bound
  | _ => true

def items (schema : Schema) : Schema
  | .array values => values.all schema
  | _ => true

def uniqueItems : Schema
  | .array values => decide (values.Pairwise fun left right => equal left right = false)
  | _ => true

def minProperties (bound : Nat) : Schema
  | .object members => bound ≤ members.length
  | _ => true

def maxProperties (bound : Nat) : Schema
  | .object members => members.length ≤ bound
  | _ => true

def propertyNames (schema : Schema) : Schema
  | .object members => members.all fun member => schema (.string member.1)
  | _ => true

def required (names : List String) : Schema
  | .object members => names.all fun name => (Json.find members (bytes name)).isSome
  | _ => true

/-- The schema of a property: its own, or that of the additional ones. -/
def propertySchema (properties : List (String × Schema)) (additional : Schema) (key : Bytes) :
    Schema :=
  match properties.find? fun property => bytes property.1 = key with
  | some property => property.2
  | none => additional

/-- `properties` and the `additionalProperties` beside it. -/
def properties (known : List (String × Schema)) (additional : Schema) : Schema
  | .object members => members.all fun member =>
      (Json.find members member.1).all (propertySchema known additional member.1)
  | _ => true

/-- An object of these properties only. -/
def closedObject (needed : List String) (known : List (String × Schema)) : Schema :=
  allOf [isObject, properties known never, required needed]

/-! ## What passes -/

variable {value : Json} {text : Bytes} {members : List (Bytes × Json)}

@[simp]
theorem allOf_nil : allOf [] value = true := rfl

/-- All keywords hold when the first does and the others do. -/
@[simp]
theorem allOf_cons {keyword : Schema} {keywords : List Schema} :
    allOf (keyword :: keywords) value = (keyword value && allOf keywords value) := rfl

/-- Only the text itself equals a text. -/
theorem const_string : const (.string text) value = true ↔ value = .string text := by
  refine ⟨?_, ?_⟩
  · intro passes
    cases value with
    | string other =>
        rw [const, equal, beq_iff_eq] at passes
        rw [passes]
    | null | boolean | integer | unsigned | float | array | object =>
        simp [const, equal, number] at passes
  · rintro rfl
    simp [const, equal]

/-- A text of ASCII characters has as many characters as bytes. -/
theorem characterCount_ascii (ascii : ∀ byte ∈ text, byte < 0x80) :
    characterCount text = text.length := by
  apply List.countP_eq_length.mpr
  intro byte member
  simp [ascii byte member]

/-- A pattern matches piece by piece. -/
theorem matchesPieces_append {piece : Piece} {pieces : List Piece} {first rest : Bytes}
    (least : piece.least ≤ first.length) (most : ∀ most ∈ piece.most, first.length ≤ most)
    (covered : ∀ character ∈ first, piece.covers character = true)
    (matched : matchesPieces pieces rest = true) :
    matchesPieces (piece :: pieces) (first ++ rest) = true := by
  apply List.any_eq_true.mpr
  refine ⟨first.length, List.mem_range.mpr ?_, ?_⟩
  · rw [List.length_append]
    omega
  · rw [List.take_left, List.drop_left, matched]
    simp only [Bool.and_eq_true, decide_eq_true_eq, List.all_eq_true, and_true]
    refine ⟨⟨least, ?_⟩, covered⟩
    cases limit : piece.most with
    | none => rfl
    | some limit' => exact decide_eq_true (most limit' limit)

/-- A pattern of one piece. -/
theorem matchesPieces_single {piece : Piece} (least : piece.least ≤ text.length)
    (most : ∀ most ∈ piece.most, text.length ≤ most)
    (covered : ∀ character ∈ text, piece.covers character = true) :
    matchesPieces [piece] text = true := by
  have matched := @matchesPieces_append piece [] text [] least most covered rfl
  rwa [List.append_nil] at matched

/-- An object whose fields are known ones that pass and which has the needed ones. -/
theorem closedObject_of {needed : List String} {known : List (String × Schema)}
    (fields : ∀ member ∈ members, member.1 ∈ known.map fun property => bytes property.1)
    (pass : ∀ property ∈ known, ∀ value ∈ Json.find members (bytes property.1),
      property.2 value = true)
    (has : ∀ name ∈ needed, (Json.find members (bytes name)).isSome = true) :
    closedObject needed known (.object members) = true := by
  have each : properties known never (.object members) = true := by
    apply List.all_eq_true.mpr
    intro member found
    obtain ⟨property, listed, name⟩ := List.mem_map.mp (fields member found)
    have some : (known.find? fun property => bytes property.1 = member.1).isSome = true :=
      List.find?_isSome.mpr ⟨property, listed, decide_eq_true name⟩
    obtain ⟨first, isFirst⟩ := Option.isSome_iff_exists.mp some
    have same : bytes first.1 = member.1 := by simpa using List.find?_some isFirst
    have listed := List.mem_of_find?_eq_some isFirst
    cases holds : Json.find members member.1 with
    | none => rfl
    | some value =>
        rw [Option.all_some, propertySchema, isFirst]
        exact pass first listed value (same ▸ holds)
  have needs : required needed (.object members) = true := List.all_eq_true.mpr has
  simp [closedObject, isObject, each, needs]

/-- A field of a closed object passes its property's schema. -/
theorem closedObject_field {needed : List String} {known : List (String × Schema)}
    {key : Bytes} (valid : closedObject needed known (.object members) = true)
    (found : Json.find members key = some value) :
    propertySchema known never key value = true := by
  obtain ⟨before, after, split, -⟩ := List.lookup_eq_some_iff.mp found
  have member : (key, value) ∈ members := by
    rw [split]
    simp
  simp only [closedObject, allOf_cons, allOf_nil, Bool.and_true, Bool.and_eq_true] at valid
  have passes := List.all_eq_true.mp valid.2.1 (key, value) member
  rw [found, Option.all_some] at passes
  exact passes

/-- Of alternatives that tell values apart, the one for the value decides. -/
theorem oneOf_tagged {tags : List (Bytes × Schema)} {tag : Bytes} {schema : Schema}
    (distinct : (tags.map Prod.fst).Nodup)
    (apart : ∀ entry ∈ tags, entry.2 value = true → entry.1 = tag)
    (member : (tag, schema) ∈ tags) :
    oneOf (tags.map Prod.snd) value = schema value := by
  have others : ∀ rest ⊆ tags, tag ∉ rest.map Prod.fst →
      (rest.map Prod.snd).countP (fun alternative => alternative value) = 0 := by
    intro rest subset absent
    apply List.countP_eq_zero.mpr
    intro alternative hmap passes
    obtain ⟨entry, listed, rfl⟩ := List.mem_map.mp hmap
    exact absent (List.mem_map.mpr ⟨entry, listed, apart entry (subset listed) passes⟩)
  obtain ⟨before, after, rfl⟩ := List.append_of_mem member
  have names := distinct
  rw [List.map_append, List.map_cons] at names
  have notAfter : tag ∉ after.map Prod.fst :=
    (List.nodup_cons.mp (List.nodup_append.mp names).2.1).1
  have notBefore : tag ∉ before.map Prod.fst := by
    intro early
    exact (List.disjoint_of_nodup_append names) early List.mem_cons_self
  have first := others before (List.subset_append_left _ _) notBefore
  have last := others after (fun _ h => List.mem_append_right _ (List.mem_cons_of_mem _ h))
    notAfter
  rw [oneOf, List.map_append, List.map_cons, List.countP_append, List.countP_cons, first, last]
  cases passes : schema value with
  | true => simp [passes]
  | false => simp [passes]

end Schema

end PixelStatus
