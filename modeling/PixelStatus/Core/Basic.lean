/-
# Values shared by the whole program

Texts are byte strings, because every length limit of the source counts bytes
and a monitor may hand over bytes that are no text at all. Times are
integers: steady-clock instants in nanoseconds and durations in milliseconds,
with the truncating conversion between the two that the source performs. The
source counts both in signed 64-bit words: a result about times names the words
it needs, and the sums that no check keeps inside a word are wrapped.
Doubles keep their exact rational value; the operations that round take the
rounding as an argument, so a result stated for every rounding covers the
hardware's.
-/

import Mathlib.Data.List.AList
import Mathlib.Data.Rat.Floor
import PixelStatus.Logic.SignedWord

namespace PixelStatus

/-- The content of a `std::string`, without an encoding. -/
abbrev Bytes := List UInt8

instance : LawfulBEq Bytes := List.instLawfulBEq

/-- The bytes of a literal of the source. -/
def bytes (text : String) : Bytes := text.toUTF8.data.toList

/-- The decimal digits that `std::to_string` prints for an unsigned number. -/
def decimal (number : Nat) : Bytes := bytes (toString number)

/-- Texts of different bytes are different. -/
theorem bytes_injective : Function.Injective bytes := by
  intro left right same
  have data : left.toUTF8.data = right.toUTF8.data := Array.toList_inj.mp same
  exact String.toByteArray_inj.mp (ByteArray.ext data)

/-- A printed number can be read back. -/
theorem decimal_injective : Function.Injective decimal := by
  intro left right same
  have printed : left.repr = right.repr := bytes_injective same
  have digits : Nat.toDigits 10 left = Nat.toDigits 10 right := by
    rw [← Nat.toList_repr, ← Nat.toList_repr, printed]
  calc left = Nat.ofDigitChars 10 (Nat.toDigits 10 left) 0 :=
        (Nat.ofDigitChars_toDigits (by decide) (by decide)).symm
    _ = Nat.ofDigitChars 10 (Nat.toDigits 10 right) 0 := by rw [digits]
    _ = right := Nat.ofDigitChars_toDigits (by decide) (by decide)

/-- An unordered map: at most one value a key, listed in no promised order. -/
abbrev UnorderedMap (κ ν : Type) := AList fun _ : κ => ν

/-- `emplace` keeps the value that is already there. -/
def UnorderedMap.emplace {κ ν : Type} [DecidableEq κ] (map : UnorderedMap κ ν)
    (key : κ) (value : ν) : UnorderedMap κ ν :=
  if key ∈ map then map else map.insert key value

/-- A key is present after `emplace` when it was present or is the new one. -/
theorem UnorderedMap.mem_emplace {κ ν : Type} [DecidableEq κ] {map : UnorderedMap κ ν}
    {key other : κ} {value : ν} :
    other ∈ map.emplace key value ↔ other = key ∨ other ∈ map := by
  unfold UnorderedMap.emplace
  split
  · rename_i present
    exact ⟨Or.inr, fun h => h.elim (fun same => same ▸ present) id⟩
  · exact AList.mem_insert _

/-- A span of time in whole milliseconds. -/
abbrev Duration := Int

/-- A steady-clock instant in nanoseconds. -/
abbrev TimePoint := Int

/-- A time that a signed 64-bit count holds. -/
abbrev FitsCount (time : Int) : Prop := SignedWord.Fits (2 ^ 63) time

/-- What a 64-bit count keeps of a time. The language leaves the overflow of a
signed word undefined; as it is compiled, the word wraps. -/
abbrev toCount (time : Int) : Int := SignedWord.wrap (2 ^ 63) time

/-- A count is always a word. -/
theorem fitsCount_toCount (time : Int) : FitsCount (toCount time) :=
  SignedWord.fits_wrap (Nat.two_pow_pos 63) time

/-- A duration on the clock's scale. -/
def nanoseconds (duration : Duration) : Int := duration * 1000000

/-- `duration_cast` to milliseconds truncates toward zero. -/
def durationCast (span : Int) : Duration := span.tdiv 1000000

/-- A double: a finite value, or one of the values that are no number of the
real line. The sign of a zero is left out; no modelled function reads it. -/
inductive Double
  | finite (value : ℚ)
  | infinite (negative : Bool)
  | nan
  deriving DecidableEq

/-- How an exact result becomes a double. -/
abbrev Rounding := ℚ → Double

namespace Double

/-- The rounding that keeps every value, for statements in exact arithmetic. -/
def exact : Rounding := .finite

/-- `std::isfinite`. -/
def isFinite : Double → Bool
  | .finite _ => true
  | _ => false

/-- The comparisons `<`, `<=` of two doubles: false as soon as one is no number. -/
def compare (holds : ℚ → ℚ → Bool) (below : Bool) : Double → Double → Bool
  | .finite left, .finite right => holds left right
  | .infinite left, .finite _ => left
  | .finite _, .infinite right => !right
  | .infinite left, .infinite right => (left && !right) || (below && left == right)
  | _, _ => false

/-- The comparison `==`: a NaN equals nothing. -/
def equal : Double → Double → Bool
  | .nan, _ => false
  | left, right => left = right

def lt : Double → Double → Bool := compare (fun left right => left < right) false

def le : Double → Double → Bool := compare (fun left right => left ≤ right) true

/-- Negation only flips the sign. -/
def neg : Double → Double
  | .finite value => .finite (-value)
  | .infinite negative => .infinite (!negative)
  | .nan => .nan

variable (round : Rounding)

def add : Double → Double → Double
  | .finite left, .finite right => round (left + right)
  | .infinite left, .infinite right => if left = right then .infinite left else .nan
  | .infinite left, .finite _ => .infinite left
  | .finite _, .infinite right => .infinite right
  | _, _ => .nan

def sub (left right : Double) : Double := add round left (neg right)

/-- The sign a product or quotient takes from one operand. -/
def isNegative : Double → Bool
  | .finite value => value < 0
  | .infinite negative => negative
  | .nan => false

def mul : Double → Double → Double
  | .finite left, .finite right => round (left * right)
  | .nan, _ => .nan
  | _, .nan => .nan
  | left, right =>
      if left = .finite 0 ∨ right = .finite 0 then .nan
      else .infinite (isNegative left != isNegative right)

def div : Double → Double → Double
  | .finite left, .finite right =>
      if right = 0 then (if left = 0 then .nan else .infinite (left < 0))
      else round (left / right)
  | .infinite left, .finite right => .infinite (left != decide (right < 0))
  | .finite _, .infinite _ => .finite 0
  | _, _ => .nan

/-- `std::clamp` on doubles: a value that compares with neither bound stays. -/
def clamp (value low high : Double) : Double :=
  if value.lt low then low else if high.lt value then high else value

end Double

/-- What a rounding to doubles is known to do: a number that a double holds stays
as it is, and no order is turned around. -/
structure Rounding.Lawful (round : Rounding) : Prop where
  keeps : ∀ (significand : Int) (shift : Nat), significand.natAbs ≤ 2 ^ 53 → shift ≤ 1074 →
    round (significand / 2 ^ shift) = .finite (significand / 2 ^ shift)
  monotone : ∀ left right, left ≤ right → (round left).le (round right) = true

/-- Exact arithmetic obeys the laws of rounding. -/
theorem Double.exact_lawful : Rounding.Lawful Double.exact where
  keeps _ _ _ _ := rfl
  monotone _ _ le := decide_eq_true le

/-- Whole numbers of so many digits stay as they are. -/
theorem Rounding.Lawful.int {round : Rounding} (lawful : Rounding.Lawful round) {number : Int}
    (small : number.natAbs ≤ 2 ^ 53) : round number = .finite number := by
  have kept := lawful.keeps number 0 small (Nat.zero_le _)
  rwa [pow_zero, div_one] at kept

theorem Double.lt_of_le_of_lt {left : Double} {middle right : ℚ}
    (le : left.le (.finite middle) = true) (lt : middle < right) : left.lt (.finite right) = true := by
  cases left with
  | finite left => exact decide_eq_true ((of_decide_eq_true le).trans_lt lt)
  | infinite negative => exact le
  | nan => exact le

theorem Double.lt_of_lt_of_le {right : Double} {left middle : ℚ} (lt : left < middle)
    (le : Double.le (.finite middle) right = true) : Double.lt (.finite left) right = true := by
  cases right with
  | finite right => exact decide_eq_true (lt.trans_le (of_decide_eq_true le))
  | infinite negative => exact le
  | nan => exact le

/-- A whole number below another one stays below it. -/
theorem Rounding.Lawful.lt_int {round : Rounding} (lawful : Rounding.Lawful round)
    {number bound : Int} (small : (bound - 1).natAbs ≤ 2 ^ 53) (less : number < bound) :
    (round number).lt (.finite bound) = true := by
  have le : (round number).le (round (bound - 1 : Int)) = true :=
    lawful.monotone _ _ (Int.cast_le.mpr (Int.le_sub_one_of_lt less))
  rw [lawful.int small] at le
  exact Double.lt_of_le_of_lt le (Int.cast_lt.mpr (sub_one_lt bound))

/-- A whole number above another one stays above it. -/
theorem Rounding.Lawful.int_lt {round : Rounding} (lawful : Rounding.Lawful round)
    {number bound : Int} (small : (bound + 1).natAbs ≤ 2 ^ 53) (more : bound < number) :
    Double.lt (.finite bound) (round number) = true := by
  have le : (round (bound + 1 : Int)).le (round number) = true :=
    lawful.monotone _ _ (Int.cast_le.mpr more)
  rw [lawful.int small] at le
  exact Double.lt_of_lt_of_le (Int.cast_lt.mpr (lt_add_one bound)) le

/-- An 8-bit colour. -/
structure Rgb where
  r : UInt8 := 0
  g : UInt8 := 0
  b : UInt8 := 0
  deriving DecidableEq

/-- The scalar a monitor reports. -/
inductive StateValue
  | monostate
  | boolean (value : Bool)
  | integer (value : Int64)
  | real (value : Double)
  | text (value : Bytes)
  deriving DecidableEq

structure MonitorState where
  id : Bytes
  status : Bytes
  value : StateValue := .monostate
  message : Bytes := []
  observedAt : TimePoint := 0
  updatedAt : TimePoint := 0
  ttl : Option Duration := none
  deriving DecidableEq

structure ResolvedState where
  state : MonitorState
  effectiveStatus : Bytes
  statusEnteredAt : TimePoint := 0
  freshnessExpired : Bool := false
  deriving DecidableEq

/-- Letters, digits, hyphen, underscore and dot. -/
def isIdentifierByte (character : UInt8) : Bool :=
  let isAsciiAlphanumeric :=
    (0x41 ≤ character && character ≤ 0x5A)
      || (0x61 ≤ character && character ≤ 0x7A)
      || (0x30 ≤ character && character ≤ 0x39)
  isAsciiAlphanumeric || character = 0x2D || character = 0x5F || character = 0x2E

def maximumIdentifierBytes : Nat := 64

def isValidIdentifier (value : Bytes) (maximumLength : Nat := maximumIdentifierBytes) : Bool :=
  !value.isEmpty && value.length ≤ maximumLength && value.all isIdentifierByte

/-- No identifier is empty. -/
theorem isValidIdentifier_ne_nil {value : Bytes} {maximumLength : Nat}
    (valid : isValidIdentifier value maximumLength = true) : value ≠ [] := by
  rintro rfl
  simp [isValidIdentifier] at valid

end PixelStatus
