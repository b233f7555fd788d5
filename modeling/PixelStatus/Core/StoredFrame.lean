/-
# Frames in memory

The dimensions and coordinates of the program are 64-bit words, and its pixels
are one vector, which the constructor makes as long as the product of the words
says. The arithmetic here is the one of the words, with its wraps, and a write
outside the vector has no result. As long as the number of the pixels is that of
the vector the drawing operations do over words what they do over numbers; a
frame whose product wraps has more places than pixels, and they do not.
-/

import Mathlib.Data.Fintype.Prod
import PixelStatus.Core.Pictures
import PixelStatus.Core.Config.Load

namespace PixelStatus

/-- A `ptrdiff_t` made of a word. -/
def ptrdiff (word : UInt64) : Int := word.toInt64.toInt

/-- A small word is itself as a difference. -/
theorem ptrdiff_eq {word : UInt64} (small : word.toNat < 2 ^ 63) :
    ptrdiff word = (word.toNat : Int) := by
  have double : 2 * word.toBitVec.toNat < 2 ^ 64 := by
    have same : word.toBitVec.toNat = word.toNat := rfl
    omega
  exact BitVec.toInt_eq_toNat_of_lt double

/-- The words in the upper half are differences below zero. -/
theorem ptrdiff_neg {word : UInt64} (large : 2 ^ 63 ≤ word.toNat) : ptrdiff word < 0 := by
  have same : word.toInt64.toBitVec.toNat = word.toNat := rfl
  apply BitVec.toInt_neg_iff.mpr
  omega

/-- A frame as the program stores it: its vector has as many pixels as the product
of its sides, a word, says, and no more than a difference of its iterators can
count. -/
structure StoredFrame where
  width : UInt64
  height : UInt64
  pixels : List Rgb
  sized : pixels.length = (width * height).toNat
  addressable : pixels.length < 2 ^ 63

namespace StoredFrame

/-- The constructor. A vector that is too long for its iterators is refused with an
exception; no other check is made of the sides. -/
def create (width height : UInt64) (initial : Rgb := {}) : Option StoredFrame :=
  if fits : (width * height).toNat < 2 ^ 63 then
    some
      { width := width
        height := height
        pixels := List.replicate (width * height).toNat initial
        sized := List.length_replicate
        addressable := List.length_replicate.trans_lt fits }
  else none

/-- The row-major index, as the words compute it. -/
def index (frame : StoredFrame) (x y : UInt64) : UInt64 := y * frame.width + x

/-- `std::fill` between two offsets; none of it is defined outside the vector. -/
def fillBetween (frame : StoredFrame) (first last : Int) (color : Rgb) : Option StoredFrame :=
  if 0 ≤ first ∧ first ≤ last ∧ last ≤ frame.pixels.length then
    some { frame with
      pixels := frame.pixels.mapIdx fun index old =>
        if first ≤ index ∧ index < last then color else old
      sized := List.length_mapIdx.trans frame.sized
      addressable := List.length_mapIdx.trans_lt frame.addressable }
  else none

/-- Write one pixel; the flag tells whether it lies inside. -/
def setPixel (frame : StoredFrame) (x y : UInt64) (color : Rgb) : Option (Bool × StoredFrame) :=
  if x ≥ frame.width ∨ y ≥ frame.height then some (false, frame)
  else if (frame.index x y).toNat < frame.pixels.length then
    some (true, { frame with
      pixels := frame.pixels.set (frame.index x y).toNat color
      sized := List.length_set.trans frame.sized
      addressable := List.length_set.trans_lt frame.addressable })
  else none

def pixel (frame : StoredFrame) (x y : UInt64) : Option Rgb :=
  if x ≥ frame.width ∨ y ≥ frame.height then none
  else frame.pixels[(frame.index x y).toNat]?

/-- The loop over the rows comes nearer to its end. -/
theorem rows_left {row bound : UInt64} (more : row < bound) :
    bound.toNat - (row + 1).toNat < bound.toNat - row.toNat := by
  have bounded := bound.toNat_lt
  have smaller := UInt64.lt_iff_toNat_lt.mp more
  rw [UInt64.toNat_add, UInt64.toNat_one]
  omega

/-- The loop over the rows, up to the one where it stops. -/
def fillRows (x width : UInt64) (color : Rgb) (row bound : UInt64) (frame : StoredFrame) :
    Option StoredFrame :=
  if more : row < bound then
    (frame.fillBetween (ptrdiff (row * frame.width + x))
      (ptrdiff (row * frame.width + x) + ptrdiff width) color).bind
      (fillRows x width color (row + 1) bound)
  else some frame
termination_by bound.toNat - row.toNat
decreasing_by exact rows_left more

/-- Fill a rectangle row by row; the flag tells whether it is filled. -/
def fillRect (frame : StoredFrame) (x y width height : UInt64) (color : Rgb) :
    Option (Bool × StoredFrame) :=
  if width = 0 ∨ height = 0 ∨ x ≥ frame.width ∨ y ≥ frame.height then some (false, frame)
  else if width > frame.width - x ∨ height > frame.height - y then some (false, frame)
  else (fillRows x width color y (y + height) frame).map fun drawn => (true, drawn)

/-- A frame that is stored: the sides are those of the numbers, the pixels too. -/
structure Stores (frame : StoredFrame) (numbers : Frame) : Prop where
  width : numbers.width = frame.width.toNat
  height : numbers.height = frame.height.toNat
  pixels : numbers.pixels = frame.pixels

/-- An operation over words does what the one over numbers does, or refuses with it
and leaves the frame alone. -/
inductive Refines (frame : StoredFrame) : Option (Bool × StoredFrame) → Option Frame → Prop
  | drawn {drawn : StoredFrame} {numbers : Frame} (stores : drawn.Stores numbers) :
      Refines frame (some (true, drawn)) (some numbers)
  | refused : Refines frame (some (false, frame)) none

variable {frame drawn : StoredFrame} {numbers : Frame} {x y width height : UInt64} {color : Rgb}

/-- The sides of a frame multiply to the number of its pixels. -/
def Exact (frame : StoredFrame) : Prop := frame.width.toNat * frame.height.toNat < 2 ^ 64

/-- A frame whose product does not wrap stores one. -/
theorem stores_of_exact (exact : frame.Exact) : ∃ numbers, frame.Stores numbers := by
  have sized : frame.pixels.length = frame.width.toNat * frame.height.toNat := by
    rw [frame.sized, UInt64.toNat_mul]
    exact Nat.mod_eq_of_lt exact
  exact ⟨⟨frame.width.toNat, frame.height.toNat, frame.pixels, sized⟩, rfl, rfl, rfl⟩

/-- Its vector has a place for every pixel. -/
theorem Stores.length (stores : frame.Stores numbers) :
    frame.pixels.length = frame.width.toNat * frame.height.toNat := by
  rw [← stores.pixels, numbers.sized, stores.width, stores.height]

/-- What is stored of frames of one size has equal sides. -/
theorem Stores.sides {filled : Frame} (before : frame.Stores numbers)
    (after : drawn.Stores filled) (same : Frame.SameSize filled numbers) :
    drawn.width = frame.width ∧ drawn.height = frame.height := by
  refine ⟨UInt64.toNat_inj.mp ?_, UInt64.toNat_inj.mp ?_⟩
  · rw [← after.width, ← before.width, same.1]
  · rw [← after.height, ← before.height, same.2]

/-! ## Nothing wraps where the product does not -/

/-- The stretch of a row that begins inside the frame ends inside the vector. -/
theorem stretch_le (stores : frame.Stores numbers) {row column : Nat}
    (across : column ≤ frame.width.toNat) (down : row < frame.height.toNat) :
    row * frame.width.toNat + column ≤ frame.pixels.length := by
  rw [stores.length]
  calc row * frame.width.toNat + column ≤ row * frame.width.toNat + frame.width.toNat :=
        Nat.add_le_add_left across _
    _ = (row + 1) * frame.width.toNat := (Nat.succ_mul _ _).symm
    _ ≤ frame.height.toNat * frame.width.toNat := Nat.mul_le_mul_right _ down
    _ = frame.width.toNat * frame.height.toNat := Nat.mul_comm _ _

/-- The index of an in-range coordinate is the one of the numbers. -/
theorem toNat_index (stores : frame.Stores numbers) (across : x.toNat ≤ frame.width.toNat)
    (down : y.toNat < frame.height.toNat) :
    (frame.index x y).toNat = y.toNat * frame.width.toNat + x.toNat := by
  have stretch := stretch_le stores across down
  have addressable := frame.addressable
  have product : (y * frame.width).toNat = y.toNat * frame.width.toNat := by
    rw [UInt64.toNat_mul, Nat.mod_eq_of_lt (by omega)]
  rw [index, UInt64.toNat_add, product, Nat.mod_eq_of_lt (by omega)]

/-- A place inside has an index inside the vector. -/
theorem index_lt (stores : frame.Stores numbers) (across : x.toNat < frame.width.toNat)
    (down : y.toNat < frame.height.toNat) : (frame.index x y).toNat < frame.pixels.length := by
  rw [toNat_index stores across.le down]
  exact stretch_le stores (Nat.succ_le_of_lt across) down

/-- Different coordinates of a frame have different indices. -/
theorem index_inj (stores : frame.Stores numbers) {x' y' : UInt64}
    (across : x.toNat < frame.width.toNat)
    (down : y.toNat < frame.height.toNat) (across' : x'.toNat < frame.width.toNat)
    (down' : y'.toNat < frame.height.toNat) (same : frame.index x y = frame.index x' y') :
    x = x' ∧ y = y' := by
  have indices := congrArg UInt64.toNat same
  rw [toNat_index stores across.le down, toNat_index stores across'.le down'] at indices
  have parts := Frame.index_inj across across' indices
  exact ⟨UInt64.toNat_inj.mp parts.1, UInt64.toNat_inj.mp parts.2⟩

/-- The check of the place is that of the frame that is stored. -/
theorem outside_iff (stores : frame.Stores numbers) : (x ≥ frame.width ∨ y ≥ frame.height) ↔
    (x.toNat ≥ numbers.width ∨ y.toNat ≥ numbers.height) := by
  rw [ge_iff_le, ge_iff_le, UInt64.le_iff_toNat_le, UInt64.le_iff_toNat_le, stores.width,
    stores.height]

/-- What passes the check is inside. -/
theorem inside_of_not_outside (inside : ¬ (x ≥ frame.width ∨ y ≥ frame.height)) :
    x.toNat < frame.width.toNat ∧ y.toNat < frame.height.toNat := by
  rw [ge_iff_le, ge_iff_le, UInt64.le_iff_toNat_le, UInt64.le_iff_toNat_le, not_or, not_le,
    not_le] at inside
  exact inside

/-! ## The words refine the numbers -/

/-- A pixel is read as that of the stored frame. -/
theorem pixel_eq (stores : frame.Stores numbers) :
    frame.pixel x y = numbers.pixel x.toNat y.toNat := by
  rw [pixel, Frame.pixel]
  by_cases outside : x ≥ frame.width ∨ y ≥ frame.height
  · rw [if_pos outside, if_pos ((outside_iff stores).mp outside)]
  · obtain ⟨across, down⟩ := inside_of_not_outside outside
    rw [if_neg outside, if_neg ((outside_iff stores).not.mp outside),
      toNat_index stores across.le down, stores.width, stores.pixels]

/-- Writing a pixel stays inside the vector. -/
theorem setPixel_refines (stores : frame.Stores numbers) :
    frame.Refines (frame.setPixel x y color) (numbers.setPixel x.toNat y.toNat color) := by
  rw [setPixel, Frame.setPixel]
  by_cases outside : x ≥ frame.width ∨ y ≥ frame.height
  · rw [if_pos outside, if_pos ((outside_iff stores).mp outside)]
    exact .refused
  · obtain ⟨across, down⟩ := inside_of_not_outside outside
    rw [if_neg outside, if_neg ((outside_iff stores).not.mp outside),
      if_pos (index_lt stores across down)]
    refine .drawn ⟨stores.width, stores.height, ?_⟩
    simp only [toNat_index stores across.le down, stores.width, stores.pixels]

/-- A run inside one row stays inside the vector. -/
theorem fillBetween_row (stores : frame.Stores numbers) {row : UInt64}
    (across : x.toNat + width.toNat ≤ frame.width.toNat)
    (down : row.toNat < frame.height.toNat) :
    ∃ drawn, frame.fillBetween (ptrdiff (row * frame.width + x))
        (ptrdiff (row * frame.width + x) + ptrdiff width) color = some drawn ∧
      drawn.Stores
        (numbers.fillRun (row.toNat * frame.width.toNat + x.toNat) width.toNat color) := by
  have stretch := stretch_le stores across down
  have addressable := frame.addressable
  have start : ptrdiff (row * frame.width + x) =
      ((row.toNat * frame.width.toNat + x.toNat : Nat) : Int) := by
    have number : (row * frame.width + x).toNat = row.toNat * frame.width.toNat + x.toNat :=
      @toNat_index frame numbers x row stores (by omega) down
    rw [ptrdiff_eq (by omega), number]
  have count : ptrdiff width = (width.toNat : Int) := ptrdiff_eq (by omega)
  rw [start, count, fillBetween, if_pos (by omega)]
  refine ⟨_, rfl, stores.width, stores.height, ?_⟩
  show numbers.pixels.mapIdx _ = frame.pixels.mapIdx _
  rw [stores.pixels]
  apply List.mapIdx_eq_mapIdx_iff.mpr
  intro index _
  apply if_congr _ rfl rfl
  omega

/-- The loop fills the rows from its first to its last. -/
theorem fillRows_refines (stores : frame.Stores numbers) {row bound : UInt64}
    (across : x.toNat + width.toNat ≤ frame.width.toNat) (down : bound.toNat ≤ frame.height.toNat) :
    ∃ drawn, fillRows x width color row bound frame = some drawn ∧
      drawn.Stores ((List.range' row.toNat (bound.toNat - row.toNat)).foldl
        (fun drawn row => drawn.fillRun (row * frame.width.toNat + x.toNat) width.toNat color)
        numbers) := by
  induction left : bound.toNat - row.toNat generalizing row frame numbers with
  | zero =>
      rw [fillRows, dif_neg (by rw [UInt64.lt_iff_toNat_lt]; omega)]
      exact ⟨frame, rfl, stores⟩
  | succ count ih =>
      have more : row < bound := by
        rw [UInt64.lt_iff_toNat_lt]
        omega
      have bounded := bound.toNat_lt
      have following : (row + 1).toNat = row.toNat + 1 := by
        rw [UInt64.toNat_add, UInt64.toNat_one, Nat.mod_eq_of_lt (by omega)]
      obtain ⟨filled, written, same⟩ :=
        @fillBetween_row frame numbers x width color stores row across (by omega)
      obtain ⟨across', down'⟩ := stores.sides same ⟨rfl, rfl⟩
      obtain ⟨drawn, looped, rows⟩ := @ih filled _ same (row + 1) (by rw [across']; exact across)
        (by rw [down']; exact down) (by rw [following]; omega)
      refine ⟨drawn, ?_, ?_⟩
      · rw [fillRows, dif_pos more, written, Option.bind_some, looped]
      · rw [across', following] at rows
        rwa [List.range'_succ, List.foldl_cons]

theorem toNat_sub_of_lt {left right : UInt64} (smaller : right.toNat < left.toNat) :
    (left - right).toNat = left.toNat - right.toNat :=
  UInt64.toNat_sub_of_le left right (UInt64.le_iff_toNat_le.mpr smaller.le)

/-- The range check of the words is the one of the numbers, and the loop it
admits stays inside the vector. -/
theorem fillRect_refines (stores : frame.Stores numbers) :
    frame.Refines (frame.fillRect x y width height color)
      (numbers.fillRect x.toNat y.toNat width.toNat height.toNat color) := by
  have empty : (width = 0 ∨ height = 0 ∨ x ≥ frame.width ∨ y ≥ frame.height) ↔
      (width.toNat = 0 ∨ height.toNat = 0 ∨ x.toNat ≥ numbers.width ∨
        y.toNat ≥ numbers.height) := by
    rw [outside_iff stores, ← UInt64.toNat_inj, ← UInt64.toNat_inj]
    rfl
  rw [fillRect, Frame.fillRect]
  by_cases nothing : width = 0 ∨ height = 0 ∨ x ≥ frame.width ∨ y ≥ frame.height
  · rw [if_pos nothing, if_pos (empty.mp nothing)]
    exact .refused
  · obtain ⟨across, down⟩ := inside_of_not_outside fun outside => nothing (.inr (.inr outside))
    have room : (width > frame.width - x ∨ height > frame.height - y) ↔
        (width.toNat > numbers.width - x.toNat ∨ height.toNat > numbers.height - y.toNat) := by
      rw [gt_iff_lt, gt_iff_lt, UInt64.lt_iff_toNat_lt, UInt64.lt_iff_toNat_lt,
        toNat_sub_of_lt across, toNat_sub_of_lt down, stores.width, stores.height]
    rw [if_neg nothing, if_neg (empty.not.mp nothing)]
    by_cases beyond : width > frame.width - x ∨ height > frame.height - y
    · rw [if_pos beyond, if_pos (room.mp beyond)]
      exact .refused
    · rw [if_neg beyond, if_neg (room.not.mp beyond)]
      rw [room, not_or, Nat.not_lt, Nat.not_lt, stores.width, stores.height] at beyond
      have bounded := frame.height.toNat_lt
      have bound : (y + height).toNat = y.toNat + height.toNat := by
        rw [UInt64.toNat_add, Nat.mod_eq_of_lt (by omega)]
      obtain ⟨drawn, looped, rows⟩ := @fillRows_refines frame numbers x width color stores y
        (y + height) (by omega) (by omega)
      rw [bound, Nat.add_sub_cancel_left, ← stores.width] at rows
      rw [looped]
      exact .drawn rows

/-! ## The contract -/

/-- What a call of `fill_rect` owes: it returns true exactly for a rectangle that
is not empty and lies inside the frame as numbers, then it has painted it and
nothing else, and otherwise it has left the frame alone. -/
def Fills (frame : StoredFrame) (x y width height : UInt64) (color : Rgb) : Prop :=
  ∃ accepted drawn, frame.fillRect x y width height color = some (accepted, drawn) ∧
    (accepted = true ↔ (0 < width.toNat ∧ 0 < height.toNat) ∧
      x.toNat + width.toNat ≤ frame.width.toNat ∧
      y.toNat + height.toNat ≤ frame.height.toNat) ∧
    (accepted = true → (drawn.width = frame.width ∧ drawn.height = frame.height) ∧
      ∀ i j : UInt64, drawn.pixel i j =
        if (x.toNat ≤ i.toNat ∧ i.toNat < x.toNat + width.toNat) ∧
            y.toNat ≤ j.toNat ∧ j.toNat < y.toNat + height.toNat then some color
        else frame.pixel i j) ∧
    (accepted = false → drawn = frame)

/-- The row-major index of in-range coordinates is in range and injective. -/
structure Indexed (frame : StoredFrame) : Prop where
  inside : ∀ i j : UInt64, i.toNat < frame.width.toNat → j.toNat < frame.height.toNat →
    (frame.index i j).toNat < frame.pixels.length
  injective : ∀ i j i' j' : UInt64,
    i.toNat < frame.width.toNat → j.toNat < frame.height.toNat →
    i'.toNat < frame.width.toNat → j'.toNat < frame.height.toNat →
    frame.index i j = frame.index i' j' → i = i' ∧ j = j'

/-- No index leaves the vector. -/
theorem indexed_of_stores (stores : frame.Stores numbers) : frame.Indexed where
  inside _ _ across down := index_lt stores across down
  injective _ _ _ _ across down across' down' := index_inj stores across down across' down'

/-- What a filled rectangle leaves in a place. -/
theorem pixel_of_filled {filled : Frame} (before : frame.Stores numbers)
    (after : drawn.Stores filled)
    (painted : numbers.fillRect x.toNat y.toNat width.toNat height.toNat color = some filled)
    (i j : UInt64) :
    drawn.pixel i j =
      if LayoutBounds.Covers
          { x := x.toNat, y := y.toNat, width := width.toNat, height := height.toNat }
          i.toNat j.toNat then some color
      else frame.pixel i j := by
  have shown := congrFun (Frame.fillRect_paints painted).picture (i.toNat, j.toNat)
  rw [Frame.picture, Layer.beneath, rectangle, Layer.area] at shown
  rw [pixel_eq before, pixel_eq after, shown, Frame.picture]
  split
  · rfl
  · rfl

/-- No rectangle does. -/
theorem fills_of_stores (stores : frame.Stores numbers) (x y width height : UInt64)
    (color : Rgb) : frame.Fills x y width height color := by
  have inside := @Frame.fillRect_isSome_iff numbers x.toNat y.toNat width.toNat height.toNat color
  have refines := @fillRect_refines frame numbers x y width height color stores
  rw [stores.width, stores.height] at inside
  cases painted : numbers.fillRect x.toNat y.toNat width.toNat height.toNat color with
  | none =>
      rw [painted] at refines inside
      generalize result : frame.fillRect x y width height color = outcome at refines
      obtain - | - := refines
      exact ⟨false, frame, result, inside, Bool.noConfusion, fun _ => rfl⟩
  | some filled =>
      rw [painted] at refines inside
      generalize result : frame.fillRect x y width height color = outcome at refines
      obtain @⟨drawn, _, after⟩ | - := refines
      have same := (Frame.fillRect_paints painted).size
      refine ⟨true, drawn, result, inside, fun _ => ⟨stores.sides after same, ?_⟩,
        Bool.noConfusion⟩
      intro i j
      exact pixel_of_filled stores after painted i j

/-! ## Where the product wraps -/

/-- Filling one place inside the sides writes one pixel, or none of it is defined. -/
theorem fillRect_one (across : x.toNat < frame.width.toNat) (down : y.toNat < frame.height.toNat) :
    frame.fillRect x y 1 1 color =
      (frame.fillBetween (ptrdiff (frame.index x y)) (ptrdiff (frame.index x y) + 1) color).map
        fun drawn => (true, drawn) := by
  have one : (1 : UInt64).toNat = 1 := UInt64.toNat_one
  have nothing : ¬ ((1 : UInt64) = 0 ∨ (1 : UInt64) = 0 ∨ x ≥ frame.width ∨ y ≥ frame.height) := by
    have positive : (1 : UInt64) ≠ 0 := by decide
    rw [ge_iff_le, ge_iff_le, UInt64.le_iff_toNat_le, UInt64.le_iff_toNat_le]
    simp only [positive, false_or]
    omega
  have room : ¬ ((1 : UInt64) > frame.width - x ∨ (1 : UInt64) > frame.height - y) := by
    rw [gt_iff_lt, gt_iff_lt, UInt64.lt_iff_toNat_lt, UInt64.lt_iff_toNat_lt,
      toNat_sub_of_lt across, toNat_sub_of_lt down, one]
    omega
  have bounded := frame.height.toNat_lt
  have following : (y + 1).toNat = y.toNat + 1 := by
    rw [UInt64.toNat_add, one, Nat.mod_eq_of_lt (by omega)]
  have more : y < y + 1 := by
    rw [UInt64.lt_iff_toNat_lt]
    omega
  have single : ptrdiff 1 = 1 := rfl
  rw [fillRect, if_neg nothing, if_neg room, fillRows, dif_pos more, single, ← index]
  congr 1
  cases frame.fillBetween (ptrdiff (frame.index x y)) (ptrdiff (frame.index x y) + 1) color with
  | none => rfl
  | some drawn => rw [Option.bind_some, fillRows, dif_neg (UInt64.lt_irrefl _)]

/-- A run of one pixel is written inside the vector or not at all. -/
theorem fillBetween_one {word : UInt64}
    (written : frame.fillBetween (ptrdiff word) (ptrdiff word + 1) color = some drawn) :
    word.toNat < frame.pixels.length ∧
      drawn.pixels = frame.pixels.mapIdx fun index old =>
        if index = word.toNat then color else old := by
  rw [fillBetween, Option.ite_none_right_eq_some] at written
  obtain ⟨⟨low, -, high⟩, same⟩ := written
  have small : word.toNat < 2 ^ 63 := by
    by_contra large
    exact absurd low (not_le.mpr (ptrdiff_neg (not_lt.mp large)))
  rw [ptrdiff_eq small] at high same
  refine ⟨by omega, ?_⟩
  rw [← Option.some.inj same]
  apply List.mapIdx_eq_mapIdx_iff.mpr
  intro index _
  apply if_congr _ rfl rfl
  omega

/-- Every colour is not the only one. -/
theorem exists_other (color : Rgb) : ∃ other : Rgb, other ≠ color := by
  by_cases black : color = {}
  · exact ⟨{ r := 255 }, by rw [black]; decide⟩
  · exact ⟨{}, Ne.symm black⟩

/-- A frame that fills single places as it should has an index for each of them. -/
theorem indexed_of_fills (fills : ∀ i j color, frame.Fills i j 1 1 color) : frame.Indexed := by
  have inside (i j : UInt64) (across : i.toNat < frame.width.toNat)
      (down : j.toNat < frame.height.toNat) (color : Rgb) :
      ∃ drawn : StoredFrame, (frame.index i j).toNat < frame.pixels.length ∧
        drawn.width = frame.width ∧ drawn.height = frame.height ∧
        drawn.pixels = (frame.pixels.mapIdx fun index old =>
          if index = (frame.index i j).toNat then color else old) ∧
        ∀ i' j' : UInt64, ¬ (i' = i ∧ j' = j) → drawn.pixel i' j' = frame.pixel i' j' := by
    obtain ⟨accepted, drawn, result, yes, paints, -⟩ := fills i j color
    rw [fillRect_one across down, Option.map_eq_some_iff] at result
    obtain ⟨written, between, same⟩ := result
    obtain ⟨rfl, rfl⟩ := Prod.mk.inj same
    obtain ⟨low, pixels⟩ := fillBetween_one between
    obtain ⟨sides, places⟩ := paints rfl
    refine ⟨written, low, sides.1, sides.2, pixels, fun i' j' other => ?_⟩
    rw [places i' j', if_neg]
    rintro ⟨⟨left, right⟩, top, bottom⟩
    rw [UInt64.toNat_one] at right bottom
    exact other ⟨UInt64.toNat_inj.mp (by omega), UInt64.toNat_inj.mp (by omega)⟩
  refine ⟨fun i j across down => ?_, ?_⟩
  · obtain ⟨-, low, -⟩ := inside i j across down {}
    exact low
  · intro i j i' j' across down across' down' same
    by_contra different
    -- Another place with the index would take the colour with this one.
    obtain ⟨old, found⟩ : ∃ old, frame.pixels[(frame.index i j).toNat]? = some old := by
      obtain ⟨-, low, -⟩ := inside i j across down {}
      exact ⟨_, List.getElem?_eq_getElem low⟩
    obtain ⟨color, fresh⟩ := exists_other old
    obtain ⟨drawn, low, wide, tall, pixels, kept⟩ := inside i j across down color
    have outside : ¬ (i' ≥ frame.width ∨ j' ≥ frame.height) := by
      rw [ge_iff_le, ge_iff_le, UInt64.le_iff_toNat_le, UInt64.le_iff_toNat_le]
      omega
    have untouched := kept i' j' fun equal => different ⟨equal.1.symm, equal.2.symm⟩
    rw [pixel, pixel, wide, tall, if_neg outside, if_neg outside, index, wide, ← index, ← same,
      pixels, List.getElem?_mapIdx, found, Option.map_some, if_pos rfl] at untouched
    exact fresh (Option.some.inj untouched)

/-- There is no room for the indices of more places than there are words. -/
theorem exact_of_indexed (indexed : frame.Indexed) : frame.Exact := by
  have word {number : Nat} {bound : UInt64} (small : number < bound.toNat) :
      (UInt64.ofNat number).toNat = number :=
    UInt64.toNat_ofNat_of_lt' (small.trans bound.toNat_lt)
  let place : Fin frame.width.toNat × Fin frame.height.toNat → Fin frame.pixels.length :=
    fun item => ⟨(frame.index (UInt64.ofNat item.1) (UInt64.ofNat item.2)).toNat,
      indexed.inside _ _ (by rw [word item.1.isLt]; exact item.1.isLt)
        (by rw [word item.2.isLt]; exact item.2.isLt)⟩
  have injective : Function.Injective place := by
    intro left right same
    have indices : (frame.index (UInt64.ofNat left.1) (UInt64.ofNat left.2)).toNat =
        (frame.index (UInt64.ofNat right.1) (UInt64.ofNat right.2)).toNat :=
      Fin.mk.inj same
    have parts := indexed.injective _ _ _ _
      (by rw [word left.1.isLt]; exact left.1.isLt) (by rw [word left.2.isLt]; exact left.2.isLt)
      (by rw [word right.1.isLt]; exact right.1.isLt)
      (by rw [word right.2.isLt]; exact right.2.isLt)
      (UInt64.toNat_inj.mp indices)
    have across := congrArg UInt64.toNat parts.1
    have down := congrArg UInt64.toNat parts.2
    rw [word left.1.isLt, word right.1.isLt] at across
    rw [word left.2.isLt, word right.2.isLt] at down
    exact Prod.ext (Fin.ext across) (Fin.ext down)
  have places := Fintype.card_le_of_injective place injective
  rw [Fintype.card_prod, Fintype.card_fin, Fintype.card_fin, Fintype.card_fin] at places
  exact (places.trans_lt frame.addressable).trans (by decide)

/-- Every call of `fill_rect` on a frame keeps to its contract if and only if the
frame's sides multiply to the number of its pixels, and if and only if the
row-major index is in range and injective. -/
theorem fillRect_contract (frame : StoredFrame) :
    ((∀ x y width height color, frame.Fills x y width height color) ↔
      frame.width.toNat * frame.height.toNat < 2 ^ 64) ∧
    (frame.Indexed ↔ frame.width.toNat * frame.height.toNat < 2 ^ 64) := by
  refine ⟨⟨fun fills => ?_, fun exact => ?_⟩, exact_of_indexed, fun exact => ?_⟩
  · exact exact_of_indexed (indexed_of_fills fun i j color => fills i j 1 1 color)
  · obtain ⟨numbers, stores⟩ := stores_of_exact exact
    exact fills_of_stores stores
  · obtain ⟨numbers, stores⟩ := stores_of_exact exact
    exact indexed_of_stores stores

/-- A frame of 2^32 by 2^32 places and no pixel. -/
def wrapped : StoredFrame where
  width := 4294967296
  height := 4294967296
  pixels := []
  sized := by decide
  addressable := by decide

/-- The constructor makes it of these sides, and to fill its first place is to write
outside its vector. -/
theorem fillRect_contract_wrapped : create 4294967296 4294967296 = some wrapped ∧
    wrapped.fillRect 0 0 1 1 {} = none ∧ ¬ wrapped.Fills 0 0 1 1 {} := by
  have undefined : wrapped.fillRect 0 0 1 1 {} = none := by
    rw [fillRect_one (by decide) (by decide), fillBetween, if_neg (by decide)]
    rfl
  refine ⟨?_, undefined, ?_⟩
  · rw [create, dif_pos (by decide)]
    rfl
  · rintro ⟨accepted, drawn, result, -⟩
    rw [undefined] at result
    cases result

end StoredFrame

/-! ## The frames of the program -/

section

open Logged

variable {platform : Platform} {round : Rounding} {root : Members}

/-- The sides of a loaded display are in their range. -/
theorem parseConfig_sides : Ensures (fun config : AppConfig =>
      config.display.width ≤ maximumDimension ∧ config.display.height ≤ maximumDimension)
    (parseConfig platform round root) := by
  apply Ensures.step
  intro _
  apply Ensures.step
  intro schemaVersion
  apply parseDisplay_sides.bind
  intro display sides
  apply Ensures.step
  intro statuses
  apply Ensures.step
  intro monitors
  apply Ensures.step
  intro contents
  exact Ensures.pure ⟨sides.1.2, sides.2.2⟩

/-- Every frame of a loaded display can be stored. -/
theorem display_storable {parse : Bytes → Option Json} {path : Bytes} {file : ConfigFile}
    {config : AppConfig}
    (loaded : (loadConfigFile platform round parse path file).config = some config) :
    (UInt64.ofNat config.display.width).toNat = config.display.width ∧
      (UInt64.ofNat config.display.height).toNat = config.display.height ∧
      config.display.width * config.display.height < 2 ^ 63 := by
  obtain ⟨root, silent, rfl⟩ := parseConfig_of_loadConfigFile loaded
  obtain ⟨wide, tall⟩ := parseConfig_sides.value silent
  refine ⟨UInt64.toNat_ofNat_of_lt' (wide.trans_lt (by decide)),
    UInt64.toNat_ofNat_of_lt' (tall.trans_lt (by decide)), ?_⟩
  exact (Nat.mul_le_mul wide tall).trans_lt (by decide)

end

end PixelStatus
