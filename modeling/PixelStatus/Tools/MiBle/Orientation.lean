/-
# How a frame lies on the panel

The options of `transform_frame` choose one of the eight symmetries of the
square and one of the six orders of the colour channels. A transform moves every
pixel by the one and reorders it by the other, so transforms compose to
transforms, and each can be undone.
-/

import Mathlib.Algebra.Group.Action.Basic
import Mathlib.Data.Fintype.Perm
import Mathlib.Tactic.FinCases
import PixelStatus.Logic.Outcome
import PixelStatus.Logic.Scatter
import PixelStatus.Logic.SquareSymmetry
import PixelStatus.Tools.MiBle.Protocol

namespace PixelStatus.MiBle

open Outcome

/-- A place of the matrix, by column and row. -/
abbrev Place := Fin 16 × Fin 16

/-! ## The symmetry of the options -/

/-- The symmetry that a rotation stands for. -/
def turnOf (rotation : Int) : SquareSymmetry :=
  if rotation = 0 then {}
  else if rotation = 90 then { exchange := true, reverseX := true }
  else if rotation = 180 then { reverseX := true, reverseY := true }
  else { exchange := true, reverseY := true }

/-- The symmetry that the options choose: the mirrors after the turn. -/
def symmetryOf (options : TransformOptions) : SquareSymmetry :=
  { reverseX := options.mirrorX, reverseY := options.mirrorY } * turnOf options.rotation

/-- A coordinate counted from the other end. -/
theorem reversed (coordinate : Fin 16) : 16 - 1 - coordinate.val = coordinate.rev.val := by
  rw [Fin.val_rev]
  omega

/-- Where a rotation moves a pixel. -/
theorem turned (rotation : Int) (place : Place) :
    (if rotation = 0 then (place.1.val, place.2.val)
      else if rotation = 90 then (panelWidth - 1 - place.2.val, place.1.val)
      else if rotation = 180 then (panelWidth - 1 - place.1.val, panelHeight - 1 - place.2.val)
      else (place.2.val, panelHeight - 1 - place.1.val)) =
      ((turnOf rotation • place).1.val, (turnOf rotation • place).2.val) := by
  simp only [panelWidth, panelHeight, reversed, turnOf]
  split
  · rfl
  split
  · rfl
  split
  · rfl
  · rfl

/-- A pixel goes where the symmetry moves its place. -/
theorem targetOf_eq (options : TransformOptions) (place : Place) :
    targetOf options place.1 place.2 =
      ((symmetryOf options • place).1.val, (symmetryOf options • place).2.val) := by
  rw [symmetryOf, mul_smul, targetOf, turned]
  simp only [panelWidth, panelHeight, reversed]
  cases options.mirrorX <;> cases options.mirrorY <;> rfl

/-- Options that choose a symmetry. -/
def optionsOf (symmetry : SquareSymmetry) (colorOrder : PyText) : TransformOptions :=
  if symmetry.exchange then
    { rotation := 90, mirrorX := !symmetry.reverseX, mirrorY := symmetry.reverseY, colorOrder }
  else { mirrorX := symmetry.reverseX, mirrorY := symmetry.reverseY, colorOrder }

/-- Every symmetry is chosen by some options. -/
theorem symmetryOf_optionsOf (symmetry : SquareSymmetry) (colorOrder : PyText) :
    symmetryOf (optionsOf symmetry colorOrder) = symmetry := by
  obtain ⟨exchange, reverseX, reverseY⟩ := symmetry
  cases exchange <;> simp [symmetryOf, optionsOf, turnOf, SquareSymmetry.mul_def,
    SquareSymmetry.after]

/-! ## The order of the channels -/

/-- A channel of a colour. -/
def channelOf (color : Rgb) : Fin 3 → UInt8
  | 0 => color.r
  | 1 => color.g
  | 2 => color.b

/-- The letter of a channel. -/
def letterOf : Fin 3 → Nat
  | 0 => 0x52
  | 1 => 0x47
  | 2 => 0x42

/-- The colour order that a permutation of the channels stands for. -/
def orderText (order : Equiv.Perm (Fin 3)) : PyText :=
  [letterOf (order 0), letterOf (order 1), letterOf (order 2)]

/-- A colour with its channels in another order. -/
def permute (order : Equiv.Perm (Fin 3)) (color : Rgb) : Rgb where
  r := channelOf color (order 0)
  g := channelOf color (order 1)
  b := channelOf color (order 2)

/-- The letter of a channel names it. -/
theorem channelNamed_letterOf (color : Rgb) (channel : Fin 3) :
    channelNamed color (some (letterOf channel)) = channelOf color channel := by
  fin_cases channel <;> rfl

/-- Reordering by a permutation's text permutes the channels. -/
theorem reorderColor_orderText (color : Rgb) (order : Equiv.Perm (Fin 3)) :
    reorderColor color (orderText order) = permute order color := by
  simp only [reorderColor, orderText, List.getElem?_cons_zero, List.getElem?_cons_succ,
    channelNamed_letterOf, permute]

/-- A channel of a permuted colour is the channel the permutation names. -/
theorem channelOf_permute (order : Equiv.Perm (Fin 3)) (color : Rgb) (channel : Fin 3) :
    channelOf (permute order color) channel = channelOf color (order channel) := by
  fin_cases channel <;> rfl

/-- Permuting twice is permuting by the product. -/
theorem permute_permute (first second : Equiv.Perm (Fin 3)) (color : Rgb) :
    permute second (permute first color) = permute (first * second) color := by
  rw [permute, channelOf_permute, channelOf_permute, channelOf_permute]
  rfl

theorem permute_one (color : Rgb) : permute 1 color = color := rfl

/-- The text of a permutation is a valid colour order. -/
theorem validateColorOrder_orderText (order : Equiv.Perm (Fin 3)) :
    validateColorOrder (orderText order) = .ok (orderText order) := by
  revert order
  decide

/-- A valid colour order is the text of a permutation. -/
theorem exists_orderText {colorOrder order : PyText}
    (valid : validateColorOrder colorOrder = .ok order) :
    ∃ permutation, order = orderText permutation := by
  unfold validateColorOrder at valid
  dsimp only at valid
  split at valid
  · cases valid
  next accepted =>
    rw [not_or, not_not, not_not] at accepted
    obtain ⟨length, covers, covered⟩ := accepted
    cases valid
    obtain ⟨first, second, third, same⟩ := List.length_eq_three.mp length
    rw [same] at covers covered ⊢
    have letters : ∀ letter ∈ [first, second, third], letter ∈ pyText "RGB" :=
      fun letter member => covered member
    have permutations : ∀ first ∈ pyText "RGB", ∀ second ∈ pyText "RGB",
        ∀ third ∈ pyText "RGB", pyText "RGB" ⊆ [first, second, third] →
          ∃ permutation, [first, second, third] = orderText permutation := by
      decide
    exact permutations first (letters first (by simp)) second (letters second (by simp)) third
      (letters third (by simp)) covers

/-! ## What a transform does -/

/-- The options are accepted: a quarter turn, and an order of the channels. -/
structure Accepted (options : TransformOptions) (order : Equiv.Perm (Fin 3)) : Prop where
  rotates : options.rotation ∈ [0, 90, 180, 270]
  orders : validateColorOrder options.colorOrder = .ok (orderText order)

/-- The options chosen for a symmetry and an order are accepted. -/
theorem accepted_optionsOf (symmetry : SquareSymmetry) (order : Equiv.Perm (Fin 3)) :
    Accepted (optionsOf symmetry (orderText order)) order := by
  unfold optionsOf
  split
  · exact ⟨by simp, validateColorOrder_orderText order⟩
  · exact ⟨by simp, validateColorOrder_orderText order⟩

/-- The index of a place in row-major order. -/
def indexOf (place : Place) : Nat := xyToIndex place.1 place.2

/-- The index of a place lies inside the frame. -/
theorem indexOf_lt (place : Place) : indexOf place < pixelCount := by
  obtain ⟨x, y⟩ := place
  simp only [indexOf, xyToIndex, pixelCount, panelWidth, panelHeight]
  omega

/-- Different places have different indices. -/
theorem indexOf_injective {first second : Place} (same : indexOf first = indexOf second) :
    first = second := by
  obtain ⟨x, y⟩ := first
  obtain ⟨x', y'⟩ := second
  simp only [indexOf, xyToIndex, panelWidth] at same
  have columns : x.val = x'.val := by omega
  have rows : y.val = y'.val := by omega
  exact Prod.ext (Fin.ext columns) (Fin.ext rows)

/-- Every index is that of a place. -/
theorem exists_indexOf {index : Nat} (inside : index < pixelCount) :
    ∃ place, indexOf place = index := by
  simp only [pixelCount, panelWidth, panelHeight] at inside
  refine ⟨(⟨index % 16, by omega⟩, ⟨index / 16, by omega⟩), ?_⟩
  simp only [indexOf, xyToIndex, panelWidth]
  omega

/-- The pixel at a place of the panel. -/
def pixelAtPlace (pixels : Pixels) (place : Place) : Rgb :=
  have inside := indexOf_lt place
  pixels[indexOf place]

/-- A panel is known by its places. -/
theorem pixels_ext {first second : Pixels}
    (same : ∀ place, pixelAtPlace first place = pixelAtPlace second place) :
    first = second := by
  ext index inside
  obtain ⟨place, rfl⟩ := exists_indexOf inside
  exact same place

/-- The writes of a transform in their order. -/
def writesOf (options : TransformOptions) (order : PyText) (source : List Rgb) :
    List (Nat × Rgb) :=
  (List.range panelHeight).flatMap fun sourceY =>
    (List.range panelWidth).map fun sourceX =>
      let target := targetOf options sourceX sourceY
      (xyToIndex target.1 target.2,
        reorderColor (source[xyToIndex sourceX sourceY]?.getD {}) order)

/-- A transformed frame is the scatter of its source's writes. -/
theorem transformFrame_eq {options : TransformOptions} {order : Equiv.Perm (Fin 3)}
    {source : List Rgb} (accepted : Accepted options order)
    (sized : source.length = pixelCount) :
    transformFrame options source = .ok (Scatter.write (Vector.replicate pixelCount {})
      (writesOf options (orderText order) source)) := by
  rw [transformFrame, if_neg (not_not.mpr sized), if_neg (not_not.mpr accepted.rotates),
    accepted.orders]
  simp only [writesOf, Scatter.write, List.foldl_flatMap, List.foldl_map]
  rfl

/-- The pixel at a place of a logical frame. -/
def sourceAt (source : List Rgb) (place : Place) : Rgb := source[indexOf place]?.getD {}

/-- Every write is that of a place, which the symmetry moves. -/
theorem mem_writesOf {options : TransformOptions} {order : Equiv.Perm (Fin 3)}
    {source : List Rgb} {item : Nat × Rgb} :
    item ∈ writesOf options (orderText order) source ↔
      ∃ place : Place, item =
        (indexOf (symmetryOf options • place), permute order (sourceAt source place)) := by
  have written (place : Place) :
      (xyToIndex (targetOf options place.1 place.2).1 (targetOf options place.1 place.2).2,
        reorderColor (source[xyToIndex place.1 place.2]?.getD {}) (orderText order)) =
      (indexOf (symmetryOf options • place), permute order (sourceAt source place)) := by
    rw [targetOf_eq, reorderColor_orderText]
    rfl
  simp only [writesOf, List.mem_flatMap, List.mem_map, List.mem_range]
  constructor
  · rintro ⟨y, rows, x, columns, rfl⟩
    exact ⟨(⟨x, columns⟩, ⟨y, rows⟩), written (⟨x, columns⟩, ⟨y, rows⟩)⟩
  · rintro ⟨place, rfl⟩
    exact ⟨place.2, place.2.isLt, place.1, place.1.isLt, written place⟩

/-- An accepted transform of a frame moves and reorders every pixel. -/
theorem transformFrame_places {options : TransformOptions} {order : Equiv.Perm (Fin 3)}
    {source : List Rgb} (accepted : Accepted options order)
    (sized : source.length = pixelCount) :
    ∃ physical, transformFrame options source = .ok physical ∧
      ∀ place, pixelAtPlace physical (symmetryOf options • place) =
        permute order (sourceAt source place) := by
  refine ⟨_, transformFrame_eq accepted sized, ?_⟩
  intro place
  apply Scatter.getElem_write
  · intro item member there
    obtain ⟨other, rfl⟩ := mem_writesOf.mp member
    rw [MulAction.injective _ (indexOf_injective there)]
  · exact ⟨_, mem_writesOf.mpr ⟨place, rfl⟩, rfl⟩

/-- Reading a frame's list at a place is reading the frame there. -/
theorem sourceAt_toList (pixels : Pixels) (place : Place) :
    sourceAt pixels.toList place = pixelAtPlace pixels place := by
  have inside : indexOf place < pixels.toList.length :=
    (indexOf_lt place).trans_eq pixels.length_toList.symm
  rw [sourceAt, List.getElem?_eq_getElem inside, Option.getD_some, pixelAtPlace,
    Vector.getElem_toList]

/-- Frames that agree at every place are the same. -/
theorem eq_of_sourceAt {first second : List Rgb} (sized : first.length = pixelCount)
    (sizedToo : second.length = pixelCount)
    (same : ∀ place, sourceAt first place = sourceAt second place) : first = second := by
  apply List.ext_getElem (sized.trans sizedToo.symm)
  intro index inside insideToo
  obtain ⟨place, rfl⟩ := exists_indexOf (inside.trans_eq sized)
  have there := same place
  rwa [sourceAt, sourceAt, List.getElem?_eq_getElem inside, List.getElem?_eq_getElem insideToo,
    Option.getD_some, Option.getD_some] at there

/-- One transform behind another is the transform of the composed options. -/
theorem transformFrame_after {first second : TransformOptions}
    {firstOrder secondOrder : Equiv.Perm (Fin 3)} {source : List Rgb} {middle : Pixels}
    (acceptedFirst : Accepted first firstOrder) (acceptedSecond : Accepted second secondOrder)
    (sized : source.length = pixelCount) (moved : transformFrame first source = .ok middle) :
    transformFrame second middle.toList =
      transformFrame (optionsOf (symmetryOf second * symmetryOf first)
        (orderText (firstOrder * secondOrder))) source := by
  obtain ⟨between, okFirst, placesFirst⟩ := transformFrame_places acceptedFirst sized
  obtain rfl : middle = between := Except.ok.inj (moved.symm.trans okFirst)
  obtain ⟨last, okSecond, placesSecond⟩ :=
    transformFrame_places acceptedSecond middle.length_toList
  obtain ⟨both, okBoth, placesBoth⟩ := transformFrame_places
    (accepted_optionsOf (symmetryOf second * symmetryOf first) (firstOrder * secondOrder)) sized
  have same : last = both := by
    apply pixels_ext
    intro place
    obtain ⟨start, rfl⟩ :=
      MulAction.surjective (symmetryOf second * symmetryOf first) place
    have composed := placesBoth start
    rw [symmetryOf_optionsOf, ← permute_permute, ← placesFirst, ← sourceAt_toList middle,
      ← placesSecond, ← mul_smul] at composed
    exact composed.symm
  rw [okSecond, okBoth, same]

/-- The options that undo a transform. -/
def undo (options : TransformOptions) (order : Equiv.Perm (Fin 3)) : TransformOptions :=
  optionsOf (symmetryOf options)⁻¹ (orderText order⁻¹)

/-- What one transform did another one undoes. -/
theorem transformFrame_undo {options : TransformOptions} {order : Equiv.Perm (Fin 3)}
    {source : List Rgb} {physical : Pixels} (accepted : Accepted options order)
    (sized : source.length = pixelCount) (moved : transformFrame options source = .ok physical) :
    ∃ restored, transformFrame (undo options order) physical.toList = .ok restored ∧
      restored.toList = source := by
  obtain ⟨restored, ok, places⟩ := transformFrame_places
    (accepted_optionsOf 1 1) sized
  have undone := transformFrame_after accepted
    (accepted_optionsOf (symmetryOf options)⁻¹ order⁻¹) sized moved
  rw [symmetryOf_optionsOf, inv_mul_cancel, mul_inv_cancel, ok] at undone
  refine ⟨restored, undone, eq_of_sourceAt restored.length_toList sized ?_⟩
  intro place
  have there := places place
  rw [symmetryOf_optionsOf, one_smul, permute_one] at there
  rw [sourceAt_toList, there]

/-- What `transform_frame` asks of its options. -/
def Valid (options : TransformOptions) : Prop :=
  options.rotation ∈ [0, 90, 180, 270] ∧
    ∃ order, validateColorOrder options.colorOrder = .ok order

/-- Valid options are those that name an order of the channels. -/
theorem valid_iff {options : TransformOptions} :
    Valid options ↔ ∃ order, Accepted options order := by
  constructor
  · rintro ⟨rotates, order, valid⟩
    obtain ⟨permutation, rfl⟩ := exists_orderText valid
    exact ⟨permutation, rotates, valid⟩
  · rintro ⟨order, accepted⟩
    exact ⟨accepted.rotates, orderText order, accepted.orders⟩

/-! ## The values of a caller -/

/-- What `transform_frame` objects to: the first colour that is none, the number of
pixels, the rotation, or the colour order. -/
inductive Refusal (options : TransformOptions) (values : List (List PyValue)) : String → Prop
  | color {value : List PyValue} {message : String} (member : value ∈ values)
      (wrong : validateRgb value = .error message) : Refusal options values message
  | size {source : List Rgb} (colors : values = source.map channels)
      (wrong : source.length ≠ pixelCount) :
      Refusal options values "an MI frame must contain exactly 256 pixels"
  | rotation (wrong : options.rotation ∉ [0, 90, 180, 270]) :
      Refusal options values "rotation must be 0, 90, 180, or 270 degrees"
  | order {message : String} (wrong : validateColorOrder options.colorOrder = .error message) :
      Refusal options values message

/-- A refused frame is refused for one of its values. -/
theorem mapM_validateRgb_failsWith (values : List (List PyValue)) :
    FailsWith (fun message => ∃ value ∈ values, validateRgb value = .error message)
      (values.mapM validateRgb) := by
  induction values with
  | nil => exact FailsWith.ok []
  | cons value values ih =>
      rw [List.mapM_cons]
      refine FailsWith.bind ?_ fun color _ => FailsWith.bind ?_ fun colors _ => FailsWith.ok _
      · exact fun message wrong => ⟨value, List.mem_cons_self, wrong⟩
      · intro message wrong
        obtain ⟨other, member, wrong⟩ := ih message wrong
        exact ⟨other, List.mem_cons_of_mem _ member, wrong⟩

/-- A transform of colours goes wrong only over what it objects to. -/
theorem transformFrameValues_ends (options : TransformOptions) (values : List (List PyValue)) :
    Ends (Refusal options values)
      (fun _ => Valid options ∧ ∃ source : List Rgb, source.length = pixelCount ∧
        values = source.map channels)
      (transformFrameValues options values) := by
  unfold transformFrameValues
  have colors : Ends (Refusal options values) (fun source => values = source.map channels)
      (values.mapM validateRgb) := by
    refine ⟨fun message wrong => ?_, fun source valid => eq_of_mapM_validateRgb valid⟩
    obtain ⟨value, member, wrong⟩ := mapM_validateRgb_failsWith values message wrong
    exact .color member wrong
  refine colors.bind fun source colors => ?_
  unfold transformFrame
  split
  next sized => exact Ends.error (.size colors sized)
  next sized =>
    split
    next rotates => exact Ends.error (.rotation rotates)
    next rotates =>
      cases ordered : validateColorOrder options.colorOrder with
      | error message => exact Ends.error (.order ordered)
      | ok order =>
          exact Ends.ok ⟨⟨not_not.mp rotates, order, ordered⟩, source, not_not.mp sized, colors⟩

/-- The colours of a frame are handed over as they are. -/
theorem transformFrameValues_channels (options : TransformOptions) (source : List Rgb) :
    transformFrameValues options (source.map channels) = transformFrame options source := by
  rw [transformFrameValues, mapM_validateRgb_channels]
  rfl

/-- With these options every pixel of a frame is moved by the symmetry, and its channels
are taken in this order. -/
def Moves (options : TransformOptions) (symmetry : SquareSymmetry)
    (order : Equiv.Perm (Fin 3)) : Prop :=
  ∀ source : List Rgb, source.length = pixelCount →
    ∃ physical, transformFrameValues options (source.map channels) = .ok physical ∧
      ∀ place channel, channelOf (pixelAtPlace physical (symmetry • place)) channel =
        channelOf (sourceAt source place) (order channel)

/-- Accepted options move pixels by their symmetry and their order. -/
theorem Accepted.moves {options : TransformOptions} {order : Equiv.Perm (Fin 3)}
    (accepted : Accepted options order) : Moves options (symmetryOf options) order := by
  intro source sized
  obtain ⟨physical, moved, places⟩ := transformFrame_places accepted sized
  refine ⟨physical, (transformFrameValues_channels options source).trans moved, ?_⟩
  intro place channel
  rw [places, channelOf_permute]

/-- `transform_frame` refuses what it objects to and nothing else. What it takes are the
symmetries of the square, each with an order of the channels, and they act on frames as
a group: one transform behind another is again a transform, the same one for every
frame, and every transform is undone by one, so that no option loses a pixel or a
channel. -/
theorem transforms_group :
    (∀ options values, Ends (Refusal options values)
      (fun _ => Valid options ∧ ∃ source : List Rgb, source.length = pixelCount ∧
        values = source.map channels) (transformFrameValues options values)) ∧
    (∀ options, Valid options → ∃ symmetry order, Moves options symmetry order) ∧
    (∀ symmetry order, ∃ options, Valid options ∧ Moves options symmetry order) ∧
    (∀ first second : TransformOptions, Valid first → Valid second →
      ∃ both, Valid both ∧ ∀ source : List Rgb, source.length = pixelCount →
        ∃ middle last, transformFrameValues first (source.map channels) = .ok middle ∧
          transformFrameValues second (middle.toList.map channels) = .ok last ∧
          transformFrameValues both (source.map channels) = .ok last) ∧
    ∀ options : TransformOptions, Valid options →
      ∃ reverse, Valid reverse ∧ ∀ source : List Rgb, source.length = pixelCount →
        ∃ physical restored, transformFrameValues options (source.map channels) = .ok physical ∧
          transformFrameValues reverse (physical.toList.map channels) = .ok restored ∧
          restored.toList = source := by
  simp only [transformFrameValues_channels]
  refine ⟨transformFrameValues_ends, ?_, ?_, ?_, ?_⟩
  · intro options valid
    obtain ⟨order, accepted⟩ := valid_iff.mp valid
    exact ⟨_, order, accepted.moves⟩
  · intro symmetry order
    have accepted := accepted_optionsOf symmetry order
    have moves := accepted.moves
    rw [symmetryOf_optionsOf] at moves
    exact ⟨_, valid_iff.mpr ⟨order, accepted⟩, moves⟩
  · intro first second validFirst validSecond
    obtain ⟨firstOrder, acceptedFirst⟩ := valid_iff.mp validFirst
    obtain ⟨secondOrder, acceptedSecond⟩ := valid_iff.mp validSecond
    refine ⟨_, valid_iff.mpr ⟨_, accepted_optionsOf (symmetryOf second * symmetryOf first)
      (firstOrder * secondOrder)⟩, ?_⟩
    intro source sized
    obtain ⟨middle, moved, -⟩ := transformFrame_places acceptedFirst sized
    obtain ⟨last, again, -⟩ := transformFrame_places acceptedSecond middle.length_toList
    exact ⟨middle, last, moved, again,
      (transformFrame_after acceptedFirst acceptedSecond sized moved).symm.trans again⟩
  · intro options valid
    obtain ⟨order, accepted⟩ := valid_iff.mp valid
    refine ⟨undo options order, valid_iff.mpr ⟨_, accepted_optionsOf (symmetryOf options)⁻¹
      order⁻¹⟩, ?_⟩
    intro source sized
    obtain ⟨physical, moved, -⟩ := transformFrame_places accepted sized
    obtain ⟨restored, back, same⟩ := transformFrame_undo accepted sized moved
    exact ⟨physical, restored, moved, back, same⟩

/-- Mounted upside down, with blue and red exchanged. -/
def upsideDown : TransformOptions := { rotation := 180, colorOrder := pyText "BGR" }

theorem accepted_upsideDown : Accepted upsideDown (Equiv.swap 0 2) := ⟨by decide, by decide⟩

theorem transforms_group_upsideDown :
    ∃ reverse, Valid reverse ∧ ∀ source : List Rgb, source.length = pixelCount →
      ∃ physical restored, transformFrameValues upsideDown (source.map channels) = .ok physical ∧
        transformFrameValues reverse (physical.toList.map channels) = .ok restored ∧
        restored.toList = source :=
  transforms_group.2.2.2.2 upsideDown (valid_iff.mpr ⟨_, accepted_upsideDown⟩)

end PixelStatus.MiBle
