/-
# Layout trees assign rectangles inside the display

The sizes of a split are positive and, with its gaps, fill its extent; so the
rectangles of its children lie inside its own, and by induction over the levels
every leaf of a tree is a widget that fits.
-/

import PixelStatus.Core.Config.LayoutTree

namespace PixelStatus

open Logged

/-! ## Splits fill their extent -/

variable {path : Bytes}

/-- A child asks for a size or a weight within the bounds. -/
theorem parseAllocation_ensures (child : Json) (path : Bytes) :
    Ensures (OfSome fun allocation => 1 ≤ allocation.value ∧ allocation.value ≤ maximumLayoutWeight)
      (parseAllocation child path) := by
  unfold parseAllocation
  split
  · dsimp only
    split
    · exact ensures_reject
    · split
      · apply boundedSize_ensures.bindMap
        intro value inside
        exact ⟨inside.1, inside.2.trans (by decide)⟩
      · split
        · exact boundedSize_ensures.bindMap fun _ inside => inside
        · exact Ensures.pure (OfSome.some (by decide))
  · exact ensures_reject

/-- What the children of a split ask for: one positive value each. -/
structure Asked (count : Nat) (allocations : List Allocation) : Prop where
  count : allocations.length = count
  positive : ∀ allocation ∈ allocations, 1 ≤ allocation.value

/-- So do all children of a split. -/
theorem parseAllocations_ensures {children : List Json} {index : Nat} :
    Ensures (OfSome fun allocations => Asked children.length allocations ∧
        ∀ allocation ∈ allocations, allocation.value ≤ maximumLayoutWeight)
      (parseAllocations path index children) := by
  induction children generalizing index with
  | nil =>
      exact Ensures.pure (OfSome.some ⟨⟨rfl, List.forall_mem_nil _⟩, List.forall_mem_nil _⟩)
  | cons child rest ih =>
      apply (parseAllocation_ensures child _).bind
      intro allocation hallocation
      apply ih.bind
      intro allocations hallocations
      split
      next allocation allocations =>
        have first := hallocation allocation rfl
        obtain ⟨asked, light⟩ := hallocations allocations rfl
        apply Ensures.pure
        apply OfSome.some
        refine ⟨⟨?_, ?_⟩, ?_⟩
        · rw [List.length_cons, List.length_cons, asked.count]
        · exact List.forall_mem_cons.mpr ⟨first.1, asked.positive⟩
        · exact List.forall_mem_cons.mpr ⟨first.2, light⟩
      · exact Ensures.pure OfSome.none

/-- The sizes of a split's children. -/
structure Resolved (count total : Nat) (extents : List Nat) : Prop where
  count : extents.length = count
  positive : ∀ extent ∈ extents, 0 < extent
  sum : extents.sum = total

/-- One more child takes its part of the total. -/
theorem Resolved.cons {count total extent : Nat} {extents : List Nat}
    (resolved : Resolved count total extents) (positive : 0 < extent) :
    Resolved (count + 1) (extent + total) (extent :: extents) where
  count := by rw [List.length_cons, resolved.count]
  positive := List.forall_mem_cons.mpr ⟨positive, resolved.positive⟩
  sum := by rw [List.sum_cons, resolved.sum]

/-- A fixed child adds its size to the fixed ones. -/
theorem fixedTotal_cons {allocation : Allocation} {rest : List Allocation} :
    fixedTotal (allocation :: rest) =
      (if allocation.fixed then allocation.value else 0) + fixedTotal rest := by
  cases h : allocation.fixed <;> simp [fixedTotal, h]

/-- A weighted child adds its weight to the others. -/
theorem totalWeight_cons {allocation : Allocation} {rest : List Allocation} :
    totalWeight (allocation :: rest) =
      (if allocation.fixed then 0 else allocation.value) + totalWeight rest := by
  cases h : allocation.fixed <;> simp [totalWeight, h]

/-- The weighted children share what lies between the cuts at their first and
their last weight. -/
theorem resolveExtents_ensures {allocations : List Allocation} {extent total cumulative : Nat}
    (positive : ∀ allocation ∈ allocations, 1 ≤ allocation.value) :
    Ensures (OfSome (Resolved allocations.length (fixedTotal allocations +
        (cut extent total (cumulative + totalWeight allocations) - cut extent total cumulative))))
      (resolveExtents path extent total cumulative allocations) := by
  induction allocations generalizing cumulative with
  | nil =>
      apply Ensures.pure
      apply OfSome.some
      exact ⟨rfl, List.forall_mem_nil _, by simp [fixedTotal, totalWeight]⟩
  | cons allocation rest ih =>
      have parts := List.forall_mem_cons.mp positive
      unfold resolveExtents
      dsimp only
      rw [fixedTotal_cons, totalWeight_cons]
      split
      next fixed =>
        apply (ih parts.2).bindMap
        intro extents resolved
        rw [Nat.zero_add, Nat.add_assoc]
        exact resolved.cons parts.1
      next weighted =>
        rw [Nat.zero_add, ← Nat.add_assoc]
        split
        · exact ensures_reject
        next nonzero =>
          apply (ih parts.2).bindMap
          intro extents resolved
          have first : cut extent total cumulative ≤ cut extent total
              (cumulative + allocation.value) := Cuts.mono (Nat.le_add_right _ _)
          have rest : cut extent total (cumulative + allocation.value) ≤ cut extent total
              (cumulative + allocation.value + totalWeight rest) :=
            Cuts.mono (Nat.le_add_right _ _)
          have next := resolved.cons (Nat.pos_of_ne_zero nonzero)
          rw [Nat.add_left_comm, Nat.add_comm (_ - _), Nat.sub_add_sub_cancel rest first] at next
          exact next

/-- Some weight is there when a child has one. -/
theorem totalWeight_pos {allocations : List Allocation}
    (positive : ∀ allocation ∈ allocations, 1 ≤ allocation.value)
    (some : 0 < weightedCount allocations) : 0 < totalWeight allocations := by
  obtain ⟨allocation, member⟩ := List.exists_mem_of_length_pos some
  have weight : 0 < allocation.value := positive allocation (List.mem_filter.mp member).1
  exact List.sum_pos_iff_exists_pos_nat.mpr
    ⟨allocation.value, List.mem_map_of_mem member, weight⟩

/-- A split in which the fixed sizes and the gaps fit resolves its sizes. -/
theorem splitExtents_resolves {property : List Nat → Prop} {extent totalGaps : Nat}
    {allocations : List Allocation}
    (resolves : fixedTotal allocations + totalGaps ≤ extent →
      (weightedCount allocations = 0 → extent - fixedTotal allocations - totalGaps = 0) →
      Ensures (OfSome property) (resolveExtents path (extent - fixedTotal allocations - totalGaps)
        (totalWeight allocations) 0 allocations)) :
    Ensures (OfSome property) (splitExtents path extent totalGaps allocations) := by
  unfold splitExtents
  dsimp only
  split
  · exact ensures_reject
  next fits =>
    split
    · exact ensures_reject
    next consumed =>
      split
      · exact ensures_reject
      · exact resolves (Nat.not_lt.mp fits) fun none =>
          Decidable.not_not.mp fun left => consumed ⟨none, left⟩

/-- The sizes of a split and its gaps fill the extent. -/
theorem splitExtents_ensures {extent totalGaps count : Nat} {allocations : List Allocation}
    (asked : Asked count allocations) :
    Ensures (OfSome fun extents =>
        Resolved count (extent - totalGaps) extents ∧ totalGaps ≤ extent)
      (splitExtents path extent totalGaps allocations) := by
  apply splitExtents_resolves
  intro fits consumed
  apply (resolveExtents_ensures asked.positive).mono
  intro result resolved extents same
  refine ⟨?_, ?_⟩
  · have filled : fixedTotal allocations +
        (cut (extent - fixedTotal allocations - totalGaps) (totalWeight allocations)
          (0 + totalWeight allocations) -
          cut (extent - fixedTotal allocations - totalGaps) (totalWeight allocations) 0) =
        extent - totalGaps := by
      have start : cut (extent - fixedTotal allocations - totalGaps)
          (totalWeight allocations) 0 = 0 := by simp [cut]
      rw [start, Nat.zero_add]
      by_cases none : weightedCount allocations = 0
      · rw [consumed none, cut, Nat.zero_mul, Nat.zero_div]
        have empty := consumed none
        omega
      · rw [Cuts.whole (totalWeight_pos asked.positive (Nat.pos_of_ne_zero none))]
        omega
    rw [← filled, ← asked.count]
    exact resolved extents same
  · omega

/-! ## Rectangles of the children -/

/-- The children of a split, with the gaps between them, from a place on. -/
def stretch (gap : Nat) (extents : List Nat) : Nat := (extents.map fun extent => extent + gap).sum

/-- Extents with a gap behind each of them. -/
theorem stretch_eq (gap : Nat) (extents : List Nat) :
    stretch gap extents = extents.sum + extents.length * gap := by
  simp [stretch, List.sum_map_add]

variable {display : DisplayConfig}

/-- A child that takes a part of its parent is inside the display. -/
theorem childBounds_inside {bounds : LayoutBounds} {horizontal : Bool} {cursor extent : Nat}
    (inside : bounds.Inside display) (positive : 0 < extent)
    (room : cursor + extent ≤ axisStart bounds horizontal + axisExtent bounds horizontal) :
    (childBounds bounds horizontal cursor extent).Inside display := by
  cases horizontal with
  | true => exact ⟨positive, inside.height, room.trans inside.right, inside.bottom⟩
  | false => exact ⟨inside.width, positive, inside.right, room.trans inside.bottom⟩

/-- Children whose stretch ends with the node, one gap later, lie inside it. -/
theorem placeChildren_inside {bounds : LayoutBounds} {horizontal : Bool} {gap cursor : Nat}
    {extents : List Nat} (inside : bounds.Inside display)
    (positive : ∀ extent ∈ extents, 0 < extent)
    (room : cursor + stretch gap extents ≤
      axisStart bounds horizontal + axisExtent bounds horizontal + gap) :
    ∀ child ∈ placeChildren bounds horizontal gap cursor extents, child.Inside display := by
  induction extents generalizing cursor with
  | nil => exact List.forall_mem_nil _
  | cons extent extents ih =>
      have parts := List.forall_mem_cons.mp positive
      rw [stretch, List.map_cons, List.sum_cons, ← stretch] at room
      rw [placeChildren, List.forall_mem_cons]
      refine ⟨?_, ?_⟩
      · apply childBounds_inside inside parts.1
        omega
      · apply ih parts.2
        omega

/-! ## Nodes -/

variable {round : Rounding}

/-- What the reader of a widget promises of it, whatever rectangle inside the
display it is assigned. -/
def WidgetPromise (round : Rounding) (display : DisplayConfig)
    (property : LayoutWidgetConfig → Prop) : Prop :=
  ∀ item path assigned, (∀ bounds ∈ assigned, bounds.Inside display) →
    Ensures (OfSome property) (parseLayoutWidget round item path display assigned)

/-- Every widget found so far has the property. -/
def LayoutScan.Each (property : LayoutWidgetConfig → Prop) (scan : LayoutScan) : Prop :=
  ∀ widget ∈ scan.widgets, property widget

/-- A reader that only adds widgets with the property. -/
def ReadsEach (display : DisplayConfig) (property : LayoutWidgetConfig → Prop)
    (read : NodeReader) : Prop :=
  ∀ item path bounds scan, bounds.Inside display → scan.Each property →
    Ensures (fun result => result.2.Each property) (read item path bounds scan)

variable {property : LayoutWidgetConfig → Prop} {read : NodeReader} {scan : LayoutScan}
  {bounds : LayoutBounds}

/-- A widget that a tree places fits. -/
theorem parseLayoutWidget_fits :
    WidgetPromise round display (LayoutWidgetConfig.Fits display) :=
  fun _ _ _ trusted => parseLayoutWidget_ensures trusted

/-- A leaf adds one widget with the property. -/
theorem parseLeaf_ensures {item : Json} (promise : WidgetPromise round display property)
    (inside : bounds.Inside display) (fits : scan.Each property) :
    Ensures (fun result => result.2.Each property)
      (parseLeaf round display item path bounds scan) := by
  have trusted : ∀ assigned ∈ some bounds, assigned.Inside display :=
    fun _ same => Option.mem_some_iff.mp same ▸ inside
  apply (promise _ _ _ trusted).bindSome
  · exact Ensures.pure fits
  intro widget hwidget
  dsimp only
  split
  · exact ensures_addError_bind
  · apply Ensures.pure
    change ∀ other ∈ scan.widgets ++ [widget], property other
    exact List.forall_mem_append.mpr ⟨fits, List.forall_mem_singleton.mpr hwidget⟩

/-- The children of a split add widgets with the property. -/
theorem parseSplitChildren_ensures (reads : ReadsEach display property read) {children : List Json}
    {rectangles : List LayoutBounds} (inside : ∀ bounds ∈ rectangles, bounds.Inside display)
    (fits : scan.Each property) : Ensures (fun result => result.2.Each property)
      (parseSplitChildren read path children rectangles scan) := by
  apply Ensures.foldlM fun result : Bool × LayoutScan => result.2.Each property
  · exact fits
  intro result child member found
  have placed : child.1.2.Inside display :=
    inside _ (List.of_mem_zip (List.fst_mem_of_mem_zipIdx member)).2
  apply (reads _ _ _ _ placed found).bind
  intro next hnext
  exact Ensures.pure hnext

/-- A child of a stack is read like a child of a split. -/
theorem parseStackChild_reads (reads : ReadsEach display property read) :
    ReadsEach display property (parseStackChild read) := by
  intro item path bounds scan inside fits
  unfold parseStackChild
  split
  · split
    · exact ensures_addError_bind
    · exact reads _ _ _ _ inside fits
  · exact ensures_addError_bind

/-- A split adds only widgets with the property. -/
theorem parseSplit_ensures (reads : ReadsEach display property read) {item : Members}
    {children : List Json} {horizontal : Bool} (nonempty : children ≠ [])
    (inside : bounds.Inside display) (fits : scan.Each property) :
    Ensures (fun result => result.2.Each property)
      (parseSplit read item path children bounds horizontal scan) := by
  apply (Ensures.anySome _).bindSome
  · exact Ensures.pure fits
  intro gap _
  dsimp only
  split
  · exact ensures_addError_bind
  · apply parseAllocations_ensures.bindSome
    · exact Ensures.pure fits
    intro allocations read
    apply (splitExtents_ensures read.1).bindSome
    · exact Ensures.pure fits
    intro extents resolved
    apply parseSplitChildren_ensures reads _ fits
    apply placeChildren_inside inside resolved.1.positive
    have count : 0 < children.length := List.length_pos_iff.mpr nonempty
    have gaps : children.length * gap = gap * (children.length - 1) + gap := by
      rw [← Nat.mul_succ, Nat.succ_eq_add_one, Nat.sub_add_cancel count, Nat.mul_comm]
    have room : gap * (children.length - 1) ≤ axisExtent bounds horizontal := resolved.2
    rw [stretch_eq, resolved.1.sum, resolved.1.count, gaps]
    omega

/-- So does every inner node. -/
theorem parseInnerNode_ensures (reads : ReadsEach display property read) {item : Members}
    {type : LayoutNodeType} (inside : bounds.Inside display) (fits : scan.Each property) :
    Ensures (fun result => result.2.Each property)
      (parseInnerNode read item type path bounds scan) := by
  apply Ensures.step
  intro _
  apply boundedArray_ensures.bindSome
  · exact Ensures.pure fits
  intro children nonempty
  cases type with
  | stack =>
      apply parseSplitChildren_ensures (parseStackChild_reads reads) _ fits
      intro rectangle member
      obtain ⟨_, _, rfl⟩ := List.mem_map.mp member
      exact inside
  | row => exact parseSplit_ensures reads nonempty inside fits
  | column => exact parseSplit_ensures reads nonempty inside fits

/-- Counting a node does not touch the widgets. -/
theorem enterNode_ensures {item : Json}
    {inner : Members → LayoutScan → Loading (Bool × LayoutScan)} (fits : scan.Each property)
    (hinner : ∀ members scan, scan.Each property →
      Ensures (fun result => result.2.Each property) (inner members scan)) :
    Ensures (fun result => result.2.Each property) (enterNode item path scan inner) := by
  unfold enterNode
  split
  · dsimp only
    split
    · exact ensures_addError_bind
    · exact hinner _ _ fits
  · exact ensures_addError_bind

/-- By induction over the levels below a node, every widget of a tree has what its
reader promises. -/
theorem parseLayoutNode_reads (promise : WidgetPromise round display property) (levels : Nat) :
    ReadsEach display property (parseLayoutNode round display levels) := by
  induction levels with
  | zero =>
      intro item path bounds scan _ fits
      exact enterNode_ensures fits fun _ _ _ => ensures_addError_bind
  | succ levels ih =>
      intro item path bounds scan inside fits
      rw [parseLayoutNode]
      apply enterNode_ensures fits
      intro members scan fits
      apply (Ensures.anySome _).bindSome
      · exact Ensures.pure fits
      intro type _
      dsimp only
      split
      · exact parseLeaf_ensures promise inside fits
      · exact parseInnerNode_ensures ih inside fits

end PixelStatus
