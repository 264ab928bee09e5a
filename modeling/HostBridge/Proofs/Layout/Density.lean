import HostBridge.Proofs.Layout.Metadata
import HostBridge.Proofs.Layout.Walk

/-!
# The test for dense strides

Whether an array is dense is decided by a look at its strides, axis by axis from the fastest one on,
with a running product of the extents. An axis with a single element is passed over, so that its
stride is free. This module shows that the test means what it should: it accepts exactly those
strides by which the elements lie end to end in the order of a walk over all indices.

One direction adds up an offset along the axes that were accepted. The other one reads the strides
off the offsets of two families of indices: a single step along an axis, and no step along it at
all. Both only look at single strides and at offsets that are in range, so it does not matter
whether offsets are taken exactly or wrapped around, as an access takes them.

## Main definitions

* `Strides.Kept`: a way to take offsets that changes neither strides nor offsets in range.

## Main results

* `Shape.offset_of_isDenseFrom`, `Shape.isDenseFrom_of_offset`: the two directions;
* `Shape.isDense_reverse`: a row-major array is a column-major one with its axes reversed;
* `Shape.isDense_iff_reachedIn`: the test against a walk over all indices;
* `Shape.isDense_means_end_to_end`: what the test means, for strides and for accesses.
-/

namespace HostBridge

/-- A way to take offsets that changes neither the strides themselves nor an offset inside a
block. -/
structure Strides.Kept (wrap : Int → Int) (strides : Strides) : Prop where
  stride : ∀ stride ∈ strides, wrap stride = stride
  offset : ∀ offset : Nat, offset < 2 ^ 63 → wrap offset = offset

theorem Strides.Kept.tail {wrap : Int → Int} {stride : Int} {strides : Strides}
    (h : Kept wrap (stride :: strides)) : Kept wrap strides :=
  ⟨fun stride hmem => h.stride stride (List.mem_cons_of_mem _ hmem), h.offset⟩

theorem Strides.kept_id (strides : Strides) : Kept id strides :=
  ⟨fun _ _ => rfl, fun _ _ => rfl⟩

/-- Accesses wrap offsets around, which changes nothing that is a signed word. -/
theorem Strides.kept_signed {strides : Strides} (h : ∀ stride ∈ strides, Word.Fits 64 stride) :
    Kept Word.signed strides :=
  ⟨fun stride hmem => Word.signed_of_fits (h stride hmem),
    fun _ hlt => Word.signed_natCast_eq_iff.mpr hlt⟩

namespace Shape

variable {shape : Shape} {index : Index} {strides : Strides} {width : Nat}

/-! ## Positions from the fastest axis on -/

theorem position_concat (hlength : index.length = shape.length) (extent i : Nat) :
    position (shape ++ [extent]) (index ++ [i]) = position shape index * extent + i := by
  induction shape generalizing index with
  | nil =>
    rw [List.eq_nil_of_length_eq_zero hlength]
    simp [position]
  | cons first shape ih =>
    obtain ⟨j, index, rfl⟩ := List.exists_cons_of_length_eq_add_one hlength
    have hlength := Nat.succ.inj hlength
    rw [List.cons_append, List.cons_append, position, position, ih hlength, List.prod_append,
      List.prod_singleton]
    ring

/-- When the first coordinate varies fastest, it counts once and all others count as often as it has
values. -/
theorem positionIn_columnMajor_cons (hlength : index.length = shape.length) (extent i : Nat) :
    positionIn .columnMajor (extent :: shape) (i :: index) =
      i + extent * positionIn .columnMajor shape index := by
  have hreversed : index.reverse.length = shape.reverse.length := by
    rwa [List.length_reverse, List.length_reverse]
  rw [positionIn, List.reverse_cons, List.reverse_cons, position_concat hreversed, Nat.add_comm,
    Nat.mul_comm]
  rfl

theorem positionIn_zeros (shape : Shape) :
    positionIn .columnMajor shape (shape.map fun _ => 0) = 0 := by
  rw [positionIn, ← List.map_reverse, position_zeros]

theorem positionIn_reverse (shape : Shape) (index : Index) :
    positionIn .columnMajor shape.reverse index.reverse = positionIn .rowMajor shape index := by
  simp only [positionIn, List.reverse_reverse]

/-! ## From strides to offsets and back -/

/-- The running product of the extents does not leave the signed words before the last axis. -/
theorem signed_step_mul {step extent : Nat} (hpos : 0 ∉ extent :: shape)
    (hsize : step * List.prod (extent :: shape) < 2 ^ 63) :
    Word.signed (step * extent) = (step * extent : Nat) ∧ step * extent * shape.prod < 2 ^ 63 := by
  rw [List.prod_cons, ← Nat.mul_assoc] at hsize
  have hle : step * extent ≤ step * extent * shape.prod :=
    Nat.le_mul_of_pos_right _ (prod_pos (pos_of_cons hpos).2)
  rw [← Nat.cast_mul]
  exact ⟨Word.signed_natCast_eq_iff.mpr (hle.trans_lt hsize), hsize⟩

/-- Strides that were accepted put every element at its position. -/
theorem offset_of_isDenseFrom {step : Nat} (hindex : shape.Contains index)
    (hlength : strides.length = shape.length) (hsize : step * shape.prod < 2 ^ 63)
    (h : isDenseFrom step (shape.zip strides) = true) :
    strides.offset index = (step * shape.positionIn .columnMajor index : Nat) := by
  induction hindex generalizing strides step with
  | nil =>
    rw [List.eq_nil_of_length_eq_zero hlength]
    rfl
  | @cons i extent index shape hlt hrest ih =>
    obtain ⟨stride, strides, rfl⟩ := List.exists_cons_of_length_eq_add_one hlength
    have hrank := Nat.succ.inj hlength
    have hpos := Contains.zero_notMem (.cons hlt hrest)
    obtain ⟨hstep, hsize'⟩ := signed_step_mul hpos hsize
    rw [List.zip_cons_cons, isDenseFrom] at h
    rw [Strides.offset, positionIn_columnMajor_cons (Contains.length_eq hrest)]
    by_cases hone : extent = 1
    -- the only coordinate along this axis is zero
    · subst hone
      obtain rfl : i = 0 := Nat.lt_one_iff.mp hlt
      rw [if_pos rfl] at h
      rw [Nat.mul_one] at hsize'
      rw [ih hrank hsize' h]
      simp
    · rw [if_neg hone, Bool.and_eq_true, beq_iff_eq, hstep] at h
      obtain ⟨rfl, hdense⟩ := h
      rw [ih hrank hsize' hdense]
      push_cast
      ring

/-- Strides that put every element at its position are accepted. -/
theorem isDenseFrom_of_offset {wrap : Int → Int} {step : Nat} (hpos : 0 ∉ shape)
    (hlength : strides.length = shape.length) (hsize : step * shape.prod < 2 ^ 63)
    (hkept : strides.Kept wrap)
    (h : ∀ index, shape.Contains index →
      wrap (strides.offset index) = (step * shape.positionIn .columnMajor index : Nat)) :
    isDenseFrom step (shape.zip strides) = true := by
  induction shape generalizing strides step with
  | nil => rfl
  | cons extent shape ih =>
    obtain ⟨stride, strides, rfl⟩ := List.exists_cons_of_length_eq_add_one hlength
    have hrank := Nat.succ.inj hlength
    obtain ⟨hextent, hrest⟩ := pos_of_cons hpos
    obtain ⟨hstep, hsize'⟩ := signed_step_mul hpos hsize
    -- no step along this axis: what is left are the offsets of the other axes
    have hothers (index : Index) (hindex : Contains shape index) :
        wrap (Strides.offset strides index) =
          (step * extent * positionIn .columnMajor shape index : Nat) := by
      have hoffset := h (0 :: index) (.cons hextent hindex)
      rwa [Strides.offset, positionIn_columnMajor_cons hindex.length_eq, Nat.cast_zero, zero_mul,
        zero_add, Nat.zero_add, ← Nat.mul_assoc] at hoffset
    rw [List.zip_cons_cons, isDenseFrom]
    by_cases hone : extent = 1
    · subst hone
      rw [Nat.mul_one] at hsize' hothers
      rw [if_pos rfl]
      exact ih hrest hrank hsize' hkept.tail hothers
    -- one step along this axis: the offset is the stride
    · have hoffset := h (1 :: shape.map fun _ => 0) (.cons (by omega) (contains_zeros hrest))
      rw [Strides.offset, Strides.offset_zeros, positionIn_columnMajor_cons (List.length_map _),
        positionIn_zeros, Nat.cast_one, one_mul, add_zero, Nat.mul_zero, Nat.add_zero, Nat.mul_one,
        hkept.stride stride List.mem_cons_self] at hoffset
      rw [if_neg hone, hoffset, beq_self_eq_true, Bool.true_and, hstep]
      exact ih hrest hrank hsize' hkept.tail hothers

/-! ## Both orders -/

/-- A row-major array is a column-major one with its axes reversed. -/
theorem isDense_reverse (hlength : strides.length = shape.length) (width : Nat) :
    isDense shape.reverse strides.reverse width .columnMajor =
      isDense shape strides width .rowMajor := by
  have hempty : hasEmptyAxis shape.reverse = shape.hasEmptyAxis := List.any_reverse
  have hzip : shape.reverse.zip strides.reverse = (shape.zip strides).reverse :=
    (List.reverse_zipWith hlength.symm).symm
  rw [isDense, isDense, hempty, hzip]

theorem isDense_iff_of_columnMajor {wrap : Int → Int} (hlength : strides.length = shape.length)
    (hsize : width * shape.prod < 2 ^ 63) (hkept : strides.Kept wrap) :
    shape.isDense strides width .columnMajor = true ↔
      0 ∈ shape ∨ ∀ index, shape.Contains index →
        wrap (strides.offset index) = (width * shape.positionIn .columnMajor index : Nat) := by
  rw [isDense, Bool.or_eq_true, hasEmptyAxis_iff]
  by_cases hempty : 0 ∈ shape
  · exact iff_of_true (.inl hempty) (.inl hempty)
  -- without an empty axis the width is at most the size of all elements
  have hwidth : Word.signed (width : Int) = width := by
    have hle : width ≤ width * shape.prod := Nat.le_mul_of_pos_right _ (prod_pos hempty)
    exact Word.signed_natCast_eq_iff.mpr (hle.trans_lt hsize)
  simp only [hempty, false_or, hwidth]
  constructor
  · intro hdense index hindex
    have hposition : width * shape.positionIn .columnMajor index < 2 ^ 63 :=
      (Nat.mul_le_mul_left _ (positionIn_lt .columnMajor hindex).le).trans_lt hsize
    rw [offset_of_isDenseFrom hindex hlength hsize hdense, hkept.offset _ hposition]
  · exact isDenseFrom_of_offset hempty hlength hsize hkept

/-- The test accepts the strides that put every element at its position, in either order. -/
theorem isDense_iff {wrap : Int → Int} (order : Order) (hlength : strides.length = shape.length)
    (hsize : width * shape.prod < 2 ^ 63) (hkept : strides.Kept wrap) :
    shape.isDense strides width order = true ↔
      0 ∈ shape ∨ ∀ index, shape.Contains index →
        wrap (strides.offset index) = (width * shape.positionIn order index : Nat) := by
  cases order with
  | columnMajor => exact isDense_iff_of_columnMajor hlength hsize hkept
  | rowMajor =>
    have hreversed : Strides.Kept wrap strides.reverse :=
      ⟨fun stride hmem => hkept.stride stride (List.mem_reverse.mp hmem), hkept.offset⟩
    rw [← isDense_reverse hlength,
      isDense_iff_of_columnMajor (by simpa using hlength) (by rwa [List.prod_reverse]) hreversed,
      List.mem_reverse]
    refine or_congr_right (List.reverse_surjective.forall.trans (forall_congr' fun index => ?_))
    refine imp_congr_ctx List.forall₂_reverse_iff fun hindex => ?_
    rw [offset_reverse (hlength.trans (Contains.length_eq hindex).symm), positionIn_reverse]

end Shape

/-- In either order an index is reached by the step that its position says, and by no other. -/
theorem Odometer.reachedIn_eq_some_iff (order : Order) {shape : Shape} {index : Index} {k : Nat} :
    reachedIn order shape k = some index ↔
      shape.Contains index ∧ shape.positionIn order index = k := by
  cases order with
  | rowMajor => exact reached_eq_some_iff
  | columnMajor =>
    rw [reachedIn, Option.map_eq_some_iff]
    constructor
    · rintro ⟨reversed, hreached, rfl⟩
      obtain ⟨hindex, hposition⟩ := reached_eq_some_iff.mp hreached
      have hindex := Shape.Contains.reverse hindex
      rw [List.reverse_reverse] at hindex
      exact ⟨hindex, by rwa [Shape.positionIn, List.reverse_reverse]⟩
    · rintro ⟨hindex, hposition⟩
      exact ⟨index.reverse, reached_eq_some_iff.mpr ⟨hindex.reverse, hposition⟩,
        List.reverse_reverse index⟩

namespace Shape

variable {shape : Shape} {strides : Strides} {width : Nat}

/-- What holds of all indices by their positions holds of them step by step. -/
theorem forall_contains_iff_reachedIn (order : Order) (property : Index → Nat → Prop) :
    (∀ index, shape.Contains index → property index (shape.positionIn order index)) ↔
      ∀ k < shape.prod,
        ∃ index, Odometer.reachedIn order shape k = some index ∧ property index k := by
  constructor
  · intro h k hk
    have hpos : 0 ∉ shape := fun hzero => by
      rw [List.prod_eq_zero hzero] at hk
      exact Nat.not_lt_zero k hk
    obtain ⟨index, hreached, hindex, rfl⟩ := (Odometer.reachedIn_position order hpos k).1 hk
    exact ⟨index, hreached, h index hindex⟩
  · intro h index hindex
    obtain ⟨found, hfound, hproperty⟩ := h _ (positionIn_lt order hindex)
    have hreached := (Odometer.reachedIn_eq_some_iff order).mpr ⟨hindex, rfl⟩
    obtain rfl : found = index := Option.some.inj (hfound.symm.trans hreached)
    exact hproperty

/-- The test against a walk over all indices. -/
theorem isDense_iff_reachedIn {wrap : Int → Int} (order : Order)
    (hlength : strides.length = shape.length) (hsize : shape.prod * width < 2 ^ 63)
    (hkept : strides.Kept wrap) :
    shape.isDense strides width order = true ↔
      0 ∈ shape ∨ ∀ k < shape.prod, ∃ index, Odometer.reachedIn order shape k = some index ∧
        wrap (strides.offset index) = (k * width : Nat) := by
  rw [isDense_iff order hlength (by rwa [Nat.mul_comm]) hkept,
    ← forall_contains_iff_reachedIn order
      fun index k => wrap (strides.offset index) = (k * width : Nat)]
  simp only [Nat.mul_comm width]

/-! ## Strides that are made, and strides that are free -/

theorem isDenseFrom_denseFrom (hpos : 0 ∉ shape) (step : Int) :
    isDenseFrom (Word.signed step) (shape.zip (denseFrom (Word.signed step) shape)) = true := by
  induction shape generalizing step with
  | nil => rfl
  | cons extent shape ih =>
    obtain ⟨hextent, hpos⟩ := pos_of_cons hpos
    rw [denseFrom, List.zip_cons_cons, isDenseFrom, max_eq_left hextent]
    by_cases hone : extent = 1
    · have hsame : Word.signed (Word.signed step * extent) = Word.signed step := by
        rw [hone, Nat.cast_one, Word.signed_mul_signed, mul_one]
      rw [if_pos hone, hsame]
      exact ih hpos step
    · rw [if_neg hone, beq_self_eq_true, Bool.true_and]
      exact ih hpos _

/-- The strides of a dense array pass the test, also where they wrap around: the test wraps around
at the same products. -/
theorem isDense_denseStrides (shape : Shape) (width : Nat) (order : Order) :
    shape.isDense (shape.denseStrides width order) width order = true := by
  have hcolumns (shape : Shape) :
      shape.isDense (shape.denseStrides width .columnMajor) width .columnMajor = true := by
    rw [isDense, Bool.or_eq_true, hasEmptyAxis_iff]
    by_cases hempty : 0 ∈ shape
    · exact .inl hempty
    · exact .inr (isDenseFrom_denseFrom hempty width)
  cases order with
  | columnMajor => exact hcolumns shape
  | rowMajor =>
    rw [← isDense_reverse (length_denseStrides shape width .rowMajor), denseStrides,
      List.reverse_reverse]
    exact hcolumns shape.reverse

/-- The test passes over axes with a single element. -/
theorem isDenseFrom_filter (step : Int) (axes : List (Nat × Int)) :
    isDenseFrom step (axes.filter fun axis => axis.1 != 1) = isDenseFrom step axes := by
  induction axes generalizing step with
  | nil => rfl
  | cons axis axes ih =>
    obtain ⟨extent, stride⟩ := axis
    by_cases hone : extent = 1
    · rw [List.filter_cons_of_neg (by simpa using hone), isDenseFrom, if_pos hone, ih]
    · rw [List.filter_cons_of_pos (by simpa using hone), isDenseFrom, isDenseFrom, if_neg hone,
        if_neg hone, ih]

/-- Strides agree on every axis with more or fewer elements than one. -/
def SameButFree (shape : Shape) (strides other : Strides) : Prop :=
  ∀ axis extent : Nat, shape[axis]? = some extent → extent ≠ 1 → strides[axis]? = other[axis]?

theorem SameButFree.filter_zip {other : Strides} (h : shape.SameButFree strides other)
    (hlength : strides.length = shape.length) (hlength' : other.length = shape.length) :
    (shape.zip strides).filter (fun axis => axis.1 != 1) =
      (shape.zip other).filter (fun axis => axis.1 != 1) := by
  induction shape generalizing strides other with
  | nil => rfl
  | cons extent shape ih =>
    obtain ⟨stride, strides, rfl⟩ := List.exists_cons_of_length_eq_add_one hlength
    obtain ⟨stride', other, rfl⟩ := List.exists_cons_of_length_eq_add_one hlength'
    have hrest := ih (fun axis extent haxis => h (axis + 1) extent haxis) (Nat.succ.inj hlength)
      (Nat.succ.inj hlength')
    rw [List.zip_cons_cons, List.zip_cons_cons]
    by_cases hone : extent = 1
    · rw [List.filter_cons_of_neg (by simpa using hone),
        List.filter_cons_of_neg (by simpa using hone), hrest]
    · obtain rfl : stride = stride' := Option.some.inj (h 0 extent rfl hone)
      rw [List.filter_cons_of_pos (by simpa using hone),
        List.filter_cons_of_pos (by simpa using hone), hrest]

/-- The stride of an axis with a single element does not matter. -/
theorem SameButFree.isDense_eq {other : Strides} (h : shape.SameButFree strides other)
    (hlength : strides.length = shape.length) (hlength' : other.length = shape.length) (width : Nat)
    (order : Order) : shape.isDense strides width order = shape.isDense other width order := by
  have hfilter := h.filter_zip hlength hlength'
  cases order with
  | columnMajor => rw [isDense, isDense, ← isDenseFrom_filter, hfilter, isDenseFrom_filter]
  | rowMajor =>
    rw [isDense, isDense, ← isDenseFrom_filter, List.filter_reverse, hfilter, ← List.filter_reverse,
      isDenseFrom_filter]

/-! ## What the test means -/

/-- The test for dense strides accepts exactly those by which the elements lie end to end. -/
theorem isDense_means_end_to_end (shape : Shape) (width : Nat) (order : Order) :
    -- An array without elements passes. Any other one passes if each index that is reached in a
    -- walk over all of them lies as many elements from the first one as there were steps.
    (∀ strides : Strides, strides.length = shape.length → shape.prod * width < 2 ^ 63 →
      (shape.isDense strides width order = true ↔
        0 ∈ shape ∨ ∀ k < shape.prod, ∃ index, Odometer.reachedIn order shape k = some index ∧
          strides.offset index = (k * width : Nat))) ∧
    -- So it is for a descriptor and the offsets that its accesses compute.
    (∀ array : Descriptor, array.shape = shape → array.kind.width = width →
      array.strides.length = shape.length → (∀ stride ∈ array.strides, Word.Fits 64 stride) →
      shape.prod * width < 2 ^ 63 →
      (array.isDense order = true ↔
        0 ∈ shape ∨ ∀ k < shape.prod, ∃ index, Odometer.reachedIn order shape k = some index ∧
          array.byteOffset index = .ok ((k * width : Nat) : Int))) ∧
    -- The strides of a dense array pass.
    shape.isDense (shape.denseStrides width order) width order = true ∧
    -- The stride of an axis with a single element does not matter.
    ∀ strides other : Strides, strides.length = shape.length → other.length = shape.length →
      shape.SameButFree strides other →
        shape.isDense strides width order = shape.isDense other width order := by
  refine ⟨fun strides hlength hsize => ?_, ?_, isDense_denseStrides shape width order,
    fun strides other hlength hlength' hsame => hsame.isDense_eq hlength hlength' width order⟩
  · exact isDense_iff_reachedIn order hlength hsize strides.kept_id
  · rintro array rfl rfl hlength hfits hsize
    rw [Descriptor.isDense, isDense_iff_reachedIn order hlength hsize (Strides.kept_signed hfits)]
    refine or_congr_right (forall₂_congr fun k hk => exists_congr fun index => ?_)
    refine and_congr_right fun hreached => ?_
    -- an index that is reached passes the checks of an access, which then wraps its offset around
    have hindex := ((Odometer.reachedIn_eq_some_iff order).mp hreached).1
    rw [Descriptor.byteOffset_eq_signed hindex, Except.ok.injEq]

/-- Two rows of three elements, with an axis between them whose stride leads anywhere. They lie end
to end row by row, but not column by column. -/
theorem isDense_means_end_to_end_of_rows :
    (∀ k < 6, ∃ index, Odometer.reachedIn .rowMajor [2, 1, 3] k = some index ∧
      Strides.offset [6, -5, 2] index = (k * 2 : Nat)) ∧
    ¬(∀ k < 6, ∃ index, Odometer.reachedIn .columnMajor [2, 1, 3] k = some index ∧
      Strides.offset [6, -5, 2] index = (k * 2 : Nat)) ∧
    Shape.isDense [2, 1, 3] [6, -5, 2] 2 .rowMajor =
      Shape.isDense [2, 1, 3] [6, 6, 2] 2 .rowMajor := by
  obtain ⟨hrows, -, -, hfree⟩ := isDense_means_end_to_end [2, 1, 3] 2 .rowMajor
  obtain ⟨hcolumns, -⟩ := isDense_means_end_to_end [2, 1, 3] 2 .columnMajor
  refine ⟨?_, ?_, ?_⟩
  · exact ((hrows [6, -5, 2] rfl (by decide)).mp (by decide)).resolve_left (by decide)
  · intro hall
    exact absurd ((hcolumns [6, -5, 2] rfl (by decide)).mpr (.inr hall)) (by decide)
  · refine hfree [6, -5, 2] [6, 6, 2] rfl rfl fun axis extent haxis hextent => ?_
    -- the axis in the middle is the one with a single element
    rcases axis with _ | _ | axis
    · rfl
    · exact absurd (Option.some.inj haxis).symm hextent
    · rfl

end Shape

end HostBridge
