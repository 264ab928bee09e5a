import HostBridge.Proofs.Layout.Dense

/-!
# The numbers in a descriptor

A descriptor is made with three numbers that are products of extents: the number of elements, their
size in bytes, and the strides. The first one is checked for overflow. The strides are not, and they
are other products, since an axis without elements counts as one with a single element: the number
of elements can be zero, and therefore in range, while a stride has left the signed words. This
module says what each number is, and exactly when it is the product in question.

## Main definitions

* `Shape.spacing`: the distance between neighbours along an axis, as an exact product;
* `Shape.denseStrides?`: the strides of a dense array, unless a product leaves the signed words.

## Main results

* `Shape.getElem?_denseStrides`: strides are the exact products, wrapped around;
* `Shape.denseStrides?_eq`: no product on the way to the strides leaves the signed words if and only
  if the last one does not;
* `Descriptor.metadata_of_made`: the numbers in every descriptor, and the ones that are refused.
-/

namespace HostBridge

namespace Word

theorem signed_mul_signed (x y : Int) : signed (signed x * y) = signed (x * y) :=
  Int.bmod_mul_bmod

/-- A number is kept exactly when it is a signed word. -/
theorem signed_natCast_eq_iff {n : Nat} : signed n = n ↔ n < 2 ^ 63 := by
  constructor
  · intro h
    have hlt : signed n < ((modulus : Int) + 1) / 2 := Int.bmod_lt (by decide)
    rw [h] at hlt
    unfold modulus twoPow at hlt
    omega
  · intro h
    exact signed_of_fits (fits_iff.mpr ⟨by omega, by omega⟩)

theorem unsigned_eq_iff {n : Nat} : unsigned n = n ↔ n < 2 ^ 64 :=
  Nat.mod_eq_iff_lt (by decide)

end Word

namespace Shape

variable {shape : Shape}

/-! ## Exact products -/

/-- The axes that vary faster than the given one. -/
def faster (shape : Shape) (axis : Nat) : Order → Shape
  | .rowMajor => shape.drop (axis + 1)
  | .columnMajor => shape.take axis

/-- The distance in bytes between neighbours along an axis of a dense array, which is the size of
all that varies faster. An axis without elements counts as one with a single element. -/
def spacing (shape : Shape) (width : Nat) (order : Order) (axis : Nat) : Nat :=
  width * ((shape.faster axis order).map (max · 1)).prod

/-- The strides as in `denseFrom`, unless a product leaves the signed words. -/
def denseFrom? (step : Int) : Shape → Option Strides
  | [] => some []
  | extent :: rest => do
    let next ← Word.checked 64 (step * (max extent 1 : Nat))
    let strides ← denseFrom? next rest
    return step :: strides

/-- The strides of a dense array, unless a product on the way to them leaves the signed words. -/
def denseStrides? (shape : Shape) (width : Nat) : Order → Option Strides
  | .rowMajor => (denseFrom? width shape.reverse).map List.reverse
  | .columnMajor => denseFrom? width shape

/-- An axis counts as one with a single element at least. -/
theorem prod_max_pos (shape : Shape) : 0 < (shape.map (max · 1)).prod := by
  refine prod_pos fun hzero => ?_
  obtain ⟨extent, -, hmax⟩ := List.mem_map.mp hzero
  omega

/-- Without empty axes nothing is counted otherwise. -/
theorem map_max_of_pos (hpos : 0 ∉ shape) : shape.map (max · 1) = shape := by
  have hextent (extent : Nat) (hmem : extent ∈ shape) : max extent 1 = id extent :=
    max_eq_left (Nat.pos_of_ne_zero fun hzero => hpos (hzero ▸ hmem))
  rw [List.map_congr_left hextent, List.map_id]

/-! ## Strides that wrap around -/

/-- The step by step product, wrapped around at each step, is the exact product wrapped around
once. -/
theorem getElem?_denseFrom {axis : Nat} (step : Int) (haxis : axis < shape.length) :
    (denseFrom (Word.signed step) shape)[axis]? =
      some (Word.signed (step * (((shape.take axis).map (max · 1)).prod : Nat))) := by
  induction shape generalizing step axis with
  | nil => exact absurd haxis (Nat.not_lt_zero axis)
  | cons extent shape ih =>
    rw [denseFrom, Word.signed_mul_signed]
    rcases axis with _ | axis
    · simp
    · rw [List.getElem?_cons_succ, ih _ (Nat.lt_of_succ_lt_succ haxis), List.take_succ_cons,
        List.map_cons, List.prod_cons, Nat.cast_mul, Int.mul_assoc]

/-- The stride of an axis is the exact product, wrapped around. -/
theorem getElem?_denseStrides {axis : Nat} (width : Nat) (order : Order)
    (haxis : axis < shape.length) :
    (shape.denseStrides width order)[axis]? =
      some (Word.signed (shape.spacing width order axis)) := by
  cases order with
  | columnMajor => exact getElem?_denseFrom width haxis
  | rowMajor =>
    -- counted from the end, the axis comes after those that vary faster
    have hlast : shape.length - 1 - axis < shape.reverse.length := by
      rw [List.length_reverse]
      omega
    have htake : shape.reverse.take (shape.length - 1 - axis) =
        (shape.drop (axis + 1)).reverse := by
      rw [List.take_reverse]
      congr 2
      omega
    rw [denseStrides, List.getElem?_reverse (by rwa [length_denseFrom, List.length_reverse]),
      length_denseFrom, List.length_reverse, getElem?_denseFrom width hlast, htake,
      List.map_reverse, List.prod_reverse, ← Nat.cast_mul]
    rfl

/-! ## Strides that do not -/

/-- No product leaves the signed words if and only if the last one does not. -/
theorem denseFrom?_eq {step : Nat} (hpos : 0 < step) (hstep : step < 2 ^ 63) :
    denseFrom? step shape =
      if step * (shape.map (max · 1)).prod < 2 ^ 63 then some (denseFrom step shape) else none := by
  induction shape generalizing step with
  | nil =>
    rw [List.map_nil, List.prod_nil, Nat.mul_one, if_pos hstep]
    rfl
  | cons extent shape ih =>
    -- factors are positive, so the products never become smaller: once one has left, so has the
    -- last
    have hrest := prod_max_pos shape
    rw [List.map_cons, List.prod_cons, ← Nat.mul_assoc, denseFrom?, ← Nat.cast_mul]
    by_cases hnext : step * max extent 1 < 2 ^ 63
    · have hfits : Word.Fits 64 ((step * max extent 1 : Nat) : Int) :=
        Word.fits_iff.mpr ⟨by omega, by omega⟩
      rw [Word.checked_of_fits hfits, Option.bind_eq_bind, Option.bind_some,
        ih (Nat.mul_pos hpos (by omega)) hnext, denseFrom, ← Nat.cast_mul,
        Word.signed_of_fits hfits]
      split <;> rfl
    · have hfits : ¬Word.Fits 64 ((step * max extent 1 : Nat) : Int) := by
        rw [Word.fits_iff]
        omega
      have hle : step * max extent 1 ≤ step * max extent 1 * (shape.map (max · 1)).prod :=
        Nat.le_mul_of_pos_right _ hrest
      rw [Word.checked, if_neg hfits, if_neg (by omega)]
      rfl

theorem denseStrides?_eq (shape : Shape) (kind : Kind) (order : Order) :
    shape.denseStrides? kind.width order =
      if kind.width * (shape.map (max · 1)).prod < 2 ^ 63
      then some (shape.denseStrides kind.width order) else none := by
  have hwidth : kind.width < 2 ^ 63 := by cases kind <;> decide
  have hsigned : Word.signed (kind.width : Int) = kind.width :=
    Word.signed_of_fits (Word.fits_iff.mpr ⟨by omega, by omega⟩)
  cases order with
  | columnMajor =>
    rw [denseStrides?, denseStrides, hsigned, denseFrom?_eq kind.width_pos hwidth]
  | rowMajor =>
    rw [denseStrides?, denseStrides, hsigned, denseFrom?_eq kind.width_pos hwidth, List.map_reverse,
      List.prod_reverse]
    split <;> rfl

end Shape

/-! ## Descriptors -/

namespace Descriptor

variable {shape : Shape} {strides : Strides} {kind : Kind} {data : Option Address} {order : Order}
  {array : Descriptor}

/-- With one stride per axis and elements that can be counted, all that can be missing is the memory
that they lie in. -/
theorem result_ofStrided (hrank : shape.length = strides.length) (hcountable : shape.Countable) :
    (ofStrided data shape strides kind).run.result =
      if data = none ∧ shape.prod ≠ 0 then .error (Fault.conversion "array data pointer" "null")
      else .ok { kind, shape, strides, source := .borrowed data, length := shape.prod
                 byteLength := Word.unsigned (shape.prod * kind.width) } := by
  have hnull : (data.isNone && shape.prod != 0) = true ↔ data = none ∧ shape.prod ≠ 0 := by
    rw [Bool.and_eq_true, Option.isNone_iff_eq_none, bne_iff_ne]
  rw [ofStrided, if_neg (not_not.mpr hrank), Shape.count?_of_countable hcountable]
  dsimp only
  by_cases hmissing : data = none ∧ shape.prod ≠ 0
  · rw [if_pos hmissing, if_pos (hnull.mpr hmissing)]
    rfl
  · rw [if_neg hmissing, if_neg (mt hnull.mp hmissing)]
    rfl

theorem ofStrided_of_not_countable (data : Option Address) (kind : Kind)
    (h : ¬(shape.length = strides.length ∧ shape.Countable)) :
    ∃ fault, (ofStrided data shape strides kind).run.result = .error fault ∧
      fault.category = .shape := by
  by_cases hrank : shape.length = strides.length
  · rw [ofStrided, if_neg (not_not.mpr hrank),
      Shape.count?_of_not_countable fun hcountable => h ⟨hrank, hcountable⟩]
    exact ⟨_, rfl, rfl⟩
  · rw [ofStrided, if_pos hrank]
    exact ⟨_, rfl, rfl⟩

theorem exists_ofStrided_iff :
    (∃ view, (ofStrided data shape strides kind).run.result = .ok view) ↔
      (shape.length = strides.length ∧ shape.Countable) ∧ ¬(data = none ∧ shape.prod ≠ 0) := by
  by_cases hlayout : shape.length = strides.length ∧ shape.Countable
  · rw [result_ofStrided hlayout.1 hlayout.2, and_iff_right hlayout]
    by_cases hnull : data = none ∧ shape.prod ≠ 0
    · rw [if_pos hnull]
      exact iff_of_false (by simp) (not_not.mpr hnull)
    · rw [if_neg hnull]
      exact iff_of_true ⟨_, rfl⟩ hnull
  · obtain ⟨fault, hfault, -⟩ := ofStrided_of_not_countable data kind hlayout
    rw [hfault]
    exact iff_of_false (by simp) fun h => hlayout h.1

/-- The class of a fault tells whether it was the layout that was refused, or the memory. -/
theorem category_of_ofStrided_eq {fault : Fault}
    (h : (ofStrided data shape strides kind).run.result = .error fault) :
    fault.category =
      if shape.length = strides.length ∧ shape.Countable then .conversion else .shape := by
  by_cases hlayout : shape.length = strides.length ∧ shape.Countable
  · rw [result_ofStrided hlayout.1 hlayout.2] at h
    rw [if_pos hlayout]
    split at h
    · rw [← Except.error.inj h]
      rfl
    · cases h
  · obtain ⟨found, hfound, hcategory⟩ := ofStrided_of_not_countable data kind hlayout
    rw [if_neg hlayout, ← hcategory, Except.error.inj (h.symm.trans hfound)]

theorem numbers_of_ofStrided {view : Descriptor}
    (h : (ofStrided data shape strides kind).run.result = .ok view) :
    view.length = shape.prod ∧
      (view.byteLength = view.length * kind.width ↔ view.length * kind.width < 2 ^ 64) := by
  obtain ⟨length, -, hcount, rfl⟩ := ofStrided_eq_ok h
  exact ⟨(Shape.count?_eq_some hcount).1, Word.unsigned_eq_iff⟩

/-- A block for an array of zeros can be had. -/
def Granted [allocator : Allocator] (shape : Shape) (kind : Kind) : Prop :=
  Allocator.Addressable (blockSize kind (shape.prod * kind.width)) kind.align ∧
    allocator.grants (blockSize kind (shape.prod * kind.width))

/-- The size of an array for which a block can be had is far from leaving a word. -/
theorem Granted.lt [Allocator] (h : Granted shape kind) : shape.prod * kind.width < 2 ^ 63 := by
  have hle : shape.prod * kind.width ≤ blockSize kind (shape.prod * kind.width) := le_max_left _ _
  have haddressable := h.1
  unfold Allocator.Addressable Word.maxSigned twoPow at haddressable
  omega

/-- An array of zeros can be had if its elements can be counted and a block can be had. -/
theorem zeros_of_granted [Allocator] (hcountable : shape.Countable) (h : Granted shape kind)
    (order : Order) :
    (zeros shape kind order).run.result =
      .ok { kind, shape, length := shape.prod, byteLength := shape.prod * kind.width
            strides := shape.denseStrides kind.width order
            source := .owned (Bytes.zeros (blockSize kind (shape.prod * kind.width))) } := by
  have hbytes : Word.mul? shape.prod kind.width = some (shape.prod * kind.width) :=
    if_pos (h.lt.trans (by decide))
  rw [result_zeros (Shape.count?_of_countable hcountable) hbytes]
  exact if_pos h

theorem zeros_of_not_granted [Allocator] (h : ¬(shape.Countable ∧ Granted shape kind))
    (order : Order) :
    ∃ fault, (zeros shape kind order).run.result = .error fault ∧
      fault.category = .allocation := by
  by_cases hcountable : shape.Countable
  · have hcount := Shape.count?_of_countable hcountable
    by_cases hword : shape.prod * kind.width < Word.modulus
    · have hbytes : Word.mul? shape.prod kind.width = some (shape.prod * kind.width) :=
        if_pos hword
      have hgranted : ¬Granted shape kind := fun hgranted => h ⟨hcountable, hgranted⟩
      rw [result_zeros hcount hbytes]
      exact ⟨_, if_neg hgranted, rfl⟩
    · have hbytes : Word.mul? shape.prod kind.width = none := if_neg hword
      simp only [zeros, hcount, hbytes]
      exact ⟨_, rfl, rfl⟩
  · simp only [zeros, Shape.count?_of_not_countable hcountable]
    exact ⟨_, rfl, rfl⟩

theorem exists_zeros_iff [Allocator] :
    (∃ array, (zeros shape kind order).run.result = .ok array) ↔
      shape.Countable ∧ Granted shape kind := by
  by_cases h : shape.Countable ∧ Granted shape kind
  · exact iff_of_true ⟨_, zeros_of_granted h.1 h.2 order⟩ h
  · obtain ⟨fault, hfault, -⟩ := zeros_of_not_granted h order
    rw [hfault]
    exact iff_of_false (by simp) h

theorem category_of_zeros [Allocator] {fault : Fault}
    (h : (zeros shape kind order).run.result = .error fault) : fault.category = .allocation := by
  by_cases hgranted : shape.Countable ∧ Granted shape kind
  · rw [zeros_of_granted hgranted.1 hgranted.2] at h
    cases h
  · obtain ⟨found, hfound, hcategory⟩ := zeros_of_not_granted hgranted order
    rw [← hcategory, Except.error.inj (h.symm.trans hfound)]

/-- The block of an array bounds the product of its extents. If none of them is empty, this is also
the last product on the way to the strides. -/
theorem numbers_of_zeros [Allocator] (h : (zeros shape kind order).run.result = .ok array) :
    array.length = shape.prod ∧ array.byteLength = array.length * kind.width ∧
      (0 ∉ shape → shape.denseStrides? kind.width order = some array.strides) := by
  obtain ⟨hcountable, hgranted⟩ := exists_zeros_iff.mp ⟨array, h⟩
  rw [zeros_of_granted hcountable hgranted] at h
  rw [← Except.ok.inj h]
  refine ⟨rfl, rfl, fun hpos => ?_⟩
  rw [Shape.denseStrides?_eq, Shape.map_max_of_pos hpos, Nat.mul_comm, if_pos hgranted.lt]

/-- The strides of a dense array, axis by axis. -/
theorem BuiltDense.strides_eq (h : BuiltDense shape kind order array) {axis : Nat}
    (haxis : axis < shape.length) :
    array.strides[axis]? = some (Word.signed (shape.spacing kind.width order axis)) ∧
      (array.strides[axis]? = some (shape.spacing kind.width order axis : Int) ↔
        shape.spacing kind.width order axis < 2 ^ 63) := by
  obtain ⟨-, -, hstrides, -⟩ := h.layout
  have hstride := Shape.getElem?_denseStrides kind.width order haxis
  rw [hstrides, hstride]
  exact ⟨rfl, by rw [Option.some_inj, Word.signed_natCast_eq_iff]⟩

theorem BuiltDense.denseStrides?_eq_iff (h : BuiltDense shape kind order array) :
    shape.denseStrides? kind.width order = some array.strides ↔
      kind.width * (shape.map (max · 1)).prod < 2 ^ 63 := by
  obtain ⟨-, -, hstrides, -⟩ := h.layout
  rw [Shape.denseStrides?_eq, hstrides]
  split
  · exact iff_of_true rfl ‹_›
  · exact iff_of_false (Option.some_ne_none _).symm ‹_›

/-- What the numbers in a descriptor are, and which descriptors are refused. -/
theorem metadata_of_made (shape : Shape) (kind : Kind) :
    -- Borrowed memory is described if the elements can be counted. Their number is exact, and their
    -- size is if it is a word.
    (∀ data strides,
      ((∃ view, (ofStrided data shape strides kind).run.result = .ok view) ↔
        (shape.length = strides.length ∧ shape.Countable) ∧ ¬(data = none ∧ shape.prod ≠ 0)) ∧
      (∀ fault, (ofStrided data shape strides kind).run.result = .error fault →
        fault.category =
          if shape.length = strides.length ∧ shape.Countable then .conversion else .shape) ∧
      ∀ view, (ofStrided data shape strides kind).run.result = .ok view →
        view.length = shape.prod ∧
        (view.byteLength = view.length * kind.width ↔ view.length * kind.width < 2 ^ 64)) ∧
    -- Zeros can be had if the elements can be counted and there is memory for them. Their number
    -- and their size are exact.
    (∀ [Allocator] (order : Order),
      ((∃ array, (zeros shape kind order).run.result = .ok array) ↔
        shape.Countable ∧ Granted shape kind) ∧
      (∀ fault, (zeros shape kind order).run.result = .error fault →
        fault.category = .allocation) ∧
      ∀ array, (zeros shape kind order).run.result = .ok array →
        array.length = shape.prod ∧ array.byteLength = array.length * kind.width ∧
        (0 ∉ shape → shape.denseStrides? kind.width order = some array.strides)) ∧
    -- The strides of a dense array are exact products, wrapped around. Computing them leaves the
    -- signed words unless all extents together are small enough, an empty axis counting as one.
    ∀ order array, BuiltDense shape kind order array →
      (∀ axis < shape.length,
        array.strides[axis]? = some (Word.signed (shape.spacing kind.width order axis)) ∧
        (array.strides[axis]? = some (shape.spacing kind.width order axis : Int) ↔
          shape.spacing kind.width order axis < 2 ^ 63)) ∧
      (shape.denseStrides? kind.width order = some array.strides ↔
        kind.width * (shape.map (max · 1)).prod < 2 ^ 63) := by
  refine ⟨fun data strides => ?_, fun {_} order => ?_, fun order array h => ?_⟩
  · exact ⟨exists_ofStrided_iff, fun _ => category_of_ofStrided_eq, fun _ => numbers_of_ofStrided⟩
  · exact ⟨exists_zeros_iff, fun _ => category_of_zeros, fun _ => numbers_of_zeros⟩
  · exact ⟨fun axis haxis => h.strides_eq haxis, h.denseStrides?_eq_iff⟩

/-- An array without elements whose other axis is as long as the signed words are many: the stride
of the empty axis would be the length of the other one, and comes out negative. -/
theorem strides_of_empty_axis_wrap :
    ∃ array, (@zeros (Allocator.bounded 2) [0, 9223372036854775808] .int8 .rowMajor).run.result =
        .ok array ∧
      array.length = 0 ∧ array.strides = [-9223372036854775808, 1] ∧
      Shape.spacing [0, 9223372036854775808] 1 .rowMajor 0 = 9223372036854775808 ∧
      Shape.denseStrides? [0, 9223372036854775808] 1 .rowMajor = none :=
  ⟨_, rfl, rfl, by decide, by decide, by decide⟩

end Descriptor

end HostBridge
