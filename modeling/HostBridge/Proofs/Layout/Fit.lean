import HostBridge.Marshal.Array
import HostBridge.Proofs.Arena.Invariant
import HostBridge.Proofs.Layout.Basic
import Mathlib.Algebra.Order.Ring.Abs
import Mathlib.Tactic.Linarith

/-!
# Which layouts fit their storage

A layout is accepted after a look at its lowest and its highest element only, although strides may
be negative, zero and positive on different axes. This module shows that the look is exact: it
accepts a layout if and only if every single element lies inside the storage. Its arithmetic never
overflows, and neither does that of any later access to an element.

## Main definitions

* `HostArray.layoutFits?`: the test in integers of 128 bits that must not overflow;
* `Strides.offset?`: the position of an element in words that must not overflow;
* `Descriptor.Reaches`: an access that does not overflow and stays inside its region;
* `Arena.Keeps`: a reference that still names what was made.

## Main results

* `Shape.offset_bounds`, `Shape.exists_corners`: the lowest and the highest element are the
  least and the greatest of all positions, and both are positions of elements;
* `HostArray.layoutFits_exact`: what the test decides, that it does not overflow, and what follows
  for accesses through a view.
-/

namespace HostBridge

/-! ## The lowest and the highest element -/

namespace Shape

/-- The distance from the first element along an axis to the last. -/
def span (axis : Nat × Int) : Int := ((axis.1 : Int) - 1) * axis.2

/-- How far the elements reach below the first one, as a number that is not positive. -/
def below : List (Nat × Int) → Int
  | [] => 0
  | axis :: rest => min (span axis) 0 + below rest

/-- How far the elements reach above the first one. -/
def above : List (Nat × Int) → Int
  | [] => 0
  | axis :: rest => max (span axis) 0 + above rest

theorem below_nonpos (axes : List (Nat × Int)) : below axes ≤ 0 := by
  induction axes with
  | nil => exact le_rfl
  | cons axis rest ih =>
    rw [below]
    omega

theorem above_nonneg (axes : List (Nat × Int)) : 0 ≤ above axes := by
  induction axes with
  | nil => exact le_rfl
  | cons axis rest ih =>
    rw [above]
    omega

/-- One coordinate takes an element no further than the ends of its axis. -/
theorem coordinate_bounds {i extent : Nat} (h : i < extent) (stride : Int) :
    min (span (extent, stride)) 0 ≤ i * stride ∧ i * stride ≤ max (span (extent, stride)) 0 := by
  have hi : (0 : Int) ≤ i := Int.natCast_nonneg i
  have hlast : (i : Int) ≤ (extent : Int) - 1 := by omega
  unfold span
  -- the sign of the stride says which end of the axis is the low one
  rcases le_total 0 stride with hstride | hstride
  · exact ⟨min_le_of_right_le (mul_nonneg hi hstride),
      le_max_of_le_left (mul_le_mul_of_nonneg_right hlast hstride)⟩
  · exact ⟨min_le_of_left_le (mul_le_mul_of_nonpos_right hlast hstride),
      le_max_of_le_right (mul_nonpos_of_nonneg_of_nonpos hi hstride)⟩

/-- No element lies beyond the lowest and the highest. -/
theorem offset_bounds {shape : Shape} {index : Index} (h : shape.Contains index)
    (strides : Strides) :
    below (shape.zip strides) ≤ strides.offset index ∧
      strides.offset index ≤ above (shape.zip strides) := by
  induction h generalizing strides with
  | nil => cases strides <;> exact ⟨le_rfl, le_rfl⟩
  | cons hlt _ ih =>
    cases strides with
    | nil => exact ⟨le_rfl, le_rfl⟩
    | cons stride strides =>
      obtain ⟨hlow, hhigh⟩ := coordinate_bounds hlt stride
      obtain ⟨ihlow, ihhigh⟩ := ih strides
      rw [List.zip_cons_cons, below, above, Strides.offset]
      exact ⟨add_le_add hlow ihlow, add_le_add hhigh ihhigh⟩

/-- The lowest and the highest element are elements. -/
theorem exists_corners {shape : Shape} (hpos : 0 ∉ shape) (strides : Strides) :
    ∃ low high, shape.Contains low ∧ shape.Contains high ∧
      strides.offset low = below (shape.zip strides) ∧
      strides.offset high = above (shape.zip strides) := by
  induction shape generalizing strides with
  | nil =>
    cases strides <;> exact ⟨[], [], .nil, .nil, rfl, rfl⟩
  | cons extent shape ih =>
    obtain ⟨hextent, hpos⟩ := pos_of_cons hpos
    cases strides with
    | nil =>
      obtain ⟨low, high, hlow, hhigh, -, -⟩ := ih hpos []
      exact ⟨0 :: low, 0 :: high, .cons (by omega) hlow, .cons (by omega) hhigh, rfl, rfl⟩
    | cons stride strides =>
      obtain ⟨low, high, hlow, hhigh, hbelow, habove⟩ := ih hpos strides
      have hlast : ((extent - 1 : Nat) : Int) * stride = span (extent, stride) := by
        rw [span, Nat.cast_sub (by omega), Nat.cast_one]
      -- along this axis one corner takes the last coordinate and the other one the first
      rcases le_total 0 (span (extent, stride)) with hspan | hspan
      · refine ⟨0 :: low, (extent - 1) :: high, .cons (by omega) hlow, .cons (by omega) hhigh,
          ?_, ?_⟩
        · rw [Strides.offset, List.zip_cons_cons, below, hbelow, min_eq_right hspan]
          simp
        · rw [Strides.offset, List.zip_cons_cons, above, habove, max_eq_left hspan, hlast]
      · refine ⟨(extent - 1) :: low, 0 :: high, .cons (by omega) hlow, .cons (by omega) hhigh,
          ?_, ?_⟩
        · rw [Strides.offset, List.zip_cons_cons, below, hbelow, min_eq_left hspan, hlast]
        · rw [Strides.offset, List.zip_cons_cons, above, habove, max_eq_right hspan]
          simp

end Shape

/-- All elements lie inside if and only if the lowest and the highest do. -/
theorem Shape.forall_inside_iff {shape : Shape} {strides : Strides} {offset width length : Nat}
    (hpos : 0 ∉ shape) :
    (∀ index, shape.Contains index →
        Bytes.Inside length (offset + strides.offset index) width) ↔
      0 ≤ offset + below (shape.zip strides) ∧
        offset + above (shape.zip strides) + width ≤ length := by
  constructor
  · intro hinside
    obtain ⟨low, high, hlow, hhigh, hbelow, habove⟩ := exists_corners hpos strides
    rw [← hbelow, ← habove]
    exact ⟨(hinside low hlow).1, (hinside high hhigh).2⟩
  · rintro ⟨hlow, hhigh⟩ index hindex
    obtain ⟨hbelow, habove⟩ := offset_bounds hindex strides
    exact ⟨by omega, by omega⟩

namespace HostArray

open Shape

variable {shape : Shape} {strides : Strides} {offset width length : Nat}

/-! ## What the test decides -/

theorem widen_wrap (low high : Int) (axis : Nat × Int) :
    widen (Word.wrap 128 low, Word.wrap 128 high) axis =
      (Word.wrap 128 (low + min (span axis) 0), Word.wrap 128 (high + max (span axis) 0)) := by
  unfold widen
  show (if span axis < 0 then (Word.wrap 128 (Word.wrap 128 low + span axis), Word.wrap 128 high)
    else (Word.wrap 128 low, Word.wrap 128 (Word.wrap 128 high + span axis))) = _
  split
  · rw [min_eq_left (by omega), max_eq_right (by omega), add_zero, Word.wrap_wrap_add]
  · rw [min_eq_right (by omega), max_eq_left (by omega), add_zero, Word.wrap_wrap_add]

/-- Sums that wrap around on the way end where the exact sums end, up to one more wrap. -/
theorem foldl_widen (axes : List (Nat × Int)) (low high : Int) :
    axes.foldl widen (Word.wrap 128 low, Word.wrap 128 high) =
      (Word.wrap 128 (low + below axes), Word.wrap 128 (high + above axes)) := by
  induction axes generalizing low high with
  | nil => rw [List.foldl_nil, below, above, add_zero, add_zero]
  | cons axis rest ih => rw [List.foldl_cons, widen_wrap, ih, below, above, add_assoc, add_assoc]

/-- The test finds the lowest and the highest element, up to a multiple of `2 ^ 128`. -/
theorem reach_eq (axes : List (Nat × Int)) (h : Word.Fits 128 (offset : Int)) :
    reach offset axes =
      (Word.wrap 128 (offset + below axes), Word.wrap 128 (offset + above axes)) := by
  have hfold := foldl_widen axes offset offset
  rwa [Word.wrap_of_fits (by decide) h] at hfold

/-- Whatever wraps around, an accepted layout has one stride per axis and begins inside. -/
theorem rank_and_offset_of_layoutFits
    (h : layoutFits shape strides offset width length = true) :
    shape.length = strides.length ∧ offset ≤ length := by
  unfold layoutFits at h
  split at h
  · cases h
  · omega

/-- What the test decides. -/
theorem layoutFits_iff (hlength : length < 2 ^ 63) :
    layoutFits shape strides offset width length = true ↔
      shape.length = strides.length ∧ offset ≤ length ∧
        (0 ∈ shape ∨ 0 ≤ Word.wrap 128 (offset + below (shape.zip strides)) ∧
          Word.wrap 128 (offset + above (shape.zip strides) + width) ≤ length) := by
  unfold layoutFits
  by_cases hbegins : shape.length ≠ strides.length ∨ length < offset
  · rw [if_pos hbegins]
    exact iff_of_false nofun fun h => hbegins.elim (· h.1) (Nat.not_lt.mpr h.2.1)
  · have hoffset : Word.Fits 128 (offset : Int) := Word.fits_iff.mpr ⟨by omega, by omega⟩
    obtain ⟨hrank, hinside⟩ := not_or.mp hbegins
    rw [if_neg hbegins, reach_eq _ hoffset]
    dsimp only
    rw [Word.wrap_wrap_add]
    by_cases hempty : 0 ∈ shape
    · simp [hasEmptyAxis_iff.mpr hempty, hempty, not_not.mp hrank, Nat.le_of_not_lt hinside]
    · simp [mt hasEmptyAxis_iff.mp hempty, hempty, not_not.mp hrank, Nat.le_of_not_lt hinside]

/-- No element begins or ends at a position that leaves 128 bits. -/
def InRange (shape : Shape) (strides : Strides) (offset width : Nat) : Prop :=
  ∀ index, shape.Contains index →
    Word.Fits 128 (offset + strides.offset index) ∧
      Word.Fits 128 (offset + strides.offset index + width)

/-- As long as nothing leaves 128 bits, the test accepts a layout if and only if every element lies
inside. -/
theorem layoutFits_iff_forall (hlength : length < 2 ^ 63)
    (hrange : InRange shape strides offset width) :
    layoutFits shape strides offset width length = true ↔
      shape.length = strides.length ∧ offset ≤ length ∧
        (0 ∈ shape ∨ ∀ index, shape.Contains index →
          Bytes.Inside length (offset + strides.offset index) width) := by
  rw [layoutFits_iff hlength]
  by_cases hempty : 0 ∈ shape
  · simp only [hempty, true_or]
  · obtain ⟨low, high, hlow, hhigh, hbelow, habove⟩ := exists_corners hempty strides
    have hlowest := (hrange low hlow).1
    have hhighest := (hrange high hhigh).2
    rw [hbelow] at hlowest
    rw [habove] at hhighest
    rw [forall_inside_iff hempty, Word.wrap_of_fits (by decide) hlowest,
      Word.wrap_of_fits (by decide) hhighest]

/-- What lies inside some storage is in range. -/
theorem inRange_of_inside (hlength : length < 2 ^ 63)
    (h : ∀ index, shape.Contains index →
      Bytes.Inside length (offset + strides.offset index) width) :
    InRange shape strides offset width := by
  intro index hindex
  obtain ⟨hlow, hhigh⟩ := h index hindex
  exact ⟨Word.fits_iff.mpr ⟨by omega, by omega⟩, Word.fits_iff.mpr ⟨by omega, by omega⟩⟩

/-! ## The arithmetic of the test -/

/-- Widen the positions by one more axis in integers of 128 bits, which must not overflow. -/
def widen? (reach : Int × Int) (axis : Nat × Int) : Option (Int × Int) := do
  let extent ← Word.checked 128 axis.1
  let steps ← Word.checked 128 (extent - 1)
  let span ← Word.checked 128 (steps * axis.2)
  if span < 0 then return (← Word.checked 128 (reach.1 + span), reach.2)
  else return (reach.1, ← Word.checked 128 (reach.2 + span))

/-- The test in integers of 128 bits, which must not overflow. -/
def layoutFits? (shape : Shape) (strides : Strides) (offset width length : Nat) : Option Bool :=
  if shape.length ≠ strides.length ∨ length < offset then some false
  else if shape.hasEmptyAxis then some true
  else do
    let start ← Word.checked 128 offset
    let (low, high) ← (shape.zip strides).foldlM widen? (start, start)
    let last ← Word.checked 128 (high + width)
    let bound ← Word.checked 128 length
    return decide (0 ≤ low ∧ last ≤ bound)

/-- An axis that is not empty, with an extent below `2 ^ 64` and a stride of 64 bits. -/
def AxisFits (axis : Nat × Int) : Prop := 0 < axis.1 ∧ axis.1 < 2 ^ 64 ∧ Word.Fits 64 axis.2

theorem span_bounds {axis : Nat × Int} (h : AxisFits axis) :
    -(2 ^ 63 * ((axis.1 : Int) - 1)) ≤ span axis ∧ span axis ≤ 2 ^ 63 * ((axis.1 : Int) - 1) := by
  obtain ⟨hpos, -, hfits⟩ := h
  obtain ⟨hlow, hhigh⟩ := Word.fits_iff.mp hfits
  have hsteps : (0 : Int) ≤ (axis.1 : Int) - 1 := by omega
  rw [← neg_mul, mul_comm (-2 ^ 63), mul_comm (2 ^ 63), span]
  exact ⟨mul_le_mul_of_nonneg_left hlow hsteps, mul_le_mul_of_nonneg_left hhigh.le hsteps⟩

/-- A step that stays in range is exact. -/
theorem widen?_eq {low high : Int} {axis : Nat × Int} (h : AxisFits axis)
    (hlow : -2 ^ 127 ≤ low + min (span axis) 0 ∧ low < 2 ^ 127)
    (hhigh : -2 ^ 127 ≤ high ∧ high + max (span axis) 0 < 2 ^ 127) :
    widen? (low, high) axis = some (low + min (span axis) 0, high + max (span axis) 0) := by
  obtain ⟨hbelow, habove⟩ := span_bounds h
  obtain ⟨hpos, hextent, -⟩ := h
  have hcast : Word.checked 128 (axis.1 : Int) = some (axis.1 : Int) :=
    Word.checked_of_fits (Word.fits_iff.mpr ⟨by omega, by omega⟩)
  have hsteps : Word.checked 128 ((axis.1 : Int) - 1) = some ((axis.1 : Int) - 1) :=
    Word.checked_of_fits (Word.fits_iff.mpr ⟨by omega, by omega⟩)
  have hspan : Word.checked 128 (((axis.1 : Int) - 1) * axis.2) = some (span axis) :=
    Word.checked_of_fits
      (Word.fits_iff.mpr ⟨by unfold span at *; omega, by unfold span at *; omega⟩)
  simp only [widen?, hcast, hsteps, hspan, Option.bind_eq_bind, Option.bind_some]
  -- of the two positions one stays, and the other one moves by the span
  split
  · rw [min_eq_left (by omega), max_eq_right (by omega), add_zero,
      Word.checked_of_fits (Word.fits_iff.mpr ⟨by omega, by omega⟩)]
    rfl
  · rw [min_eq_right (by omega), max_eq_left (by omega), add_zero,
      Word.checked_of_fits (Word.fits_iff.mpr ⟨by omega, by omega⟩)]
    rfl

/-- Along all axes: the positions stay between those of the lowest and of the highest element. -/
theorem foldlM_widen? {axes : List (Nat × Int)} {low high : Int}
    (h : ∀ axis ∈ axes, AxisFits axis)
    (hlow : -2 ^ 127 ≤ low + below axes ∧ low < 2 ^ 127)
    (hhigh : -2 ^ 127 ≤ high ∧ high + above axes < 2 ^ 127) :
    axes.foldlM widen? (low, high) = some (low + below axes, high + above axes) := by
  induction axes generalizing low high with
  | nil => rw [below, above, add_zero, add_zero]; rfl
  | cons axis rest ih =>
    have hbelow := below_nonpos rest
    have habove := above_nonneg rest
    rw [below] at hlow
    rw [above] at hhigh
    rw [List.foldlM_cons, widen?_eq (h axis List.mem_cons_self) ⟨by omega, by omega⟩
      ⟨by omega, by omega⟩, Option.bind_eq_bind, Option.bind_some, below, above, ← add_assoc,
      ← add_assoc]
    exact ih (fun axis haxis => h axis (List.mem_cons_of_mem _ haxis)) ⟨by omega, by omega⟩
      ⟨by omega, by omega⟩

/-- A product of extents bounds how far the elements can reach, since it exceeds the sum of the
steps along all axes. -/
theorem reach_bounds {shape : Shape} {strides : Strides}
    (h : ∀ axis ∈ shape.zip strides, AxisFits axis) (hpos : 0 ∉ shape) :
    -(2 ^ 63 * ((shape.prod : Int) - 1)) ≤ below (shape.zip strides) ∧
      above (shape.zip strides) ≤ 2 ^ 63 * ((shape.prod : Int) - 1) := by
  induction shape generalizing strides with
  | nil => exact ⟨le_rfl, le_rfl⟩
  | cons extent shape ih =>
    obtain ⟨hextent, hpos⟩ := pos_of_cons hpos
    have hprod := prod_pos hpos
    have hmul : ((extent : Int) - 1) + (shape.prod - 1) ≤ extent * shape.prod - 1 := by
      have hnonneg : 0 ≤ ((extent : Int) - 1) * (shape.prod - 1) :=
        mul_nonneg (by omega) (by omega)
      linarith
    rw [List.prod_cons, Nat.cast_mul]
    cases strides with
    | nil =>
      rw [List.zip_nil_right, below, above]
      omega
    | cons stride strides =>
      rw [List.zip_cons_cons] at h ⊢
      obtain ⟨hlow, hhigh⟩ := span_bounds (h _ List.mem_cons_self)
      obtain ⟨ihlow, ihhigh⟩ := ih (fun axis haxis => h axis (List.mem_cons_of_mem _ haxis)) hpos
      rw [below, above]
      omega

/-- No extent exceeds the product of all. -/
theorem axisFits_of_count {shape : Shape} {strides : Strides} {n : Nat} (hpos : 0 ∉ shape)
    (hcount : shape.count? = some n) (hstrides : ∀ stride ∈ strides, Word.Fits 64 stride) :
    ∀ axis ∈ shape.zip strides, AxisFits axis := by
  rintro ⟨extent, stride⟩ haxis
  obtain ⟨hextent, hstride⟩ := List.of_mem_zip haxis
  obtain ⟨hn, hlt⟩ := count?_eq_some hcount
  have hle : extent ≤ shape.prod := Nat.le_of_dvd (prod_pos hpos) (List.dvd_prod hextent)
  refine ⟨Nat.pos_of_ne_zero fun hzero => hpos (hzero ▸ hextent), ?_, hstrides stride hstride⟩
  unfold Word.modulus twoPow at hlt
  exact hle.trans_lt (hn ▸ hlt)

/-- With an element count, `2 ^ 63 * (2 ^ 64 - 2)` bytes bound how far the elements reach. With a
length below `2 ^ 63` that stays below `2 ^ 127`. -/
theorem corners_of_count {n : Nat} (kind : Kind) (hpos : 0 ∉ shape)
    (hcount : shape.count? = some n) (hstrides : ∀ stride ∈ strides, Word.Fits 64 stride)
    (hoffset : offset < 2 ^ 63) :
    -2 ^ 127 ≤ offset + below (shape.zip strides) ∧
      offset + above (shape.zip strides) + kind.width < 2 ^ 127 := by
  obtain ⟨hbelow, habove⟩ := reach_bounds (axisFits_of_count hpos hcount hstrides) hpos
  obtain ⟨hn, hlt⟩ := count?_eq_some hcount
  have hprod : (shape.prod : Int) < 2 ^ 64 := by exact_mod_cast hn ▸ hlt
  have hwidth : kind.width ≤ 16 := by cases kind <;> decide
  omega

/-- With an element count, no element begins or ends at a position that leaves 128 bits. -/
theorem inRange_of_count {n : Nat} (kind : Kind) (hcount : shape.count? = some n)
    (hstrides : ∀ stride ∈ strides, Word.Fits 64 stride) (hoffset : offset < 2 ^ 63) :
    InRange shape strides offset kind.width := by
  intro index hindex
  obtain ⟨hlow, hhigh⟩ := corners_of_count kind hindex.zero_notMem hcount hstrides hoffset
  obtain ⟨hbelow, habove⟩ := offset_bounds hindex strides
  exact ⟨Word.fits_iff.mpr ⟨by omega, by omega⟩, Word.fits_iff.mpr ⟨by omega, by omega⟩⟩

/-- The test does not overflow. -/
theorem layoutFits?_eq {n : Nat} {kind : Kind} (hcount : shape.count? = some n)
    (hstrides : ∀ stride ∈ strides, Word.Fits 64 stride) (hlength : length < 2 ^ 63) :
    layoutFits? shape strides offset kind.width length =
      some (layoutFits shape strides offset kind.width length) := by
  unfold layoutFits? layoutFits
  split
  · rfl
  · rename_i hshape
    split
    · rfl
    · rename_i hempty
      have hpos := mt hasEmptyAxis_iff.mpr hempty
      have hoffset : offset < 2 ^ 63 := by omega
      obtain ⟨hlow, hhigh⟩ := corners_of_count kind hpos hcount hstrides hoffset
      have hbelow := below_nonpos (shape.zip strides)
      have habove := above_nonneg (shape.zip strides)
      have hstart : Word.Fits 128 (offset : Int) := Word.fits_iff.mpr ⟨by omega, by omega⟩
      have hbound : Word.Fits 128 (length : Int) := Word.fits_iff.mpr ⟨by omega, by omega⟩
      have hfirst : Word.Fits 128 ((offset : Int) + below (shape.zip strides)) :=
        Word.fits_iff.mpr ⟨by omega, by omega⟩
      have hlast : Word.Fits 128 ((offset : Int) + above (shape.zip strides) + kind.width) :=
        Word.fits_iff.mpr ⟨by omega, by omega⟩
      have hfold : (shape.zip strides).foldlM widen? ((offset : Int), (offset : Int)) =
          some (offset + below (shape.zip strides), offset + above (shape.zip strides)) :=
        foldlM_widen? (axisFits_of_count hpos hcount hstrides) ⟨by omega, by omega⟩
          ⟨by omega, by omega⟩
      -- what stays in range is exact on both sides
      rw [reach_eq _ hstart]
      dsimp only
      rw [Word.wrap_wrap_add, Word.wrap_of_fits (by decide) hfirst,
        Word.wrap_of_fits (by decide) hlast]
      simp only [Word.checked_of_fits hstart, Word.checked_of_fits hlast,
        Word.checked_of_fits hbound, Option.bind_eq_bind, Option.bind_some, hfold]
      rfl

end HostArray

/-! ## The arithmetic of an access -/

/-- The distance in bytes from the first element to the one at an index, in words that must not
overflow. Coordinates are converted to signed words first. -/
def Strides.offset? (sum : Int) : Strides → Index → Option Int
  | stride :: strides, i :: index => do
    let product ← Word.checked 64 (Word.signed i * stride)
    let sum ← Word.checked 64 (sum + product)
    offset? sum strides index
  | _, _ => some sum

namespace Shape

/-- A coordinate that does not fit in a signed word occurs with a stride of zero only. -/
theorem signed_mul {i extent : Nat} {stride : Int} (h : i < extent)
    (hlow : -2 ^ 63 < span (extent, stride)) (hhigh : span (extent, stride) < 2 ^ 63) :
    Word.signed i * stride = i * stride := by
  rcases eq_or_ne stride 0 with rfl | hstride
  · rw [mul_zero, mul_zero]
  -- a stride of one byte already takes the last coordinate beyond any storage
  · have hi : (i : Int) < 2 ^ 63 := by
      have habs : |span (extent, stride)| < 2 ^ 63 := abs_lt.mpr ⟨hlow, hhigh⟩
      have hone : 1 ≤ |stride| := Int.one_le_abs hstride
      have hlast : (i : Int) ≤ |(extent : Int) - 1| := by
        rw [abs_of_nonneg] <;> omega
      rw [span, abs_mul] at habs
      nlinarith [abs_nonneg ((extent : Int) - 1)]
    rw [Word.signed_of_fits (Word.fits_iff.mpr ⟨by omega, by omega⟩)]

/-- No sum and no product of an access overflows, if all elements lie within a signed word. -/
theorem offset?_eq {shape : Shape} {index : Index} (h : shape.Contains index) {strides : Strides}
    {sum : Int} (hlow : -2 ^ 63 < below (shape.zip strides))
    (hhigh : above (shape.zip strides) < 2 ^ 63)
    (hsumlow : -2 ^ 63 < sum + below (shape.zip strides))
    (hsumhigh : sum + above (shape.zip strides) < 2 ^ 63) :
    strides.offset? sum index = some (sum + strides.offset index) := by
  induction h generalizing strides sum with
  | nil => cases strides <;> simp [Strides.offset?, Strides.offset]
  | @cons i extent index shape hlt hrest ih =>
    cases strides with
    | nil => simp [Strides.offset?, Strides.offset]
    | cons stride strides =>
      rw [List.zip_cons_cons, below] at hlow hsumlow
      rw [List.zip_cons_cons, above] at hhigh hsumhigh
      have hbelow := below_nonpos (shape.zip strides)
      have habove := above_nonneg (shape.zip strides)
      obtain ⟨hmin, hmax⟩ := coordinate_bounds hlt stride
      have hproduct : Word.Fits 64 (i * stride) :=
        Word.fits_iff.mpr ⟨by omega, by omega⟩
      have hsum : Word.Fits 64 (sum + i * stride) :=
        Word.fits_iff.mpr ⟨by omega, by omega⟩
      rw [Strides.offset?, signed_mul hlt (by omega) (by omega), Word.checked_of_fits hproduct,
        Option.bind_eq_bind, Option.bind_some, Word.checked_of_fits hsum, Option.bind_some,
        ih (by omega) (by omega) (by omega) (by omega), Strides.offset, add_assoc]

end Shape

/-! ## Views of host arrays -/

namespace Marshal

theorem arrayInfo_eq_ok {exchange after : Exchange Arena} {ref : Ref} {info : ArrayInfo}
    (h : outcome (arrayInfo ref) exchange = (.ok info, after)) :
    exchange.host.arrayInfo ref = some info := by
  have hask : outcome (ask id) exchange = (.ok exchange.host, exchange) := rfl
  rw [arrayInfo, outcome_bind, hask] at h
  simp only at h
  split at h
  · cases h
    assumption
  · cases congrArg Prod.fst h

/-- A view is what its description says, with elements of the kind that the host reports. -/
theorem viewOfInfo_eq_ok {H : Type} {exchange : Exchange H} {info : ArrayInfo} {view : Descriptor}
    (h : (outcome (viewOfInfo info) exchange).1 = .ok view) :
    ∃ kind, Kind.ofTypeCode? info.typeCode = some kind ∧
      (Descriptor.ofStrided info.data info.shape info.strides kind).run.result = .ok view := by
  rw [viewOfInfo, outcome_bind, infoKind] at h
  cases hkind : (Kind.ofTypeCode? info.typeCode).filter fun kind => kind.width == info.itemSize with
  | none =>
    rw [hkind] at h
    cases h
  | some kind =>
    rw [hkind] at h
    refine ⟨kind, (Option.filter_eq_some_iff.mp hkind).1, ?_⟩
    have hpure : outcome (pure kind : Marshal H Kind) exchange = (.ok kind, exchange) := rfl
    have hlift (attempt : Attempt Descriptor) :
        outcome (H := H) (ExceptT.lift (StateT.lift attempt.outcome)) exchange =
          (.ok attempt.run.result, exchange) := rfl
    simp only [hpure, outcome_bind, hlift] at h
    cases hview : (Descriptor.ofStrided info.data info.shape info.strides kind).run.result with
    | error fault =>
      rw [hview] at h
      cases h
    | ok built =>
      rw [hview] at h
      cases h
      rfl

/-- A view of what the host reports about an array object borrows its storage. -/
theorem view_of_report {host : Arena} {exchange : Exchange Arena} {ref : Ref} {info : ArrayInfo}
    {view : Descriptor} (hreport : host.arrayInfo ref = some info)
    (h : (outcome (viewOfInfo info) exchange).1 = .ok view) :
    ∃ array length, host.value? ref = some (.array array) ∧ array.shape.count? = some length ∧
      view = { kind := array.kind, shape := array.shape, strides := array.strides, length,
               source := .borrowed (some ⟨.object ref, array.offset⟩)
               byteLength := Word.unsigned (length * array.kind.width) } := by
  obtain ⟨kind, hkind, hview⟩ := viewOfInfo_eq_ok h
  unfold Arena.arrayInfo at hreport
  split at hreport
  · rename_i array hvalue
    obtain ⟨length, hcount, rfl⟩ := Option.map_eq_some_iff.mp hreport
    rw [Kind.ofTypeCode?_typeCode] at hkind
    cases hkind
    obtain ⟨found, -, hfound, rfl⟩ := Descriptor.ofStrided_eq_ok hview
    rw [hcount] at hfound
    cases hfound
    exact ⟨array, length, hvalue, hcount, rfl⟩
  · cases hreport

/-- A view of a host array borrows its storage. -/
theorem toDescriptor_eq_ok {exchange : Exchange Arena} {ref : Ref} {view : Descriptor}
    (h : (outcome (toDescriptor ref) exchange).1 = .ok view) :
    ∃ array length, exchange.host.value? ref = some (.array array) ∧
      array.shape.count? = some length ∧
      view = { kind := array.kind, shape := array.shape, strides := array.strides, length,
               source := .borrowed (some ⟨.object ref, array.offset⟩)
               byteLength := Word.unsigned (length * array.kind.width) } := by
  rw [toDescriptor, outcome_bind] at h
  rcases hinfo : outcome (arrayInfo ref) exchange with ⟨_ | info, after⟩
  · rw [hinfo] at h
    cases h
  · rw [hinfo] at h
    exact view_of_report (arrayInfo_eq_ok hinfo) h

end Marshal

/-! ## Accesses through a view -/

/-- An access at an index finds its position without overflow, and inside the region that the array
lies in. -/
structure Descriptor.Reaches (array : Descriptor) (region : Bytes) (index : Index) : Prop where
  /-- No product and no sum of the access overflows. -/
  offset?_eq : array.strides.offset? 0 index = some (array.strides.offset index)
  /-- The access succeeds, with the exact position. -/
  byteOffset_eq : array.byteOffset index = .ok (array.strides.offset index)
  /-- All bytes of the element lie inside the region. -/
  inside : Bytes.Inside region.length (array.base + array.strides.offset index) array.kind.width

open Shape Arena Descriptor

/-- If all elements lie inside, every one of them can be reached. -/
theorem Descriptor.reaches_of_inside {array : Descriptor} {region : Bytes} {offset length : Nat}
    (hinside : ∀ index, array.shape.Contains index →
      Bytes.Inside length (offset + array.strides.offset index) array.kind.width)
    (hoffset : offset ≤ length) (hlength : length < 2 ^ 63) (hbase : array.base = offset)
    (hregion : length ≤ region.length) {index : Index} (hindex : array.shape.Contains index) :
    array.Reaches region index := by
  obtain ⟨hlow, hhigh⟩ := (forall_inside_iff hindex.zero_notMem).mp hinside
  -- every position lies between the two corners, and so does every partial sum
  obtain ⟨hbelow, habove⟩ := offset_bounds hindex array.strides
  have hfits : Word.Fits 64 (array.strides.offset index) :=
    Word.fits_iff.mpr ⟨by omega, by omega⟩
  refine ⟨?_, Descriptor.byteOffset_of_contains hindex hfits, ?_⟩
  · rw [offset?_eq hindex (by omega) (by omega) (by omega) (by omega), zero_add]
  · rw [hbase]
    exact ⟨by omega, by omega⟩

/-- A reference that names nothing but what was made, the bytes of an array aside. -/
def Arena.Keeps (arena : Arena) (ref : Ref) (made : Object) : Prop :=
  ∀ object, arena.value? ref = some object → made.SameButBytes object

/-- A reference that is handed out names what was placed. -/
theorem Arena.keeps_place (arena : Arena) (object : Object) :
    (arena.place object).2.Keeps (arena.place object).1 object := by
  intro found hfound
  rw [value?_eq] at hfound
  obtain ⟨slot, hslot, hvalue⟩ := Option.bind_eq_some_iff.mp hfound
  obtain ⟨hheld, -, -⟩ := slot?_eq_some_iff.mp hslot
  obtain ⟨hlt, -⟩ := List.getElem?_eq_some_iff.mp hheld
  rw [getElem?_place, if_pos ⟨rfl, hlt⟩] at hheld
  cases hheld
  cases hvalue
  exact Object.sameButBytes_refl object

/-- An array with an explicit layout is made if its layout is accepted. -/
theorem Arena.arrayFromParts_eq_some {arena next : Arena} {kind : Kind} {shape : Shape}
    {strides : Strides} {offset : Nat} {bytes : Bytes} {ref : Ref}
    (h : arena.arrayFromParts kind shape strides offset bytes = (some ref, next)) :
    HostArray.layoutFits shape strides offset kind.width bytes.length = true ∧
      next.Keeps ref (.array (.ofBytes kind shape strides offset bytes)) := by
  by_cases hfits : HostArray.layoutFits shape strides offset kind.width bytes.length = true
  · rw [arrayFromParts, if_pos hfits, alloc_eq_place] at h
    cases h
    exact ⟨hfits, keeps_place arena _⟩
  · rw [arrayFromParts, if_neg hfits] at h
    cases h

/-- A view of an array has the layout with which the array was made. -/
theorem Arena.layout_of_view {kind : Kind} {shape : Shape} {strides : Strides} {offset : Nat}
    {bytes : Bytes} {ref : Ref} {exchange : Exchange Arena} {view : Descriptor}
    (hkeeps : exchange.host.Keeps ref (.array (.ofBytes kind shape strides offset bytes)))
    (hview : (Marshal.outcome (Marshal.toDescriptor ref) exchange).1 = .ok view) :
    view.kind = kind ∧ view.shape = shape ∧ view.strides = strides ∧
      view.source = .borrowed (some ⟨.object ref, offset⟩) ∧
      bytes.length ≤ (exchange.host.storage ref).length := by
  obtain ⟨array, length, hvalue, -, rfl⟩ := Marshal.toDescriptor_eq_ok hview
  obtain ⟨hkind, hshape, hstrides, hoffset, hstorage⟩ := hkeeps _ hvalue
  refine ⟨hkind.symm, hshape.symm, hstrides.symm, ?_, ?_⟩
  · rw [← show offset = array.offset from hoffset]
  · rw [storage, hvalue, ← hstorage]
    exact Bytes.length_le_padTo 8 bytes

/-- The layouts that are accepted are those whose elements all lie inside the storage, and nothing
overflows, neither in the test nor in a later access. -/
theorem HostArray.layoutFits_exact (shape : Shape) (strides : Strides) (offset : Nat) (kind : Kind)
    (length : Nat) (hcount : shape.count?.isSome = true)
    (hstrides : ∀ stride ∈ strides, Word.Fits 64 stride) (hlength : length < 2 ^ 63) :
    -- The test never overflows.
    layoutFits? shape strides offset kind.width length =
      some (layoutFits shape strides offset kind.width length) ∧
    -- It accepts a layout if and only if every element lies inside.
    (layoutFits shape strides offset kind.width length = true ↔
      shape.length = strides.length ∧ offset ≤ length ∧
        (0 ∈ shape ∨ ∀ index, shape.Contains index →
          Bytes.Inside length (offset + strides.offset index) kind.width)) ∧
    -- A view of an array that was accepted reaches every element, as soon as the array is made and
    -- as long as the reference names it.
    ∀ (arena next : Arena) (ref : Ref) (bytes : Bytes), bytes.length = length →
      arena.arrayFromParts kind shape strides offset bytes = (some ref, next) →
        next.Keeps ref (.array (.ofBytes kind shape strides offset bytes)) ∧
        ∀ (exchange : Exchange Arena) (view : Descriptor) (regions : Regions) (index : Index),
          exchange.host.Keeps ref (.array (.ofBytes kind shape strides offset bytes)) →
          (Marshal.outcome (Marshal.toDescriptor ref) exchange).1 = .ok view →
          regions (.object ref) = exchange.host.storage ref →
          shape.Contains index → view.Reaches (view.region regions) index := by
  obtain ⟨n, hn⟩ := Option.isSome_iff_exists.mp hcount
  have hexact (hoffset : offset ≤ length) :=
    layoutFits_iff_forall hlength (inRange_of_count kind hn hstrides (hoffset.trans_lt hlength))
  refine ⟨layoutFits?_eq hn hstrides hlength, ?_, ?_⟩
  · exact ⟨fun h => (hexact (rank_and_offset_of_layoutFits h).2).mp h,
      fun h => (hexact h.2.1).mpr h⟩
  rintro arena next ref bytes rfl hmade
  obtain ⟨hfits, hnext⟩ := arrayFromParts_eq_some hmade
  refine ⟨hnext, fun exchange view regions index hkeeps hview hregions hindex => ?_⟩
  obtain ⟨rfl, rfl, rfl, hsource, hstorage⟩ := layout_of_view hkeeps hview
  have hoffset := (rank_and_offset_of_layoutFits hfits).2
  obtain ⟨-, -, hinside⟩ := (hexact hoffset).mp hfits
  refine reaches_of_inside (hinside.resolve_left hindex.zero_notMem) hoffset hlength ?_ ?_ hindex
  · rw [Descriptor.base, hsource]
  · rw [Descriptor.region, hsource]
    show bytes.length ≤ (regions (.object ref)).length
    rw [hregions]
    exact hstorage

/-- A host that has made an array of two rows from the last to the first: one stride is negative,
and the first element lies in the middle of the storage. -/
def Arena.flipped : Exchange Arena where
  host := (empty.arrayFromParts .int32 [2, 3] [-12, 4] 12 (Bytes.zeros 24)).2
  stats := {}
  settings := ⟨[], none⟩

theorem HostArray.layoutFits_exact_of_flipped :
    layoutFits [2, 3] [-12, 4] 12 Kind.int32.width 24 = true ∧
    ∃ view, (Marshal.outcome (Marshal.toDescriptor ⟨3, 0⟩) flipped).1 = .ok view ∧
      Shape.Contains [2, 3] [1, 2] ∧
      view.Reaches (view.region fun _ => flipped.host.storage ⟨3, 0⟩) [1, 2] := by
  obtain ⟨-, -, hmade⟩ := layoutFits_exact [2, 3] [-12, 4] 12 .int32 24 (by decide) (by decide)
    (by decide)
  obtain ⟨hkeeps, hreaches⟩ := hmade empty flipped.host ⟨3, 0⟩ (Bytes.zeros 24) (by decide) rfl
  have hindex : Shape.Contains [2, 3] [1, 2] := .cons (by decide) (.cons (by decide) .nil)
  exact ⟨by decide, _, rfl, hindex, hreaches flipped _ _ [1, 2] hkeeps rfl rfl hindex⟩

end HostBridge
