import HostBridge.Proofs.Layout.Basic
import Mathlib.Data.Set.Function
import Mathlib.Tactic.Ring

/-!
# Dense layouts

In a dense array the indices are the numerals of a mixed radix: each has a position, which is the
number of indices before it, and its element lies that many elements from the first one. This
module relates the three loops that must agree on this, namely the one that accumulates strides,
the one that walks over all indices with carry, and the one that adds up an offset.

## Main definitions

* `Shape.position`: the position of an index when the last coordinate varies fastest;
* `Odometer.reached`: the index that a walk reaches after so many others.

## Main results

* `Odometer.successor?_position`: one step of a walk leads to the next position;
* `Odometer.reached_position`: so a walk reaches every position once, in order;
* `Shape.offset_denseStrides`: the strides of a dense array map an index to its position;
* `Descriptor.byteOffset_bijOn_of_dense`: hence indices and places of elements correspond one to
  one, and no two elements overlap.
-/

namespace HostBridge

namespace Shape

variable {shape : Shape} {index : Index}

/-! ## Positions -/

/-- The number of indices before a given one, when the last coordinate varies fastest. -/
def position : Shape → Index → Nat
  | _ :: shape, i :: index => i * shape.prod + position shape index
  | _, _ => 0

theorem position_lt (h : shape.Contains index) : shape.position index < shape.prod := by
  induction h with
  | nil => exact Nat.one_pos
  | @cons i extent index shape hlt hrest ih =>
    rw [position, List.prod_cons]
    calc i * shape.prod + position shape index
      _ < i * shape.prod + shape.prod := Nat.add_lt_add_left ih _
      _ = (i + 1) * shape.prod := (Nat.succ_mul i _).symm
      _ ≤ extent * shape.prod := Nat.mul_le_mul_right _ hlt

/-- Different indices have different positions. -/
theorem position_injective {other : Index} (h : shape.Contains index) (h' : shape.Contains other)
    (heq : shape.position index = shape.position other) : index = other := by
  induction h generalizing other with
  | nil =>
    cases h'
    rfl
  | @cons i extent index shape hlt hrest ih =>
    cases h' with
    | @cons j _ other _ hlt' hrest' =>
      have hi := position_lt hrest
      have hj := position_lt hrest'
      rw [position, position, Nat.mul_comm, Nat.mul_comm j] at heq
      -- the first coordinate is a quotient by the size of the rest, and the rest a remainder
      have hquotient := congrArg (· / shape.prod) heq
      have hremainder := congrArg (· % shape.prod) heq
      simp only [Nat.mul_add_div (Nat.zero_lt_of_lt hi), Nat.div_eq_of_lt hi, Nat.div_eq_of_lt hj,
        Nat.add_zero] at hquotient
      simp only [Nat.mul_add_mod, Nat.mod_eq_of_lt hi, Nat.mod_eq_of_lt hj] at hremainder
      rw [hquotient, ih hrest' hremainder]

theorem contains_zeros (hpos : 0 ∉ shape) : shape.Contains (shape.map fun _ => 0) := by
  induction shape with
  | nil => exact .nil
  | cons extent shape ih =>
    obtain ⟨hextent, hpos⟩ := pos_of_cons hpos
    exact .cons hextent (ih hpos)

theorem position_zeros (shape : Shape) : shape.position (shape.map fun _ => 0) = 0 := by
  induction shape with
  | nil => rfl
  | cons extent shape ih => rw [List.map_cons, position, ih, Nat.zero_mul]

end Shape

/-! ## Walks over all indices -/

namespace Odometer

open Shape

variable {shape : Shape} {index : Index}

/-- One step leads to the next position, and there is none after the last position. -/
theorem successor?_position (h : shape.Contains index) :
    (∀ next, successor? shape index = some next →
      shape.Contains next ∧ shape.position next = shape.position index + 1) ∧
    (successor? shape index = none → shape.position index + 1 = shape.prod) := by
  induction h with
  | nil =>
    exact ⟨nofun, fun _ => rfl⟩
  | @cons i extent index shape hlt hrest ih =>
    obtain ⟨hnext, hlast⟩ := ih
    rw [successor?, position]
    cases hsuccessor : successor? shape index with
    | some rest =>
      obtain ⟨hcontains, hposition⟩ := hnext rest hsuccessor
      refine ⟨?_, nofun⟩
      rintro _ ⟨rfl⟩
      exact ⟨.cons hlt hcontains, by rw [position, hposition, Nat.add_assoc]⟩
    | none =>
      -- the rest is at its end: it returns to the start, and the first coordinate grows if it can
      have hlast := hlast hsuccessor
      have hzeros : (index.map fun _ => 0) = shape.map fun _ => 0 := by
        rw [List.map_const', List.map_const', Shape.Contains.length_eq hrest]
      have hcarry : i * shape.prod + position shape index + 1 = (i + 1) * shape.prod := by
        rw [Nat.add_assoc, hlast, Nat.succ_mul]
      by_cases hroom : i + 1 < extent
      · rw [if_pos hroom, hzeros]
        refine ⟨?_, nofun⟩
        rintro _ ⟨rfl⟩
        refine ⟨.cons hroom (contains_zeros (Contains.zero_notMem hrest)), ?_⟩
        rw [position, position_zeros, hcarry, Nat.add_zero]
      · rw [if_neg hroom, List.prod_cons]
        refine ⟨nofun, fun _ => ?_⟩
        rw [hcarry, show i + 1 = extent by omega]

/-- A walk over the indices of an array that has `k` of them behind it. -/
structure Progress (shape : Shape) (k : Nat) (walk : Odometer) : Prop where
  /-- It is a walk over that array. -/
  shape_eq : walk.shape = shape
  /-- The index at position `k` comes next. -/
  upcoming : k < shape.prod →
    ∃ index, walk.upcoming = some index ∧ shape.Contains index ∧ shape.position index = k
  /-- The walk ends after the last position. -/
  ended : shape.prod ≤ k → walk.upcoming = none

theorem progress_start (hpos : 0 ∉ shape) : Progress shape 0 (start shape) where
  shape_eq := rfl
  upcoming := by
    intro _
    refine ⟨shape.map fun _ => 0, ?_, contains_zeros hpos, position_zeros shape⟩
    exact if_neg (mt hasEmptyAxis_iff.mp hpos)
  ended := fun hle => absurd (prod_pos hpos) (Nat.not_lt.mpr hle)

theorem Progress.next {k : Nat} {walk : Odometer} (h : Progress shape k walk) :
    Progress shape (k + 1) walk.next.2 := by
  by_cases hk : k < shape.prod
  · obtain ⟨index, hupcoming, hcontains, hposition⟩ := h.upcoming hk
    obtain ⟨hnext, hlast⟩ := successor?_position hcontains
    have hstep : walk.next.2.upcoming = successor? shape index := by
      rw [Odometer.next, hupcoming, h.shape_eq]
      rfl
    refine ⟨h.shape_eq, fun hlt => ?_, fun hle => ?_⟩
    · cases hsuccessor : successor? shape index with
      | none =>
        have := hlast hsuccessor
        omega
      | some following =>
        obtain ⟨hcontains, hfollowing⟩ := hnext following hsuccessor
        exact ⟨following, hstep.trans hsuccessor, hcontains, by rw [hfollowing, hposition]⟩
    · cases hsuccessor : successor? shape index with
      | none => exact hstep.trans hsuccessor
      | some following =>
        obtain ⟨hcontains, hfollowing⟩ := hnext following hsuccessor
        have := position_lt hcontains
        omega
  · have hended := h.ended (Nat.not_lt.mp hk)
    refine ⟨h.shape_eq, fun hlt => by omega, fun _ => ?_⟩
    rw [Odometer.next, hended]
    rfl

/-- A walk that has taken `k` steps has `k` indices behind it. -/
theorem Progress.iterate {walk : Odometer} (h : Progress shape 0 walk) (k : Nat) :
    Progress shape k ((fun walk : Odometer => walk.next.2)^[k] walk) := by
  induction k with
  | zero => exact h
  | succ k ih =>
    rw [Function.iterate_succ_apply']
    exact ih.next

/-- The index that a walk reaches after `k` others. -/
def reached (shape : Shape) (k : Nat) : Option Index :=
  ((fun walk : Odometer => walk.next.2)^[k] (start shape)).next.1

/-- A walk reaches the index at every position, and nothing more. -/
theorem reached_position (hpos : 0 ∉ shape) (k : Nat) :
    (k < shape.prod → ∃ index, reached shape k = some index ∧ shape.Contains index ∧
      shape.position index = k) ∧
    (shape.prod ≤ k → reached shape k = none) := by
  have hprogress := (progress_start hpos).iterate k
  exact ⟨hprogress.upcoming, hprogress.ended⟩

end Odometer

/-! ## Strides of dense arrays -/

theorem Strides.offset_zeros (strides : Strides) (shape : Shape) :
    strides.offset (shape.map fun _ => 0) = 0 := by
  induction shape generalizing strides with
  | nil => cases strides <;> rfl
  | cons extent shape ih =>
    cases strides with
    | nil => rfl
    | cons stride strides =>
      rw [List.map_cons, Strides.offset, ih, Nat.cast_zero, zero_mul, zero_add]

namespace Shape

variable {shape : Shape} {index : Index}

theorem length_denseFrom (step : Int) (shape : Shape) :
    (denseFrom step shape).length = shape.length := by
  induction shape generalizing step with
  | nil => rfl
  | cons extent shape ih => rw [denseFrom, List.length_cons, ih, List.length_cons]

theorem length_denseStrides (shape : Shape) (width : Nat) (order : Order) :
    (shape.denseStrides width order).length = shape.length := by
  cases order with
  | rowMajor => rw [denseStrides, List.length_reverse, length_denseFrom, List.length_reverse]
  | columnMajor => exact length_denseFrom _ shape

theorem fits_denseFrom {step stride : Int} (hstep : Word.Fits 64 step)
    (h : stride ∈ denseFrom step shape) : Word.Fits 64 stride := by
  induction shape generalizing step with
  | nil => cases h
  | cons extent shape ih =>
    rcases List.mem_cons.mp h with rfl | hrest
    · exact hstep
    · exact ih (Word.fits_signed _) hrest

/-- Dense strides are words, whether or not they wrap around. -/
theorem fits_denseStrides (shape : Shape) (width : Nat) (order : Order) :
    ∀ stride ∈ shape.denseStrides width order, Word.Fits 64 stride := by
  intro stride hstride
  cases order with
  | rowMajor => exact fits_denseFrom (Word.fits_signed _) (List.mem_reverse.mp hstride)
  | columnMajor => exact fits_denseFrom (Word.fits_signed _) hstride

/-- The strides of further axes begin with the size of the axes before them. -/
theorem denseFrom_append {step : Nat} (hpos : 0 ∉ shape) (hsize : step * shape.prod < 2 ^ 63)
    (rest : Shape) :
    denseFrom step (shape ++ rest) =
      denseFrom step shape ++ denseFrom ((step * shape.prod : Nat) : Int) rest := by
  induction shape generalizing step with
  | nil => simp [denseFrom]
  | cons extent shape ih =>
    obtain ⟨hextent, hpos⟩ := pos_of_cons hpos
    rw [List.prod_cons, ← Nat.mul_assoc] at hsize
    have hle : step * extent ≤ step * extent * shape.prod :=
      Nat.le_mul_of_pos_right _ (prod_pos hpos)
    have hstep : Word.signed ((step : Int) * (max extent 1 : Nat)) = (step * extent : Nat) := by
      rw [max_eq_left (by omega), ← Nat.cast_mul]
      exact Word.signed_of_fits (Word.fits_iff.mpr ⟨by omega, by omega⟩)
    rw [List.cons_append, denseFrom, denseFrom, hstep, ih hpos hsize, List.prod_cons,
      ← Nat.mul_assoc, List.cons_append]

/-- In row-major order the stride of the first axis is the size of all others. -/
theorem denseStrides_cons {width : Nat} (hpos : 0 ∉ shape) (hsize : width * shape.prod < 2 ^ 63)
    (extent : Nat) :
    denseStrides (extent :: shape) width .rowMajor =
      ((width * shape.prod : Nat) : Int) :: denseStrides shape width .rowMajor := by
  have hwidth : Word.signed (width : Int) = width := by
    have hle : width ≤ width * shape.prod := Nat.le_mul_of_pos_right _ (prod_pos hpos)
    exact Word.signed_of_fits (Word.fits_iff.mpr ⟨by omega, by omega⟩)
  rw [← List.prod_reverse] at hsize ⊢
  rw [denseStrides, denseStrides, hwidth, List.reverse_cons,
    denseFrom_append (mt List.mem_reverse.mp hpos) hsize, List.reverse_append]
  rfl

theorem offset_rowMajor {width : Nat} (h : shape.Contains index)
    (hsize : width * shape.prod < 2 ^ 63) :
    (shape.denseStrides width .rowMajor).offset index = (width * shape.position index : Nat) := by
  induction h with
  | nil => rfl
  | @cons i extent index shape hlt hrest ih =>
    have hpos := Contains.zero_notMem hrest
    have hle : shape.prod ≤ extent * shape.prod :=
      Nat.le_mul_of_pos_left _ (Nat.zero_lt_of_lt hlt)
    have hsize : width * shape.prod < 2 ^ 63 := by
      rw [List.prod_cons] at hsize
      exact (Nat.mul_le_mul_left width hle).trans_lt hsize
    rw [denseStrides_cons hpos hsize, Strides.offset, ih hsize, position]
    push_cast
    ring

/-- Axes may be taken in any order, as long as strides and coordinates go together. -/
theorem offset_append {first second : Strides} {head tail : Index}
    (hlength : first.length = head.length) :
    Strides.offset (first ++ second) (head ++ tail) =
      first.offset head + second.offset tail := by
  induction first generalizing head with
  | nil =>
    cases head with
    | nil => simp [Strides.offset]
    | cons => cases hlength
  | cons stride first ih =>
    cases head with
    | nil => cases hlength
    | cons i head =>
      rw [List.cons_append, List.cons_append, Strides.offset, Strides.offset,
        ih (Nat.succ.inj hlength), add_assoc]

theorem offset_reverse {strides : Strides} (hlength : strides.length = index.length) :
    Strides.offset strides.reverse index.reverse = strides.offset index := by
  induction strides generalizing index with
  | nil =>
    cases index with
    | nil => rfl
    | cons => cases hlength
  | cons stride strides ih =>
    cases index with
    | nil => cases hlength
    | cons i index =>
      have hlength := Nat.succ.inj hlength
      rw [List.reverse_cons, List.reverse_cons, offset_append (by simpa using hlength),
        ih hlength, Strides.offset]
      simp [Strides.offset, add_comm]

/-- The number of indices before a given one in either order. -/
def positionIn (order : Order) (shape : Shape) (index : Index) : Nat :=
  match order with
  | .rowMajor => shape.position index
  | .columnMajor => position shape.reverse index.reverse

theorem Contains.reverse (h : shape.Contains index) : Contains shape.reverse index.reverse :=
  List.forall₂_reverse_iff.mpr h

theorem positionIn_lt (order : Order) (h : shape.Contains index) :
    shape.positionIn order index < shape.prod := by
  cases order with
  | rowMajor => exact position_lt h
  | columnMajor =>
    rw [← List.prod_reverse]
    exact position_lt h.reverse

theorem positionIn_injective (order : Order) {other : Index} (h : shape.Contains index)
    (h' : shape.Contains other)
    (heq : shape.positionIn order index = shape.positionIn order other) : index = other := by
  cases order with
  | rowMajor => exact position_injective h h' heq
  | columnMajor => exact List.reverse_injective (position_injective h.reverse h'.reverse heq)

/-- The strides of a dense array map an index to its position. -/
theorem offset_denseStrides (order : Order) {width : Nat} (h : shape.Contains index)
    (hsize : width * shape.prod < 2 ^ 63) :
    (shape.denseStrides width order).offset index =
      (width * shape.positionIn order index : Nat) := by
  cases order with
  | rowMajor => exact offset_rowMajor h hsize
  | columnMajor =>
    -- a column-major array is a row-major one with its axes reversed
    rw [← List.prod_reverse] at hsize
    have hrow := offset_rowMajor h.reverse hsize
    rw [denseStrides, List.reverse_reverse, offset_reverse] at hrow
    · exact hrow
    · rw [length_denseFrom, h.length_eq]

end Shape

/-- The index that comes after `k` others in either order. When the first coordinate varies fastest
this is a walk over the reversed axes. -/
def Odometer.reachedIn (order : Order) (shape : Shape) (k : Nat) : Option Index :=
  match order with
  | .rowMajor => reached shape k
  | .columnMajor => (reached shape.reverse k).map List.reverse

theorem Odometer.reachedIn_position (order : Order) {shape : Shape} (hpos : 0 ∉ shape) (k : Nat) :
    (k < shape.prod → ∃ index, reachedIn order shape k = some index ∧ shape.Contains index ∧
      shape.positionIn order index = k) ∧
    (shape.prod ≤ k → reachedIn order shape k = none) := by
  cases order with
  | rowMajor => exact reached_position hpos k
  | columnMajor =>
    obtain ⟨hupcoming, hended⟩ := reached_position (mt List.mem_reverse.mp hpos) k
    rw [List.prod_reverse] at hupcoming hended
    refine ⟨fun hk => ?_, fun hk => ?_⟩
    · obtain ⟨index, hreached, hcontains, hposition⟩ := hupcoming hk
      refine ⟨index.reverse, ?_, ?_, ?_⟩
      · rw [reachedIn, hreached]
        rfl
      · have h := hcontains.reverse
        rwa [List.reverse_reverse] at h
      · rw [Shape.positionIn, List.reverse_reverse, hposition]
    · rw [reachedIn, hended hk]
      rfl

/-! ## Dense arrays -/

namespace Descriptor

/-- The dense arrays: views of memory that is laid out densely, and arrays with a block of their
own. -/
inductive BuiltDense (shape : Shape) (kind : Kind) (order : Order) : Descriptor → Prop
  | view {data : Option Address} {array : Descriptor}
    (h : (ofDense data shape kind order).run.result = .ok array) :
    BuiltDense shape kind order array
  | zeros [Allocator] {array : Descriptor}
    (h : (Descriptor.zeros shape kind order).run.result = .ok array) :
    BuiltDense shape kind order array

variable {shape : Shape} {kind : Kind} {order : Order} {array : Descriptor}

theorem BuiltDense.layout (h : BuiltDense shape kind order array) :
    array.kind = kind ∧ array.shape = shape ∧
      array.strides = shape.denseStrides kind.width order ∧
      shape.count? = some array.length := by
  cases h with
  | view h =>
    obtain ⟨length, -, hcount, rfl⟩ := ofStrided_eq_ok h
    exact ⟨rfl, rfl, rfl, hcount⟩
  | zeros h =>
    obtain ⟨length, byteLength, hcount, -, rfl⟩ := zeros_eq_ok h
    exact ⟨rfl, rfl, rfl, hcount⟩

/-- The block of an array has room for all elements. -/
theorem BuiltDense.le_block (h : BuiltDense shape kind order array) {block : Bytes}
    (hblock : array.source = .owned block) : array.length * kind.width ≤ block.length := by
  cases h with
  | view h =>
    obtain ⟨length, -, -, rfl⟩ := ofStrided_eq_ok h
    cases hblock
  | zeros h =>
    obtain ⟨length, byteLength, -, hbytes, rfl⟩ := zeros_eq_ok h
    cases hblock
    unfold Word.mul? at hbytes
    split at hbytes
    · cases hbytes
      rw [Bytes.length_zeros]
      exact le_max_left _ _
    · cases hbytes

/-- The place of an element, by the position of its index. -/
theorem BuiltDense.byteOffset_eq (h : BuiltDense shape kind order array)
    (hsize : shape.prod * kind.width < 2 ^ 63) {index : Index} (hindex : shape.Contains index) :
    array.byteOffset index = .ok ((shape.positionIn order index * kind.width : Nat) : Int) := by
  obtain ⟨hkind, hshape, hstrides, -⟩ := h.layout
  have hposition := Shape.positionIn_lt order hindex
  have hle : shape.positionIn order index * kind.width ≤ shape.prod * kind.width :=
    Nat.mul_le_mul_right _ hposition.le
  have hoffset : array.strides.offset index =
      (shape.positionIn order index * kind.width : Nat) := by
    rw [hstrides, Nat.mul_comm]
    exact Shape.offset_denseStrides order hindex (by rwa [Nat.mul_comm])
  rw [byteOffset_of_contains (hshape ▸ hindex), hoffset]
  rw [hoffset, Word.fits_iff]
  exact ⟨by omega, by omega⟩

theorem BuiltDense.length_eq (h : BuiltDense shape kind order array) :
    array.length = shape.prod := by
  obtain ⟨-, -, -, hcount⟩ := h.layout
  exact (Shape.count?_eq_some hcount).1

/-- The place at every position is that of the index which a walk reaches there. -/
theorem BuiltDense.byteOffset_reachedIn (h : BuiltDense shape kind order array) (hpos : 0 ∉ shape)
    (hsize : shape.prod * kind.width < 2 ^ 63) {k : Nat} (hk : k < array.length) :
    ∃ index, Odometer.reachedIn order shape k = some index ∧ shape.Contains index ∧
      array.byteOffset index = .ok ((k * kind.width : Nat) : Int) := by
  rw [h.length_eq] at hk
  obtain ⟨index, hreached, hindex, hposition⟩ := (Odometer.reachedIn_position order hpos k).1 hk
  exact ⟨index, hreached, hindex, by rw [h.byteOffset_eq hsize hindex, hposition]⟩

theorem BuiltDense.bijOn (h : BuiltDense shape kind order array) (hpos : 0 ∉ shape)
    (hsize : shape.prod * kind.width < 2 ^ 63) :
    Set.BijOn array.byteOffset {index | shape.Contains index}
      {place | ∃ k < array.length, place = .ok ((k * kind.width : Nat) : Int)} := by
  refine ⟨?_, ?_, ?_⟩
  · intro index hindex
    refine ⟨shape.positionIn order index, ?_, h.byteOffset_eq hsize hindex⟩
    rw [h.length_eq]
    exact Shape.positionIn_lt order hindex
  · intro index hindex other hother heq
    rw [h.byteOffset_eq hsize hindex, h.byteOffset_eq hsize hother] at heq
    have hpositions := Int.ofNat.inj (Except.ok.inj heq)
    exact Shape.positionIn_injective order hindex hother
      (Nat.eq_of_mul_eq_mul_right kind.width_pos hpositions)
  · rintro _ ⟨k, hk, rfl⟩
    -- a walk over all indices shows that no place is left out
    obtain ⟨index, -, hindex, hplace⟩ := h.byteOffset_reachedIn hpos hsize hk
    exact ⟨index, hindex, hplace⟩

/-- Elements at different positions do not overlap. -/
theorem BuiltDense.disjoint (h : BuiltDense shape kind order array)
    (hsize : shape.prod * kind.width < 2 ^ 63) {index other : Index}
    (hindex : shape.Contains index) (hother : shape.Contains other) (hne : index ≠ other)
    {pos pos' : Int} (hpos : array.byteOffset index = .ok pos)
    (hpos' : array.byteOffset other = .ok pos') :
    pos + kind.width ≤ pos' ∨ pos' + kind.width ≤ pos := by
  rw [h.byteOffset_eq hsize hindex] at hpos
  rw [h.byteOffset_eq hsize hother] at hpos'
  cases hpos
  cases hpos'
  have hpositions : shape.positionIn order index ≠ shape.positionIn order other :=
    fun heq => hne (Shape.positionIn_injective order hindex hother heq)
  have hbefore {k k' : Nat} (hlt : k < k') :
      ((k * kind.width : Nat) : Int) + kind.width ≤ (k' * kind.width : Nat) := by
    rw [← Nat.cast_add, ← Nat.succ_mul]
    exact_mod_cast Nat.mul_le_mul_right kind.width hlt
  rcases Nat.lt_or_gt_of_ne hpositions with hlt | hlt
  · exact Or.inl (hbefore hlt)
  · exact Or.inr (hbefore hlt)

/-- In a dense array without empty axes, indices and places of elements correspond one to one. -/
theorem byteOffset_bijOn_of_dense (shape : Shape) (kind : Kind) (order : Order) (hpos : 0 ∉ shape)
    (hsize : shape.prod * kind.width < 2 ^ 63) :
    -- Memory that lies somewhere can always be described as a dense array.
    (∀ address, ∃ array, (ofDense (some address) shape kind order).run.result = .ok array) ∧
    ∀ array, BuiltDense shape kind order array →
      array.length = shape.prod ∧
      -- Every index has a place of its own, and every place has an index.
      Set.BijOn array.byteOffset {index | shape.Contains index}
        {place | ∃ k < array.length, place = .ok ((k * kind.width : Nat) : Int)} ∧
      -- The places are in the order of the walk over all indices.
      (∀ k < array.length, ∃ index, Odometer.reachedIn order shape k = some index ∧
        array.byteOffset index = .ok ((k * kind.width : Nat) : Int)) ∧
      (∀ k, array.length ≤ k → Odometer.reachedIn order shape k = none) ∧
      -- All elements lie inside the memory of the array.
      (∀ index, shape.Contains index → ∃ pos, array.byteOffset index = .ok pos ∧
        Bytes.Inside (array.length * kind.width) pos kind.width) ∧
      (∀ block, array.source = .owned block → array.length * kind.width ≤ block.length) ∧
      -- No two elements share a byte.
      ∀ index other, shape.Contains index → shape.Contains other → index ≠ other →
        ∀ pos pos', array.byteOffset index = .ok pos → array.byteOffset other = .ok pos' →
          pos + kind.width ≤ pos' ∨ pos' + kind.width ≤ pos := by
  have hprod : shape.prod ≤ shape.prod * kind.width := Nat.le_mul_of_pos_right _ kind.width_pos
  have hcount : shape.count? = some shape.prod :=
    Shape.count?_of_lt hpos (by unfold Word.modulus twoPow; omega)
  refine ⟨fun address => ofStrided_of_address ?_ hcount address kind, fun array h => ?_⟩
  · rw [Shape.length_denseStrides]
  · refine ⟨h.length_eq, h.bijOn hpos hsize, ?_, ?_, ?_, fun _ => h.le_block, ?_⟩
    · intro k hk
      obtain ⟨index, hreached, -, hplace⟩ := h.byteOffset_reachedIn hpos hsize hk
      exact ⟨index, hreached, hplace⟩
    · rw [h.length_eq]
      exact fun k => (Odometer.reachedIn_position order hpos k).2
    · intro index hindex
      refine ⟨_, h.byteOffset_eq hsize hindex, Int.natCast_nonneg _, ?_⟩
      rw [h.length_eq, ← Nat.cast_add, ← Nat.succ_mul]
      exact_mod_cast Nat.mul_le_mul_right kind.width (Shape.positionIn_lt order hindex)
    · intro index other hindex hother hne pos pos'
      exact h.disjoint hsize hindex hother hne

/-- Two rows of three elements, one column after another: the fifth element begins the last
column. -/
theorem byteOffset_bijOn_of_columns :
    ∃ array, BuiltDense [2, 3] .int16 .columnMajor array ∧
      Set.BijOn array.byteOffset {index | Shape.Contains [2, 3] index}
        {place | ∃ k < array.length, place = .ok ((k * 2 : Nat) : Int)} ∧
      Odometer.reachedIn .columnMajor [2, 3] 4 = some [0, 2] ∧
      array.byteOffset [0, 2] = .ok 8 := by
  obtain ⟨hview, hdense⟩ :=
    byteOffset_bijOn_of_dense [2, 3] .int16 .columnMajor (by decide) (by decide)
  obtain ⟨array, harray⟩ := hview ⟨.block 0, 0⟩
  obtain ⟨hlength, hbij, hwalk, -⟩ := hdense array (.view harray)
  have hreached : Odometer.reachedIn .columnMajor [2, 3] 4 = some [0, 2] := rfl
  refine ⟨array, .view harray, hbij, hreached, ?_⟩
  obtain ⟨index, hindex, hplace⟩ := hwalk 4 (by rw [hlength]; decide)
  rw [hreached] at hindex
  cases hindex
  exact hplace

end Descriptor

end HostBridge
