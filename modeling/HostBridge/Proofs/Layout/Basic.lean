import HostBridge.Descriptor
import Mathlib.Algebra.BigOperators.Group.List.Lemmas
import Mathlib.Algebra.BigOperators.Ring.List
import Mathlib.Algebra.Order.Ring.Int
import Mathlib.Data.List.Forall2

/-!
# Indices, extents and machine integers

The indices of an array are the lists with one coordinate per axis, each below the extent of its
axis. This module relates them to the test that every access makes, and the number of elements to
the product of the extents. Arithmetic of machine integers that must not overflow is written with
`Word.checked`, which fails where a result leaves the range; arithmetic that wraps around keeps the
result where `Word.checked` does not fail.

## Main definitions

* `Word.checked`: a result that stays in the range of a signed integer;
* `Shape.Contains`: the indices of an array;
* `Shape.Countable`: no product of leading extents leaves a word.

## Main results

* `Descriptor.byteOffset_eq_signed` and `Descriptor.contains_of_byteOffset`: an access accepts
  exactly the indices of the array;
* `Shape.count?_eq_some`: the number of elements is the product of the extents.
-/

namespace HostBridge

@[simp]
theorem twoPow_eq (n : Nat) : twoPow n = 2 ^ n := Nat.one_shiftLeft n

namespace Word

theorem fits_iff {bits : Nat} {x : Int} :
    Fits bits x ↔ -2 ^ (bits - 1) ≤ x ∧ x < 2 ^ (bits - 1) := by
  rw [Fits, twoPow_eq, Nat.cast_pow, Nat.cast_ofNat]

/-- The result of an operation on signed integers of so many bits, unless it overflows. -/
def checked (bits : Nat) (x : Int) : Option Int := if Fits bits x then some x else none

theorem checked_of_fits {bits : Nat} {x : Int} (h : Fits bits x) : checked bits x = some x :=
  if_pos h

/-- What is in range does not wrap around. -/
theorem wrap_of_fits {bits : Nat} {x : Int} (hbits : 0 < bits) (h : Fits bits x) :
    wrap bits x = x := by
  obtain ⟨bits, rfl⟩ := Nat.exists_eq_succ_of_ne_zero hbits.ne'
  have hdouble : twoPow (bits + 1) = 2 * twoPow bits := by
    rw [twoPow_eq, twoPow_eq, Nat.pow_succ, Nat.mul_comm]
  obtain ⟨hlow, hhigh⟩ := h
  rw [Nat.succ_eq_add_one, Nat.add_sub_cancel] at hlow hhigh
  exact Int.bmod_eq_of_le_mul_two (by rw [hdouble]; omega) (by rw [hdouble]; omega)

/-- A sum wraps around once, however often it did on the way. -/
theorem wrap_wrap_add (bits : Nat) (x y : Int) : wrap bits (wrap bits x + y) = wrap bits (x + y) :=
  Int.bmod_add_bmod

theorem signed_of_fits {x : Int} (h : Fits 64 x) : signed x = x := wrap_of_fits (by decide) h

theorem fits_signed (x : Int) : Fits 64 (signed x) := by
  have hlow : -(modulus / 2) ≤ signed x := Int.le_bmod (by decide)
  have hhigh : signed x < (modulus + 1) / 2 := Int.bmod_lt (by decide)
  have hmodulus : modulus = 18446744073709551616 := rfl
  exact fits_iff.mpr ⟨by omega, by omega⟩

end Word

namespace Shape

variable {shape : Shape} {index : Index}

/-- The indices of an array: one coordinate per axis, each below the extent of its axis. -/
def Contains (shape : Shape) (index : Index) : Prop := List.Forall₂ (· < ·) index shape

theorem hasEmptyAxis_iff : shape.hasEmptyAxis = true ↔ 0 ∈ shape := by
  simp [hasEmptyAxis]

theorem pos_of_cons {extent : Nat} (hpos : 0 ∉ extent :: shape) : 0 < extent ∧ 0 ∉ shape := by
  rw [List.mem_cons, not_or] at hpos
  exact ⟨Nat.pos_of_ne_zero (Ne.symm hpos.1), hpos.2⟩

theorem Contains.length_eq (h : shape.Contains index) : index.length = shape.length :=
  List.Forall₂.length_eq h

/-- An array with an empty axis has no indices. -/
theorem Contains.zero_notMem (h : shape.Contains index) : 0 ∉ shape := by
  induction h with
  | nil => exact List.not_mem_nil
  | cons hlt _ ih =>
    rw [List.mem_cons, not_or]
    exact ⟨(Nat.zero_lt_of_lt hlt).ne, ih⟩

/-- The test that every access makes. -/
theorem outside?_of_contains (h : shape.Contains index) : shape.outside? index = none := by
  induction h with
  | nil => rfl
  | cons hlt _ ih => rw [outside?, if_neg (Nat.not_le.mpr hlt), ih]

/-- The test that every access makes is exact. -/
theorem contains_of_outside? (hlength : index.length = shape.length)
    (h : shape.outside? index = none) : shape.Contains index := by
  induction shape generalizing index with
  | nil =>
    rw [List.length_eq_zero_iff.mp hlength]
    exact .nil
  | cons extent shape ih =>
    obtain _ | ⟨i, index⟩ := index
    · cases hlength
    · rw [outside?] at h
      split at h
      · cases h
      · rename_i hinside
        exact .cons (Nat.lt_of_not_le hinside) (ih (Nat.succ.inj hlength) h)

theorem prod_pos (hpos : 0 ∉ shape) : 0 < shape.prod :=
  Nat.pos_of_ne_zero (List.prod_ne_zero hpos)

theorem foldlM_mul? {acc n : Nat} (hacc : acc < Word.modulus)
    (h : shape.foldlM Word.mul? acc = some n) : n = acc * shape.prod ∧ n < Word.modulus := by
  induction shape generalizing acc with
  | nil =>
    cases h
    exact ⟨(Nat.mul_one _).symm, hacc⟩
  | cons extent rest ih =>
    rw [List.foldlM_cons] at h
    obtain ⟨next, hnext, hrest⟩ := Option.bind_eq_some_iff.mp h
    unfold Word.mul? at hnext
    split at hnext
    · rename_i hlt
      cases hnext
      rw [List.prod_cons, ← Nat.mul_assoc]
      exact ih hlt hrest
    · cases hnext

/-- The number of elements is the product of the extents. -/
theorem count?_eq_some {n : Nat} (h : shape.count? = some n) :
    n = shape.prod ∧ n < Word.modulus := by
  have h := foldlM_mul? (by decide) h
  rwa [Nat.one_mul] at h

/-- All products fit in a word when the last one does. -/
theorem foldlM_mul?_of_lt {acc : Nat} (hpos : 0 ∉ shape) (h : acc * shape.prod < Word.modulus) :
    shape.foldlM Word.mul? acc = some (acc * shape.prod) := by
  induction shape generalizing acc with
  | nil => simp
  | cons extent rest ih =>
    have hrest := (pos_of_cons hpos).2
    rw [List.prod_cons, ← Nat.mul_assoc] at h ⊢
    have hlt : acc * extent < Word.modulus :=
      (Nat.le_mul_of_pos_right _ (prod_pos hrest)).trans_lt h
    rw [List.foldlM_cons, Word.mul?, if_pos hlt]
    exact ih hrest h

theorem count?_of_lt (hpos : 0 ∉ shape) (h : shape.prod < Word.modulus) :
    shape.count? = some shape.prod := by
  rw [count?, foldlM_mul?_of_lt hpos (by rwa [Nat.one_mul]), Nat.one_mul]

/-- The extents can be multiplied from the first to the last, and no product leaves a word. An empty
axis helps only if it comes in time. -/
def Countable (shape : Shape) : Prop := ∀ part, part <+: shape → part.prod < Word.modulus

theorem isSome_foldlM_mul? {acc : Nat} (hacc : acc < Word.modulus) :
    (shape.foldlM Word.mul? acc).isSome = true ↔
      ∀ part, part <+: shape → acc * part.prod < Word.modulus := by
  induction shape generalizing acc with
  | nil =>
    refine iff_of_true rfl fun part hpart => ?_
    rw [List.prefix_nil.mp hpart, List.prod_nil, Nat.mul_one]
    exact hacc
  | cons extent rest ih =>
    rw [List.foldlM_cons, Word.mul?]
    by_cases hnext : acc * extent < Word.modulus
    · rw [if_pos hnext, Option.bind_eq_bind, Option.bind_some, ih hnext]
      constructor
      · intro hrest part hpart
        rcases List.prefix_cons_iff.mp hpart with rfl | ⟨tail, rfl, htail⟩
        · rwa [List.prod_nil, Nat.mul_one]
        · rw [List.prod_cons, ← Nat.mul_assoc]
          exact hrest tail htail
      · intro hall tail htail
        have hlt := hall (extent :: tail) (List.prefix_cons_iff.mpr (Or.inr ⟨tail, rfl, htail⟩))
        rwa [List.prod_cons, ← Nat.mul_assoc] at hlt
    -- the product has left the word at this axis, whatever follows
    · rw [if_neg hnext]
      refine iff_of_false Bool.false_ne_true fun hall => hnext ?_
      have hlt := hall [extent] (List.prefix_cons_iff.mpr (Or.inr ⟨[], rfl, List.nil_prefix⟩))
      rwa [List.prod_singleton] at hlt

theorem isSome_count? : shape.count?.isSome = true ↔ shape.Countable := by
  rw [count?, isSome_foldlM_mul? (by decide)]
  simp only [Nat.one_mul, Countable]

instance (shape : Shape) : Decidable shape.Countable := decidable_of_iff _ isSome_count?

theorem count?_of_countable (h : shape.Countable) : shape.count? = some shape.prod := by
  obtain ⟨n, hn⟩ := Option.isSome_iff_exists.mp (isSome_count?.mpr h)
  rw [hn, (count?_eq_some hn).1]

theorem count?_of_not_countable (h : ¬shape.Countable) : shape.count? = none := by
  rwa [← isSome_count?, Option.not_isSome_iff_eq_none] at h

theorem prod_le_prod_max (shape : Shape) : shape.prod ≤ (shape.map (max · 1)).prod := by
  induction shape with
  | nil => exact le_rfl
  | cons extent shape ih =>
    rw [List.map_cons, List.prod_cons, List.prod_cons]
    exact Nat.mul_le_mul (le_max_left _ _) ih

/-- Empty axes do no harm to a count whose other extents are small enough. -/
theorem foldlM_mul?_of_max_lt {acc : Nat}
    (h : acc * (shape.map (max · 1)).prod < Word.modulus) :
    shape.foldlM Word.mul? acc = some (acc * shape.prod) := by
  induction shape generalizing acc with
  | nil => simp
  | cons extent shape ih =>
    have hrest : 0 < (shape.map (max · 1)).prod :=
      prod_pos (by simp only [List.mem_map, not_exists, not_and]; omega)
    have hle : acc * extent * (shape.map (max · 1)).prod ≤
        acc * (List.map (max · 1) (extent :: shape)).prod := by
      rw [List.map_cons, List.prod_cons, ← Nat.mul_assoc]
      exact Nat.mul_le_mul_right _ (Nat.mul_le_mul_left _ (le_max_left _ _))
    have hlt : acc * extent < Word.modulus :=
      ((Nat.le_mul_of_pos_right _ hrest).trans hle).trans_lt h
    rw [List.foldlM_cons, Word.mul?, if_pos hlt, List.prod_cons, ← Nat.mul_assoc]
    exact ih (hle.trans_lt h)

/-- What a bound on the extents says of elements of some width. -/
theorem size_of_max_lt {kind : Kind} (h : (shape.map (max · 1)).prod * kind.width < 2 ^ 63) :
    shape.count? = some shape.prod ∧
      Word.mul? shape.prod kind.width = some (shape.prod * kind.width) ∧
      shape.prod * kind.width < 2 ^ 63 := by
  have hle : (shape.map (max · 1)).prod ≤ (shape.map (max · 1)).prod * kind.width :=
    Nat.le_mul_of_pos_right _ kind.width_pos
  have hbytes : shape.prod * kind.width < 2 ^ 63 :=
    (Nat.mul_le_mul_right _ (prod_le_prod_max shape)).trans_lt h
  refine ⟨?_, if_pos (by unfold Word.modulus twoPow; omega), hbytes⟩
  rw [count?, foldlM_mul?_of_max_lt (by unfold Word.modulus twoPow; omega), Nat.one_mul]

end Shape

namespace Descriptor

/-- What a description of borrowed memory says, and when it can be had. -/
theorem ofStrided_eq_ok {data : Option Address} {shape : Shape} {strides : Strides} {kind : Kind}
    {view : Descriptor} (h : (ofStrided data shape strides kind).run.result = .ok view) :
    ∃ length, shape.length = strides.length ∧ shape.count? = some length ∧
      view = { kind, shape, strides, length, source := .borrowed data
               byteLength := Word.unsigned (length * kind.width) } := by
  unfold ofStrided at h
  by_cases hrank : shape.length = strides.length
  · rw [if_neg (not_not.mpr hrank)] at h
    cases hcount : shape.count? with
    | none =>
      rw [hcount] at h
      cases h
    | some length =>
      rw [hcount] at h
      by_cases hnull : (data.isNone && length != 0) = true
      · simp only [if_pos hnull] at h
        cases h
      · simp only [if_neg hnull] at h
        exact ⟨length, hrank, rfl, (Except.ok.inj h).symm⟩
  · rw [if_pos hrank] at h
    cases h

/-- Memory that lies somewhere can be described by any strides. -/
theorem ofStrided_of_address {shape : Shape} {strides : Strides} {length : Nat}
    (hrank : shape.length = strides.length) (hcount : shape.count? = some length)
    (address : Address) (kind : Kind) :
    ∃ view, (ofStrided (some address) shape strides kind).run.result = .ok view := by
  rw [ofStrided, if_neg (not_not.mpr hrank), hcount]
  exact ⟨_, rfl⟩

theorem result_zeros [allocator : Allocator] {shape : Shape} {kind : Kind} {length byteLength : Nat}
    (hcount : shape.count? = some length) (hbytes : Word.mul? length kind.width = some byteLength)
    (order : Order) :
    (zeros shape kind order).run.result =
      if Allocator.Addressable (blockSize kind byteLength) kind.align ∧
          allocator.grants (blockSize kind byteLength) then
        .ok { kind, shape, length, byteLength
              strides := shape.denseStrides kind.width order
              source := .owned (Bytes.zeros (blockSize kind byteLength)) }
      else .error (Fault.allocation entity (blockSize kind byteLength)) := by
  simp only [zeros, hcount, hbytes, Attempt.result_bind, Allocator.result_obtain]
  split <;> rfl

/-- What an array of zeros is like, and when it can be had. -/
theorem zeros_eq_ok [Allocator] {shape : Shape} {kind : Kind} {order : Order} {array : Descriptor}
    (h : (zeros shape kind order).run.result = .ok array) :
    ∃ length byteLength, shape.count? = some length ∧
      Word.mul? length kind.width = some byteLength ∧
      array = { kind, shape, length, byteLength
                strides := shape.denseStrides kind.width order
                source := .owned (Bytes.zeros (blockSize kind byteLength)) } := by
  cases hcount : shape.count? with
  | none =>
    simp only [zeros, hcount] at h
    cases h
  | some length =>
    cases hbytes : Word.mul? length kind.width with
    | none =>
      simp only [zeros, hcount, hbytes] at h
      cases h
    | some byteLength =>
      rw [result_zeros hcount hbytes] at h
      split at h
      · exact ⟨length, byteLength, rfl, hbytes, (Except.ok.inj h).symm⟩
      · cases h

/-- An access accepts every index of the array, and wraps its offset around. -/
theorem byteOffset_eq_signed {array : Descriptor} {index : Index}
    (h : array.shape.Contains index) :
    array.byteOffset index = .ok (Word.signed (array.strides.offset index)) := by
  have hrank : ¬index.length ≠ array.rank := not_not.mpr h.length_eq
  rw [byteOffset, if_neg hrank, Shape.outside?_of_contains h]
  rfl

theorem byteOffset_of_contains {array : Descriptor} {index : Index}
    (h : array.shape.Contains index) (hfits : Word.Fits 64 (array.strides.offset index)) :
    array.byteOffset index = .ok (array.strides.offset index) := by
  rw [byteOffset_eq_signed h, Word.signed_of_fits hfits]

theorem contains_of_byteOffset {array : Descriptor} {index : Index} {offset : Int}
    (h : array.byteOffset index = .ok offset) : array.shape.Contains index := by
  by_cases hrank : index.length = array.rank
  · rw [byteOffset, if_neg (not_not.mpr hrank)] at h
    rcases houtside : array.shape.outside? index with _ | ⟨i, extent⟩
    · exact Shape.contains_of_outside? hrank houtside
    · rw [houtside] at h
      cases h
  · rw [byteOffset, if_pos hrank] at h
    cases h

end Descriptor

end HostBridge
