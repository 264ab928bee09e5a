import HostBridge.Bytes
import Mathlib.Data.List.Basic
import Mathlib.Tactic.Ring

/-!
# Byte strings as rows of slots

A block that holds elements of one width is a row of slots of that width, laid end to end. This
module moves the operations on byte strings to the row: a slice that begins and ends between slots
is a part of the row, and an overwrite between slots replaces a part of the row.

## Main results

* `slice_flatten` and `overwrite_flatten`: slices and overwrites of a row of slots;
* `chunks_flatten` and `flatten_chunks`: cutting a byte string into slots and laying the slots end
  to end are inverse to each other.
-/

namespace HostBridge.Bytes

/-- Every slot of a row has the given width. -/
def Uniform (width : Nat) (slots : List Bytes) : Prop := ∀ slot ∈ slots, slot.length = width

namespace Uniform

variable {width : Nat} {slots others : List Bytes}

theorem nil : Uniform width [] := by simp [Uniform]

theorem append (h : Uniform width slots) (h' : Uniform width others) :
    Uniform width (slots ++ others) := by
  intro slot hslot
  rcases List.mem_append.mp hslot with hs | hs
  · exact h slot hs
  · exact h' slot hs

/-- Any choice of slots of a uniform row is uniform. -/
theorem mono (h : Uniform width slots) (hsub : others ⊆ slots) : Uniform width others :=
  fun slot hslot => h slot (hsub hslot)

theorem replicate_zeros (width n : Nat) : Uniform width (List.replicate n (zeros width)) := by
  intro slot hslot
  rw [List.eq_of_mem_replicate hslot, length_zeros]

theorem length_flatten (h : Uniform width slots) :
    slots.flatten.length = slots.length * width := by
  induction slots with
  | nil => simp
  | cons slot slots ih =>
    have hslot : slot.length = width := h slot (by simp)
    rw [List.flatten_cons, List.length_append, hslot,
      ih (h.mono (List.subset_cons_self slot slots)), List.length_cons]
    ring

/-- The first `n` slots are the first `n * width` bytes. -/
theorem take_flatten (h : Uniform width slots) (n : Nat) :
    slots.flatten.take (n * width) = (slots.take n).flatten := by
  induction slots generalizing n with
  | nil => simp
  | cons slot slots ih =>
    have hslot : slot.length = width := h slot (by simp)
    cases n with
    | zero => simp
    | succ n =>
      rw [List.flatten_cons, List.take_succ_cons, List.flatten_cons, Nat.succ_mul, Nat.add_comm,
        ← hslot, List.take_length_add_append, hslot,
        ih (h.mono (List.subset_cons_self slot slots))]

/-- Leaving out the first `n` slots leaves out the first `n * width` bytes. -/
theorem drop_flatten (h : Uniform width slots) (n : Nat) :
    slots.flatten.drop (n * width) = (slots.drop n).flatten := by
  induction slots generalizing n with
  | nil => simp
  | cons slot slots ih =>
    have hslot : slot.length = width := h slot (by simp)
    cases n with
    | zero => simp
    | succ n =>
      rw [List.flatten_cons, List.drop_succ_cons, Nat.succ_mul, Nat.add_comm,
        ← hslot, List.drop_length_add_append, hslot,
        ih (h.mono (List.subset_cons_self slot slots))]

/-- A slice between slots is a part of the row. -/
theorem slice_flatten (h : Uniform width slots) (start count : Nat) :
    slice slots.flatten (start * width) (count * width) =
      ((slots.drop start).take count).flatten := by
  rw [slice, h.drop_flatten, (h.mono (List.drop_subset start slots)).take_flatten]

/-- The slice of one slot is that slot. -/
theorem slice_slot (h : Uniform width slots) {i : Nat} (hi : i < slots.length) :
    slice slots.flatten (i * width) width = slots[i] := by
  have hone := h.slice_flatten i 1
  rwa [Nat.one_mul, List.drop_eq_getElem_cons hi, List.take_succ_cons, List.take_zero,
    List.flatten_cons, List.flatten_nil, List.append_nil] at hone

/-- An overwrite between slots replaces a part of the row. -/
theorem overwrite_flatten (h : Uniform width slots) {patch : List Bytes}
    (hpatch : Uniform width patch) (start : Nat) :
    overwrite slots.flatten (start * width) patch.flatten =
      (slots.take start ++ patch ++ slots.drop (start + patch.length)).flatten := by
  rw [overwrite, hpatch.length_flatten, ← Nat.add_mul, h.take_flatten, h.drop_flatten]
  simp

/-- Overwriting one slot replaces that slot of the row. -/
theorem overwrite_slot (h : Uniform width slots) {slot : Bytes} (hslot : slot.length = width)
    {i : Nat} (hi : i < slots.length) :
    overwrite slots.flatten (i * width) slot = (slots.set i slot).flatten := by
  have hpatch : Uniform width [slot] := by simpa [Uniform] using hslot
  have hone := h.overwrite_flatten hpatch i
  rw [List.set_eq_take_append_cons_drop, if_pos hi]
  simpa using hone

/-- Cutting a row laid end to end gives its slots back. -/
theorem chunks_flatten (h : Uniform width slots) (hwidth : 0 < width) :
    chunks width slots.flatten = slots := by
  rw [chunks, h.length_flatten, Nat.mul_div_cancel _ hwidth]
  apply List.ext_getElem
  · simp
  · intro i hi hi'
    rw [List.getElem_map, List.getElem_range, h.slice_slot hi']

end Uniform

variable {width : Nat} {bytes : Bytes}

theorem length_chunks (width : Nat) (bytes : Bytes) :
    (bytes.chunks width).length = bytes.length / width := by
  simp [chunks]

/-- Cutting yields pieces of the given width only, since an incomplete last piece is dropped. -/
theorem uniform_chunks (width : Nat) (bytes : Bytes) : Uniform width (bytes.chunks width) := by
  intro slot hslot
  obtain ⟨i, hi, rfl⟩ := List.mem_map.mp hslot
  have hfit : (i + 1) * width ≤ bytes.length :=
    calc (i + 1) * width ≤ bytes.length / width * width :=
          Nat.mul_le_mul_right width (List.mem_range.mp hi)
      _ ≤ bytes.length := Nat.div_mul_le_self _ _
  rw [Nat.succ_mul] at hfit
  rw [slice, List.length_take, List.length_drop]
  omega

/-- The first pieces laid end to end are the bytes before the first one left out. -/
private theorem flatten_map_slice (width : Nat) (bytes : Bytes) (count : Nat) :
    ((List.range count).map fun i => bytes.slice (i * width) width).flatten =
      bytes.take (count * width) := by
  induction count with
  | zero => simp
  | succ count ih =>
    rw [List.range_succ, List.map_append, List.flatten_append, ih, Nat.succ_mul, List.take_add]
    simp [slice]

/-- A whole number of slots laid end to end is the byte string they were cut from. -/
theorem flatten_chunks (h : bytes.length % width = 0) : (bytes.chunks width).flatten = bytes := by
  rw [chunks, flatten_map_slice, Nat.div_mul_cancel (Nat.dvd_of_mod_eq_zero h), List.take_length]

/-- Zeros are a row of zero slots. -/
theorem zeros_mul (n width : Nat) :
    zeros (n * width) = (List.replicate n (zeros width)).flatten := by
  rw [zeros, zeros, List.flatten_replicate_replicate]

end HostBridge.Bytes
