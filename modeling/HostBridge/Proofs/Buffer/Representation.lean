import HostBridge.Buffer
import HostBridge.Proofs.Slots
import Mathlib.Data.List.Induction

/-!
# What a buffer holds

A buffer represents a list of elements when its block is a row of slots with these elements in
front and zeros behind them, and one slot at least is spare. Each operation on the block is then an
operation on the row, and this module says which one.

## Main definitions

* `row`: the slots of a block with room for `capacity` elements that holds given ones;
* `Represents`: the block of a buffer is the row of given elements.

## Main results

* `Represents.elements_eq`, `Represents.at?_eq`: what is read from a buffer;
* `flatten_extend`, `flatten_insert`, `flatten_remove`: what the patterns in which a buffer
  overwrites its block do to the elements in front, whatever lies behind them;
* `row_extend`, `row_insert`, `row_remove`, `row_write`, `row_clear`, `row_reverse`: overwrites of a
  row, in the patterns in which the operations of a buffer use them.
-/

namespace HostBridge.Buffer

open Bytes (Uniform)

/-- The slots of a block with room for `capacity` elements: the given ones, then zeros. -/
def row (width capacity : Nat) (items : List Bytes) : List Bytes :=
  items ++ List.replicate (capacity - items.length) (Bytes.zeros width)

section Row

variable {width capacity : Nat} {items : List Bytes}

theorem uniform_row (capacity : Nat) (h : Uniform width items) :
    Uniform width (row width capacity items) :=
  h.append (Uniform.replicate_zeros width _)

theorem length_row (h : items.length ≤ capacity) :
    (row width capacity items).length = capacity := by
  simp [row, h]

theorem take_row {n : Nat} (h : n ≤ items.length) :
    (row width capacity items).take n = items.take n := by
  rw [row, List.take_append_of_le_length h]

/-- Behind the elements there are only zeros. -/
theorem drop_row {n : Nat} (h : items.length ≤ n) :
    (row width capacity items).drop n = List.replicate (capacity - n) (Bytes.zeros width) := by
  rw [row, List.drop_append, List.drop_eq_nil_of_le h, List.nil_append, List.drop_replicate]
  congr 1
  omega

/-- Overwriting the slots behind the elements appends, whatever they held. -/
theorem flatten_extend {rest added : List Bytes} (h : Uniform width (items ++ rest))
    (hadded : Uniform width added) :
    Bytes.overwrite (items ++ rest).flatten (items.length * width) added.flatten =
      (items ++ added ++ rest.drop added.length).flatten := by
  rw [h.overwrite_flatten hadded, List.take_left', List.drop_append, Nat.add_sub_cancel_left,
    List.drop_eq_nil_of_le (Nat.le_add_right _ _), List.nil_append]
  rfl

/-- Moving the elements from `index` on up by one slot and writing the slot that becomes free
inserts, whatever the slot behind the elements held. -/
theorem flatten_insert {index : Nat} {element slot : Bytes} {rest : List Bytes}
    (h : Uniform width (items ++ slot :: rest)) (helement : element.length = width)
    (hindex : index ≤ items.length) :
    Bytes.overwrite
        (Bytes.overwrite (items ++ slot :: rest).flatten ((index + 1) * width)
          (Bytes.slice (items ++ slot :: rest).flatten (index * width)
            ((items.length - index) * width)))
        (index * width) element =
      (items.insertIdx index element ++ rest).flatten := by
  obtain ⟨front, back, rfl, rfl, hinsert⟩ :=
    List.exists_of_modifyTailIdx (List.cons element) hindex
  -- the first slot that the move leaves as it was is the one that is written afterwards
  obtain ⟨first, more, hfirst⟩ : ∃ first more, back ++ slot :: rest = first :: more :=
    List.exists_cons_of_ne_nil (by simp)
  have hcount : (front ++ back).length - front.length = back.length := by
    rw [List.length_append, Nat.add_sub_cancel_left]
  have hback : Uniform width back := h.mono (by simp)
  have hmoved : Uniform width ((front ++ [first]) ++ back ++ rest) := by
    have hmem : first ∈ front ++ back ++ slot :: rest := by simp [List.append_assoc, hfirst]
    intro found hfound
    simp only [List.mem_append, List.mem_singleton] at hfound
    rcases hfound with ((hfound | rfl) | hfound) | hfound
    · exact h found (by simp [hfound])
    · exact h found hmem
    · exact h found (by simp [hfound])
    · exact h found (by simp [hfound])
  have hread : Bytes.slice (front ++ back ++ slot :: rest).flatten (front.length * width)
      (back.length * width) = back.flatten := by
    rw [h.slice_flatten, List.append_assoc, List.drop_left, List.take_left]
  have htake : (front ++ back ++ slot :: rest).take (front.length + 1) = front ++ [first] := by
    rw [List.append_assoc, hfirst, List.take_length_add_append]
    rfl
  have hdrop : (front ++ back ++ slot :: rest).drop (front.length + 1 + back.length) = rest := by
    rw [show front.length + 1 + back.length = (front ++ back).length + 1 by
      rw [List.length_append]; omega, List.drop_length_add_append]
    rfl
  rw [hcount, hread, h.overwrite_flatten hback, htake, hdrop,
    hmoved.overwrite_slot helement (by simp), List.insertIdx, hinsert]
  congr 1
  simp

/-- Moving the elements behind `index` down by one slot and zeroing the last one removes, whatever
lies behind the elements. -/
theorem flatten_remove {index : Nat} {rest : List Bytes} (h : Uniform width (items ++ rest))
    (hindex : index < items.length) :
    Bytes.overwrite
        (Bytes.overwrite (items ++ rest).flatten (index * width)
          (Bytes.slice (items ++ rest).flatten ((index + 1) * width)
            ((items.length - 1 - index) * width)))
        ((items.length - 1) * width) (Bytes.zeros width) =
      (items.eraseIdx index ++ Bytes.zeros width :: rest).flatten := by
  obtain ⟨front, item, back, rfl, rfl⟩ :
      ∃ front item back, items = front ++ item :: back ∧ front.length = index :=
    ⟨items.take index, items[index], items.drop (index + 1),
      by rw [← List.drop_eq_getElem_cons hindex, List.take_append_drop],
      by rw [List.length_take, Nat.min_eq_left hindex.le]⟩
  -- the slot of the last element is the only one that the move leaves as it was
  obtain ⟨body, last, hlast⟩ : ∃ body last, item :: back = body ++ [last] :=
    ⟨_, _, (List.dropLast_append_getLast (List.cons_ne_nil item back)).symm⟩
  have hbody : body.length = back.length := by
    have := congrArg List.length hlast
    simpa using this.symm
  have hcount : (front ++ item :: back).length - 1 = front.length + back.length := by simp
  have hback : Uniform width back := fun found hfound => h found (by simp [hfound])
  have hmoved : Uniform width (front ++ back ++ last :: rest) := by
    have hmem : last ∈ front ++ item :: back ++ rest := by simp [hlast]
    intro found hfound
    simp only [List.mem_append, List.mem_cons] at hfound
    rcases hfound with (hfound | hfound) | rfl | hfound
    · exact h found (by simp [hfound])
    · exact h found (by simp [hfound])
    · exact h found hmem
    · exact h found (by simp [hfound])
  have hread : Bytes.slice (front ++ item :: back ++ rest).flatten ((front.length + 1) * width)
      (back.length * width) = back.flatten := by
    rw [h.slice_flatten, List.append_assoc, List.drop_length_add_append]
    simp
  have hdrop : (front ++ item :: back ++ rest).drop (front.length + back.length) =
      last :: rest := by
    rw [hlast, List.append_assoc, List.drop_length_add_append, ← hbody, List.append_assoc,
      List.drop_left]
    rfl
  have htake : (front ++ item :: back ++ rest).take front.length = front := by
    rw [List.append_assoc, List.take_left]
  rw [hcount, Nat.add_sub_cancel_left, hread, h.overwrite_flatten hback, hdrop, htake,
    ← List.length_append,
    hmoved.overwrite_slot (Bytes.length_zeros width) (by simp), List.set_append_right _ _ le_rfl,
    Nat.sub_self, List.set_cons_zero, List.eraseIdx_append_of_length_le le_rfl, Nat.sub_self]
  rfl

/-- Overwriting the slots behind the elements appends. -/
theorem row_extend {added : List Bytes} (h : Uniform width items) (hadded : Uniform width added) :
    Bytes.overwrite (row width capacity items).flatten (items.length * width) added.flatten =
      (row width capacity (items ++ added)).flatten := by
  rw [row, flatten_extend (uniform_row capacity h) hadded, List.drop_replicate, Nat.sub_sub, row,
    List.length_append]

/-- Moving the elements from `index` on up by one slot and writing the slot that becomes free
inserts. -/
theorem row_insert {index : Nat} {element : Bytes} (h : Uniform width items)
    (helement : element.length = width) (hindex : index ≤ items.length)
    (hroom : items.length < capacity) :
    Bytes.overwrite
        (Bytes.overwrite (row width capacity items).flatten ((index + 1) * width)
          (Bytes.slice (row width capacity items).flatten (index * width)
            ((items.length - index) * width)))
        (index * width) element =
      (row width capacity (items.insertIdx index element)).flatten := by
  have hrow : row width capacity items = items ++ Bytes.zeros width ::
      List.replicate (capacity - (items.length + 1)) (Bytes.zeros width) := by
    rw [row, ← List.replicate_succ]
    congr 2
    omega
  have huniform := uniform_row capacity h
  rw [hrow] at huniform ⊢
  rw [flatten_insert huniform helement hindex, row, List.length_insertIdx_of_le_length hindex]

/-- Moving the elements behind `index` down by one slot and zeroing the last one removes. -/
theorem row_remove {index : Nat} (h : Uniform width items) (hindex : index < items.length)
    (hroom : items.length ≤ capacity) :
    Bytes.overwrite
        (Bytes.overwrite (row width capacity items).flatten (index * width)
          (Bytes.slice (row width capacity items).flatten ((index + 1) * width)
            ((items.length - 1 - index) * width)))
        ((items.length - 1) * width) (Bytes.zeros width) =
      (row width capacity (items.eraseIdx index)).flatten := by
  rw [row, flatten_remove (uniform_row capacity h) hindex, ← List.replicate_succ, row,
    List.length_eraseIdx_of_lt hindex]
  congr 3
  omega

/-- Overwriting the slot of an element replaces the element. -/
theorem row_write {index : Nat} {element : Bytes} (h : Uniform width items)
    (helement : element.length = width) (hindex : index < items.length) :
    Bytes.overwrite (row width capacity items).flatten (index * width) element =
      (row width capacity (items.set index element)).flatten := by
  have hlt : index < (row width capacity items).length :=
    hindex.trans_le (by simp [row])
  rw [(uniform_row capacity h).overwrite_slot helement hlt, row, List.set_append_left _ _ hindex,
    row, List.length_set]

/-- Zeroing the slots of all elements leaves an empty row. -/
theorem row_clear (h : Uniform width items) (hroom : items.length ≤ capacity) :
    Bytes.overwrite (row width capacity items).flatten 0 (Bytes.zeros (items.length * width)) =
      (row width capacity []).flatten := by
  have hrow : Uniform width (row width capacity items) := uniform_row capacity h
  have hclear := hrow.overwrite_flatten (Uniform.replicate_zeros width items.length) 0
  rw [Nat.zero_mul, ← Bytes.zeros_mul, List.take_zero, List.nil_append, List.length_replicate,
    drop_row (by omega), Nat.zero_add, List.replicate_append_replicate,
    Nat.add_sub_cancel' hroom] at hclear
  rw [hclear, row, List.nil_append, List.length_nil, Nat.sub_zero]

/-- Exchanging two slots of a row. -/
theorem swapSlots_flatten {front middle back : List Bytes} {first last : Bytes}
    (h : Uniform width (front ++ first :: (middle ++ last :: back))) :
    swapSlots width front.length (front.length + (middle.length + 1))
        (front ++ first :: (middle ++ last :: back)).flatten =
      (front ++ last :: (middle ++ first :: back)).flatten := by
  have hfirst : first.length = width := h first (by simp)
  have hlast : last.length = width := h last (by simp)
  have hnext : Uniform width (front ++ last :: (middle ++ last :: back)) := by
    intro slot hslot
    apply h slot
    simp only [List.mem_append, List.mem_cons] at hslot ⊢
    tauto
  have hread : Bytes.slice (front ++ first :: (middle ++ last :: back)).flatten
      (front.length * width) width = first := by
    rw [h.slice_slot (by simp)]
    simp
  have hread' : Bytes.slice (front ++ first :: (middle ++ last :: back)).flatten
      ((front.length + (middle.length + 1)) * width) width = last := by
    rw [h.slice_slot (by simp)]
    simp
  rw [swapSlots, hread, hread', h.overwrite_slot hlast (by simp), List.set_append_right _ _ le_rfl,
    Nat.sub_self, List.set_cons_zero, hnext.overwrite_slot hfirst (by simp)]
  simp

/-- Reversing the middle part of a row from both ends inwards. -/
theorem reverseSlots_flatten {front middle back : List Bytes}
    (h : Uniform width (front ++ middle ++ back)) :
    reverseSlots width front.length (front.length + middle.length)
        (front ++ middle ++ back).flatten =
      (front ++ middle.reverse ++ back).flatten := by
  -- Each pass takes one slot off both ends of the middle part.
  induction middle using List.bidirectionalRec generalizing front back with
  | nil => rw [reverseSlots, if_neg (by simp)]; simp
  | singleton slot => rw [reverseSlots, if_neg (by simp)]; simp
  | cons_append first middle last ih =>
    have hpart : front ++ first :: (middle ++ [last]) ++ back =
        front ++ first :: (middle ++ last :: back) := by simp
    have hswap : front ++ last :: (middle ++ first :: back) =
        (front ++ [last]) ++ middle ++ (first :: back) := by simp
    have hinner : Uniform width ((front ++ [last]) ++ middle ++ (first :: back)) := by
      apply h.mono
      intro slot hslot
      simp only [List.mem_append, List.mem_cons] at hslot ⊢
      tauto
    have hhigh : front.length + (first :: (middle ++ [last])).length - 1 =
        front.length + (middle.length + 1) := by
      simp
    have hbounds : front.length + (middle.length + 1) =
        (front ++ [last]).length + middle.length := by
      simp
      omega
    rw [hpart] at h ⊢
    rw [reverseSlots, if_pos (by simp), hhigh, swapSlots_flatten h, hswap, hbounds,
      show front.length + 1 = (front ++ [last]).length by simp, ih hinner]
    simp

/-- Reversing the slots of all elements. -/
theorem row_reverse (h : Uniform width items) :
    reverseSlots width 0 items.length (row width capacity items).flatten =
      (row width capacity items.reverse).flatten := by
  have hrow : Uniform width ([] ++ items ++
      List.replicate (capacity - items.length) (Bytes.zeros width)) := uniform_row capacity h
  simpa [row] using reverseSlots_flatten hrow

end Row

/-- `buffer` holds exactly `items`. -/
structure Represents (buffer : Buffer) (items : List Bytes) : Prop where
  /-- Every element has the width of the kind. -/
  uniform : Uniform buffer.kind.width items
  /-- The recorded length is the number of elements. -/
  length_eq : buffer.length = items.length
  /-- There is a spare slot. -/
  spare : items.length < buffer.capacity
  /-- The block has the elements in front and zeros behind them. -/
  block_eq : buffer.block = (row buffer.kind.width buffer.capacity items).flatten

namespace Represents

variable {buffer : Buffer} {items : List Bytes}

theorem bytes_eq (h : Represents buffer items) : buffer.bytes = items.flatten := by
  have hslice := (uniform_row buffer.capacity h.uniform).slice_flatten 0 items.length
  rw [Nat.zero_mul, List.drop_zero, take_row le_rfl, List.take_length] at hslice
  rw [bytes, h.block_eq, h.length_eq, hslice]

/-- Cutting the bytes of a buffer into elements gives the list that it represents. -/
theorem elements_eq (h : Represents buffer items) : buffer.elements = items := by
  rw [elements, h.bytes_eq, h.uniform.chunks_flatten buffer.kind.width_pos]

theorem at?_eq (h : Represents buffer items) (index : Nat) : buffer.at? index = items[index]? := by
  rw [at?, h.length_eq, h.block_eq]
  split
  · rename_i hindex
    have hrow : (row buffer.kind.width buffer.capacity items)[index]? = some items[index] := by
      rw [row, List.getElem?_append_left hindex, List.getElem?_eq_getElem hindex]
    obtain ⟨hlt, hget⟩ := List.getElem?_eq_some_iff.mp hrow
    rw [(uniform_row buffer.capacity h.uniform).slice_slot hlt, hget,
      List.getElem?_eq_getElem hindex]
  · rename_i hindex
    rw [List.getElem?_eq_none (by omega)]

/-- Elements written behind those that are there are appended. -/
theorem extended {added : List Bytes} (h : Represents buffer items)
    (hadded : Uniform buffer.kind.width added)
    (hroom : items.length + added.length < buffer.capacity) :
    Represents
      { buffer with
        length := items.length + added.length
        block := buffer.block.overwrite (items.length * buffer.kind.width) added.flatten }
      (items ++ added) where
  uniform := h.uniform.append hadded
  length_eq := List.length_append.symm
  spare := by simpa using hroom
  block_eq := by rw [h.block_eq, row_extend h.uniform hadded]

/-- Moving elements up and writing the slot that becomes free inserts an element. -/
theorem inserted {index : Nat} {element : Bytes} (h : Represents buffer items)
    (helement : element.length = buffer.kind.width) (hindex : index ≤ items.length)
    (hroom : items.length + 1 < buffer.capacity) :
    Represents
      { buffer with
        length := items.length + 1
        block := (buffer.block.overwrite ((index + 1) * buffer.kind.width)
          (buffer.block.slice (index * buffer.kind.width)
            ((items.length - index) * buffer.kind.width))).overwrite
          (index * buffer.kind.width) element }
      (items.insertIdx index element) where
  uniform := by
    intro item hitem
    rcases (List.mem_insertIdx hindex).mp hitem with rfl | hitem
    · exact helement
    · exact h.uniform item hitem
  length_eq := (List.length_insertIdx_of_le_length hindex element).symm
  spare := by rwa [List.length_insertIdx_of_le_length hindex]
  block_eq := by rw [h.block_eq, row_insert h.uniform helement hindex h.spare]

/-- Moving elements down and zeroing the last slot removes an element. -/
theorem removed {index : Nat} (h : Represents buffer items) (hindex : index < items.length) :
    Represents
      { buffer with
        length := items.length - 1
        block := (buffer.block.overwrite (index * buffer.kind.width)
          (buffer.block.slice ((index + 1) * buffer.kind.width)
            ((items.length - 1 - index) * buffer.kind.width))).overwrite
          ((items.length - 1) * buffer.kind.width) (Bytes.zeros buffer.kind.width) }
      (items.eraseIdx index) where
  uniform := h.uniform.mono List.eraseIdx_subset
  length_eq := (List.length_eraseIdx_of_lt hindex).symm
  spare := by
    have hspare := h.spare
    rw [List.length_eraseIdx_of_lt hindex]
    change items.length - 1 < buffer.capacity
    omega
  block_eq := by rw [h.block_eq, row_remove h.uniform hindex h.spare.le]

/-- Overwriting one element. -/
theorem written {index : Nat} {element : Bytes} (h : Represents buffer items)
    (helement : element.length = buffer.kind.width) (hindex : index < items.length) :
    Represents
      { buffer with block := buffer.block.overwrite (index * buffer.kind.width) element }
      (items.set index element) where
  uniform := by
    intro item hitem
    rcases List.mem_or_eq_of_mem_set hitem with hitem | rfl
    · exact h.uniform item hitem
    · exact helement
  length_eq := h.length_eq.trans List.length_set.symm
  spare := by rw [List.length_set]; exact h.spare
  block_eq := by rw [h.block_eq, row_write h.uniform helement hindex]

theorem reversed (h : Represents buffer items) : Represents buffer.reverse items.reverse where
  uniform := h.uniform.mono (by simp)
  length_eq := h.length_eq.trans List.length_reverse.symm
  spare := by rw [List.length_reverse]; exact h.spare
  block_eq := by rw [reverse, h.block_eq, h.length_eq, row_reverse h.uniform]

theorem cleared (h : Represents buffer items) : Represents buffer.clear [] where
  uniform := Uniform.nil
  length_eq := rfl
  spare := Nat.zero_lt_of_lt h.spare
  block_eq := by rw [clear, h.block_eq, h.length_eq, row_clear h.uniform h.spare.le]

end Represents

end HostBridge.Buffer
