import HostBridge.Proofs.Memory.Blocks

/-!
# The elements of a sound buffer

A block that others write to through a pointer need not have zeros behind its elements. It is still
a row of slots with the elements in front, and that is all that the operations of a buffer rely on.
This module says what they do to the elements of any sound buffer, and that all they can lack, once
their argument suits the buffer, is memory.

## Main definitions

* `Buffer.Gives`: an outcome is a buffer with given elements, or a lack of memory.

## Main results

* `Buffer.Sound.exists_rest`: the block is a row of slots with the elements in front;
* `Buffer.Sound.reserve_gives`: making room keeps the elements;
* `Buffer.Sound.insert_gives`, `Buffer.Sound.append_gives`, `Buffer.Sound.removeValue_of_mem`: what
  operations do to the elements;
* `Buffer.Sound.result_appendCopy`: appending a buffer to itself by way of a copy is no different
  from appending its elements.
-/

namespace HostBridge.Buffer

open Bytes (Uniform)

/-- An outcome is a lack of memory in the case `starved`, and otherwise a buffer that holds
`items`. -/
def Gives (outcome : Except Fault Buffer) (starved : Prop) (items : List Bytes) : Prop :=
  match outcome with
  | .ok next => ¬starved ∧ next.elements = items
  | .error fault => starved ∧ fault.category = .allocation

/-- What is done in place to a buffer that was made roomy does not fail. -/
theorem Gives.bind {outcome : Except Fault Buffer} {starved : Prop} {items after : List Bytes}
    (h : Gives outcome starved items) (update : Buffer → Buffer)
    (hupdate : ∀ roomy, outcome = .ok roomy → roomy.elements = items →
      (update roomy).elements = after) :
    Gives (outcome >>= fun roomy => .ok (update roomy)) starved after := by
  rcases outcome with fault | roomy
  · exact h
  · exact ⟨h.1, hupdate roomy rfl h.2⟩

/-- The elements are what stands in the slots in front. -/
theorem elements_of_slots {buffer : Buffer} {items : List Bytes} (rest : List Bytes)
    (huniform : Uniform buffer.kind.width (items ++ rest)) (hlength : buffer.length = items.length)
    (hblock : buffer.block = (items ++ rest).flatten) : buffer.elements = items := by
  have hitems : Uniform buffer.kind.width items :=
    huniform.mono (List.subset_append_left items rest)
  have hbytes := huniform.slice_flatten 0 items.length
  rw [Nat.zero_mul, List.drop_zero, List.take_left] at hbytes
  rw [elements, bytes, hblock, hlength, hbytes, hitems.chunks_flatten buffer.kind.width_pos]

theorem uniform_elements (buffer : Buffer) : Uniform buffer.kind.width buffer.elements :=
  Bytes.uniform_chunks buffer.kind.width buffer.bytes

/-- An element is found no later than at a place where it occurs, and not before it first occurs. -/
theorem findFirst_of_getElem? {buffer : Buffer} {index : Nat} {element : Bytes}
    (h : buffer.elements[index]? = some element) :
    ∃ first ≤ index, buffer.elements[first]? = some element ∧ element ∉ buffer.elements.take first ∧
      buffer.findFirst element = .ok (some first) := by
  have hmem : element ∈ buffer.elements := List.mem_of_getElem? h
  obtain ⟨first, hfirst⟩ := Option.isSome_iff_exists.mp (List.isSome_idxOf?.mpr hmem)
  obtain ⟨hlt, hequal, hbefore⟩ := List.findIdx?_eq_some_iff_getElem.mp hfirst
  refine ⟨first, ?_, ?_, ?_, ?_⟩
  · obtain ⟨hindex, hfound⟩ := List.getElem?_eq_some_iff.mp h
    refine Nat.le_of_not_lt fun hless => ?_
    exact hbefore index hless (beq_iff_eq.mpr hfound)
  · exact List.getElem?_eq_some_iff.mpr ⟨hlt, beq_iff_eq.mp hequal⟩
  · intro htake
    obtain ⟨place, hplace, hfound⟩ := List.mem_take_iff_getElem.mp htake
    exact hbefore place (hplace.trans_le (Nat.min_le_left _ _)) (beq_iff_eq.mpr hfound)
  · rw [findFirst_eq (uniform_elements buffer element hmem), hfirst]

/-- Of the buffer that is appended only the kind and the bytes matter. -/
theorem append_congr [Allocator] {buffer other another : Buffer} (hkind : other.kind = another.kind)
    (hbytes : other.bytes = another.bytes) : buffer.append other = buffer.append another := by
  rw [append_eq, append_eq, hkind, hbytes]

namespace Sound

section Slots

variable {buffer : Buffer} (h : buffer.Sound)
include h

/-- The block is a row of slots with the elements in front. -/
theorem exists_rest :
    ∃ rest, Uniform buffer.kind.width (buffer.elements ++ rest) ∧
      buffer.block = (buffer.elements ++ rest).flatten ∧
      buffer.length + rest.length = buffer.capacity := by
  have hslots := Bytes.uniform_chunks buffer.kind.width buffer.block
  have hblock : (buffer.block.chunks buffer.kind.width).flatten = buffer.block :=
    Bytes.flatten_chunks (by rw [h.length_block, blockSize, Nat.mul_mod_left])
  have hcount : (buffer.block.chunks buffer.kind.width).length = buffer.capacity := by
    rw [Bytes.length_chunks, h.length_block, blockSize, Nat.mul_div_cancel _ buffer.kind.width_pos]
  -- cut into slots, the block has the elements up to the length, and the rest is what we are after
  rw [← List.take_append_drop buffer.length (buffer.block.chunks buffer.kind.width)]
    at hslots hblock
  have helements :
      buffer.elements = (buffer.block.chunks buffer.kind.width).take buffer.length :=
    elements_of_slots _ hslots (by rw [List.length_take, hcount, Nat.min_eq_left h.spare.le])
      hblock.symm
  refine ⟨(buffer.block.chunks buffer.kind.width).drop buffer.length, ?_, ?_, ?_⟩
  · rwa [helements]
  · rw [helements, hblock]
  · rw [List.length_drop, hcount, Nat.add_sub_cancel' h.spare.le]

/-- An element is read from its slot of the block. -/
theorem slice_slot {index : Nat} {element : Bytes}
    (helement : buffer.elements[index]? = some element) :
    buffer.block.slice (index * buffer.kind.width) buffer.kind.width = element := by
  obtain ⟨rest, huniform, hblock, -⟩ := h.exists_rest
  obtain ⟨hindex, rfl⟩ := List.getElem?_eq_some_iff.mp helement
  have hslot : index < (buffer.elements ++ rest).length :=
    hindex.trans_le (by rw [List.length_append]; exact Nat.le_add_right _ _)
  rw [hblock, huniform.slice_slot hslot, List.getElem_append_left hindex]

theorem elements_extended {bytes : Bytes} (hwhole : bytes.length % buffer.kind.width = 0) :
    { buffer with
      length := buffer.length + bytes.length / buffer.kind.width
      block := buffer.block.overwrite (buffer.length * buffer.kind.width) bytes }.elements =
        buffer.elements ++ bytes.chunks buffer.kind.width := by
  obtain ⟨rest, huniform, hblock, -⟩ := h.exists_rest
  have hadded := Bytes.uniform_chunks buffer.kind.width bytes
  -- the new elements overwrite as many slots of the rest
  have hextended := flatten_extend huniform hadded
  rw [← hblock, Bytes.flatten_chunks hwhole, h.length_elements] at hextended
  refine elements_of_slots (rest.drop (bytes.chunks buffer.kind.width).length) ?_ ?_ hextended
  · have hrest : Uniform buffer.kind.width rest := huniform.mono (List.subset_append_right _ _)
    exact ((uniform_elements buffer).append hadded).append (hrest.mono (List.drop_subset _ _))
  · rw [List.length_append, h.length_elements, Bytes.length_chunks]

theorem elements_inserted {index : Nat} {element : Bytes}
    (helement : element.length = buffer.kind.width) (hindex : index ≤ buffer.length) :
    { buffer with
      length := buffer.length + 1
      block := (buffer.block.overwrite ((index + 1) * buffer.kind.width)
        (buffer.block.slice (index * buffer.kind.width)
          ((buffer.length - index) * buffer.kind.width))).overwrite
          (index * buffer.kind.width) element }.elements =
        buffer.elements.insertIdx index element := by
  obtain ⟨rest, huniform, hblock, hrest⟩ := h.exists_rest
  rw [← h.length_elements] at hindex
  -- the spare slot is where the last element moves
  rcases rest with _ | ⟨slot, rest⟩
  · have hspare := h.spare
    rw [List.length_nil] at hrest
    omega
  have hinserted := flatten_insert huniform helement hindex
  rw [← hblock, h.length_elements] at hinserted
  refine elements_of_slots rest ?_ ?_ hinserted
  · intro item hitem
    rcases List.mem_append.mp hitem with hitem | hitem
    · rcases List.eq_or_mem_of_mem_insertIdx hitem with rfl | hitem
      · exact helement
      · exact uniform_elements buffer item hitem
    · exact huniform item (by simp [hitem])
  · rw [List.length_insertIdx_of_le_length hindex, h.length_elements]

theorem elements_removed {index : Nat} (hindex : index < buffer.length) :
    { buffer with
      length := buffer.length - 1
      block := (buffer.block.overwrite (index * buffer.kind.width)
        (buffer.block.slice ((index + 1) * buffer.kind.width)
          ((buffer.length - 1 - index) * buffer.kind.width))).overwrite
          ((buffer.length - 1) * buffer.kind.width) (Bytes.zeros buffer.kind.width) }.elements =
        buffer.elements.eraseIdx index := by
  obtain ⟨rest, huniform, hblock, -⟩ := h.exists_rest
  rw [← h.length_elements] at hindex
  have hremoved := flatten_remove huniform hindex
  rw [← hblock, h.length_elements] at hremoved
  refine elements_of_slots _ ?_ ?_ hremoved
  · intro item hitem
    rcases List.mem_append.mp hitem with hitem | hitem
    · exact uniform_elements buffer item (List.mem_of_mem_eraseIdx hitem)
    · rcases List.mem_cons.mp hitem with rfl | hitem
      · exact Bytes.length_zeros _
      · exact huniform item (List.mem_append_right _ hitem)
  · rw [List.length_eraseIdx_of_lt hindex, h.length_elements]

end Slots

/-! ## Operations that make room -/

section Room

variable [Allocator] {buffer other : Buffer} (h : buffer.Sound)
include h

/-- Elements that move to a larger block are read there as before. -/
theorem reserve_gives (needed : Nat) :
    Gives (buffer.reserve needed).run.result (buffer.Starved needed) buffer.elements := by
  by_cases hroom : needed < buffer.capacity
  · rw [(reserve_of_lt hroom).1]
    exact ⟨fun hstarved => absurd hroom (Nat.not_lt.mpr hstarved.1), rfl⟩
  have hfull := Nat.le_of_not_lt hroom
  by_cases hblock : Obtainable buffer.kind (grownCapacity buffer.capacity needed)
  · rw [(reserve_of_obtainable hfull hblock).1]
    refine ⟨fun hstarved => hstarved.2 hblock, congrArg (Bytes.chunks buffer.kind.width) ?_⟩
    have hmoved := Bytes.slice_overwrite
      (vacant buffer.kind (grownCapacity buffer.capacity needed)).block 0 buffer.bytes
      (Nat.zero_le _)
    rwa [h.length_bytes] at hmoved
  · have hstarved : buffer.Starved needed := ⟨hfull, hblock⟩
    obtain ⟨⟨fault, hfault⟩, -⟩ := reserve_of_starved hstarved
    rw [hfault]
    exact ⟨hstarved, category_of_reserve hfault⟩

/-- A buffer that was made roomy has the length that it had. -/
theorem length_of_reserve {needed : Nat} {roomy : Buffer}
    (hroomy : (buffer.reserve needed).run.result = .ok roomy) :
    roomy.Sound ∧ roomy.kind = buffer.kind ∧ roomy.length = buffer.length := by
  have hmoves := moves_reserve h needed
  have hgives := h.reserve_gives needed
  unfold Moves at hmoves
  rw [hroomy] at hmoves hgives
  refine ⟨hmoves.sound, hmoves.kind_eq, ?_⟩
  rw [← hmoves.sound.length_elements, hgives.2, h.length_elements]

theorem extend_gives {bytes : Bytes} (hwhole : bytes.length % buffer.kind.width = 0) :
    Gives (buffer.extend bytes).run.result
      (buffer.Starved (buffer.length + bytes.length / buffer.kind.width))
      (buffer.elements ++ bytes.chunks buffer.kind.width) := by
  simp only [extend_eq, checkWhole_of_whole hwhole, Attempt.result_bind, Attempt.result_liftExcept,
    Attempt.result_pure, Fault.ok_bind]
  refine (h.reserve_gives _).bind _ fun roomy hroomy helements => ?_
  obtain ⟨hsound, hkind, hlength⟩ := h.length_of_reserve hroomy
  rw [← hkind] at hwhole
  rw [← hkind, ← hlength, ← helements]
  exact hsound.elements_extended hwhole

theorem append_gives (hother : other.Sound) (hkind : other.kind = buffer.kind) :
    Gives (buffer.append other).run.result (buffer.Starved (buffer.length + other.length))
      (buffer.elements ++ other.elements) := by
  have hwhole : other.bytes.length % buffer.kind.width = 0 := hkind ▸ hother.whole_bytes
  have hextend := h.extend_gives hwhole
  rw [← hkind, hother.count_bytes] at hextend
  rw [show buffer.append other = buffer.extend other.bytes by simp [append_eq, hkind]]
  exact hextend

theorem insert_gives {index : Nat} {element : Bytes}
    (helement : element.length = buffer.kind.width) (hindex : index ≤ buffer.length) :
    Gives (buffer.insert index element).run.result (buffer.Starved (buffer.length + 1))
      (buffer.elements.insertIdx index element) := by
  simp only [insert_eq, checkElement_of_length helement, if_neg (Nat.not_lt.mpr hindex),
    Attempt.result_bind, Attempt.result_liftExcept, Attempt.result_pure, Fault.ok_bind]
  refine (h.reserve_gives _).bind _ fun roomy hroomy helements => ?_
  obtain ⟨hsound, hkind, hlength⟩ := h.length_of_reserve hroomy
  rw [← hkind] at helement
  rw [← hlength] at hindex
  rw [← hkind, ← hlength, ← helements]
  exact hsound.elements_inserted helement hindex

/-- A copy can be had if its block can, and holds the same bytes. -/
theorem copy_of_obtainable (hblock : Obtainable buffer.kind buffer.capacity) :
    ∃ copied, buffer.copy.run.result = .ok copied ∧ copied.kind = buffer.kind ∧
      copied.bytes = buffer.bytes := by
  have hmax : max buffer.capacity 1 = buffer.capacity := max_eq_left (Nat.zero_lt_of_lt h.spare)
  -- the fresh block has the same capacity, so the elements fit and it need not grow
  have hfresh := withCapacity_of_obtainable (hmax.symm ▸ hblock)
  rw [hmax] at hfresh
  have hroom : 0 + buffer.bytes.length / buffer.kind.width < buffer.capacity := by
    rw [h.count_bytes, Nat.zero_add]
    exact h.spare
  obtain ⟨hextend, -⟩ :=
    extend_of_lt (vacant buffer.kind buffer.capacity) buffer.bytes h.whole_bytes
    hroom
  have hcopy : buffer.copy.run.result =
      ((vacant buffer.kind buffer.capacity).extend buffer.bytes).run.result := by
    rw [copy, Attempt.result_bind, hfresh, Fault.ok_bind]
  refine ⟨_, hcopy.trans hextend, rfl, ?_⟩
  have hfilled := Bytes.slice_overwrite (vacant buffer.kind buffer.capacity).block 0 buffer.bytes
    (Nat.zero_le _)
  show Bytes.slice (Bytes.overwrite _ (0 * buffer.kind.width) _) 0
    ((0 + buffer.bytes.length / buffer.kind.width) * buffer.kind.width) = buffer.bytes
  rwa [Nat.zero_mul, Nat.zero_add, h.count_bytes, ← h.length_bytes]

/-- The copy that a buffer is appended to itself by does not show in the outcome. -/
theorem result_appendCopy (hblock : Obtainable buffer.kind buffer.capacity) :
    buffer.appendCopy.run.result = (buffer.append buffer).run.result := by
  obtain ⟨copied, hcopied, hkind, hbytes⟩ := h.copy_of_obtainable hblock
  rw [← append_congr hkind hbytes, appendCopy_eq, Attempt.result_bind, hcopied]
  rfl

end Room

/-! ## Operations that need no room -/

section InPlace

variable {buffer : Buffer} (h : buffer.Sound)
include h

theorem removeAt_of_lt {index : Nat} (hindex : index < buffer.length) :
    ∃ next, buffer.removeAt index = .ok next ∧ next.elements = buffer.elements.eraseIdx index := by
  refine ⟨_, ?_, h.elements_removed hindex⟩
  rw [removeAt_eq, if_neg (Nat.not_le.mpr hindex)]

/-- An element that occurs is removed where it occurs first. -/
theorem removeValue_of_mem {element : Bytes} (hmem : element ∈ buffer.elements) :
    ∃ next, buffer.removeValue element = .ok (true, next) ∧
      next.elements = buffer.elements.erase element := by
  have hfind := findFirst_eq (uniform_elements buffer element hmem)
  -- since the element occurs, the search comes back with a place inside the buffer
  obtain ⟨index, hindex⟩ := Option.isSome_iff_exists.mp (List.isSome_idxOf?.mpr hmem)
  obtain ⟨hlt, -⟩ := List.findIdx?_eq_some_iff_getElem.mp hindex
  obtain ⟨next, hremove, helements⟩ := h.removeAt_of_lt (h.length_elements ▸ hlt)
  refine ⟨next, ?_, ?_⟩
  · rw [removeValue_of_found (hfind.trans (congrArg _ hindex)), hremove]
    rfl
  · rw [helements, List.erase_eq_eraseIdx, hindex]

end InPlace

end Sound

end HostBridge.Buffer
