import HostBridge.Proofs.Buffer.Refinement

/-!
# The block of a buffer

Whatever is done to a buffer, and however it ends, the block has the size that the capacity asks
for, there is a spare slot, and all bytes behind the elements are zero. Nothing that reads the
elements could tell if this failed, but every operation that moves elements or makes room relies on
it. Two things follow for operations that need no room: appending nothing leaves the block in place,
and a copy takes one block and is done.

## Main definitions

* `Reachable`: the buffers that can be reached from the constructors;
* `WellFormed`: the invariant of the block;
* `Fills`: an attempt yields a buffer with given elements.

## Main results

* `Represents.wellFormed`: the row of slots in which a buffer represents a list is well formed;
* `Reachable.represents`: every reachable buffer represents a list, by induction over operations;
* `pushes_fill`: values for which there is room are appended in place, by induction over them;
* `Reachable.spare_and_zeroed`: the invariant of every reachable buffer, and what follows from it.
-/

namespace HostBridge.Buffer

open Bytes (Uniform)

/-- The block has exactly the size that the capacity asks for, with a spare slot and with zeros
behind the elements. -/
structure WellFormed (buffer : Buffer) : Prop where
  capacity_pos : 1 ≤ buffer.capacity
  length_block : buffer.block.length = buffer.capacity * buffer.kind.width
  spare : buffer.length < buffer.capacity
  zeroed : ∀ i, buffer.length * buffer.kind.width ≤ i → i < buffer.block.length →
    buffer.block[i]? = some 0

namespace Represents

variable {buffer other : Buffer} {items : List Bytes}

/-- Behind the elements the block is a run of zeros. -/
theorem drop_block (h : Represents buffer items) :
    buffer.block.drop (buffer.length * buffer.kind.width) =
      Bytes.zeros ((buffer.capacity - buffer.length) * buffer.kind.width) := by
  rw [h.block_eq, h.length_eq, (uniform_row buffer.capacity h.uniform).drop_flatten,
    drop_row le_rfl, Bytes.zeros_mul]

theorem wellFormed (h : Represents buffer items) : buffer.WellFormed where
  capacity_pos := Nat.zero_lt_of_lt h.spare
  length_block := by
    rw [h.block_eq, (uniform_row buffer.capacity h.uniform).length_flatten, length_row h.spare.le]
  spare := h.length_eq ▸ h.spare
  zeroed := by
    intro i hi hlt
    -- the byte is one of those that `drop_block` speaks of
    obtain ⟨k, rfl⟩ := Nat.exists_eq_add_of_le hi
    have hk : k < (Bytes.zeros ((buffer.capacity - buffer.length) * buffer.kind.width)).length := by
      rw [← h.drop_block, List.length_drop]
      omega
    rw [← List.getElem?_drop, h.drop_block, List.getElem?_eq_getElem hk]
    simp [Bytes.zeros]

/-- Kind, capacity and elements determine a buffer, down to the last byte of its block. -/
theorem unique (h : Represents buffer items) (h' : Represents other items)
    (hkind : other.kind = buffer.kind) (hcapacity : other.capacity = buffer.capacity) :
    other = buffer := by
  have hlength : other.length = buffer.length := h'.length_eq.trans h.length_eq.symm
  have hblock : other.block = buffer.block := by rw [h'.block_eq, h.block_eq, hkind, hcapacity]
  cases buffer
  cases other
  simp_all

end Represents

/-! ## Reachable buffers -/

/-- The buffers that constructors and operations lead to, where operations may fail. Each call may
meet another allocator. A buffer whose elements are appended is reachable itself, and a write
through a reference to an element replaces exactly the bytes of that element. -/
inductive Reachable : Buffer → Prop
  | empty [Allocator] {kind : Kind} {capacity : Nat} {buffer : Buffer}
      (hmade : (withCapacity kind capacity).run.result = .ok buffer) : Reachable buffer
  | create [Allocator] {defaultCapacity : Nat} {kind : Kind} {bytes : Bytes} {buffer : Buffer}
      (hmade : (create defaultCapacity kind bytes).run.result = .ok buffer) : Reachable buffer
  | ofValues [Allocator] {defaultCapacity : Nat} {kind : Kind} {values : List (Value kind)}
      {buffer : Buffer}
      (hmade : (ofValues defaultCapacity kind values).run.result = .ok buffer) : Reachable buffer
  | step [Allocator] {buffer : Buffer} (op : Operation) (before : Reachable buffer)
      (hother : ∀ other, op = .append other → Reachable other)
      (hwrite : ∀ index element, op = .write index element →
        element.length = buffer.kind.width) : Reachable (op.edit.left buffer)

theorem Reachable.represents {buffer : Buffer} (h : Reachable buffer) :
    ∃ items, Represents buffer items := by
  induction h with
  | empty hmade =>
    rw [eq_vacant_of_withCapacity hmade]
    exact ⟨[], represents_vacant _ (by omega)⟩
  | @create _ defaultCapacity kind bytes buffer hmade =>
    have hyields := create_yields defaultCapacity kind bytes
    rw [hmade] at hyields
    exact ⟨_, hyields.2.2⟩
  | ofValues hmade => exact ⟨_, represents_of_ofValues hmade⟩
  | @step _ buffer op before hother hwrite ih ihother =>
    obtain ⟨items, hitems⟩ := ih
    have hyields := op.run_yields hitems ihother hwrite
    rw [← op.made_edit] at hyields
    -- a fault leaves the buffer that was there before it
    cases hresult : (op.edit.made buffer).run.result with
    | error fault =>
      rw [op.atomic_edit.left_of_made hresult]
      exact ⟨items, hitems⟩
    | ok next =>
      rw [hresult] at hyields
      rw [Edit.left_of_made hresult]
      exact ⟨_, hyields.2.2⟩

/-! ## Operations that need no room -/

/-- An attempt records `events` and yields a buffer of the given kind and capacity that represents
`items`. -/
def Fills (run : Attempt Buffer) (events : List Event) (kind : Kind) (capacity : Nat)
    (items : List Bytes) : Prop :=
  ∃ buffer, run.run.result = .ok buffer ∧ run.run.events = events ∧ buffer.kind = kind ∧
    buffer.capacity = capacity ∧ Represents buffer items

/-- What is done to a buffer in place keeps its kind and its capacity. -/
theorem Fills.bind {run : Attempt Buffer} {next : Buffer → Attempt Buffer}
    {events more : List Event} {kind : Kind} {capacity : Nat} {items after : List Bytes}
    (h : Fills run events kind capacity items)
    (hnext : ∀ buffer, buffer.kind = kind → buffer.capacity = capacity → Represents buffer items →
      Fills (next buffer) more kind capacity after) :
    Fills (run >>= next) (events ++ more) kind capacity after := by
  obtain ⟨buffer, hresult, hevents, hkind, hcapacity, hitems⟩ := h
  obtain ⟨filled, hfilled, hmore, hrest⟩ := hnext buffer hkind hcapacity hitems
  refine ⟨filled, ?_, ?_, hrest⟩
  · rw [Attempt.result_bind, hresult, Fault.ok_bind, hfilled]
  · simp only [Attempt.events_bind, hresult, hevents, hmore]

section NoRoom

variable [Allocator] {buffer : Buffer}

/-- Making room that is there already does nothing. -/
theorem reserve_of_lt {needed : Nat} (h : needed < buffer.capacity) :
    (buffer.reserve needed).run.result = .ok buffer ∧ (buffer.reserve needed).run.events = [] := by
  simp [reserve_eq, h]

/-- Elements that the block has room for are appended in place. -/
theorem extend_of_lt (buffer : Buffer) (bytes : Bytes)
    (hwhole : bytes.length % buffer.kind.width = 0)
    (hroom : buffer.length + bytes.length / buffer.kind.width < buffer.capacity) :
    (buffer.extend bytes).run.result =
      .ok { buffer with
        length := buffer.length + bytes.length / buffer.kind.width
        block := buffer.block.overwrite (buffer.length * buffer.kind.width) bytes } ∧
    (buffer.extend bytes).run.events = [] := by
  obtain ⟨hresult, hevents⟩ := reserve_of_lt hroom
  simp only [extend_eq, checkWhole_of_whole hwhole, Attempt.result_bind, Attempt.events_bind,
    Attempt.result_liftExcept, Attempt.events_liftExcept, Fault.ok_bind, hresult, hevents]
  exact ⟨rfl, rfl⟩

/-- A value for which there is room is appended in place. -/
theorem push_fills {kind : Kind} {items : List Bytes} (h : Represents buffer items)
    (hkind : buffer.kind = kind) (hroom : items.length + 1 < buffer.capacity) (value : Value kind) :
    Fills (buffer.push kind value) [] kind buffer.capacity
      (items ++ [Value.encode kind value]) := by
  subst hkind
  have hpush : buffer.push buffer.kind value = buffer.extend (Value.encode buffer.kind value) := by
    rw [push_eq, if_neg (not_not.mpr rfl)]
  have hcount : (Value.encode buffer.kind value).length / buffer.kind.width = 1 := by
    rw [Value.length_encode, Nat.div_self buffer.kind.width_pos]
  obtain ⟨hresult, hevents⟩ := extend_of_lt buffer (Value.encode buffer.kind value)
    (by rw [Value.length_encode, Nat.mod_self]) (by rwa [hcount, h.length_eq])
  have hyields := push_yields h buffer.kind value
  rw [hpush] at hyields ⊢
  rw [hresult] at hyields
  exact ⟨_, hresult, hevents, rfl, rfl, hyields.2.2⟩

/-- So are values for which there is room, one after another. -/
theorem pushes_fill {kind : Kind} {items : List Bytes} (values : List (Value kind))
    (h : Represents buffer items) (hkind : buffer.kind = kind)
    (hroom : items.length + values.length < buffer.capacity) :
    Fills (values.foldlM (fun buffer value => buffer.push kind value) buffer) []
      kind buffer.capacity (items ++ values.map (Value.encode kind)) := by
  induction values generalizing buffer items with
  | nil => exact ⟨buffer, rfl, rfl, hkind, rfl, by simpa using h⟩
  | cons value values ih =>
    rw [List.length_cons] at hroom
    rw [List.foldlM_cons, List.map_cons, List.append_cons]
    refine (push_fills h hkind (by omega) value).bind fun pushed hpushed hcapacity hitems => ?_
    rw [← hcapacity]
    refine ih hitems hpushed ?_
    rw [List.length_append, List.length_singleton, hcapacity]
    omega

theorem extend_nil (h : buffer.WellFormed) :
    (buffer.extend []).run.result = .ok buffer ∧ (buffer.extend []).run.events = [] := by
  obtain ⟨hresult, hevents⟩ := extend_of_lt buffer [] (by simp) (by simpa using h.spare)
  refine ⟨?_, hevents⟩
  rw [hresult]
  simp [Bytes.overwrite]

/-- Appending a buffer without elements is appending nothing. -/
theorem append_of_isEmpty {other : Buffer} (h : buffer.WellFormed)
    (hkind : other.kind = buffer.kind) (hempty : other.isEmpty = true) :
    (buffer.append other).run.result = .ok buffer ∧ (buffer.append other).run.events = [] := by
  have hlength : other.length = 0 := by simpa [isEmpty] using hempty
  have hbytes : other.bytes = [] := by simp [bytes, hlength, Bytes.slice]
  have happend : buffer.append other = buffer.extend [] := by simp [append_eq, hkind, hbytes]
  rw [happend]
  exact extend_nil h

/-- A fresh buffer takes its block and nothing else. -/
theorem events_withCapacity (kind : Kind) (capacity : Nat) :
    (withCapacity kind capacity).run.events =
      if Obtainable kind (max capacity 1) then [.allocated entity (max capacity 1 * kind.width)]
      else [] := by
  by_cases hword : max capacity 1 * kind.width < Word.modulus
  · have hmul : Word.mul? (max capacity 1) kind.width = some (max capacity 1 * kind.width) :=
      if_pos hword
    simp only [withCapacity, hmul, Attempt.events_bind, Allocator.events_obtain,
      Allocator.result_obtain]
    by_cases hblock : Obtainable kind (max capacity 1)
    · rw [if_pos hblock, if_pos (by exact hblock), if_pos (by exact hblock)]
      rfl
    · rw [if_neg hblock, if_neg (by exact hblock), if_neg (by exact hblock)]
      rfl
  -- a size that is no word is not even asked for
  · have hmul : Word.mul? (max capacity 1) kind.width = none := if_neg hword
    rw [if_neg fun hblock => hword hblock.1.lt_modulus]
    simp only [withCapacity, hmul, Attempt.events_throw]

/-- A copy is the same buffer in a block of its own, and that block is all it asks for. -/
theorem copy_of_obtainable {items : List Bytes} (h : Represents buffer items)
    (hblock : Obtainable buffer.kind buffer.capacity) :
    buffer.copy.run.result = .ok buffer ∧
      buffer.copy.run.events = [.allocated entity buffer.blockSize] := by
  have hmax : max buffer.capacity 1 = buffer.capacity := max_eq_left (Nat.zero_lt_of_lt h.spare)
  have hfresh := withCapacity_of_obtainable (hmax.symm ▸ hblock)
  have hobtained := events_withCapacity buffer.kind buffer.capacity
  rw [hmax] at hfresh hobtained
  rw [if_pos hblock] at hobtained
  have hlength : buffer.bytes.length = buffer.length * buffer.kind.width := by
    rw [h.bytes_eq, h.uniform.length_flatten, h.length_eq]
  have hcount : buffer.bytes.length / buffer.kind.width = buffer.length := by
    rw [hlength, Nat.mul_div_cancel _ buffer.kind.width_pos]
  -- the vacant buffer has room for all elements, so appending them neither fails nor grows
  obtain ⟨hextended, hnone⟩ := extend_of_lt (vacant buffer.kind buffer.capacity) buffer.bytes
    (by simp [vacant, hlength]) (by simpa [vacant, hcount] using h.wellFormed.spare)
  have hresult : buffer.copy.run.result =
      ((vacant buffer.kind buffer.capacity).extend buffer.bytes).run.result := by
    simp only [copy, Attempt.result_bind, hfresh, Fault.ok_bind]
  refine ⟨?_, ?_⟩
  · have hcopy := copy_yields h
    rw [hresult, hextended] at hcopy ⊢
    rw [h.unique hcopy.2.2 rfl rfl]
  · simp only [copy, Attempt.events_bind, hfresh, hobtained, hnone, List.append_nil, blockSize]

/-- A copy whose block cannot be had leaves no trace. -/
theorem copy_of_not_obtainable (h : buffer.WellFormed)
    (hblock : ¬Obtainable buffer.kind buffer.capacity) :
    (∃ fault, buffer.copy.run.result = .error fault) ∧ buffer.copy.run.events = [] := by
  have hmax : max buffer.capacity 1 = buffer.capacity := max_eq_left h.capacity_pos
  obtain ⟨fault, hfault⟩ := withCapacity_of_not_obtainable (hmax.symm ▸ hblock)
  have hnone := events_withCapacity buffer.kind buffer.capacity
  rw [hmax, if_neg hblock] at hnone
  refine ⟨⟨fault, ?_⟩, ?_⟩
  · simp only [copy, Attempt.result_bind, hfault, Fault.error_bind]
  · simp only [copy, Attempt.events_bind, hfault, hnone, List.append_nil]

end NoRoom

/-- Every reachable buffer has a well-formed block, whatever operations led to it and whichever of
them failed. -/
theorem Reachable.spare_and_zeroed {buffer : Buffer} (h : Reachable buffer) :
    buffer.WellFormed ∧
    -- Appending nothing leaves the buffer as it is, and takes and releases no block.
    (∀ [Allocator],
      ((buffer.extend []).run.result = .ok buffer ∧ (buffer.extend []).run.events = []) ∧
      ∀ other : Buffer, other.kind = buffer.kind → other.isEmpty = true →
        (buffer.append other).run.result = .ok buffer ∧ (buffer.append other).run.events = []) ∧
    -- A copy agrees with the buffer in its elements, its capacity and all bytes of its block. It is
    -- made if one block can be had, and takes that block only.
    ∀ [Allocator],
      (Obtainable buffer.kind buffer.capacity →
        buffer.copy.run.result = .ok buffer ∧
          buffer.copy.run.events = [.allocated entity (buffer.capacity * buffer.kind.width)]) ∧
      (¬Obtainable buffer.kind buffer.capacity →
        (∃ fault, buffer.copy.run.result = .error fault) ∧ buffer.copy.run.events = []) := by
  obtain ⟨items, hitems⟩ := h.represents
  have hformed := hitems.wellFormed
  refine ⟨hformed, ?_, ?_⟩
  · intro _
    exact ⟨extend_nil hformed, fun other hkind hempty => append_of_isEmpty hformed hkind hempty⟩
  · intro _
    exact ⟨copy_of_obtainable hitems, copy_of_not_obtainable hformed⟩

/-- Three elements of which the first is removed. An insertion past the end is refused after that,
and so is an extension for which there is no block. -/
theorem reachable_of_refusals :
    Reachable
      { kind := .int16, length := 2, capacity := 4, block := [5, 6, 7, 8, 0, 0, 0, 0] } := by
  have hcreated : Reachable
      { kind := .int16, length := 3, capacity := 4, block := [1, 2, 5, 6, 7, 8, 0, 0] } :=
    @Reachable.create (Allocator.bounded 64) 1 .int16 [1, 2, 5, 6, 7, 8] _ (by decide +kernel)
  have hremoved := @Reachable.step (Allocator.bounded 64) _ (.removeAt 0) hcreated nofun nofun
  have hinserted := @Reachable.step (Allocator.bounded 64) _ (.insert 9 [9, 9]) hremoved nofun nofun
  have hextended := @Reachable.step (Allocator.bounded 8) _ (.extend (Bytes.zeros 8)) hinserted
    nofun nofun
  convert hextended using 1
  decide +kernel

/-- The slot that became free is zero again, and the copy has four slots as well. -/
theorem spare_and_zeroed_of_refusals :
    ∃ buffer : Buffer, Reachable buffer ∧ buffer.elements = [[5, 6], [7, 8]] ∧
      buffer.block[4]? = some 0 ∧
      (@copy buffer (Allocator.bounded 16)).run.result = .ok buffer := by
  obtain ⟨hformed, -, hcopy⟩ := reachable_of_refusals.spare_and_zeroed
  refine ⟨_, reachable_of_refusals, by decide, hformed.zeroed 4 (by decide) (by decide), ?_⟩
  exact ((@hcopy (Allocator.bounded 16)).1 (by decide)).1

end HostBridge.Buffer
