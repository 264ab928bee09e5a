import HostBridge.Proofs.Buffer.Edit
import HostBridge.Proofs.Buffer.Representation

/-!
# Buffers refine lists

Every operation of a buffer is an operation on the list of its elements. It fails exactly when its
argument does not suit the buffer or when it needs a block that cannot be had, and a buffer that it
yields represents what the plain list operation gives.

## Main definitions

* `Obtainable` and `Starved`: a block can be had; room is needed and no block can be had;
* `Operation`: the calls that change a buffer or make another one from it, with what they do to a
  buffer in place (`Operation.edit`), what they make of it (`Operation.run`) and what they do to a
  list (`Operation.onList`);
* `History`: a buffer made by any calls, with the list that the same calls make from lists.

## Main results

* `Operation.atomic_edit`: a call that fails leaves the buffer as it was;
* `Operation.run_yields`: one call on a buffer and on the list that it represents;
* `History.represents`: all calls of a history, by induction;
* `History.refines_list`: what every observation and every further call says about the list.
-/

namespace HostBridge.Buffer

open Bytes (Uniform)

/-- A block for `capacity` elements of a kind can be had. -/
def Obtainable [allocator : Allocator] (kind : Kind) (capacity : Nat) : Prop :=
  Allocator.Addressable (capacity * kind.width) kind.align ∧
    allocator.grants (capacity * kind.width) = true

instance [Allocator] (kind : Kind) (capacity : Nat) : Decidable (Obtainable kind capacity) :=
  inferInstanceAs (Decidable (_ ∧ _))

/-- The buffer has to grow so as to hold `needed` elements and a spare slot, and no block for that
can be had. -/
def Starved [Allocator] (buffer : Buffer) (needed : Nat) : Prop :=
  buffer.capacity ≤ needed ∧ ¬Obtainable buffer.kind (grownCapacity buffer.capacity needed)

instance [Allocator] (buffer : Buffer) (needed : Nat) : Decidable (buffer.Starved needed) :=
  inferInstanceAs (Decidable (_ ∧ _))

/-- An outcome is a fault in the case `refused`, and otherwise a buffer of `kind` that represents
`items`. -/
def Yields (outcome : Except Fault Buffer) (refused : Prop) (kind : Kind) (items : List Bytes) :
    Prop :=
  match outcome with
  | .ok next => ¬refused ∧ next.kind = kind ∧ Represents next items
  | .error _ => refused

/-- An additional ground for refusal that does not apply changes nothing. -/
theorem Yields.or_of_not {outcome : Except Fault Buffer} {unsuitable refused : Prop} {kind : Kind}
    {items : List Bytes} (h : Yields outcome refused kind items) (hsuits : ¬unsuitable) :
    Yields outcome (unsuitable ∨ refused) kind items := by
  rwa [or_iff_right hsuits]

/-! ## Making room -/

/-- An empty buffer whose block has room for `capacity` elements. -/
def vacant (kind : Kind) (capacity : Nat) : Buffer where
  kind := kind
  length := 0
  capacity := capacity
  block := Bytes.zeros (capacity * kind.width)

theorem represents_vacant (kind : Kind) {capacity : Nat} (h : 0 < capacity) :
    Represents (vacant kind capacity) [] where
  uniform := Uniform.nil
  length_eq := rfl
  spare := h
  block_eq := by
    rw [row, List.nil_append, List.length_nil, Nat.sub_zero]
    exact Bytes.zeros_mul capacity kind.width

/-- Elements written to the start of a vacant block. -/
theorem represents_filled (kind : Kind) (capacity : Nat) {items : List Bytes}
    (hitems : Uniform kind.width items) (hroom : items.length < capacity) :
    Represents
      { vacant kind capacity with
        length := items.length
        block := (vacant kind capacity).block.overwrite 0 items.flatten }
      items := by
  have hvacant := represents_vacant kind (Nat.zero_lt_of_lt hroom)
  simpa using hvacant.extended hitems (by simpa [vacant] using hroom)

/-- A fresh buffer is made when its block can be had. -/
theorem withCapacity_of_obtainable [Allocator] {kind : Kind} {capacity : Nat}
    (h : Obtainable kind (max capacity 1)) :
    (withCapacity kind capacity).run.result = .ok (vacant kind (max capacity 1)) := by
  have hmul : Word.mul? (max capacity 1) kind.width = some (max capacity 1 * kind.width) :=
    if_pos h.1.lt_modulus
  unfold Obtainable at h
  simp only [withCapacity, hmul, Attempt.result_bind, Allocator.result_obtain, if_pos h]
  rfl

theorem withCapacity_of_not_obtainable [Allocator] {kind : Kind} {capacity : Nat}
    (h : ¬Obtainable kind (max capacity 1)) :
    ∃ fault, (withCapacity kind capacity).run.result = .error fault := by
  by_cases hword : max capacity 1 * kind.width < Word.modulus
  · have hmul : Word.mul? (max capacity 1) kind.width = some (max capacity 1 * kind.width) :=
      if_pos hword
    refine ⟨Fault.allocation entity (max capacity 1 * kind.width), ?_⟩
    unfold Obtainable at h
    simp only [withCapacity, hmul, Attempt.result_bind, Allocator.result_obtain, if_neg h]
    rfl
  · have hmul : Word.mul? (max capacity 1) kind.width = none := if_neg hword
    refine ⟨Fault.allocation entity Word.maxUnsigned, ?_⟩
    simp only [withCapacity, hmul, Attempt.result_throw]

/-- A buffer that was made with a capacity is the vacant one. -/
theorem eq_vacant_of_withCapacity [Allocator] {kind : Kind} {capacity : Nat} {buffer : Buffer}
    (h : (withCapacity kind capacity).run.result = .ok buffer) :
    buffer = vacant kind (max capacity 1) := by
  by_cases hblock : Obtainable kind (max capacity 1)
  · rw [withCapacity_of_obtainable hblock] at h
    exact (Except.ok.inj h).symm
  · obtain ⟨fault, hfault⟩ := withCapacity_of_not_obtainable hblock
    rw [hfault] at h
    nomatch h

/-- All that a new buffer can lack is a block of memory. -/
theorem fault_of_withCapacity [Allocator] {kind : Kind} {capacity : Nat} {fault : Fault}
    (h : (withCapacity kind capacity).run.result = .error fault) :
    ∃ size, fault = Fault.allocation entity size := by
  cases hsize : Word.mul? (max capacity 1) kind.width with
  | none =>
    simp only [withCapacity, hsize, Attempt.result_throw] at h
    exact ⟨_, (Except.error.inj h).symm⟩
  | some size =>
    simp only [withCapacity, hsize, Attempt.result_bind, Allocator.result_obtain] at h
    split at h
    · cases h
    · exact ⟨_, (Except.error.inj h).symm⟩

theorem category_of_withCapacity [Allocator] {kind : Kind} {capacity : Nat} {fault : Fault}
    (h : (withCapacity kind capacity).run.result = .error fault) :
    fault.category = .allocation := by
  obtain ⟨size, rfl⟩ := fault_of_withCapacity h
  rfl

theorem lt_doubled (capacity needed : Nat) (positive : 0 < capacity) :
    needed < doubled capacity needed positive := by
  fun_induction doubled capacity needed positive with
  | case1 capacity positive hle ih => exact ih
  | case2 capacity positive hgt => omega

/-- A grown buffer has a spare slot. -/
theorem lt_grownCapacity (current needed : Nat) : needed < grownCapacity current needed :=
  lt_doubled _ _ _

theorem max_grownCapacity (current needed : Nat) :
    max (grownCapacity current needed) 1 = grownCapacity current needed := by
  have := lt_grownCapacity current needed
  omega

/-! ## Checks of arguments -/

theorem checkWhole_of_whole {kind : Kind} {bytes : Bytes} (h : bytes.length % kind.width = 0) :
    checkWhole kind bytes = .ok () := by
  simp [checkWhole, h, pure, Except.pure]

theorem checkWhole_of_ragged {kind : Kind} {bytes : Bytes} (h : bytes.length % kind.width ≠ 0) :
    ∃ fault, checkWhole kind bytes = .error fault := by
  rw [checkWhole, if_pos h]
  exact ⟨_, rfl⟩

theorem checkElement_of_length {buffer : Buffer} {element : Bytes}
    (h : element.length = buffer.kind.width) : buffer.checkElement element = .ok () := by
  simp [checkElement, h, pure, Except.pure]

theorem checkElement_of_ne {buffer : Buffer} {element : Bytes}
    (h : element.length ≠ buffer.kind.width) :
    ∃ fault, buffer.checkElement element = .error fault := by
  rw [checkElement, if_pos h]
  exact ⟨_, rfl⟩

/-- Finding an element asks the list of elements. -/
theorem findFirst_eq {buffer : Buffer} {element : Bytes}
    (h : element.length = buffer.kind.width) :
    buffer.findFirst element = .ok (buffer.elements.idxOf? element) := by
  rw [findFirst, checkElement_of_length h]
  rfl

/-- Counting an element asks the list of elements. -/
theorem countEqual_eq {buffer : Buffer} {element : Bytes}
    (h : element.length = buffer.kind.width) :
    buffer.countEqual element = .ok (buffer.elements.count element) := by
  rw [countEqual, checkElement_of_length h]
  rfl

/-! ## Operations that make room -/

section Room

variable [Allocator] {buffer other : Buffer} {items others : List Bytes}

/-- Making room leaves the elements alone. -/
theorem reserve_outcome (h : Represents buffer items) (needed : Nat) :
    match (buffer.reserve needed).run.result with
    | .ok roomy => ¬buffer.Starved needed ∧ roomy.kind = buffer.kind ∧ needed < roomy.capacity ∧
        Represents roomy items
    | .error _ => buffer.Starved needed := by
  by_cases hroom : needed < buffer.capacity
  -- there is a spare slot already
  · have hresult : (buffer.reserve needed).run.result = .ok buffer := by
      simp [reserve_eq, hroom]
    rw [hresult]
    exact ⟨fun hstarved => absurd hroom (Nat.not_lt.mpr hstarved.1), rfl, hroom, h⟩
  -- the elements move to the start of a larger block
  · have hpos := max_grownCapacity buffer.capacity needed
    by_cases hblock : Obtainable buffer.kind (grownCapacity buffer.capacity needed)
    · have hfresh := withCapacity_of_obtainable (hpos.symm ▸ hblock)
      simp only [reserve_eq, if_neg hroom, Attempt.result_bind, hfresh, hpos]
      refine ⟨fun hstarved => hstarved.2 hblock, rfl, lt_grownCapacity _ _, ?_⟩
      have hspare : items.length < grownCapacity buffer.capacity needed :=
        (h.spare.trans_le (Nat.le_of_not_lt hroom)).trans (lt_grownCapacity _ _)
      simpa [h.bytes_eq, h.length_eq] using represents_filled buffer.kind _ h.uniform hspare
    · obtain ⟨fault, hfault⟩ := withCapacity_of_not_obtainable (hpos.symm ▸ hblock)
      simp only [reserve_eq, if_neg hroom, Attempt.result_bind, hfault]
      exact ⟨Nat.le_of_not_lt hroom, hblock⟩

/-- An operation that makes room and then changes the block fails only for lack of memory. -/
theorem reserve_update_yields (h : Represents buffer items) (needed : Nat)
    (update : Buffer → Buffer) {after : List Bytes}
    (hupdate : ∀ roomy : Buffer, roomy.kind = buffer.kind → needed < roomy.capacity →
      Represents roomy items →
        (update roomy).kind = buffer.kind ∧ Represents (update roomy) after) :
    Yields ((buffer.reserve needed).run.result >>= fun roomy => .ok (update roomy))
      (buffer.Starved needed) buffer.kind after := by
  have hroom := reserve_outcome h needed
  cases hresult : (buffer.reserve needed).run.result with
  | error fault =>
    rw [hresult] at hroom
    exact hroom
  | ok roomy =>
    rw [hresult] at hroom
    obtain ⟨hfed, hkind, hlt, hroomy⟩ := hroom
    exact ⟨hfed, hupdate roomy hkind hlt hroomy⟩

theorem extend_yields (h : Represents buffer items) (bytes : Bytes) :
    Yields (buffer.extend bytes).run.result
      (bytes.length % buffer.kind.width ≠ 0 ∨
        buffer.Starved (items.length + bytes.length / buffer.kind.width))
      buffer.kind (items ++ bytes.chunks buffer.kind.width) := by
  by_cases hwhole : bytes.length % buffer.kind.width = 0
  · simp only [extend_eq, checkWhole_of_whole hwhole, h.length_eq, Attempt.result_bind,
      Attempt.result_liftExcept, Attempt.result_pure, Fault.ok_bind]
    refine (reserve_update_yields h _ _ ?_).or_of_not (not_not.mpr hwhole)
    intro roomy hkind hlt hroomy
    have hchunks := Bytes.uniform_chunks roomy.kind.width bytes
    have hadded := hroomy.extended hchunks (by rwa [Bytes.length_chunks, hkind])
    rw [Bytes.length_chunks, hkind, Bytes.flatten_chunks hwhole] at hadded
    exact ⟨hkind, by rwa [hkind]⟩
  · obtain ⟨fault, hfault⟩ := checkWhole_of_ragged hwhole
    simp only [extend_eq, hfault, Attempt.result_bind, Attempt.result_liftExcept, Fault.error_bind]
    exact Or.inl hwhole

theorem append_yields (h : Represents buffer items) (hother : Represents other others) :
    Yields (buffer.append other).run.result
      (other.kind ≠ buffer.kind ∨ buffer.Starved (items.length + others.length))
      buffer.kind (items ++ others) := by
  by_cases hkind : other.kind = buffer.kind
  · have hothers : Uniform buffer.kind.width others := hkind ▸ hother.uniform
    have hlength := hothers.length_flatten
    have hextend := extend_yields h others.flatten
    rw [hlength, Nat.mul_mod_left, Nat.mul_div_cancel _ buffer.kind.width_pos,
      hothers.chunks_flatten buffer.kind.width_pos] at hextend
    simpa [append_eq, hkind, hother.bytes_eq] using hextend
  · simp [append_eq, hkind, Yields]

theorem push_yields (h : Represents buffer items) (kind : Kind) (value : Value kind) :
    Yields (buffer.push kind value).run.result
      (kind ≠ buffer.kind ∨ buffer.Starved (items.length + 1))
      buffer.kind (items ++ [Value.encode kind value]) := by
  by_cases hkind : kind = buffer.kind
  · subst hkind
    have hone : Uniform buffer.kind.width [Value.encode buffer.kind value] := by
      simp [Uniform]
    have hchunks := hone.chunks_flatten buffer.kind.width_pos
    have hextend := extend_yields h (Value.encode buffer.kind value)
    rw [List.flatten_singleton] at hchunks
    rw [hchunks, Value.length_encode, Nat.mod_self, Nat.div_self buffer.kind.width_pos] at hextend
    simpa [push_eq] using hextend
  · simp [push_eq, hkind, Yields]

theorem insert_yields (h : Represents buffer items) (index : Nat) (element : Bytes) :
    Yields (buffer.insert index element).run.result
      ((element.length ≠ buffer.kind.width ∨ items.length < index) ∨
        buffer.Starved (items.length + 1))
      buffer.kind (items.insertIdx index element) := by
  by_cases helement : element.length = buffer.kind.width
  · by_cases hindex : items.length < index
    · simp only [insert_eq, checkElement_of_length helement, h.length_eq, if_pos hindex,
        Attempt.result_bind, Attempt.result_liftExcept, Fault.ok_bind, Attempt.result_throw]
      exact Or.inl (Or.inr hindex)
    · simp only [insert_eq, checkElement_of_length helement, h.length_eq, if_neg hindex,
        Attempt.result_bind, Attempt.result_liftExcept, Attempt.result_pure, Fault.ok_bind]
      refine (reserve_update_yields h _ _ ?_).or_of_not (by simp [helement, hindex])
      intro roomy hkind hlt hroomy
      have hinserted := hroomy.inserted (hkind ▸ helement) (Nat.le_of_not_lt hindex) hlt
      rw [hkind] at hinserted
      exact ⟨hkind, by rwa [hkind]⟩
  · obtain ⟨fault, hfault⟩ := checkElement_of_ne helement
    simp only [insert_eq, hfault, Attempt.result_bind, Attempt.result_liftExcept, Fault.error_bind]
    exact Or.inl (Or.inl helement)

/-- A copy obtains a block of the same capacity and has no need to grow after that. -/
theorem copy_yields (h : Represents buffer items) :
    Yields buffer.copy.run.result (¬Obtainable buffer.kind buffer.capacity) buffer.kind items := by
  have hpos : max buffer.capacity 1 = buffer.capacity := by
    have := h.spare
    omega
  by_cases hblock : Obtainable buffer.kind buffer.capacity
  · have hfresh := withCapacity_of_obtainable (hpos.symm ▸ hblock)
    have hvacant := represents_vacant buffer.kind (Nat.zero_lt_of_lt h.spare)
    have hextend := extend_yields hvacant items.flatten
    -- the fresh buffer is empty and has room for all elements, so it does not grow
    have hroom : ¬(vacant buffer.kind buffer.capacity).Starved items.length :=
      fun hstarved => absurd h.spare (Nat.not_lt.mpr hstarved.1)
    have hkind : (vacant buffer.kind buffer.capacity).kind = buffer.kind := rfl
    rw [hkind, h.uniform.length_flatten, Nat.mul_mod_left,
      Nat.mul_div_cancel _ buffer.kind.width_pos, List.length_nil, Nat.zero_add,
      h.uniform.chunks_flatten buffer.kind.width_pos, List.nil_append] at hextend
    simp only [copy, Attempt.result_bind, hfresh, hpos, Fault.ok_bind, h.bytes_eq]
    simpa [hroom, hblock] using hextend
  · obtain ⟨fault, hfault⟩ := withCapacity_of_not_obtainable (hpos.symm ▸ hblock)
    simp only [copy, Attempt.result_bind, hfault, Fault.error_bind]
    exact hblock

/-! ## Constructors -/

theorem create_yields (defaultCapacity : Nat) (kind : Kind) (bytes : Bytes) :
    Yields (create defaultCapacity kind bytes).run.result
      (bytes.length % kind.width ≠ 0 ∨
        ¬Obtainable kind (grownCapacity defaultCapacity (bytes.length / kind.width)))
      kind (bytes.chunks kind.width) := by
  have hpos := max_grownCapacity defaultCapacity (bytes.length / kind.width)
  by_cases hwhole : bytes.length % kind.width = 0
  · by_cases hblock : Obtainable kind (grownCapacity defaultCapacity (bytes.length / kind.width))
    · have hfresh := withCapacity_of_obtainable (hpos.symm ▸ hblock)
      have hfilled := represents_filled kind
        (grownCapacity defaultCapacity (bytes.length / kind.width))
        (Bytes.uniform_chunks kind.width bytes)
        (by rw [Bytes.length_chunks]; exact lt_grownCapacity _ _)
      rw [Bytes.length_chunks, Bytes.flatten_chunks hwhole] at hfilled
      simp only [create, checkWhole_of_whole hwhole, Attempt.result_bind,
        Attempt.result_liftExcept, Fault.ok_bind, hfresh, hpos, Attempt.result_emit,
        Attempt.result_pure]
      exact ⟨by simp [hwhole, hblock], rfl, hfilled⟩
    · obtain ⟨fault, hfault⟩ := withCapacity_of_not_obtainable (hpos.symm ▸ hblock)
      simp only [create, checkWhole_of_whole hwhole, Attempt.result_bind,
        Attempt.result_liftExcept, Fault.ok_bind, hfault, Fault.error_bind]
      exact Or.inr hblock
  · obtain ⟨fault, hfault⟩ := checkWhole_of_ragged hwhole
    simp only [create, hfault, Attempt.result_bind, Attempt.result_liftExcept, Fault.error_bind]
    exact Or.inl hwhole

/-- Values pushed one after another are appended in their order. -/
theorem represents_of_pushes {kind : Kind} (values : List (Value kind)) {next : Buffer}
    (h : Represents buffer items)
    (hmade : (values.foldlM (m := Attempt) (fun buffer value => buffer.push kind value)
      buffer).run.result = .ok next) :
    Represents next (items ++ values.map (Value.encode kind)) := by
  induction values generalizing buffer items with
  | nil =>
    cases hmade
    simpa using h
  | cons value values ih =>
    have hpush := push_yields h kind value
    rw [List.foldlM_cons, Attempt.result_bind] at hmade
    cases hresult : (buffer.push kind value).run.result with
    | error fault => simp [hresult] at hmade
    | ok pushed =>
      rw [hresult] at hmade hpush
      simpa using ih hpush.2.2 hmade

theorem represents_of_ofValues {defaultCapacity : Nat} {kind : Kind} {values : List (Value kind)}
    (hmade : (ofValues defaultCapacity kind values).run.result = .ok buffer) :
    Represents buffer (values.map (Value.encode kind)) := by
  rw [ofValues, Attempt.result_bind] at hmade
  cases hfresh : (withCapacity kind (grownCapacity defaultCapacity values.length)).run.result with
  | error fault => simp [hfresh] at hmade
  | ok fresh =>
    rw [hfresh] at hmade
    have hvacant : Represents fresh [] := by
      rw [eq_vacant_of_withCapacity hfresh]
      exact represents_vacant kind (by omega)
    exact represents_of_pushes values hvacant hmade

end Room

/-! ## Operations in place -/

section InPlace

variable {buffer : Buffer} {items : List Bytes}

theorem removeAt_yields (h : Represents buffer items) (index : Nat) :
    Yields (buffer.removeAt index) (items.length ≤ index) buffer.kind (items.eraseIdx index) := by
  by_cases hindex : items.length ≤ index
  · simp only [removeAt_eq, h.length_eq, if_pos hindex]
    exact hindex
  · simp only [removeAt_eq, h.length_eq, if_neg hindex]
    exact ⟨hindex, rfl, h.removed (Nat.lt_of_not_le hindex)⟩

/-- Finding an element asks the list. -/
theorem findFirst_of_length (h : Represents buffer items) {element : Bytes}
    (helement : element.length = buffer.kind.width) :
    buffer.findFirst element = .ok (items.idxOf? element) := by
  rw [findFirst_eq helement, h.elements_eq]

/-- Counting an element asks the list. -/
theorem countEqual_of_length (h : Represents buffer items) {element : Bytes}
    (helement : element.length = buffer.kind.width) :
    buffer.countEqual element = .ok (items.count element) := by
  rw [countEqual_eq helement, h.elements_eq]

/-- Removing an element by value erases its first occurrence and tells whether there was one. -/
theorem removeValue_of_length (h : Represents buffer items) {element : Bytes}
    (helement : element.length = buffer.kind.width) :
    ∃ next, buffer.removeValue element = .ok (decide (element ∈ items), next) ∧
      next.kind = buffer.kind ∧ Represents next (items.erase element) := by
  have hfind := findFirst_of_length h helement
  rw [List.erase_eq_eraseIdx]
  cases hfound : items.idxOf? element with
  | none =>
    have hmem : element ∉ items := List.idxOf?_eq_none_iff.mp hfound
    rw [removeValue_of_absent (hfind.trans (congrArg _ hfound)), decide_eq_false hmem]
    exact ⟨buffer, rfl, rfl, h⟩
  | some index =>
    have hmem : element ∈ items := List.isSome_idxOf?.mp (by rw [hfound]; rfl)
    rw [removeValue_of_found (hfind.trans (congrArg _ hfound)), decide_eq_true hmem]
    obtain ⟨hindex, -⟩ := List.findIdx?_eq_some_iff_getElem.mp hfound
    have hremove := removeAt_yields h index
    cases hresult : buffer.removeAt index with
    | error fault =>
      rw [hresult] at hremove
      exact absurd hindex (Nat.not_lt.mpr hremove)
    | ok next =>
      rw [hresult] at hremove
      exact ⟨next, rfl, hremove.2⟩

end InPlace

/-! ## Runs of operations -/

/-- A call that changes a buffer or makes another one from it. -/
inductive Operation where
  /-- Append the elements of another buffer. -/
  | append (other : Buffer)
  /-- Append the elements with the given bytes. -/
  | extend (bytes : Bytes)
  /-- Append one value. -/
  | push (kind : Kind) (value : Value kind)
  /-- Insert one element before the element at `index`. -/
  | insert (index : Nat) (element : Bytes)
  /-- Remove the element at `index`. -/
  | removeAt (index : Nat)
  /-- Remove the first element with the given bytes. -/
  | removeValue (element : Bytes)
  /-- Put the elements in the opposite order. -/
  | reverse
  /-- Remove all elements. -/
  | clear
  /-- Make a copy, and go on with it. -/
  | copy
  /-- Overwrite the element at `index`, if there is one. -/
  | write (index : Nat) (element : Bytes)

namespace Operation

/-- What an operation does to a buffer in place. -/
def edit [Allocator] : Operation → Edit Unit
  | append other => Edit.append other
  | extend bytes => Edit.extend bytes
  | push kind value => Edit.push kind value
  | insert index element => Edit.insert index element
  | removeAt index => Edit.removeAt index
  | removeValue element => do
    let _ ← Edit.removeValue element
    return ()
  | reverse => Edit.reverse
  | clear => Edit.clear
  | copy => do
    let buffer ← MonadState.get
    set (← Edit.attempt buffer.copy)
  | write index element => modify fun buffer => (buffer.set? index element).getD buffer

/-- What an operation makes of a buffer. -/
def run [Allocator] (buffer : Buffer) : Operation → Attempt Buffer
  | append other => buffer.append other
  | extend bytes => buffer.extend bytes
  | push kind value => buffer.push kind value
  | insert index element => buffer.insert index element
  | removeAt index => liftExcept (buffer.removeAt index)
  | removeValue element => liftExcept ((buffer.removeValue element).map Prod.snd)
  | reverse => return buffer.reverse
  | clear => return buffer.clear
  | copy => buffer.copy
  | write index element => return (buffer.set? index element).getD buffer

/-- Both say the same: an operation makes what its edit makes. -/
theorem made_edit [Allocator] (op : Operation) (buffer : Buffer) :
    op.edit.made buffer = op.run buffer := by
  cases op with
  | removeAt index => exact made_removeAt buffer index
  | removeValue element => exact made_removeValue buffer element
  | copy =>
    rw [edit, Edit.made_get_bind, Edit.made_attempt_bind]
    exact bind_pure _
  | _ => rfl

/-- An operation that fails leaves the buffer as it was. -/
theorem atomic_edit [Allocator] (op : Operation) : op.edit.Atomic := by
  cases op with
  | append other => exact Edit.atomic_append other
  | extend bytes => exact Edit.atomic_extend bytes
  | push kind value => exact Edit.atomic_push kind value
  | insert index element => exact Edit.atomic_insert index element
  | removeAt index => exact Edit.atomic_removeAt index
  | removeValue element =>
    exact (Edit.atomic_removeValue element).bind fun _ => Edit.succeeds_pure ()
  | reverse => exact Edit.atomic_reverse
  | clear => exact Edit.atomic_clear
  | copy =>
    refine Edit.looks_get.atomic_bind fun buffer => ?_
    exact (Edit.looks_attempt _).atomic_bind fun copy => (Edit.succeeds_set copy).atomic
  | write index element => exact (Edit.succeeds_modify _).atomic

/-- What an operation does to a list of elements of `width` bytes. -/
def onList (width : Nat) (items : List Bytes) : Operation → List Bytes
  | append other => items ++ other.elements
  | extend bytes => items ++ bytes.chunks width
  | push kind value => items ++ [Value.encode kind value]
  | insert index element => items.insertIdx index element
  | removeAt index => items.eraseIdx index
  | removeValue element => items.erase element
  | reverse => items.reverse
  | clear => []
  | copy => items
  | write index element => items.set index element

/-- The argument of an operation does not suit a buffer of `kind` that holds `items`. -/
def Unsuitable (kind : Kind) (items : List Bytes) : Operation → Prop
  | append other => other.kind ≠ kind
  | extend bytes => bytes.length % kind.width ≠ 0
  | push found _ => found ≠ kind
  | insert index element => element.length ≠ kind.width ∨ items.length < index
  | removeAt index => items.length ≤ index
  | removeValue element => element.length ≠ kind.width
  | reverse | clear | copy | write .. => False

/-- An operation needs a block, and it cannot be had. -/
def Unfed [Allocator] (buffer : Buffer) : Operation → Prop
  | append other => buffer.Starved (buffer.length + other.length)
  | extend bytes => buffer.Starved (buffer.length + bytes.length / buffer.kind.width)
  | push .. | insert .. => buffer.Starved (buffer.length + 1)
  | copy => ¬Obtainable buffer.kind buffer.capacity
  | removeAt _ | removeValue _ | reverse | clear | write .. => False

/-- One operation on a buffer and on the list that it represents. -/
theorem run_yields [Allocator] {buffer : Buffer} {items : List Bytes}
    (h : Represents buffer items) (op : Operation)
    (hother : ∀ other, op = append other → ∃ others, Represents other others)
    (hwrite : ∀ index element, op = write index element → element.length = buffer.kind.width) :
    Yields (op.run buffer).run.result (op.Unsuitable buffer.kind items ∨ op.Unfed buffer)
      buffer.kind (op.onList buffer.kind.width items) := by
  cases op with
  | append other =>
    obtain ⟨others, hothers⟩ := hother other rfl
    simpa [run, onList, Unsuitable, Unfed, h.length_eq, hothers.length_eq, hothers.elements_eq]
      using append_yields h hothers
  | extend bytes => simpa [run, onList, Unsuitable, Unfed, h.length_eq] using extend_yields h bytes
  | push kind value =>
    simpa [run, onList, Unsuitable, Unfed, h.length_eq] using push_yields h kind value
  | insert index element =>
    simpa [run, onList, Unsuitable, Unfed, h.length_eq] using insert_yields h index element
  | removeAt index => simpa [run, onList, Unsuitable, Unfed] using removeAt_yields h index
  | removeValue element =>
    by_cases helement : element.length = buffer.kind.width
    · obtain ⟨next, hresult, hnext⟩ := removeValue_of_length h helement
      simpa [run, onList, Unsuitable, Unfed, Yields, hresult, helement, Except.map] using hnext
    · obtain ⟨fault, hfault⟩ := checkElement_of_ne helement
      have hfind : buffer.findFirst element = .error fault := by rw [findFirst, hfault]; rfl
      simp [run, Unsuitable, Unfed, Yields, removeValue_of_error hfind, helement, Except.map]
  | reverse => exact ⟨by simp [Unsuitable, Unfed], rfl, h.reversed⟩
  | clear => exact ⟨by simp [Unsuitable, Unfed], rfl, h.cleared⟩
  | copy => simpa [run, onList, Unsuitable, Unfed] using copy_yields h
  | write index element =>
    by_cases hindex : index < items.length
    · have hwritten := h.written (hwrite index element rfl) hindex
      simpa [run, onList, Unsuitable, Unfed, Yields, set?, h.length_eq, hindex] using hwritten
    -- past the end there is no element to write to, and the list stays as it is too
    · simpa [run, onList, Unsuitable, Unfed, Yields, set?, h.length_eq, hindex,
        List.set_eq_of_length_le (Nat.le_of_not_lt hindex)] using h

end Operation

/-- A buffer that was made by one of the constructors and then by operations that ended well,
together with what the same operations make from lists. An operation that fails leaves the buffer
and the list as they were, so it is not recorded. The calls need not meet the same allocator. -/
inductive History : Buffer → List Bytes → Prop
  /-- An empty buffer. -/
  | empty [Allocator] {kind : Kind} {capacity : Nat} {buffer : Buffer}
      (hmade : (withCapacity kind capacity).run.result = .ok buffer) : History buffer []
  /-- A buffer made from the bytes of its elements. -/
  | create [Allocator] {defaultCapacity : Nat} {kind : Kind} {bytes : Bytes} {buffer : Buffer}
      (hmade : (create defaultCapacity kind bytes).run.result = .ok buffer) :
      History buffer (bytes.chunks kind.width)
  /-- A buffer made from values. -/
  | ofValues [Allocator] {defaultCapacity : Nat} {kind : Kind} {values : List (Value kind)}
      {buffer : Buffer}
      (hmade : (ofValues defaultCapacity kind values).run.result = .ok buffer) :
      History buffer (values.map (Value.encode kind))
  /-- One more operation. A buffer whose elements are appended has a history of its own, and a write
  through a reference to an element replaces exactly the bytes of that element. -/
  | step [Allocator] {buffer next : Buffer} {items others : List Bytes} (op : Operation)
      (before : History buffer items)
      (hother : ∀ other, op = .append other → History other others)
      (hwrite : ∀ index element, op = .write index element → element.length = buffer.kind.width)
      (hdone : (op.run buffer).run.result = .ok next) :
      History next (op.onList buffer.kind.width items)

/-- Every buffer represents the list that its history leads to. -/
theorem History.represents {buffer : Buffer} {items : List Bytes} (h : History buffer items) :
    Represents buffer items := by
  -- induction on the history: an appended buffer has one of its own, hence `ihother`
  induction h with
  | empty hmade =>
    rw [eq_vacant_of_withCapacity hmade]
    exact represents_vacant _ (by omega)
  | @create _ defaultCapacity kind bytes buffer hmade =>
    have hyields := create_yields defaultCapacity kind bytes
    rw [hmade] at hyields
    exact hyields.2.2
  | ofValues hmade => exact represents_of_ofValues hmade
  | step op before hother hwrite hdone ih ihother =>
    have hyields := op.run_yields ih (fun other hop => ⟨_, ihother other hop⟩) hwrite
    rw [hdone] at hyields
    exact hyields.2.2

/-- Every buffer behaves as the list that its history leads to: its bytes are those of the list, all
observations answer what the list answers, and a further operation fails exactly when its argument
does not suit or the block that it needs cannot be had, and else does what it does to the list. -/
theorem History.refines_list {buffer : Buffer} {items : List Bytes} (h : History buffer items) :
    (buffer.elements = items ∧ buffer.bytes = items.flatten ∧ buffer.length = items.length) ∧
    (∀ index, buffer.at? index = items[index]?) ∧
    (∀ element : Bytes, element.length = buffer.kind.width →
      buffer.findFirst element = .ok (items.idxOf? element) ∧
      buffer.countEqual element = .ok (items.count element) ∧
      ∃ next, buffer.removeValue element = .ok (decide (element ∈ items), next)) ∧
    (∀ element : Bytes, element.length ≠ buffer.kind.width →
      (∃ fault, buffer.findFirst element = .error fault) ∧
      ∃ fault, buffer.countEqual element = .error fault) ∧
    ∀ [Allocator] (op : Operation),
      (∀ other, op = .append other → ∃ others, History other others) →
      (∀ index element, op = .write index element → element.length = buffer.kind.width) →
      ((∃ fault, (op.run buffer).run.result = .error fault) ↔
        op.Unsuitable buffer.kind items ∨ op.Unfed buffer) ∧
      ∀ next, (op.run buffer).run.result = .ok next →
        next.kind = buffer.kind ∧ next.elements = op.onList buffer.kind.width items := by
  have hrep := h.represents
  refine ⟨⟨hrep.elements_eq, hrep.bytes_eq, hrep.length_eq⟩, hrep.at?_eq, ?_, ?_, ?_⟩
  · intro element helement
    obtain ⟨next, hnext, -⟩ := removeValue_of_length hrep helement
    exact ⟨findFirst_of_length hrep helement, countEqual_of_length hrep helement, next, hnext⟩
  · intro element helement
    obtain ⟨fault, hfault⟩ := checkElement_of_ne helement
    exact ⟨⟨fault, by rw [findFirst, hfault, Fault.error_bind]⟩,
      fault, by rw [countEqual, hfault, Fault.error_bind]⟩
  · intro allocator op hother hwrite
    have hyields := op.run_yields hrep
      (fun other hop => (hother other hop).imp fun _ hhistory => hhistory.represents) hwrite
    cases hresult : (op.run buffer).run.result with
    | error fault =>
      rw [hresult] at hyields
      exact ⟨⟨fun _ => hyields, fun _ => ⟨fault, rfl⟩⟩, fun next hnext => nomatch hnext⟩
    | ok next =>
      rw [hresult] at hyields
      obtain ⟨hfine, hkind, hnext⟩ := hyields
      refine ⟨⟨?_, fun hrefused => absurd hrefused hfine⟩, ?_⟩
      · rintro ⟨fault, hfault⟩
        cases hfault
      · intro result hok
        cases hok
        exact ⟨hkind, hnext.elements_eq⟩

/-- A buffer of two-byte elements that had to grow: three elements, a fourth one inserted in the
middle, which takes the spare slot, and the order reversed. -/
theorem history_of_grown :
    History
      { kind := .int16, length := 4, capacity := 8,
        block := [7, 8, 5, 6, 9, 9, 1, 2, 0, 0, 0, 0, 0, 0, 0, 0] }
      [[7, 8], [5, 6], [9, 9], [1, 2]] := by
  have hcreated : History
      { kind := .int16, length := 3, capacity := 4, block := [1, 2, 5, 6, 7, 8, 0, 0] }
      [[1, 2], [5, 6], [7, 8]] :=
    @History.create (Allocator.bounded 64) 1 .int16 [1, 2, 5, 6, 7, 8] _ (by decide +kernel)
  have hinserted : History
      { kind := .int16, length := 4, capacity := 8,
        block := [1, 2, 9, 9, 5, 6, 7, 8, 0, 0, 0, 0, 0, 0, 0, 0] }
      [[1, 2], [9, 9], [5, 6], [7, 8]] :=
    @History.step (Allocator.bounded 64) _ _ _ [] (.insert 1 [9, 9]) hcreated nofun nofun
      (by decide +kernel)
  exact @History.step (Allocator.bounded 64) _ _ _ [] .reverse hinserted nofun nofun
    (by decide +kernel)

/-- In that buffer an element is found where the list has it, and where blocks of eight bytes
cannot be had it is not copied. -/
theorem refines_list_of_grown :
    ∃ buffer : Buffer, History buffer [[7, 8], [5, 6], [9, 9], [1, 2]] ∧ buffer.capacity = 8 ∧
      buffer.findFirst [1, 2] = .ok (some 3) ∧
      ∃ fault, (@Operation.run (Allocator.bounded 8) buffer .copy).run.result = .error fault := by
  obtain ⟨-, -, hfind, -, hstep⟩ := history_of_grown.refines_list
  obtain ⟨hfound, -, -⟩ := hfind [1, 2] (by decide)
  obtain ⟨hfails, -⟩ := @hstep (Allocator.bounded 8) .copy nofun nofun
  refine ⟨_, history_of_grown, rfl, hfound, hfails.mpr (Or.inr ?_)⟩
  intro hblock
  exact absurd hblock.2 (by decide)

end HostBridge.Buffer
