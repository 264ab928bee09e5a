import HostBridge.Proofs.Memory.Blocks

/-!
# Capacities

A buffer that needs room doubles its capacity as often as it takes, and nothing else changes a
capacity. So the capacity of a buffer is at all times the one it was made with, doubled some number
of times; in particular it is a power of two if it was one at the start.

## Main definitions

* `Doubles`: a number comes from another one by doubling;
* `Buffer.Grows`: whatever buffer an attempt yields, its capacity comes from the given one by
  doubling.

## Main results

* `Buffer.doubles_grownCapacity`: growing is doubling;
* `Buffer.Operation.grows`, `Buffer.grows_appendCopy`: the operations that change a buffer in place;
* `Buffer.grows_create`, `Buffer.grows_ofValues`, `Buffer.grows_copy`: the ways to make a buffer.
-/

namespace HostBridge

/-- `next` is `start`, doubled some number of times. -/
def Doubles (start next : Nat) : Prop := ∃ times, next = start * 2 ^ times

namespace Doubles

variable {start next last : Nat}

protected theorem refl (start : Nat) : Doubles start start := ⟨0, (Nat.mul_one start).symm⟩

protected theorem trans (h : Doubles start next) (h' : Doubles next last) : Doubles start last := by
  obtain ⟨times, rfl⟩ := h
  obtain ⟨more, rfl⟩ := h'
  exact ⟨times + more, by rw [Nat.pow_add, Nat.mul_assoc]⟩

theorem pos (h : Doubles start next) (hpos : 0 < start) : 0 < next := by
  obtain ⟨times, rfl⟩ := h
  exact Nat.mul_pos hpos (Nat.two_pow_pos times)

/-- A power of two that is doubled is a power of two. -/
theorem two_pow (h : Doubles start next) (hstart : ∃ exponent, start = 2 ^ exponent) :
    ∃ exponent, next = 2 ^ exponent := by
  obtain ⟨times, rfl⟩ := h
  obtain ⟨exponent, rfl⟩ := hstart
  exact ⟨exponent + times, (Nat.pow_add 2 exponent times).symm⟩

end Doubles

namespace Buffer

theorem doubles_doubled (capacity needed : Nat) (positive : 0 < capacity) :
    Doubles capacity (doubled capacity needed positive) := by
  fun_induction doubled capacity needed positive with
  | case1 capacity positive hle ih =>
    have honce : Doubles capacity (2 * capacity) := ⟨1, by omega⟩
    exact honce.trans ih
  | case2 capacity positive hgt => exact Doubles.refl capacity

theorem doubles_grownCapacity {current : Nat} (hpos : 0 < current) (needed : Nat) :
    Doubles current (grownCapacity current needed) := by
  have hmax : max current 1 = current := max_eq_left hpos
  simpa only [grownCapacity, hmax] using doubles_doubled current needed hpos

/-- Whatever buffer an attempt yields, its capacity is `capacity`, doubled some number of times. -/
def Grows (capacity : Nat) (run : Attempt Buffer) : Prop :=
  ∀ next, run.run.result = .ok next → Doubles capacity next.capacity

section Grows

variable {α : Type} {capacity : Nat}

theorem grows_pure {buffer : Buffer} (h : Doubles capacity buffer.capacity) :
    Grows capacity (pure buffer) := by
  intro next hnext
  rwa [← Except.ok.inj hnext]

/-- Only what a step has yielded matters for the steps behind it. -/
theorem grows_bind {run : Attempt α} {next : α → Attempt Buffer}
    (h : ∀ a, run.run.result = .ok a → Grows capacity (next a)) :
    Grows capacity (run >>= next) := by
  intro buffer hbuffer
  obtain ⟨a, ha, hnext⟩ := Attempt.result_bind_eq_ok.mp hbuffer
  exact h a ha buffer hnext

theorem Grows.bind {run : Attempt Buffer} {next : Buffer → Attempt Buffer} (h : Grows capacity run)
    (h' : ∀ buffer, Doubles capacity buffer.capacity → Grows capacity (next buffer)) :
    Grows capacity (run >>= next) :=
  grows_bind fun buffer hbuffer => h' buffer (h buffer hbuffer)

theorem Grows.two_pow {run : Attempt Buffer} {buffer : Buffer} (h : Grows capacity run)
    (hcapacity : ∃ exponent, capacity = 2 ^ exponent) (hresult : run.run.result = .ok buffer) :
    ∃ exponent, buffer.capacity = 2 ^ exponent :=
  (h buffer hresult).two_pow hcapacity

/-- A check passes or ends the attempt. -/
theorem grows_check {condition : Prop} [Decidable condition] {fault : Fault} {run : Attempt Buffer}
    (h : Grows capacity run) :
    Grows capacity (if condition then throw fault else run) := by
  split
  · exact nofun
  · exact h

end Grows

/-! ## Buffers made anew -/

section Making

variable [Allocator]

theorem grows_withCapacity (kind : Kind) {capacity : Nat} (hpos : 0 < capacity) :
    Grows capacity (withCapacity kind capacity) := by
  intro buffer hbuffer
  rw [eq_vacant_of_withCapacity hbuffer, max_eq_left hpos]
  exact Doubles.refl capacity

/-- A block with more room has a capacity that was doubled. -/
theorem grows_withGrownCapacity (kind : Kind) {capacity : Nat} (hpos : 0 < capacity)
    (needed : Nat) :
    Grows capacity (withCapacity kind (grownCapacity capacity needed)) := by
  have hdoubles := doubles_grownCapacity hpos needed
  intro buffer hbuffer
  exact hdoubles.trans (grows_withCapacity kind (hdoubles.pos hpos) buffer hbuffer)

theorem grows_create (kind : Kind) {defaultCapacity : Nat} (hpos : 0 < defaultCapacity)
    (bytes : Bytes) : Grows defaultCapacity (create defaultCapacity kind bytes) :=
  grows_bind fun _ _ => (grows_withGrownCapacity kind hpos _).bind fun _ hfresh =>
    grows_bind fun _ _ => grows_pure hfresh

end Making

/-! ## Operations that make room -/

section Room

variable [Allocator] {buffer : Buffer} (hpos : 0 < buffer.capacity)
include hpos

theorem grows_reserve (needed : Nat) : Grows buffer.capacity (buffer.reserve needed) := by
  rw [reserve_eq]
  split
  · exact grows_pure (Doubles.refl _)
  · refine (grows_withGrownCapacity _ hpos needed).bind fun fresh hfresh => ?_
    exact grows_bind fun _ _ => grows_bind fun _ _ => grows_pure hfresh

theorem grows_extend (bytes : Bytes) : Grows buffer.capacity (buffer.extend bytes) := by
  rw [extend_eq]
  exact grows_bind fun _ _ => (grows_reserve hpos _).bind fun _ hroomy => grows_pure hroomy

theorem grows_append (other : Buffer) : Grows buffer.capacity (buffer.append other) := by
  rw [append_eq]
  exact grows_check (grows_extend hpos other.bytes)

theorem grows_push (kind : Kind) (value : Value kind) :
    Grows buffer.capacity (buffer.push kind value) := by
  rw [push_eq]
  exact grows_check (grows_extend hpos _)

theorem grows_insert (index : Nat) (element : Bytes) :
    Grows buffer.capacity (buffer.insert index element) := by
  rw [insert_eq]
  refine grows_bind fun _ _ => grows_check ?_
  exact (grows_reserve hpos _).bind fun _ hroomy => grows_pure hroomy

theorem grows_copy : Grows buffer.capacity buffer.copy := by
  refine (grows_withCapacity buffer.kind hpos).bind fun fresh hfresh next hnext => ?_
  exact hfresh.trans (grows_extend (hfresh.pos hpos) buffer.bytes next hnext)

/-- The copy that is appended does not matter for the capacity of the buffer itself. -/
theorem grows_appendCopy : Grows buffer.capacity buffer.appendCopy := by
  rw [appendCopy_eq]
  exact grows_bind fun copied _ next hnext => grows_append hpos copied next hnext

theorem grows_pushes {kind : Kind} (values : List (Value kind)) :
    Grows buffer.capacity (values.foldlM (fun buffer value => buffer.push kind value) buffer) := by
  induction values generalizing buffer with
  | nil => exact grows_pure (Doubles.refl _)
  | cons value values ih =>
    rw [List.foldlM_cons]
    refine (grows_push hpos kind value).bind fun pushed hpushed next hnext => ?_
    exact hpushed.trans (ih (hpushed.pos hpos) next hnext)

end Room

theorem grows_ofValues [Allocator] (kind : Kind) {defaultCapacity : Nat}
    (hpos : 0 < defaultCapacity) (values : List (Value kind)) :
    Grows defaultCapacity (ofValues defaultCapacity kind values) := by
  refine (grows_withGrownCapacity kind hpos _).bind fun fresh hfresh next hnext => ?_
  exact hfresh.trans (grows_pushes (hfresh.pos hpos) values next hnext)

/-! ## Operations that need no room -/

theorem capacity_of_removeAt {buffer next : Buffer} {index : Nat}
    (h : buffer.removeAt index = .ok next) : next.capacity = buffer.capacity := by
  rw [removeAt_eq] at h
  split at h
  · cases h
  · rw [← Except.ok.inj h]

/-- A removal by value removes the element at some place, or nothing. -/
theorem removal_of_removeValue {buffer : Buffer} {element : Bytes} {removal : Bool × Buffer}
    (h : buffer.removeValue element = .ok removal) :
    removal.2 = buffer ∨ ∃ index, buffer.removeAt index = .ok removal.2 := by
  rcases hfind : buffer.findFirst element with fault | _ | index
  · rw [removeValue_of_error hfind] at h
    cases h
  · rw [removeValue_of_absent hfind] at h
    exact Or.inl (congrArg Prod.snd (Except.ok.inj h)).symm
  · rw [removeValue_of_found hfind] at h
    obtain ⟨rest, hremove, rfl⟩ := Fault.map_eq_ok h
    exact Or.inr ⟨index, hremove⟩

theorem capacity_of_removeValue {buffer : Buffer} {element : Bytes} {removal : Bool × Buffer}
    (h : buffer.removeValue element = .ok removal) : removal.2.capacity = buffer.capacity := by
  rcases removal_of_removeValue h with hsame | ⟨index, hremove⟩
  · rw [hsame]
  · exact capacity_of_removeAt hremove

theorem grows_removeAt (buffer : Buffer) (index : Nat) :
    Grows buffer.capacity (liftExcept (buffer.removeAt index)) := by
  intro next hnext
  rw [Attempt.result_liftExcept] at hnext
  rw [capacity_of_removeAt hnext]
  exact Doubles.refl _

theorem grows_removeValue (buffer : Buffer) (element : Bytes) :
    Grows buffer.capacity (liftExcept ((buffer.removeValue element).map Prod.snd)) := by
  intro next hnext
  rw [Attempt.result_liftExcept] at hnext
  obtain ⟨removal, hremoval, rfl⟩ := Fault.map_eq_ok hnext
  rw [capacity_of_removeValue hremoval]
  exact Doubles.refl _

/-- No operation changes a capacity but by doubling it. -/
theorem Operation.grows [Allocator] {buffer : Buffer} (hpos : 0 < buffer.capacity) (op : Operation)
    (hop : op.InPlace) : Grows buffer.capacity (op.run buffer) := by
  cases op with
  | append other => exact grows_append hpos other
  | extend bytes => exact grows_extend hpos bytes
  | push kind value => exact grows_push hpos kind value
  | insert index element => exact grows_insert hpos index element
  | removeAt index => exact grows_removeAt buffer index
  | removeValue element => exact grows_removeValue buffer element
  | reverse | clear => exact grows_pure (Doubles.refl _)
  | copy | write => exact hop.elim

end Buffer

end HostBridge
