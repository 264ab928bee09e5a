import HostBridge.Proofs.Buffer.Invariant
import HostBridge.Proofs.Value

/-!
# Typed access to buffers

A buffer can be filled with values, which are appended one at a time, or with the bytes of all of
them at once. The block is made for the whole number of values and has a spare slot on top, so that
none of the appended values finds the block full. Both ways end with the same buffer for this
reason, down to the last byte of the block, and both fail in the same way if there is no block. The
values are then read back from it, and so is a value that is appended later.

## Main definitions

* `Lacks`: an attempt lacks a block.

## Main results

* `Represents.values_eq`, `Represents.get_of_push`: what is read as values;
* `ofValues_fills`, `create_fills`: both ways to fill a buffer that can have its block;
* `typed_agrees_with_raw`: both ways give the same buffer, from which the values are read back.
-/

namespace HostBridge.Buffer

open Bytes (Uniform)

/-! ## Reading values -/

section Reading

variable {buffer : Buffer} {items : List Bytes} {kind : Kind}

theorem get_of_ne (h : kind ≠ buffer.kind) (index : Nat) :
    buffer.get kind index = .error (Fault.kindMismatch buffer.kind kind) := by
  rw [get, if_pos h]
  rfl

theorem toValues_of_ne (h : kind ≠ buffer.kind) :
    buffer.toValues kind = .error (Fault.kindMismatch buffer.kind kind) := by
  rw [toValues, if_pos h]
  rfl

theorem push_of_ne [Allocator] (h : kind ≠ buffer.kind) (value : Value kind) :
    (buffer.push kind value).run.result = .error (Fault.kindMismatch buffer.kind kind) := by
  rw [push_eq, if_pos h]
  rfl

/-- An element is read as the value that its bytes stand for. -/
theorem Represents.get_of_getElem? (h : Represents buffer items) (hkind : buffer.kind = kind)
    {index : Nat} {element : Bytes} (helement : items[index]? = some element) :
    buffer.get kind index = .ok (Value.decode kind element) := by
  rw [get, if_neg (not_not.mpr hkind.symm), h.at?_eq, helement]
  rfl

theorem Represents.toValues_eq (h : Represents buffer items) (hkind : buffer.kind = kind) :
    buffer.toValues kind = .ok (items.map (Value.decode kind)) := by
  rw [toValues, if_neg (not_not.mpr hkind.symm), h.elements_eq]
  rfl

/-- Values are read back from their bytes. -/
theorem Represents.values_eq {values : List (Value kind)}
    (h : Represents buffer (values.map (Value.encode kind))) (hkind : buffer.kind = kind) :
    buffer.toValues kind = .ok values ∧
      ∀ (index : Nat) (hindex : index < values.length),
        buffer.get kind index = .ok values[index] := by
  constructor
  · rw [h.toValues_eq hkind, List.map_map]
    simp [Function.comp_def, Value.decode_encode]
  · intro index hindex
    have helement : (values.map (Value.encode kind))[index]? =
        some (Value.encode kind values[index]) := by
      rw [List.getElem?_map, List.getElem?_eq_getElem hindex, Option.map_some]
    rw [h.get_of_getElem? hkind helement, Value.decode_encode]

/-- A value that was appended is read back, and so is everything before it. -/
theorem Represents.get_of_push [Allocator] {next : Buffer} {value : Value kind}
    (h : Represents buffer items) (hkind : buffer.kind = kind)
    (hpush : (buffer.push kind value).run.result = .ok next) :
    next.get kind buffer.length = .ok value ∧
      ∀ index, index < buffer.length → next.get kind index = buffer.get kind index := by
  have hyields := push_yields h kind value
  rw [hpush] at hyields
  obtain ⟨-, hsame, hnext⟩ := hyields
  have hkept : next.kind = kind := hsame.trans hkind
  rw [h.length_eq]
  constructor
  · rw [hnext.get_of_getElem? hkept List.getElem?_concat_length, Value.decode_encode]
  · intro index hindex
    have hbefore := List.getElem?_eq_getElem hindex
    have hafter : (items ++ [Value.encode kind value])[index]? = some items[index] := by
      rw [List.getElem?_append_left hindex, hbefore]
    rw [hnext.get_of_getElem? hkept hafter, h.get_of_getElem? hkind hbefore]

end Reading

/-! ## Filling a buffer -/

/-- An attempt lacks a block of `size` bytes, and has recorded nothing. -/
def Lacks {α : Type} (run : Attempt α) (size : Nat) : Prop :=
  run.run.result = .error (Fault.allocation entity size) ∧ run.run.events = []

theorem Lacks.bind {α β : Type} {run : Attempt α} {size : Nat} (h : Lacks run size)
    {next : α → Attempt β} : Lacks (run >>= next) size := by
  obtain ⟨hresult, hevents⟩ := h
  constructor
  · rw [Attempt.result_bind, hresult, Fault.error_bind]
  · simp only [Attempt.events_bind, hresult, hevents, List.append_nil]

section Filling

variable [Allocator] {kind : Kind} {capacity : Nat}

theorem withCapacity_fills (hpos : 0 < capacity) (hblock : Obtainable kind capacity) :
    Fills (withCapacity kind capacity) [.allocated entity (capacity * kind.width)]
      kind capacity [] := by
  have hmax : max capacity 1 = capacity := max_eq_left hpos
  have hfresh := withCapacity_of_obtainable (hmax.symm ▸ hblock)
  have hevents := events_withCapacity kind capacity
  rw [hmax] at hfresh hevents
  rw [if_pos hblock] at hevents
  exact ⟨_, hfresh, hevents, rfl, rfl, represents_vacant kind hpos⟩

/-- The block that is made for all values has room for each of them. -/
theorem ofValues_fills {defaultCapacity : Nat} (values : List (Value kind))
    (hcapacity : grownCapacity defaultCapacity values.length = capacity)
    (hblock : Obtainable kind capacity) :
    Fills (ofValues defaultCapacity kind values) [.allocated entity (capacity * kind.width)]
      kind capacity (values.map (Value.encode kind)) := by
  have hroom : values.length < capacity := hcapacity ▸ lt_grownCapacity _ _
  rw [ofValues, hcapacity]
  refine (withCapacity_fills (Nat.zero_lt_of_lt hroom) hblock).bind
    fun fresh hkind hfresh hitems => ?_
  rw [← hfresh] at hroom ⊢
  exact pushes_fill values hitems hkind (by rwa [List.length_nil, Nat.zero_add])

/-- Bytes of whole elements pass the check, and are written to a fresh block at once. -/
theorem create_flatten (defaultCapacity : Nat) {items : List Bytes}
    (huniform : Uniform kind.width items) :
    create defaultCapacity kind items.flatten = (do
      let fresh ← withCapacity kind (grownCapacity defaultCapacity items.length)
      Attempt.emit (.bufferCreated kind items.length fresh.capacity)
      return { fresh with
        length := items.length
        block := fresh.block.overwrite 0 items.flatten }) := by
  have hlength := huniform.length_flatten
  have hwhole : items.flatten.length % kind.width = 0 := by rw [hlength, Nat.mul_mod_left]
  have hcount : items.flatten.length / kind.width = items.length := by
    rw [hlength, Nat.mul_div_cancel _ kind.width_pos]
  rw [create, checkWhole_of_whole hwhole, hcount]
  rfl

theorem create_fills {defaultCapacity : Nat} {items : List Bytes}
    (huniform : Uniform kind.width items)
    (hcapacity : grownCapacity defaultCapacity items.length = capacity)
    (hblock : Obtainable kind capacity) :
    Fills (create defaultCapacity kind items.flatten)
      [.allocated entity (capacity * kind.width), .bufferCreated kind items.length capacity]
      kind capacity items := by
  have hroom : items.length < capacity := hcapacity ▸ lt_grownCapacity _ _
  rw [create_flatten defaultCapacity huniform, hcapacity]
  refine (withCapacity_fills (Nat.zero_lt_of_lt hroom) hblock).bind
    fun fresh hkind hfresh hitems => ?_
  have hfilled := hitems.extended (hkind.symm ▸ huniform)
    (by rwa [List.length_nil, Nat.zero_add, hfresh])
  rw [List.length_nil, Nat.zero_add, Nat.zero_mul, List.nil_append] at hfilled
  exact ⟨_, rfl, by rw [hfresh]; rfl, hkind, hfresh, hfilled⟩

/-- Where there is no block for a new buffer, that is the only thing to be known. -/
theorem withCapacity_lacks (hpos : 0 < capacity) (hblock : ¬Obtainable kind capacity) :
    ∃ size, Lacks (withCapacity kind capacity) size := by
  have hmax : max capacity 1 = capacity := max_eq_left hpos
  obtain ⟨fault, hfault⟩ := withCapacity_of_not_obtainable (hmax.symm ▸ hblock)
  obtain ⟨size, rfl⟩ := fault_of_withCapacity hfault
  have hevents := events_withCapacity kind capacity
  rw [hmax, if_neg hblock] at hevents
  exact ⟨size, hfault, hevents⟩

end Filling

/-! ## Both ways to fill a buffer -/

/-- A buffer filled with values is the one filled with their bytes, and typed access to buffers
writes and reads values. -/
theorem typed_agrees_with_raw [Allocator] (defaultCapacity : Nat) (kind : Kind)
    (values : List (Value kind)) :
    let typed := ofValues defaultCapacity kind values
    let raw := create defaultCapacity kind (values.flatMap (Value.encode kind))
    let capacity := grownCapacity defaultCapacity values.length
    -- Both ways lack the same block and leave no trace, or both yield the same buffer, block
    -- included. Each takes one block for that, and neither grows. The values are read back from the
    -- buffer.
    ((∃ size,
        (typed.run.result = .error (Fault.allocation entity size) ∧ typed.run.events = []) ∧
        (raw.run.result = .error (Fault.allocation entity size) ∧ raw.run.events = [])) ∨
      ∃ buffer : Buffer,
        (typed.run.result = .ok buffer ∧
          typed.run.events = [.allocated entity (capacity * kind.width)]) ∧
        (raw.run.result = .ok buffer ∧
          raw.run.events = [.allocated entity (capacity * kind.width),
            .bufferCreated kind values.length capacity]) ∧
        (buffer.kind = kind ∧ buffer.length = values.length ∧ buffer.capacity = capacity) ∧
        buffer.toValues kind = .ok values ∧
        ∀ (index : Nat) (hindex : index < values.length),
          buffer.get kind index = .ok values[index]) ∧
    -- A value that is appended to a buffer is read back, and what was there before is read as
    -- before.
    (∀ buffer next : Buffer, Reachable buffer → buffer.kind = kind → ∀ value : Value kind,
      (buffer.push kind value).run.result = .ok next →
        next.get kind buffer.length = .ok value ∧
          ∀ index, index < buffer.length → next.get kind index = buffer.get kind index) ∧
    -- Values of another kind are neither read nor written.
    (∀ buffer : Buffer, kind ≠ buffer.kind →
      (∀ index, buffer.get kind index = .error (Fault.kindMismatch buffer.kind kind)) ∧
      buffer.toValues kind = .error (Fault.kindMismatch buffer.kind kind) ∧
      ∀ value : Value kind,
        (buffer.push kind value).run.result = .error (Fault.kindMismatch buffer.kind kind)) := by
  intro typed raw capacity
  refine ⟨?_, ?_, ?_⟩
  · have huniform : Uniform kind.width (values.map (Value.encode kind)) := by simp [Uniform]
    have hlength : (values.map (Value.encode kind)).length = values.length := List.length_map _
    have hraw : raw = create defaultCapacity kind (values.map (Value.encode kind)).flatten := by
      rw [← List.flatMap_def]
    by_cases hblock : Obtainable kind capacity
    · obtain ⟨buffer, hresult, hevents, hkind, hcapacity, hitems⟩ :=
        ofValues_fills values rfl hblock
      obtain ⟨other, hother, hcreated, hkind', hcapacity', hitems'⟩ :=
        create_fills huniform (congrArg (grownCapacity defaultCapacity) hlength) hblock
      -- kind, capacity and elements leave no choice of a block
      obtain rfl : other = buffer :=
        hitems.unique hitems' (hkind'.trans hkind.symm) (hcapacity'.trans hcapacity.symm)
      rw [hlength] at hcreated
      refine Or.inr ⟨other, ⟨hresult, hevents⟩, ⟨hraw ▸ hother, hraw ▸ hcreated⟩,
        ⟨hkind, hitems.length_eq.trans hlength, hcapacity⟩, hitems.values_eq hkind⟩
    · obtain ⟨size, hlacks⟩ := withCapacity_lacks (Nat.zero_lt_of_lt (lt_grownCapacity _ _)) hblock
      refine Or.inl ⟨size, hlacks.bind, ?_⟩
      rw [hraw, create_flatten defaultCapacity huniform, hlength]
      exact hlacks.bind
  · intro buffer next hreachable hkind value hpush
    obtain ⟨items, hitems⟩ := hreachable.represents
    exact hitems.get_of_push hkind hpush
  · intro buffer hkind
    exact ⟨get_of_ne hkind, toValues_of_ne hkind, push_of_ne hkind⟩

/-- Three values of two bytes take a block of four slots either way. A fourth one uses up the spare
slot, so all of them move to eight slots, and are read there. -/
theorem typed_agrees_with_raw_of_moved :
    ∃ buffer next : Buffer,
      (@create (Allocator.bounded 64) 2 .int16 [255, 255, 2, 1, 7, 0]).run.result = .ok buffer ∧
      buffer.toValues .int16 = .ok ([-1, 258, 7] : List Int16) ∧
      (@push buffer (Allocator.bounded 64) .int16 (-32768 : Int16)).run.result = .ok next ∧
      next.capacity = 8 ∧ next.get .int16 3 = .ok (-32768 : Int16) ∧
      next.get .int16 0 = buffer.get .int16 0 ∧
      next.get .int8 0 = .error (Fault.kindMismatch .int16 .int8) := by
  have hmade : (@ofValues (Allocator.bounded 64) 2 .int16 ([-1, 258, 7] : List Int16)).run.result =
      .ok ⟨.int16, 3, 4, [255, 255, 2, 1, 7, 0, 0, 0]⟩ := by
    decide +kernel
  have hmoved : (@push ⟨.int16, 3, 4, [255, 255, 2, 1, 7, 0, 0, 0]⟩ (Allocator.bounded 64) .int16
      (-32768 : Int16)).run.result =
        .ok ⟨.int16, 4, 8, [255, 255, 2, 1, 7, 0, 0, 128, 0, 0, 0, 0, 0, 0, 0, 0]⟩ := by
    decide +kernel
  have hbytes : ([-1, 258, 7] : List Int16).flatMap (Value.encode .int16) =
      [255, 255, 2, 1, 7, 0] := by
    decide +kernel
  obtain ⟨hfilled, hpush, -⟩ :=
    @typed_agrees_with_raw (Allocator.bounded 64) 2 .int16 ([-1, 258, 7] : List Int16)
  obtain ⟨-, -, hother⟩ := @typed_agrees_with_raw (Allocator.bounded 64) 2 .int8 []
  rw [hbytes, hmade] at hfilled
  rcases hfilled with ⟨size, ⟨hfault, -⟩, -⟩ | ⟨buffer, ⟨hresult, -⟩, ⟨hraw, -⟩, -, hvalues, -⟩
  · cases hfault
  · obtain rfl := Except.ok.inj hresult
    obtain ⟨hlast, hbefore⟩ :=
      hpush _ _ (@Reachable.ofValues (Allocator.bounded 64) _ _ _ _ hmade) rfl _
      hmoved
    exact ⟨_, _, hraw, hvalues, hmoved, rfl, hlast, hbefore 0 (by decide),
      (hother _ (by decide)).1 0⟩

end HostBridge.Buffer
