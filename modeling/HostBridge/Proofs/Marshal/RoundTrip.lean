import HostBridge.Proofs.Marshal.Gather
import HostBridge.Proofs.Memory.Blocks

/-!
# Buffers and array objects

A buffer becomes an array object with one axis, and an array object with one axis becomes a buffer.
Four representations lie between: the block of the buffer, the type number by which the host knows
the kind, the storage of the object, which is padded to whole words, and the reads through a view.
Both ways meet at `Arena.Shows`: an object shows a buffer if it has one axis of the buffer's kind
and length and its view reads the elements of the buffer in order. An object that a buffer was made
from shows it, with whatever strides, and so does an object that was made from a buffer.

## Main definitions

* `Descriptor.reads`: what is read at the indices of an array with one axis;
* `Arena.Shows`: an array object shows the elements of a buffer;
* `HostArray.Accepted`: the array objects that a host accepts, and what becomes of them by writing.

## Main results

* `Buffer.Sound.shows`: an object that was made from a buffer shows it;
* `Buffer.survives_round_trip`: the round trip, from either end.
-/

namespace HostBridge

/-! ## Reading along one axis -/

namespace Descriptor

/-- What is read at the indices of an array with one axis, in order. -/
def reads (array : Descriptor) (regions : Regions) : Except Fault (List Bytes) :=
  (List.range array.length).mapM fun i => array.elementBytes (array.region regions) [i]

/-- All elements of an array with one axis can be read, and they are what is gathered. -/
theorem reads_of_row {array : Descriptor} (h : array.shape = [array.length]) (regions : Regions) :
    array.reads regions = .ok (array.elements (array.region regions)) := by
  have hindices : array.shape.indices = (List.range array.length).map fun i => [i] := by
    rw [Shape.indices_eq_grid, h, List.map_eq_flatMap]
    rfl
  rw [elements, hindices, List.map_map]
  refine Fault.mapM_eq_ok fun i hi => ?_
  exact elementBytes_of_contains (h ▸ .cons (List.mem_range.mp hi) .nil)

end Descriptor

/-! ## From a buffer to an array object -/

/-- The array object that is made from a buffer. -/
def Buffer.hostArray (buffer : Buffer) : HostArray :=
  .rowMajor buffer.kind [buffer.length] buffer.bytes

/-- A reference names an array object with one axis, whose view reads the elements of a buffer. -/
structure Arena.Shows (arena : Arena) (ref : Ref) (buffer : Buffer) : Prop where
  /-- The object is an array with one axis, of the buffer's kind and length. -/
  array : ∃ array, arena.value? ref = some (.array array) ∧ array.kind = buffer.kind ∧
    array.shape = [buffer.length]
  /-- The object has a view, which reads the elements of the buffer in order. -/
  reads : ∀ (exchange : Exchange Arena) (regions : Regions), exchange.host = arena →
    regions (.object ref) = arena.storage ref →
    ∃ view, (Marshal.outcome (Marshal.toDescriptor ref) exchange).1 = .ok view ∧
      view.reads regions = .ok buffer.elements

namespace Buffer.Sound

variable {buffer : Buffer} (h : buffer.Sound)
include h

/-- The elements are as many as can be counted and addressed, even if an empty row counts as one. -/
theorem max_size_lt :
    (([buffer.length] : Shape).map (max · 1)).prod * buffer.kind.width < 2 ^ 63 := by
  have hblock := h.addressable
  have hspare := h.spare
  have hle : max buffer.length 1 * buffer.kind.width ≤ buffer.blockSize :=
    Nat.mul_le_mul_right _ (by omega)
  unfold Allocator.Addressable Word.maxSigned twoPow at hblock
  simp only [List.map_cons, List.map_nil, List.prod_singleton]
  omega

/-- The elements of a dense row at the start of a region that begins with the bytes of a buffer. -/
theorem elements_of_row {array : Descriptor} {rest : Bytes} (hkind : array.kind = buffer.kind)
    (hshape : array.shape = [buffer.length]) (hbase : array.base = 0)
    (hstrides : array.strides = array.shape.denseStrides array.kind.width .rowMajor) :
    array.elements (buffer.bytes ++ rest) = buffer.elements := by
  have hprod : array.shape.prod = buffer.length := by simp [hshape]
  rw [← h.flatten_elements]
  refine Descriptor.elements_of_dense hbase hstrides ?_ ?_ ?_
  · rw [hkind, hshape]
    exact (Shape.size_of_max_lt h.max_size_lt).2.2
  · rw [hkind]
    exact Bytes.uniform_chunks _ _
  · rw [hprod, h.length_elements]

/-- An array object is made from a buffer unless the host is full. -/
theorem outcome_ofBuffer (exchange : Exchange Arena) :
    (exchange.host.isFull = true ∧ (Marshal.outcome (Marshal.ofBuffer buffer) exchange).1 =
        .error (Fault.allocation "host array" buffer.bytes.length)) ∨
      exchange.host.isFull = false ∧
        ∃ after, after.host = (exchange.host.place (.array buffer.hostArray)).2 ∧
          Marshal.outcome (Marshal.ofBuffer buffer) exchange =
            (.ok (exchange.host.place (.array buffer.hostArray)).1, after) := by
  obtain ⟨hcount, hbytes, -⟩ := Shape.size_of_max_lt h.max_size_lt
  refine (Marshal.outcome_newArray ?_ exchange).imp_left fun hfull => ⟨hfull.1, hfull.2.1⟩
  rw [hcount, Option.bind_some, hbytes, List.prod_singleton, h.length_bytes]

/-- The object that was made is there afterwards, if the free slots of the host are slots. -/
theorem value?_of_ofBuffer {exchange after : Exchange Arena} {ref : Ref}
    (hfree : ∀ i ∈ exchange.host.free, i < exchange.host.slots.length)
    (hmade : Marshal.outcome (Marshal.ofBuffer buffer) exchange = (.ok ref, after)) :
    after.host.value? ref = some (.array buffer.hostArray) := by
  rcases h.outcome_ofBuffer exchange with ⟨-, hfault⟩ | ⟨-, made, hplaced, hok⟩
  · rw [hmade] at hfault
    cases hfault
  · rw [hmade] at hok
    cases hok
    rw [hplaced]
    exact Arena.value?_place hfree _

/-- An object that was made from a buffer shows it. -/
theorem shows {arena : Arena} {ref : Ref}
    (hvalue : arena.value? ref = some (.array buffer.hostArray)) : arena.Shows ref buffer where
  array := ⟨_, hvalue, rfl, rfl⟩
  reads := by
    intro exchange regions hhost hregions
    obtain ⟨hcount, -, -⟩ := Shape.size_of_max_lt h.max_size_lt
    rw [List.prod_singleton] at hcount
    have hrank := (Shape.length_denseStrides [buffer.length] buffer.kind.width .rowMajor).symm
    refine ⟨_, Marshal.outcome_toDescriptor (hhost ▸ hvalue) hcount hrank, ?_⟩
    rw [Descriptor.reads_of_row rfl]
    show Except.ok (Descriptor.elements _ (regions (.object ref))) = _
    -- the storage is the bytes of the buffer, padded to whole words
    rw [hregions, Arena.storage, hvalue]
    exact congrArg _ (h.elements_of_row rfl rfl rfl rfl)

end Buffer.Sound

/-! ## From an array object to a buffer -/

/-- An array with one axis has as many elements as its extent says. -/
theorem Shape.eq_singleton {shape : Shape} {length : Nat} (hone : shape.length = 1)
    (hcount : shape.count? = some length) : shape = [length] := by
  obtain ⟨extent, rfl⟩ := List.length_eq_one_iff.mp hone
  have hmul : Word.mul? 1 extent = some length := by simpa [Shape.count?] using hcount
  unfold Word.mul? at hmul
  split at hmul
  · rw [Nat.one_mul] at hmul
    rw [Option.some.inj hmul]
  · cases hmul

section ToBuffer

variable [Allocator] {exchange : Exchange Arena} {regions : Regions} {ref : Ref} {array : HostArray}
  {length : Nat} {buffer : Buffer}

/-- A buffer that is made from the bytes of whole elements holds just these. -/
theorem Buffer.create_eq_ok {defaultCapacity : Nat} {kind : Kind} {bytes : Bytes}
    (hwhole : bytes.length % kind.width = 0)
    (h : (create defaultCapacity kind bytes).run.result = .ok buffer) :
    buffer.Sound ∧ buffer.kind = kind ∧ buffer.bytes = bytes := by
  have hyields := create_yields defaultCapacity kind bytes
  rw [h] at hyields
  obtain ⟨-, hkind, hrepresents⟩ := hyields
  refine ⟨(Reachable.create h).sound, hkind, ?_⟩
  rw [hrepresents.bytes_eq, Bytes.flatten_chunks hwhole]

/-- It is made if its block can be had. -/
theorem Buffer.exists_create_iff {defaultCapacity : Nat} {kind : Kind} {bytes : Bytes}
    (hwhole : bytes.length % kind.width = 0) :
    (∃ buffer, (create defaultCapacity kind bytes).run.result = .ok buffer) ↔
      Obtainable kind (grownCapacity defaultCapacity (bytes.length / kind.width)) := by
  have hyields := create_yields defaultCapacity kind bytes
  cases hresult : (create defaultCapacity kind bytes).run.result with
  | error fault =>
    rw [hresult] at hyields
    exact iff_of_false nofun (hyields.resolve_left (not_not.mpr hwhole))
  | ok made =>
    rw [hresult] at hyields
    exact iff_of_true ⟨made, rfl⟩ (not_not.mp fun hblock => hyields.1 (Or.inr hblock))

/-- A buffer is made of what is gathered through the view. -/
theorem HostArray.outcome_toBuffer_of_row (hvalue : exchange.host.value? ref = some (.array array))
    (hone : array.shape.length = 1) (hcount : array.shape.count? = some length)
    (hrank : array.shape.length = array.strides.length) :
    (Marshal.outcome (Marshal.toBuffer regions ref) exchange).1 =
      (Buffer.create exchange.settings.current.1.defaultCapacity array.kind
        ((array.view ref length).gather (regions (.object ref)))).run.result := by
  have hshape : array.shape = [length] := Shape.eq_singleton hone hcount
  exact Marshal.outcome_toBuffer hvalue hcount hone hrank
    ((array.view ref length).reads_of_row hshape regions)

/-- An array object whose elements cannot be counted does not become a buffer. -/
theorem Marshal.count?_of_toBuffer (hvalue : exchange.host.value? ref = some (.array array))
    (h : (outcome (toBuffer regions ref) exchange).1 = .ok buffer) :
    ∃ length, array.shape.count? = some length := by
  cases hcount : array.shape.count? with
  | some length => exact ⟨length, rfl⟩
  | none =>
    obtain ⟨fault, hfault⟩ := toBuffer_refused hvalue (Or.inr hcount)
    rw [hfault] at h
    cases h

/-- An array object with one axis becomes a buffer, if a block can be had for it. -/
theorem HostArray.exists_buffer_iff (hvalue : exchange.host.value? ref = some (.array array))
    (hone : array.shape.length = 1) (hcount : array.shape.count? = some length)
    (hrank : array.shape.length = array.strides.length) :
    (∃ buffer, (Marshal.outcome (Marshal.toBuffer regions ref) exchange).1 = .ok buffer) ↔
      Buffer.Obtainable array.kind
        (Buffer.grownCapacity exchange.settings.current.1.defaultCapacity length) := by
  have hsize := (array.view ref length).length_gather (regions (.object ref))
  rw [show (array.view ref length).shape = [length] from Shape.eq_singleton hone hcount,
    List.prod_singleton, kind_view] at hsize
  rw [outcome_toBuffer_of_row hvalue hone hcount hrank,
    Buffer.exists_create_iff (by rw [hsize]; exact Nat.mul_mod_left _ _), hsize,
    Nat.mul_div_cancel _ array.kind.width_pos]

/-- What a buffer has of the array object that it was made from. -/
theorem HostArray.buffer_of_row (hvalue : exchange.host.value? ref = some (.array array))
    (hone : array.shape.length = 1) (hcount : array.shape.count? = some length)
    (hrank : array.shape.length = array.strides.length)
    (h : (Marshal.outcome (Marshal.toBuffer regions ref) exchange).1 = .ok buffer) :
    buffer.Sound ∧ buffer.kind = array.kind ∧ buffer.length = length ∧
      buffer.bytes = (array.view ref length).gather (regions (.object ref)) ∧
      buffer.elements = (array.view ref length).elements (regions (.object ref)) := by
  have hprod : (array.view ref length).shape.prod = length := by
    rw [show (array.view ref length).shape = [length] from Shape.eq_singleton hone hcount,
      List.prod_singleton]
  have hsize := (array.view ref length).length_gather (regions (.object ref))
  rw [outcome_toBuffer_of_row hvalue hone hcount hrank] at h
  obtain ⟨hsound, hkind, hbytes⟩ :=
    Buffer.create_eq_ok (by rw [hsize]; exact Nat.mul_mod_left _ _) h
  have hlength : buffer.length * array.kind.width = length * array.kind.width := by
    rw [← hkind, ← hsound.length_bytes, hbytes, hsize, hprod, hkind]
    rfl
  refine ⟨hsound, hkind, Nat.eq_of_mul_eq_mul_right array.kind.width_pos hlength, hbytes, ?_⟩
  rw [Buffer.elements, hbytes, hkind]
  exact ((array.view ref length).uniform_elements _).chunks_flatten array.kind.width_pos

/-- An array object shows the buffer that was made from it. -/
theorem Arena.shows_of_toBuffer (hvalue : exchange.host.value? ref = some (.array array))
    (hone : array.shape.length = 1) (hrank : array.shape.length = array.strides.length)
    (hregions : regions (.object ref) = array.storage)
    (h : (Marshal.outcome (Marshal.toBuffer regions ref) exchange).1 = .ok buffer) :
    exchange.host.Shows ref buffer := by
  obtain ⟨length, hcount⟩ := Marshal.count?_of_toBuffer hvalue h
  have hshape := Shape.eq_singleton hone hcount
  obtain ⟨-, hkind, hlength, -, helements⟩ := HostArray.buffer_of_row hvalue hone hcount hrank h
  refine ⟨⟨array, hvalue, hkind.symm, hlength ▸ hshape⟩, ?_⟩
  intro later regions' hhost hregions'
  refine ⟨_, Marshal.outcome_toDescriptor (hhost ▸ hvalue) hcount hrank, ?_⟩
  rw [(array.view ref length).reads_of_row hshape, helements, hregions]
  show Except.ok (Descriptor.elements _ (regions' (.object ref))) = _
  rw [hregions', Arena.storage, hvalue]

end ToBuffer

/-! ## Array objects that a host accepts -/

/-- The array objects that a host accepts, from their parts or from the bytes of their elements, and
what becomes of them when bytes are written. Each has its storage in one block of memory, and its
strides are words. -/
inductive HostArray.Accepted : HostArray → Prop
  | ofParts {arena next : Arena} {ref : Ref} {kind : Kind} {shape : Shape} {strides : Strides}
      {offset : Nat} {bytes : Bytes}
      (hmade : arena.arrayFromParts kind shape strides offset bytes = (some ref, next))
      (hmemory : (bytes.padTo 8).length < 2 ^ 63)
      (hstrides : ∀ stride ∈ strides, Word.Fits 64 stride) :
      Accepted (.ofBytes kind shape strides offset bytes)
  | ofElements {arena next : Arena} {ref : Ref} {kind : Kind} {shape : Shape} {bytes : Bytes}
      (hmade : arena.newArray shape kind.typeCode bytes = (some ref, next))
      (hmemory : (bytes.padTo 8).length < 2 ^ 63) :
      Accepted (.rowMajor kind shape bytes)
  | written {array : HostArray} {storage : Bytes} (before : Accepted array)
      (hlength : storage.length = array.storage.length) :
      Accepted { array with storage := storage }

namespace HostArray.Accepted

variable {array : HostArray} {length : Nat}

theorem contained (h : array.Accepted) : Arena.Contained (.array array) := by
  induction h with
  | @ofParts arena next ref kind shape strides offset bytes hmade hmemory hstrides =>
    have hsupplied : (Arena.Operation.arrayFromParts kind shape strides offset bytes).Supplied :=
      trivial
    refine Arena.contained_of_apply ?_ hsupplied (congrArg Prod.fst hmade) rfl
    rintro array ⟨rfl⟩
    exact ⟨hmemory, hstrides⟩
  | @ofElements arena next ref kind shape bytes hmade hmemory =>
    have hobject : (Arena.Operation.newArray shape kind.typeCode bytes).object? =
        some (.array (.rowMajor kind shape bytes)) := by
      rw [Arena.Operation.object?, Kind.ofTypeCode?_typeCode]
      rfl
    have hsupplied : (Arena.Operation.newArray shape kind.typeCode bytes).Supplied := trivial
    refine Arena.contained_of_apply ?_ hsupplied (congrArg Prod.fst hmade) hobject
    intro array harray
    rw [hobject] at harray
    cases harray
    exact ⟨hmemory, Shape.fits_denseStrides shape kind.width .rowMajor⟩
  | written before hlength ih =>
    obtain ⟨hfits, hoffset, hmemory, hstrides⟩ := ih
    refine ⟨fun hrange => ?_, hlength ▸ hoffset, hlength ▸ hmemory, hstrides⟩
    obtain ⟨hrank, hoffset, hinside⟩ := hfits hrange
    exact ⟨hrank, hlength ▸ hoffset, hlength ▸ hinside⟩

theorem offset_le (h : array.Accepted) : array.offset ≤ array.storage.length := h.contained.2.1

theorem storage_lt (h : array.Accepted) : array.storage.length < 2 ^ 63 := h.contained.2.2.1

/-- The elements of an accepted array object lie inside its storage, if they can be counted. -/
theorem fits (h : array.Accepted) (hcount : array.shape.count? = some length) : array.Fits :=
  Arena.fits_of_contained h.contained hcount

end HostArray.Accepted

/-! ## The release of an object -/

/-- An object that has just been placed is gone once its reference is given back. -/
theorem Arena.value?_decref_place {arena : Arena}
    (hfree : ∀ i ∈ arena.free, i < arena.slots.length) (object : Object) :
    ((arena.place object).2.decref (arena.place object).1).result.value? (arena.place object).1 =
      none := by
  rw [result_decref_of_last (slot?_place hfree object) rfl rfl, value?]
  simp only [List.getElem?_set, if_true]
  -- the slot is vacant, whatever its generation
  split
  · rw [Option.filter_some]
    split <;> rfl
  · rfl

namespace Buffer

/-- The block begins with the bytes of the elements. -/
theorem bytes_append_drop (buffer : Buffer) :
    buffer.bytes ++ buffer.block.drop (buffer.length * buffer.kind.width) = buffer.block := by
  rw [bytes, Bytes.slice, List.drop_zero, List.take_append_drop]

/-- A view of a buffer behind a handle lies in its block. -/
theorem region_view {buffer : Buffer} {bridge : Bridge} {handle : Nat}
    (hheld : bridge.buffers.get? handle = some buffer) :
    (buffer.view ⟨.buffer handle, 0⟩).region bridge.regions = buffer.block := by
  show ((bridge.buffers.get? handle).map (·.block)).getD [] = _
  rw [hheld]
  rfl

/-- The block of a buffer behind a handle reads as the buffer does, whatever the host holds. -/
theorem Sound.reads_view {buffer : Buffer} (h : buffer.Sound) {bridge : Bridge} {handle : Nat}
    (hheld : bridge.buffers.get? handle = some buffer) :
    (buffer.view ⟨.buffer handle, 0⟩).reads bridge.regions = .ok buffer.elements := by
  rw [Descriptor.reads_of_row rfl, region_view hheld, ← bytes_append_drop]
  exact congrArg _ (h.elements_of_row rfl rfl rfl rfl)

/-- What comes back from an array object that shows a buffer has the elements of the buffer. -/
theorem Sound.buffer_of_hostArray [Allocator] {buffer copy : Buffer} (h : buffer.Sound)
    {exchange : Exchange Arena} {ref : Ref} {regions : Regions}
    (hvalue : exchange.host.value? ref = some (.array buffer.hostArray))
    (hregions : regions (.object ref) = exchange.host.storage ref)
    (hok : (Marshal.outcome (Marshal.toBuffer regions ref) exchange).1 = .ok copy) :
    copy.Sound ∧ copy.kind = buffer.kind ∧ copy.length = buffer.length ∧
      copy.elements = buffer.elements := by
  obtain ⟨hcount, -, -⟩ := Shape.size_of_max_lt h.max_size_lt
  rw [List.prod_singleton] at hcount
  have hrank := (Shape.length_denseStrides [buffer.length] buffer.kind.width .rowMajor).symm
  obtain ⟨hsound, hkind, hlength, -, helements⟩ :=
    HostArray.buffer_of_row hvalue rfl hcount hrank hok
  refine ⟨hsound, hkind, hlength, ?_⟩
  rw [helements, hregions, Arena.storage, hvalue]
  exact h.elements_of_row rfl rfl rfl rfl

/-- Buffers with the same elements have the same bytes. -/
theorem Sound.bytes_congr {buffer other : Buffer} (h : buffer.Sound) (hother : other.Sound)
    (helements : other.elements = buffer.elements) : other.bytes = buffer.bytes := by
  rw [← hother.flatten_elements, helements, h.flatten_elements]

/-- A buffer can be had again from an array object. -/
structure RecoverableFrom (buffer : Buffer) (exchange : Exchange Arena) (ref : Ref) : Prop where
  /-- The object has one axis of the buffer's kind and length and reads as the buffer does. -/
  shown : exchange.host.Shows ref buffer
  /-- The object becomes a buffer, if a block can be had for it. -/
  exists_iff : ∀ [Allocator] (regions : Regions),
    regions (.object ref) = exchange.host.storage ref →
    ((∃ copy, (Marshal.outcome (Marshal.toBuffer regions ref) exchange).1 = .ok copy) ↔
      Obtainable buffer.kind
        (grownCapacity exchange.settings.current.1.defaultCapacity buffer.length))
  /-- That buffer equals the one that the object was made from, byte for byte. -/
  same : ∀ [Allocator] (regions : Regions) (copy : Buffer),
    regions (.object ref) = exchange.host.storage ref →
    (Marshal.outcome (Marshal.toBuffer regions ref) exchange).1 = .ok copy →
      copy.sameElements buffer = true ∧ copy.length = buffer.length
  /-- Behind a handle it keeps its elements when the object is released and the storage is gone. -/
  kept : ∀ [Allocator] (regions : Regions) (copy : Buffer) (bridge : Bridge) (handle : Nat),
    regions (.object ref) = exchange.host.storage ref →
    (Marshal.outcome (Marshal.toBuffer regions ref) exchange).1 = .ok copy →
    bridge.host = (exchange.host.decref ref).result → bridge.buffers.get? handle = some copy →
      bridge.host.isAlive ref = false ∧ bridge.regions (.object ref) = [] ∧
        (copy.view ⟨.buffer handle, 0⟩).reads bridge.regions = .ok buffer.elements

/-- A buffer holds the elements of an array object. -/
structure HoldsRow (buffer : Buffer) (exchange : Exchange Arena) (ref : Ref) (regions : Regions) :
    Prop where
  /-- The view of the object reads the elements of the buffer, in order. -/
  shown : exchange.host.Shows ref buffer
  /-- All of them are read from the storage of the object. -/
  reaches : ∀ view, (Marshal.outcome (Marshal.toDescriptor ref) exchange).1 = .ok view →
    ∀ i < buffer.length, view.Reaches (view.region regions) [i]
  /-- An object that is made from the buffer shows the same elements. -/
  placed : ∀ (ops : List Arena.Operation) (before after : Exchange Arena) (made : Ref),
    before.host = (Arena.Chronicle.run ops).arena →
    Marshal.outcome (Marshal.ofBuffer buffer) before = (.ok made, after) →
      after.host.value? made = some (.array buffer.hostArray) ∧ after.host.Shows made buffer
  /-- The object that is gathered from the view is the same as the one made from the buffer. -/
  gathered : ∀ view, (Marshal.outcome (Marshal.toDescriptor ref) exchange).1 = .ok view →
    ∀ (ops : List Arena.Operation) (before after : Exchange Arena) (made : Ref),
      before.host = (Arena.Chronicle.run ops).arena →
      Marshal.outcome (Marshal.ofDescriptor regions view) before = (.ok made, after) →
        after.host.value? made = some (.array buffer.hostArray)

/-- What was made from a sound buffer becomes that buffer again. -/
theorem Sound.recoverableFrom {buffer : Buffer} (h : buffer.Sound) {ops : List Arena.Operation}
    {exchange after : Exchange Arena} {ref : Ref}
    (hhost : exchange.host = (Arena.Chronicle.run ops).arena)
    (hmade : Marshal.outcome (Marshal.ofBuffer buffer) exchange = (.ok ref, after)) :
    buffer.RecoverableFrom after ref := by
  have hvalue := h.value?_of_ofBuffer (hhost ▸ Arena.Chronicle.free_lt_run ops) hmade
  obtain ⟨hcount, -, -⟩ := Shape.size_of_max_lt h.max_size_lt
  rw [List.prod_singleton] at hcount
  have hrank := (Shape.length_denseStrides [buffer.length] buffer.kind.width .rowMajor).symm
  refine ⟨h.shows hvalue, ?_, ?_, ?_⟩
  · intro _ regions _
    exact HostArray.exists_buffer_iff hvalue rfl hcount hrank
  · intro _ regions copy hregions hok
    obtain ⟨hsound, hkind, hlength, helements⟩ := h.buffer_of_hostArray hvalue hregions hok
    have hbytes := h.bytes_congr hsound helements
    exact ⟨by simp [sameElements, hkind, hbytes], hlength⟩
  · intro _ regions copy bridge handle hregions hok hreleased hheld
    obtain ⟨hsound, -, -, helements⟩ := h.buffer_of_hostArray hvalue hregions hok
    -- the only reference to the object was the one that was handed out
    have hgone : bridge.host.value? ref = none := by
      rcases h.outcome_ofBuffer exchange with ⟨-, hfault⟩ | ⟨-, _, hplaced, hplace⟩
      · rw [hmade] at hfault
        cases hfault
      · rw [hmade] at hplace
        cases hplace
        rw [hreleased, hplaced, hhost]
        exact Arena.value?_decref_place (Arena.Chronicle.free_lt_run ops) _
    refine ⟨?_, ?_, ?_⟩
    · rw [Arena.isAlive, hgone]
      rfl
    · show bridge.host.storage ref = []
      rw [Arena.storage, hgone]
    · rw [hsound.reads_view hheld, helements]

/-- What a buffer made from an accepted array object with one axis holds. -/
theorem holdsRow_of_toBuffer [Allocator] {array : HostArray} {exchange : Exchange Arena} {ref : Ref}
    {regions : Regions} {buffer : Buffer} (hfits : array.Fits)
    (hmemory : array.storage.length < 2 ^ 63) (hone : array.shape.length = 1)
    (hvalue : exchange.host.value? ref = some (.array array))
    (hregions : regions (.object ref) = array.storage)
    (h : (Marshal.outcome (Marshal.toBuffer regions ref) exchange).1 = .ok buffer) :
    buffer.HoldsRow exchange ref regions := by
  obtain ⟨length, hcount⟩ := Marshal.count?_of_toBuffer hvalue h
  obtain ⟨hsound, hkind, hlength, hbytes, -⟩ :=
    HostArray.buffer_of_row hvalue hone hcount hfits.rank_eq h
  subst hlength
  have hview : ∀ view, (Marshal.outcome (Marshal.toDescriptor ref) exchange).1 = .ok view →
      view = array.view ref buffer.length := by
    intro view hok
    rw [Marshal.outcome_toDescriptor hvalue hcount hfits.rank_eq] at hok
    exact (Except.ok.inj hok).symm
  refine ⟨Arena.shows_of_toBuffer hvalue hone hfits.rank_eq hregions h, ?_, ?_, ?_⟩
  · intro view hok i hi
    rw [hview view hok]
    have hreaches := hfits.reaches hmemory ref buffer.length
      (HostArray.contains_of_lt hone hcount hi)
    rwa [← hregions] at hreaches
  · intro ops before after made hhost hmade
    have hplaced := hsound.value?_of_ofBuffer (hhost ▸ Arena.Chronicle.free_lt_run ops) hmade
    exact ⟨hplaced, hsound.shows hplaced⟩
  · intro view hok ops before after made hhost hmade
    rw [hview view hok] at hmade
    have hshape : array.shape = [buffer.length] := Shape.eq_singleton hone hcount
    have hsize : ((array.view ref buffer.length).shape.map (max · 1)).prod *
        (array.view ref buffer.length).kind.width < 2 ^ 63 := by
      rw [HostArray.kind_view, ← hkind]
      show (array.shape.map _).prod * _ < _
      rw [hshape]
      exact hsound.max_size_lt
    have hplaced := Descriptor.value?_of_ofDescriptor hsize hhost hmade
    rw [hplaced]
    show some (Object.array (.rowMajor array.kind array.shape
      ((array.view ref buffer.length).gather (regions (.object ref))))) = _
    rw [← hbytes, ← hkind, hshape]
    rfl

/-- Buffers and array objects with one axis are converted into each other without loss. -/
theorem survives_round_trip :
    -- A reachable buffer becomes an array object unless the host is full, and can be had from it
    -- again.
    (∀ (buffer : Buffer) (ops : List Arena.Operation) (exchange : Exchange Arena),
      Reachable buffer → exchange.host = (Arena.Chronicle.run ops).arena →
      ((∃ ref, (Marshal.outcome (Marshal.ofBuffer buffer) exchange).1 = .ok ref) ↔
        exchange.host.isFull = false) ∧
      ∀ ref after, Marshal.outcome (Marshal.ofBuffer buffer) exchange = (.ok ref, after) →
        buffer.RecoverableFrom after ref) ∧
    -- An accepted array object with one axis becomes a buffer if a block can be had for it, and the
    -- buffer holds its elements, whatever the strides.
    ∀ [Allocator] (array : HostArray) (ref : Ref) (exchange : Exchange Arena) (regions : Regions),
      array.Accepted → array.shape.length = 1 → exchange.host.value? ref = some (.array array) →
      regions (.object ref) = array.storage →
        (∀ length, array.shape.count? = some length →
          ((∃ buffer, (Marshal.outcome (Marshal.toBuffer regions ref) exchange).1 = .ok buffer) ↔
            Obtainable array.kind
              (grownCapacity exchange.settings.current.1.defaultCapacity length))) ∧
        ∀ buffer, (Marshal.outcome (Marshal.toBuffer regions ref) exchange).1 = .ok buffer →
          buffer.HoldsRow exchange ref regions := by
  refine ⟨fun buffer ops exchange hreachable hhost => ⟨?_, ?_⟩, ?_⟩
  · rcases hreachable.sound.outcome_ofBuffer exchange with ⟨hfull, hfault⟩ | ⟨hroom, _, -, hok⟩
    · rw [hfault, hfull]
      exact iff_of_false nofun nofun
    · exact iff_of_true ⟨_, by rw [hok]⟩ hroom
  · intro ref after hmade
    exact hreachable.sound.recoverableFrom hhost hmade
  · intro _ array ref exchange regions haccepted hone hvalue hregions
    refine ⟨fun length hcount => ?_, fun buffer hok => ?_⟩
    · exact HostArray.exists_buffer_iff hvalue hone hcount (haccepted.fits hcount).rank_eq
    · obtain ⟨length, hcount⟩ := Marshal.count?_of_toBuffer hvalue hok
      exact holdsRow_of_toBuffer (haccepted.fits hcount) haccepted.storage_lt hone hvalue hregions
        hok

/-- Three elements that lie in their storage in the opposite order. -/
def backwards : HostArray := .ofBytes .int16 [3] [-2] 4 [1, 2, 3, 4, 5, 6]

/-- A buffer of two elements goes to an empty host and can be had again, and a buffer that is made
of the three elements holds them in the order in which the view reads them. -/
theorem survives_round_trip_of_backwards :
    (∃ ref after, Marshal.outcome (Marshal.ofBuffer
        { kind := .int16, length := 2, capacity := 4, block := [5, 6, 7, 8, 0, 0, 0, 0] })
          (Arena.Chronicle.exchange []) = (.ok ref, after) ∧
      RecoverableFrom
        { kind := .int16, length := 2, capacity := 4, block := [5, 6, 7, 8, 0, 0, 0, 0] }
        after ref) ∧
    backwards.Accepted ∧
    ∃ buffer, (Marshal.outcome (@Marshal.toBuffer Arena Ref _ (Allocator.bounded 64)
        (fun _ => backwards.storage) ⟨3, 0⟩)
          ⟨(Arena.empty.place (.array backwards)).2, {}, ⟨[], none⟩⟩).1 = .ok buffer ∧
      buffer.elements = [[5, 6], [3, 4], [1, 2]] ∧
      buffer.HoldsRow ⟨(Arena.empty.place (.array backwards)).2, {}, ⟨[], none⟩⟩ ⟨3, 0⟩
        (fun _ => backwards.storage) := by
  obtain ⟨hthere, hback⟩ := survives_round_trip
  have haccepted : backwards.Accepted :=
    @HostArray.Accepted.ofParts Arena.empty (Arena.empty.place (.array backwards)).2 ⟨3, 0⟩ .int16
      [3] [-2] 4 [1, 2, 3, 4, 5, 6] rfl (by decide) (by decide)
  obtain ⟨hplaced, hrecover⟩ := hthere _ [] (Arena.Chronicle.exchange []) reachable_of_refusals rfl
  obtain ⟨hbuffer, hholds⟩ := @hback (Allocator.bounded 64) backwards ⟨3, 0⟩
    ⟨(Arena.empty.place (.array backwards)).2, {}, ⟨[], none⟩⟩
    (fun _ => backwards.storage) haccepted
    rfl rfl rfl
  refine ⟨?_, haccepted, ?_⟩
  · obtain ⟨ref, hok⟩ := hplaced.mpr rfl
    exact ⟨ref, _, Prod.ext hok rfl, hrecover ref _ (Prod.ext hok rfl)⟩
  · obtain ⟨buffer, hok⟩ := (hbuffer 3 rfl).mpr (by decide +kernel)
    have helements : (Marshal.outcome (@Marshal.toBuffer Arena Ref _ (Allocator.bounded 64)
        (fun _ => backwards.storage) ⟨3, 0⟩)
          ⟨(Arena.empty.place (.array backwards)).2, {}, ⟨[], none⟩⟩).1.toOption.map elements =
        some [[5, 6], [3, 4], [1, 2]] := by decide +kernel
    rw [hok] at helements
    exact ⟨buffer, hok, Option.some.inj helements, hholds buffer hok⟩

end Buffer

end HostBridge
