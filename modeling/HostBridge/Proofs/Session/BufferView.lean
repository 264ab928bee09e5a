import HostBridge.Proofs.Buffer.Elements
import HostBridge.Proofs.Layout.Access
import HostBridge.Proofs.Layout.Density
import HostBridge.Proofs.Marshal.Introspection
import HostBridge.Proofs.Session.Memory

/-!
# Views of a buffer

The elements of a buffer can be seen as an array with one axis. There are two ways to such a view: a
buffer describes its own elements and checks nothing, and a call through a handle describes them as
it would describe any memory, with all checks. This module shows that the two make the same array,
that it reads the elements of the buffer and none of the spare slots behind them, and that every way
to copy the elements ends with the same bytes.

## Main definitions

* `Buffer.Arises`: the buffers that there can be, made by operations or in a session;
* `Buffer.SeenBy`: an array that describes the elements of a buffer.

## Main results

* `Buffer.Sound.ofDense_eq_view`: all checks pass, and the array is the one that is made without
  them;
* `Buffer.Sound.elementBytes_view_of_lt` and `elementBytes_view_of_le`: what a view reads;
* `Buffer.views_agree_with_buffer`: a buffer, its views and its copies agree.
-/

namespace HostBridge.Buffer

variable {buffer : Buffer}

/-- The buffers that there can be: constructors and operations lead to them, or they are kept behind
a handle in some session. -/
inductive Arises (buffer : Buffer) : Prop
  /-- Operations on buffers lead to it. -/
  | made (h : Reachable buffer)
  /-- It is kept behind a handle. -/
  | kept {bridge : Bridge} {trace : List Event} {handle : Nat} (h : Session bridge trace)
    (hheld : bridge.buffers.get? handle = some buffer)

theorem Arises.sound (h : buffer.Arises) : buffer.Sound := by
  cases h with
  | made h => exact h.sound
  | kept h hheld => exact h.orderly.sound _ (Store.mem_of_get? hheld)

/-- An array with one axis that describes the elements of a buffer from an address on. -/
structure SeenBy (buffer : Buffer) (data : Address) (view : Descriptor) : Prop where
  /-- It borrows its memory at the address. -/
  source : view.source = .borrowed (some data)
  /-- It has one axis, as long as the buffer. -/
  shape : view.shape = [buffer.length]
  /-- Elements lie end to end. -/
  strides : view.strides = [(buffer.kind.width : Int)]
  /-- It has the kind of the buffer. -/
  kind : view.kind = buffer.kind
  /-- It has as many elements as the buffer. -/
  length : view.length = buffer.length
  /-- It takes the bytes of the elements and not of the whole block. -/
  byteLength : view.byteLength = buffer.length * buffer.kind.width
  /-- It is dense whichever axis varies fastest. -/
  dense : ∀ order, view.isDense order = true

namespace Sound

variable (h : buffer.Sound)
include h

/-! ## The array that both ways make -/

/-- A buffer is small enough to be described with all checks, and the array is the same as
without. -/
theorem ofDense_eq_view (data : Address) :
    (Descriptor.ofDense (some data) [buffer.length] buffer.kind .rowMajor).run.result =
      .ok (buffer.view data) := by
  obtain ⟨hcount, -, -⟩ := Shape.size_of_max_lt h.max_size_lt
  have hcountable : Shape.Countable [buffer.length] :=
    Shape.isSome_count?.mp (by rw [hcount]; rfl)
  rw [Descriptor.ofDense,
    Descriptor.result_ofStrided (Shape.length_denseStrides ..).symm hcountable,
    if_neg (by simp), List.prod_singleton]
  rfl

theorem builtDense_view (data : Address) :
    Descriptor.BuiltDense [buffer.length] buffer.kind .rowMajor (buffer.view data) :=
  .view (h.ofDense_eq_view data)

theorem seenBy_view (data : Address) : buffer.SeenBy data (buffer.view data) where
  source := rfl
  shape := rfl
  strides := by
    show [Word.signed buffer.kind.width] = _
    cases buffer.kind <;> rfl
  kind := rfl
  length := rfl
  byteLength := by
    obtain ⟨-, -, hsize⟩ := Shape.size_of_max_lt h.max_size_lt
    rw [List.prod_singleton] at hsize
    exact Word.unsigned_eq_iff.mpr (by omega)
  dense := fun order => by
    -- with one axis there is one layout only
    cases order with
    | rowMajor => exact Shape.isDense_denseStrides [buffer.length] buffer.kind.width .rowMajor
    | columnMajor => exact Shape.isDense_denseStrides [buffer.length] buffer.kind.width .columnMajor

/-- A call through a handle puts that array behind a new handle. -/
theorem result_bufferAsArray {bridge : Bridge} {handle : Nat}
    (hheld : bridge.buffers.get? handle = some buffer) :
    (Call.bufferAsArray (some handle) bridge).result =
      (some (bridge.arrays.add (buffer.view ⟨.buffer handle, 0⟩)).1,
        { bridge with
          arrays := (bridge.arrays.add (buffer.view ⟨.buffer handle, 0⟩)).2
          lastError := {} }) := by
  have hnamed : bridge.buffers.named? (some handle) = some (handle, buffer) :=
    Store.named?_eq_some.mpr ⟨rfl, hheld⟩
  rw [Call.bufferAsArray, Call.buffer?_bind, hnamed]
  simp only [Call.result_bind, Call.result_attempt, h.ofDense_eq_view]
  rfl

/-! ## What is read -/

theorem elementBytes_view_of_lt (handle : Nat) {i : Nat} (hi : i < buffer.length) :
    (buffer.view ⟨.buffer handle, 0⟩).elementBytes buffer.block [i] =
      .ok (buffer.block.slice (i * buffer.kind.width) buffer.kind.width) := by
  obtain ⟨-, -, hsize⟩ := Shape.size_of_max_lt h.max_size_lt
  have hoffset := (h.builtDense_view ⟨.buffer handle, 0⟩).byteOffset_eq hsize
    (.cons hi .nil : Shape.Contains [buffer.length] [i])
  have hposition : Shape.positionIn .rowMajor [buffer.length] [i] = i := by
    simp [Shape.positionIn, Shape.position]
  have hend : (i + 1) * buffer.kind.width ≤ buffer.length * buffer.kind.width :=
    Nat.mul_le_mul_right _ hi
  have hinside : Bytes.Inside buffer.block.length ((i * buffer.kind.width : Nat) : Int)
      buffer.kind.width := by
    have hroom := h.length_le_block
    rw [Nat.succ_mul] at hend
    exact ⟨by omega, by omega⟩
  rw [hposition] at hoffset
  rw [Descriptor.elementBytes_eq, hoffset]
  show Except.ok
    (buffer.block.window (0 + ((i * buffer.kind.width : Nat) : Int)) buffer.kind.width) = _
  rw [Int.zero_add, Bytes.window, if_pos hinside, Int.toNat_natCast]

end Sound

/-- There is nothing to read behind the elements, also where the block goes on. -/
theorem elementBytes_view_of_le (data : Address) (region : Bytes) {i : Nat}
    (hi : buffer.length ≤ i) :
    (buffer.view data).elementBytes region [i] = .error (Fault.index i buffer.length) := by
  have hleaves : Shape.Leaves [buffer.length] [i] 0 i buffer.length :=
    Shape.leaves_zero_iff.mpr ⟨hi, rfl, rfl⟩
  have hoffset : (buffer.view data).byteOffset [i] = .error (Fault.index i buffer.length) :=
    Descriptor.byteOffset_eq_error_iff.mpr (Or.inr ⟨rfl, 0, i, buffer.length, hleaves, rfl⟩)
  rw [Descriptor.elementBytes_eq, hoffset]
  rfl

/-! ## Copies -/

namespace Sound

variable (h : buffer.Sound)
include h

/-- What a view gathers are the bytes of the elements. -/
theorem gather_view (data : Address) (hbase : data.offset = 0) :
    (buffer.view data).gather buffer.block = buffer.bytes := by
  have hstart : (buffer.view data).base = 0 := hbase
  rw [Descriptor.gather, ← bytes_append_drop, h.elements_of_row rfl rfl hstart rfl,
    h.flatten_elements]

/-- A copy of a view has a block of its own, which begins with the elements. -/
theorem bytes_of_toOwned [Allocator] {data : Address} (hbase : data.offset = 0)
    {copy : Descriptor}
    (hcopy : ((buffer.view data).toOwned buffer.block).run.result = .ok copy) :
    copy.kind = buffer.kind ∧ copy.shape = [buffer.length] ∧ copy.isView = false ∧
      copy.byteLength = buffer.bytes.length ∧
      copy.block.take copy.byteLength = buffer.bytes := by
  rw [Descriptor.result_toOwned h.max_size_lt] at hcopy
  split at hcopy
  · cases hcopy
    have hlength : buffer.bytes.length = [buffer.length].prod * buffer.kind.width := by
      rw [h.length_bytes, List.prod_singleton]
    refine ⟨rfl, rfl, rfl, hlength.symm, ?_⟩
    -- the block may go on behind the elements, since an empty array has one too
    show ((buffer.view data).gather buffer.block ++ _).take
      ([buffer.length].prod * buffer.kind.width) = _
    rw [h.gather_view data hbase, ← hlength, List.take_left]
  · cases hcopy

theorem bytes_of_copy [Allocator] {copied : Buffer} (hcopy : buffer.copy.run.result = .ok copied) :
    copied.kind = buffer.kind ∧ copied.bytes = buffer.bytes := by
  by_cases hblock : Obtainable buffer.kind buffer.capacity
  · obtain ⟨made, hmade, hkind, hbytes⟩ := h.copy_of_obtainable hblock
    rw [hcopy] at hmade
    cases hmade
    exact ⟨hkind, hbytes⟩
  -- a copy takes a block of the same capacity, and fails before anything else without it
  · have hmax : max buffer.capacity 1 = buffer.capacity := max_eq_left (Nat.zero_lt_of_lt h.spare)
    obtain ⟨fault, hfault⟩ := withCapacity_of_not_obtainable (hmax.symm ▸ hblock)
    rw [copy, Attempt.result_bind, hfault] at hcopy
    cases hcopy

/-- A buffer that went to a host and came back holds the same elements. -/
theorem bytes_of_toBuffer [Allocator] {exchange after : Exchange Arena} {ref : Ref}
    {regions : Regions} {copied : Buffer} (hhost : exchange.host.Reachable)
    (hmade : Marshal.outcome (Marshal.ofBuffer buffer) exchange = (.ok ref, after))
    (hregions : regions (.object ref) = after.host.storage ref)
    (hcopy : (Marshal.outcome (Marshal.toBuffer regions ref) after).1 = .ok copied) :
    copied.kind = buffer.kind ∧ copied.length = buffer.length ∧ copied.bytes = buffer.bytes := by
  have hvalue := h.value?_of_ofBuffer hhost.stocked.free_lt hmade
  obtain ⟨hsound, hkind, hlength, helements⟩ := h.buffer_of_hostArray hvalue hregions hcopy
  exact ⟨hkind, hlength, h.bytes_congr hsound helements⟩

end Sound

/-- A buffer, its views and its copies agree. -/
theorem views_agree_with_buffer (harises : buffer.Arises) {bridge : Bridge} {handle : Nat}
    (hheld : bridge.buffers.get? handle = some buffer) :
    let view := buffer.view ⟨.buffer handle, 0⟩
    -- The view that a call describes with all checks is the one that the buffer describes itself.
    (∃ made, (Descriptor.ofDense (some ⟨.buffer handle, 0⟩) [buffer.length] buffer.kind
        .rowMajor).run.result = .ok made ∧ made = view ∧
      (Call.bufferAsArray (some handle) bridge).result =
        (some (bridge.arrays.add made).1,
          { bridge with arrays := (bridge.arrays.add made).2, lastError := {} })) ∧
    buffer.SeenBy ⟨.buffer handle, 0⟩ view ∧
    -- It reads the elements of the buffer, and nothing behind them.
    (∀ i < buffer.length, ∃ bytes, buffer.at? i = some bytes ∧
      view.elementBytes (view.region bridge.regions) [i] = .ok bytes) ∧
    (∀ i, buffer.length ≤ i → buffer.at? i = none ∧
      view.elementBytes (view.region bridge.regions) [i] =
        .error (Fault.index i buffer.length)) ∧
    -- An owned copy of the view holds the bytes of the buffer.
    (∀ [Allocator] copy, (view.toOwned (view.region bridge.regions)).run.result = .ok copy →
      copy.kind = buffer.kind ∧ copy.shape = [buffer.length] ∧ copy.isView = false ∧
        copy.byteLength = buffer.bytes.length ∧ copy.block.take copy.byteLength = buffer.bytes) ∧
    -- So does a copy of the buffer.
    (∀ [Allocator] copied, buffer.copy.run.result = .ok copied →
      copied.kind = buffer.kind ∧ copied.bytes = buffer.bytes) ∧
    -- So does a buffer that is made of the array object that the buffer becomes.
    ∀ [Allocator] (exchange after : Exchange Arena) (ref : Ref) (regions : Regions)
      (copied : Buffer), exchange.host.Reachable →
      Marshal.outcome (Marshal.ofBuffer buffer) exchange = (.ok ref, after) →
      regions (.object ref) = after.host.storage ref →
      (Marshal.outcome (Marshal.toBuffer regions ref) after).1 = .ok copied →
        copied.kind = buffer.kind ∧ copied.length = buffer.length ∧
          copied.bytes = buffer.bytes := by
  have h := harises.sound
  have hregion := region_view hheld
  refine ⟨⟨_, h.ofDense_eq_view _, rfl, h.result_bufferAsArray hheld⟩, h.seenBy_view _, ?_, ?_, ?_,
    ?_, ?_⟩
  · intro i hi
    rw [hregion]
    exact ⟨_, if_pos hi, h.elementBytes_view_of_lt handle hi⟩
  · intro i hi
    exact ⟨if_neg (Nat.not_lt.mpr hi), elementBytes_view_of_le _ _ hi⟩
  · intro _ copy hcopy
    rw [hregion] at hcopy
    exact h.bytes_of_toOwned rfl hcopy
  · intro _ copied hcopy
    exact h.bytes_of_copy hcopy
  · intro _ exchange after ref regions copied hhost hmade hregions hcopy
    exact h.bytes_of_toBuffer hhost hmade hregions hcopy

/-- Two elements in a block with room for four. -/
def roomy : Buffer where
  kind := .int16
  length := 2
  capacity := 4
  block := [5, 6, 7, 8, 0, 0, 0, 0]

/-- A bridge with the two elements behind a handle. -/
def roomyBridge : Bridge :=
  { Bridge.start ⟨[], none⟩ with buffers := (Store.empty.add roomy).2 }

/-- A host to which the two elements went. -/
def roomyHost : Exchange Arena :=
  (Marshal.outcome (Marshal.ofBuffer roomy) (Arena.Chronicle.exchange [])).2

/-- The slot behind the elements is not read, and a copy of the view is as long as the elements. -/
theorem views_agree_with_buffer_of_roomy :
    roomy.Arises ∧ roomyBridge.buffers.get? 0 = some roomy ∧
    (Call.bufferAsArray (some 0) roomyBridge).result.1 = some 0 ∧
    (roomy.view ⟨.buffer 0, 0⟩).byteLength = 4 ∧
    (roomy.view ⟨.buffer 0, 0⟩).elementBytes
      ((roomy.view ⟨.buffer 0, 0⟩).region roomyBridge.regions) [2] = .error (Fault.index 2 2) ∧
    (∃ copy, (@Descriptor.toOwned (roomy.view ⟨.buffer 0, 0⟩) (Allocator.bounded 64)
        ((roomy.view ⟨.buffer 0, 0⟩).region roomyBridge.regions)).run.result = .ok copy ∧
      copy.block.take copy.byteLength = [5, 6, 7, 8]) ∧
    (∃ copied, (@copy roomy (Allocator.bounded 64)).run.result = .ok copied ∧
      copied.bytes = [5, 6, 7, 8]) ∧
    Marshal.outcome (Marshal.ofBuffer roomy) (Arena.Chronicle.exchange []) =
      (.ok ⟨3, 0⟩, roomyHost) ∧
    ∃ copied, (Marshal.outcome (@Marshal.toBuffer Arena Ref _ (Allocator.bounded 64)
        (fun _ => roomyHost.host.storage ⟨3, 0⟩) ⟨3, 0⟩) roomyHost).1 = .ok copied ∧
      copied.bytes = [5, 6, 7, 8] := by
  have harises : roomy.Arises := .made reachable_of_refusals
  obtain ⟨⟨made, -, -, hcall⟩, hseen, -, hbehind, howned, hcopied, hreturned⟩ :=
    @views_agree_with_buffer roomy harises roomyBridge 0 rfl
  refine ⟨harises, rfl, ?_, hseen.byteLength, (hbehind 2 le_rfl).2, ?_, ?_, rfl, ?_⟩
  · rw [hcall]
    rfl
  · refine ⟨_, rfl, ?_⟩
    exact (@howned (Allocator.bounded 64) _ rfl).2.2.2.2
  · have hcopy : ∃ copied, (@copy roomy (Allocator.bounded 64)).run.result = .ok copied :=
      ⟨roomy, by decide +kernel⟩
    obtain ⟨copied, hcopy⟩ := hcopy
    exact ⟨copied, hcopy, (@hcopied (Allocator.bounded 64) copied hcopy).2⟩
  · have hvalue : roomyHost.host.value? ⟨3, 0⟩ = some (.array roomy.hostArray) := rfl
    have hcount : roomy.hostArray.shape.count? = some 2 := by decide
    have hrank := (Shape.length_denseStrides [2] Kind.int16.width .rowMajor).symm
    have hblock : @Obtainable (Allocator.bounded 64) roomy.hostArray.kind
        (grownCapacity roomyHost.settings.current.1.defaultCapacity 2) := by decide +kernel
    obtain ⟨copied, hok⟩ := (@HostArray.exists_buffer_iff (Allocator.bounded 64) roomyHost
      (fun _ => roomyHost.host.storage ⟨3, 0⟩) ⟨3, 0⟩ _ 2 hvalue rfl hcount hrank).mpr hblock
    have hback := @hreturned (Allocator.bounded 64) (Arena.Chronicle.exchange []) _ _ _ copied
      .empty rfl rfl hok
    exact ⟨copied, hok, hback.2.2⟩

end HostBridge.Buffer
