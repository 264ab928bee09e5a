import HostBridge.Proofs.Buffer.Course
import HostBridge.Proofs.Buffer.Elements
import HostBridge.Proofs.Session.Memory

/-!
# Calls that alias their own buffer

Native code may pass a pointer into the block of a buffer to a call that moves the elements of that
very block or gives the block back, and it may append a buffer to itself. The element is read, or
the buffer copied, before anything is changed, so such a call does what it does for memory of the
caller.

## Main definitions

* `Call.Replaced`: a call succeeded and left given elements in a buffer;
* `Call.OutOfMemory`: a call lacked memory and changed nothing.

## Main results

* `Operand.load_element`: the address of an element leads to its bytes;
* `Call.result_update`: how a call ends that gives a buffer new elements;
* `Session.allocated_of_live`: the block of a live buffer has been obtained before;
* `Session.tolerates_self_aliasing`: the calls on a buffer with its own elements or with itself.
-/

namespace HostBridge

/-- The address of an element leads to its bytes. -/
theorem Operand.load_element {bridge : Bridge} {handle index : Nat} {buffer : Buffer}
    {element : Bytes} (hlive : bridge.buffers.get? handle = some buffer) (hsound : buffer.Sound)
    (helement : buffer.elements[index]? = some element) :
    (address ⟨.buffer handle, (index * buffer.kind.width : Nat)⟩).load bridge buffer.kind.width =
      element := by
  have hindex : index < buffer.length := by
    rw [← hsound.length_elements]
    exact (List.getElem?_eq_some_iff.mp helement).1
  -- the whole slot lies inside the block, so the window is not read as zeros
  have hslot : (index + 1) * buffer.kind.width ≤ buffer.block.length :=
    (Nat.mul_le_mul_right _ hindex).trans hsound.length_le_block
  have hinside : Bytes.Inside buffer.block.length (index * buffer.kind.width : Nat)
      buffer.kind.width := by
    rw [Nat.succ_mul] at hslot
    exact ⟨Int.natCast_nonneg _, by exact_mod_cast hslot⟩
  simp only [load, Bridge.load, Bridge.regions, hlive, Option.map_some, Option.getD_some,
    Bytes.window, if_pos hinside, Int.toNat_natCast]
  exact hsound.slice_slot helement

namespace Call

/-- A call on the buffer behind `handle` answered `answer` and recorded success. All else that it
changed is that buffer, which holds `items` now; its capacity has grown if their number asks for
it. -/
def Replaced {α : Type} (bridge : Bridge) (handle : Nat) (buffer : Buffer) (items : List Bytes)
    (answer : α) (outcome : α × Bridge) : Prop :=
  ∃ next : Buffer,
    outcome = (answer,
      { bridge with buffers := bridge.buffers.set handle next, lastError := {} }) ∧
    next.kind = buffer.kind ∧
    next.capacity = Buffer.grownCapacity buffer.capacity items.length ∧
    next.elements = items

/-- A call lacked memory, and changed nothing but the last error. -/
def OutOfMemory (bridge : Bridge) (outcome : Int × Bridge) : Prop :=
  ∃ message : String,
    outcome = (Category.allocation.code,
      { bridge with lastError := ⟨Category.allocation.code, message⟩ })

section Live

variable {bridge : Bridge} {handle : Nat} {buffer : Buffer}

/-- What an edit leaves behind depends on the outcome, not on the way there. -/
theorem result_update_congr {edit other : Buffer.Edit Unit}
    (hlive : bridge.buffers.get? handle = some buffer) (hatomic : edit.Atomic)
    (hother : other.Atomic)
    (h : (edit.made buffer).run.result = (other.made buffer).run.result) :
    (update handle buffer edit bridge).result = (update handle buffer other bridge).result := by
  cases hresult : (other.made buffer).run.result with
  | error fault =>
    rw [update_of_error hlive hatomic (h.trans hresult), update_of_error hlive hother hresult]
  | ok next => rw [update_of_ok (h.trans hresult), update_of_ok hresult]

/-- A call that gives a buffer new elements succeeds, unless a block that they need cannot be
had. -/
theorem result_update {edit : Buffer.Edit Unit} {starved : Prop} {items : List Bytes}
    (hlive : bridge.buffers.get? handle = some buffer) (hatomic : edit.Atomic)
    (hgives : Buffer.Gives (edit.made buffer).run.result starved items)
    (hmoves : buffer.Moves (edit.made buffer))
    (hsettles : Buffer.Settles buffer.capacity (edit.made buffer)) :
    (starved → OutOfMemory bridge (update handle buffer edit bridge).result) ∧
      (¬starved →
        Replaced bridge handle buffer items 0 (update handle buffer edit bridge).result) := by
  unfold Buffer.Moves at hmoves
  rcases hresult : (edit.made buffer).run.result with fault | next
  · rw [hresult] at hgives
    refine ⟨fun _ => ⟨fault.message, ?_⟩, fun hfed => absurd hgives.1 hfed⟩
    rw [update_of_error hlive hatomic hresult, hgives.2]
  · rw [hresult] at hgives hmoves
    refine ⟨fun hstarved => absurd hstarved hgives.1, fun _ => ?_⟩
    refine ⟨next, by rw [update_of_ok hresult], hmoves.kind_eq, ?_, hgives.2⟩
    rw [hsettles next hresult, ← hmoves.sound.length_elements, hgives.2]

variable (hlive : bridge.buffers.get? handle = some buffer)
include hlive

theorem result_bufferElementAt {index : Nat} (hindex : index < buffer.length) :
    (bufferElementAt (some handle) index bridge).result =
      (some ⟨.buffer handle, (index * buffer.kind.width : Nat)⟩,
        { bridge with lastError := {} }) := by
  simp only [bufferElementAt, buffer?_bind, Store.named?_of_get? hlive, if_pos hindex]
  rfl

theorem bufferInsert_of_live [Allocator] (index : Nat) (operand : Operand) :
    bufferInsert (some handle) index (some operand) bridge =
      update handle buffer
        (Buffer.Edit.insert index (operand.load bridge buffer.kind.width)) bridge := by
  simp only [bufferInsert, buffer?_bind, Store.named?_of_get? hlive]
  rfl

theorem bufferAppend_of_live [Allocator] {other : Nat} {appended : Buffer}
    (hother : bridge.buffers.get? other = some appended) :
    bufferAppend (some handle) (some other) bridge =
      update handle buffer
        (if handle = other then Buffer.Edit.appendCopy else Buffer.Edit.append appended)
        bridge := by
  simp only [bufferAppend, buffer?_bind, Store.named?_of_get? hlive, Store.named?_of_get? hother]

theorem result_bufferRemoveValue {operand : Operand} {there : Bool} {next : Buffer}
    (h : buffer.removeValue (operand.load bridge buffer.kind.width) = .ok (there, next))
    (removed : Option Outlet) :
    (bufferRemoveValue (some handle) (some operand) removed bridge).result =
      (0, Bridge.tell { bridge with buffers := bridge.buffers.set handle next, lastError := {} }
        removed there) := by
  obtain ⟨_, houtcome, hpair⟩ := Fault.map_eq_ok h
  obtain ⟨rfl, hleft⟩ := Prod.mk.inj hpair
  simp only [bufferRemoveValue, buffer?_bind, Store.named?_of_get? hlive, element?_bind,
    Option.map_some, result_bind, editBuffer_eq]
  rw [houtcome, hleft]
  cases removed <;> rfl

theorem result_bufferFindFirst {operand : Operand} {first : Nat}
    (h : buffer.findFirst (operand.load bridge buffer.kind.width) = .ok (some first)) :
    (bufferFindFirst (some handle) (some operand) bridge).result =
      ((first : Int), { bridge with lastError := {} }) := by
  simp only [bufferFindFirst, buffer?_bind, Store.named?_of_get? hlive, element?_bind,
    Option.map_some, h]
  rfl

theorem result_bufferCount {operand : Operand} {number : Nat}
    (h : buffer.countEqual (operand.load bridge buffer.kind.width) = .ok number) :
    (bufferCount (some handle) (some operand) bridge).result =
      ((number : Int), { bridge with lastError := {} }) := by
  simp only [bufferCount, buffer?_bind, Store.named?_of_get? hlive, element?_bind, Option.map_some,
    h]
  rfl

end Live

/-! ## Calls with an element of the buffer itself -/

section OwnElement

variable {bridge : Bridge} {handle : Nat} {buffer : Buffer} {operand : Operand} {element : Bytes}
  (hlive : bridge.buffers.get? handle = some buffer) (hsound : buffer.Sound)
  (hload : operand.load bridge buffer.kind.width = element) (hmem : element ∈ buffer.elements)
include hlive hsound hload hmem

theorem inserted_of_mem [Allocator] {index : Nat} (hindex : index ≤ buffer.length) :
    (buffer.Starved (buffer.length + 1) → OutOfMemory bridge
      (bufferInsert (some handle) index (some operand) bridge).result) ∧
    (¬buffer.Starved (buffer.length + 1) →
      Replaced bridge handle buffer (buffer.elements.insertIdx index element) 0
        (bufferInsert (some handle) index (some operand) bridge).result) := by
  have hgives := hsound.insert_gives (buffer.uniform_elements element hmem) hindex
  rw [bufferInsert_of_live hlive, hload]
  exact result_update hlive (Buffer.Edit.atomic_insert _ _) hgives (Buffer.moves_insert hsound _ _)
    (Buffer.settles_insert _ _)

theorem removed_of_mem :
    ∃ after, Replaced bridge handle buffer (buffer.elements.erase element) 0 (0, after) ∧
      ∀ removed, (bufferRemoveValue (some handle) (some operand) removed bridge).result =
        (0, after.tell removed true) := by
  obtain ⟨next, hremove, helements⟩ := hsound.removeValue_of_mem hmem
  have hmoves := Buffer.moves_removeValue hsound element
  rw [hremove] at hmoves
  -- fewer elements than before need no room
  have hfewer : (buffer.elements.erase element).length < buffer.capacity := by
    rw [List.length_erase_of_mem hmem, hsound.length_elements]
    exact (Nat.sub_le _ _).trans_lt hsound.spare
  refine ⟨_, ⟨next, rfl, hmoves.kind_eq, ?_, helements⟩,
    result_bufferRemoveValue hlive (hload ▸ hremove)⟩
  rw [Buffer.grownCapacity_of_lt hfewer]
  exact Buffer.capacity_of_removeValue hremove

end OwnElement

/-! ## A buffer appended to itself -/

section Itself

variable [Allocator] {bridge : Bridge} {handle : Nat} {buffer : Buffer}
  (hlive : bridge.buffers.get? handle = some buffer) (hsound : buffer.Sound)
  (hblock : Buffer.Obtainable buffer.kind buffer.capacity)
include hlive hsound hblock

/-- If the copy can be had, its elements are appended as those of any other buffer are. -/
theorem appended_of_self :
    (buffer.Starved (buffer.length + buffer.length) → OutOfMemory bridge
      (bufferAppend (some handle) (some handle) bridge).result) ∧
    (¬buffer.Starved (buffer.length + buffer.length) →
      Replaced bridge handle buffer (buffer.elements ++ buffer.elements) 0
        (bufferAppend (some handle) (some handle) bridge).result) := by
  have hgives := hsound.append_gives hsound rfl
  rw [← hsound.result_appendCopy hblock] at hgives
  rw [bufferAppend_of_live hlive hlive, if_pos rfl]
  exact result_update hlive Buffer.Edit.atomic_appendCopy hgives (Buffer.moves_appendCopy hsound)
    Buffer.settles_appendCopy

theorem result_bufferAppend_of_same {other : Nat} {appended : Buffer} (hne : other ≠ handle)
    (hother : bridge.buffers.get? other = some appended) (happended : appended.Sound)
    (hkind : appended.kind = buffer.kind) (helements : appended.elements = buffer.elements) :
    (bufferAppend (some handle) (some other) bridge).result =
      (bufferAppend (some handle) (some handle) bridge).result := by
  have hbytes : appended.bytes = buffer.bytes := by
    rw [← happended.flatten_elements, helements, hsound.flatten_elements]
  rw [bufferAppend_of_live hlive hother, if_neg hne.symm, bufferAppend_of_live hlive hlive,
    if_pos rfl]
  refine result_update_congr hlive (Buffer.Edit.atomic_append _) Buffer.Edit.atomic_appendCopy ?_
  have hsame : buffer.append appended = buffer.append buffer := Buffer.append_congr hkind hbytes
  exact (congrArg (fun run : Attempt Buffer => run.run.result) hsame).trans
    (hsound.result_appendCopy hblock).symm

end Itself

end Call

/-! ## Sessions -/

namespace Session

variable {bridge : Bridge} {trace : List Event} {handle : Nat} {buffer : Buffer}

/-- The block of a buffer that is alive has been obtained before. -/
theorem allocated_of_live (h : Session bridge trace)
    (hlive : bridge.buffers.get? handle = some buffer) :
    Event.allocated Buffer.entity buffer.blockSize ∈ trace := by
  obtain ⟨others, htotal, -⟩ :=
    h.orderly.buffers_valid.total_split hlive fun buffer => {buffer.charge}
  have hbooks : Account.obtained trace = Account.returned trace + bridge.held := by
    simpa using h.balanced.total
  -- what is held has been obtained, and only an allocation obtains
  have hcharge : buffer.charge ∈ Account.obtained trace := by
    simp [hbooks, Bridge.held, htotal]
  obtain ⟨event, hevent, hobtained⟩ := List.mem_filterMap.mp (Multiset.mem_coe.mp hcharge)
  rcases event <;> cases hobtained
  exact hevent

/-- The calls on a buffer tolerate its own elements, and the buffer itself, as their arguments. -/
theorem tolerates_self_aliasing [Allocator] (h : Session bridge trace)
    (hlive : bridge.buffers.get? handle = some buffer) :
    let pointed := { bridge with lastError := {} }
    (∀ index element, buffer.elements[index]? = some element →
      ∃ address, (Call.bufferElementAt (some handle) index bridge).result =
        (some address, pointed) ∧
        let operand := some (Operand.address address)
        -- The element is inserted as it was before the call, wherever it stands and whether or not
        -- the buffer has to grow.
        (∀ target ≤ buffer.length,
          let outcome := (Call.bufferInsert (some handle) target operand pointed).result
          (buffer.Starved (buffer.length + 1) → Call.OutOfMemory bridge outcome) ∧
          (¬buffer.Starved (buffer.length + 1) →
            Call.Replaced bridge handle buffer (buffer.elements.insertIdx target element)
              0 outcome)) ∧
        -- The first element that is equal to it is removed, and this is told.
        (∃ after, Call.Replaced bridge handle buffer (buffer.elements.erase element) 0 (0, after) ∧
          ∀ removed, (Call.bufferRemoveValue (some handle) operand removed pointed).result =
            (0, after.tell removed true)) ∧
        -- It is found where it first occurs, and counted.
        (∃ first : Nat, first ≤ index ∧
          (Call.bufferFindFirst (some handle) operand pointed).result = ((first : Int), pointed) ∧
          buffer.elements[first]? = some element ∧ element ∉ buffer.elements.take first) ∧
        1 ≤ buffer.elements.count element ∧
        (Call.bufferCount (some handle) operand pointed).result =
          ((buffer.elements.count element : Int), pointed)) ∧
    -- If blocks can be had again of the sizes that could be had before, a buffer can be appended to
    -- itself, with the same result as another buffer with these elements.
    ((∀ size, Event.allocated Buffer.entity size ∈ trace → Allocator.grants size = true) →
      let outcome := (Call.bufferAppend (some handle) (some handle) bridge).result
      (buffer.Starved (buffer.length + buffer.length) → Call.OutOfMemory bridge outcome) ∧
      (¬buffer.Starved (buffer.length + buffer.length) →
        Call.Replaced bridge handle buffer (buffer.elements ++ buffer.elements) 0 outcome) ∧
      ∀ other appended, other ≠ handle → bridge.buffers.get? other = some appended →
        appended.kind = buffer.kind → appended.elements = buffer.elements →
        (Call.bufferAppend (some handle) (some other) bridge).result = outcome) := by
  have hsound : buffer.Sound := h.orderly.sound _ (Store.mem_of_get? hlive)
  refine ⟨fun index element helement => ?_, fun hmemory => ?_⟩
  · have hmem : element ∈ buffer.elements := List.mem_of_getElem? helement
    have hindex : index < buffer.length := by
      rw [← hsound.length_elements]
      exact (List.getElem?_eq_some_iff.mp helement).1
    -- the pointer is used in a state that differs from the one it was taken in by the last error
    -- only
    have hpointed :
        ({ bridge with lastError := {} } : Bridge).buffers.get? handle = some buffer := hlive
    have hload := Operand.load_element hpointed hsound helement
    refine ⟨_, Call.result_bufferElementAt hlive hindex, ?_, ?_, ?_, ?_, ?_⟩
    · intro target htarget
      exact Call.inserted_of_mem hpointed hsound hload hmem htarget
    · exact Call.removed_of_mem hpointed hsound hload hmem
    · obtain ⟨first, hfirst, hoccurs, hbefore, hfind⟩ := Buffer.findFirst_of_getElem? helement
      exact ⟨first, hfirst, Call.result_bufferFindFirst hpointed (hload ▸ hfind), hoccurs, hbefore⟩
    · exact List.count_pos_iff.mpr hmem
    · have hcount := Buffer.countEqual_eq (buffer.uniform_elements element hmem)
      exact Call.result_bufferCount hpointed (hload ▸ hcount)
  · have hblock : Buffer.Obtainable buffer.kind buffer.capacity :=
      ⟨hsound.addressable, hmemory _ (h.allocated_of_live hlive)⟩
    obtain ⟨hstarved, hfed⟩ := Call.appended_of_self hlive hsound hblock
    refine ⟨hstarved, hfed, fun other appended hne hother hkind helements => ?_⟩
    have happended : appended.Sound := h.orderly.sound _ (Store.mem_of_get? hother)
    exact Call.result_bufferAppend_of_same hlive hsound hblock hne hother happended hkind helements

/-- Three elements and their copy. The last element is inserted in front of the buffer that it
belongs to, which has to grow for it; and the buffer is appended to itself. -/
theorem tolerates_self_aliasing_of_copy :
    let _ : Allocator := .bounded 1024
    let create := Action.call (.bufferCreate 2 (some [1, 0, 2, 0, 3, 0]) 3)
    let copy := Action.call (.bufferCopy (some 0))
    let first := create.perform (Bridge.start ⟨[], none⟩)
    let second := copy.perform first.result.2
    let bridge := second.result.2
    let buffer : Buffer := ⟨.int16, 3, 4, [1, 0, 2, 0, 3, 0, 0, 0]⟩
    Session bridge (first.events ++ second.events) ∧ bridge.buffers.get? 0 = some buffer ∧
      (∃ address, (Call.bufferElementAt (some 0) 2 bridge).result.1 = some address ∧
        Call.Replaced bridge 0 buffer [[3, 0], [1, 0], [2, 0], [3, 0]] 0
          (Call.bufferInsert (some 0) 0 (some (.address address))
            { bridge with lastError := {} }).result) ∧
      Call.Replaced bridge 0 buffer [[1, 0], [2, 0], [3, 0], [1, 0], [2, 0], [3, 0]] 0
        (Call.bufferAppend (some 0) (some 0) bridge).result ∧
      (Call.bufferAppend (some 0) (some 1) bridge).result =
        (Call.bufferAppend (some 0) (some 0) bridge).result := by
  intro _ create copy first second bridge buffer
  have hsession : Session bridge (first.events ++ second.events) :=
    ((start ⟨[], none⟩).step create).step copy
  have hlive : bridge.buffers.get? 0 = some buffer := by decide +kernel
  have hcopied : bridge.buffers.get? 1 = some buffer := by decide +kernel
  have helements : buffer.elements = [[1, 0], [2, 0], [3, 0]] := by decide +kernel
  have htrace : first.events ++ second.events = [.allocated Buffer.entity 8,
      .bufferCreated .int16 3 4, .allocated Buffer.entity 8] := by decide +kernel
  obtain ⟨hpointer, hself⟩ := tolerates_self_aliasing hsession hlive
  obtain ⟨address, haddress, hinsert, -⟩ := hpointer 2 [3, 0] (by decide +kernel)
  have hmemory : ∀ size, Event.allocated Buffer.entity size ∈ first.events ++ second.events →
      Allocator.grants size = true := by
    rw [htrace]
    intro size hsize
    have height : size = 8 := by simpa using hsize
    rw [height]
    decide
  obtain ⟨-, hdoubled, hother⟩ := hself hmemory
  rw [helements] at hinsert hdoubled
  refine ⟨hsession, hlive, ⟨address, by rw [haddress], ?_⟩, ?_, ?_⟩
  · exact (hinsert 0 (Nat.zero_le _)).2 (by decide +kernel)
  · exact hdoubled (by decide +kernel)
  · exact hother 1 buffer (by decide) hcopied rfl rfl

end Session

end HostBridge
