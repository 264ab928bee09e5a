import HostBridge.Proofs.Arena.Creation
import HostBridge.Proofs.Marshal.RoundTrip
import HostBridge.Proofs.Session.LastError
import HostBridge.Proofs.Value

/-!
# Views of one storage

An array object is seen from several sides. The host reads the storage from the first element on, a
view reads it at a stride for each axis, and a buffer or a new array object is a copy of what is
read there. All of them begin from other positions of the same bytes: what is written on one side is
seen on the others, and since strides may be negative, zero or smaller than an element, one write
may show at many indices.

## Main definitions

* `HostArray.ViewedBy`: a view of an array object, whenever it was obtained;
* `Bridge.Exposes`: everyone who can see an array object sees the same storage;
* `Bridge.Rewrites`: the storage of one array object is replaced and nothing else.

## Main results

* `HostArray.Accepted.exposes`: an accepted array object is seen alike from all sides;
* `Bridge.rewrites_setStorage`: and so it is after its storage was replaced;
* `Bridge.views_alias_storage`: which bytes a write through a view replaces, and who sees it.
-/

namespace HostBridge

/-! ## Views of an array object -/

namespace Marshal

/-- A conversion succeeds whether or not its argument is named. -/
theorem named_eq_ok {H α : Type} {argument : String} {run : Marshal H α} {exchange : Exchange H}
    {result : α} (h : (outcome (named argument run) exchange).1 = .ok result) :
    (outcome run exchange).1 = .ok result := by
  rw [outcome_named] at h
  cases hrun : (outcome run exchange).1 with
  | ok found =>
    rw [hrun] at h
    exact h
  | error fault =>
    rw [hrun] at h
    cases h

/-- A view for a named argument borrows the storage as any other does. -/
theorem extract_eq_ok {exchange : Exchange Arena} {ref : Ref} {argument : String} {rank : Nat}
    {kind : Kind} {view : Descriptor}
    (h : (outcome (extract ref argument rank kind) exchange).1 = .ok view) :
    ∃ array length, exchange.host.value? ref = some (.array array) ∧
      array.shape.count? = some length ∧ view = array.view ref length := by
  rw [extract, outcome_bind] at h
  rcases hinfo : outcome (named argument (arrayInfo ref)) exchange with ⟨_ | info, after⟩
  · rw [hinfo] at h
    cases h
  have hfound : (outcome (arrayInfo ref) exchange).1 = .ok info :=
    named_eq_ok (congrArg Prod.fst hinfo)
  rw [hinfo] at h
  simp only at h
  split at h
  · cases h
  split at h
  · cases h
  · exact view_of_report (arrayInfo_eq_ok (Prod.ext hfound rfl)) (named_eq_ok h)

end Marshal

namespace HostArray

variable {array : HostArray} {ref : Ref} {view : Descriptor} {length : Nat}

/-- The bytes of the element at an index. -/
def element (array : HostArray) (index : Index) : Bytes :=
  array.storage.slice (array.offset + array.strides.offset index).toNat array.kind.width

/-- The elements at every index, the last coordinate varying fastest. -/
def contents (array : HostArray) : List Bytes := array.shape.indices.map array.element

/-- A view of an array object, obtained with or without an argument to name. The storage may have
held other bytes at the time. -/
def ViewedBy (array : HostArray) (ref : Ref) (view : Descriptor) : Prop :=
  ∃ (before : Exchange Arena) (storage : Bytes),
    before.host.value? ref = some (.array { array with storage }) ∧
      ((Marshal.outcome (Marshal.toDescriptor ref) before).1 = .ok view ∨
        ∃ argument rank kind,
          (Marshal.outcome (Marshal.extract ref argument rank kind) before).1 = .ok view)

/-- All views of an array object are the same. -/
theorem ViewedBy.eq_view (h : array.ViewedBy ref view) :
    ∃ length, array.shape.count? = some length ∧ view = array.view ref length := by
  obtain ⟨before, storage, hvalue, hview⟩ := h
  have hmade : ∃ found length, before.host.value? ref = some (.array found) ∧
      found.shape.count? = some length ∧ view = found.view ref length := by
    rcases hview with hview | ⟨argument, rank, kind, hview⟩
    · exact Marshal.toDescriptor_eq_ok hview
    · exact Marshal.extract_eq_ok hview
  obtain ⟨found, length, hfound, hcount, rfl⟩ := hmade
  rw [hvalue] at hfound
  cases hfound
  exact ⟨length, hcount, rfl⟩

/-- What a view gathers from the storage are the elements of the object. -/
theorem Accepted.elements_view (h : array.Accepted) (ref : Ref)
    (hcount : array.shape.count? = some length) :
    (array.view ref length).elements array.storage = array.contents := by
  refine List.map_congr_left fun index hindex => ?_
  have hcontains := Shape.mem_indices_iff.mp hindex
  have hbytes := ((h.fits hcount).reaches h.storage_lt ref length hcontains).elementBytes_eq
  rw [Descriptor.elementBytes_of_contains hcontains] at hbytes
  exact Except.ok.inj hbytes

end HostArray

/-! ## Who sees the storage -/

/-- An array object is seen alike by its host, through its views and in copies of it. -/
structure Bridge.Exposes (bridge : Bridge) (ref : Ref) (array : HostArray) : Prop where
  /-- The object is there. -/
  value : bridge.host.value? ref = some (.array array)
  /-- The host reads its storage from the first element on. -/
  bytes : bridge.host.arrayBytes? ref = some (array.storage.drop array.offset)
  /-- Every view reads the bytes of the elements, and the values that they stand for. -/
  element : ∀ view index, array.ViewedBy ref view → array.shape.Contains index →
    view.elementBytes (view.region bridge.regions) index = .ok (array.element index) ∧
      view.read (view.region bridge.regions) array.kind index =
        .ok (Value.decode array.kind (array.element index))
  /-- A buffer is made of all elements along its only axis, and holds them. -/
  buffer : ∀ [Allocator] length, array.shape.count? = some length → array.shape.length = 1 →
    (Marshal.outcome (Marshal.toBuffer bridge.regions ref) bridge.toExchange).1 =
        (Buffer.create bridge.settings.current.1.defaultCapacity array.kind
          array.contents.flatten).run.result ∧
      ∀ buffer,
        (Marshal.outcome (Marshal.toBuffer bridge.regions ref) bridge.toExchange).1 = .ok buffer →
          buffer.elements = array.contents
  /-- A new array object is made of the elements that a view reads. -/
  copy : ∀ view, array.ViewedBy ref view →
    (Marshal.ofDescriptor bridge.regions view : Marshal Arena Ref) =
      Marshal.timed "from_array_descriptor"
        (Marshal.newArray array.shape array.kind array.contents.flatten)

/-- A view of an array object lies in its storage. -/
theorem Bridge.regions_object {bridge : Bridge} {ref : Ref} {array : HostArray}
    (hvalue : bridge.host.value? ref = some (.array array)) :
    bridge.regions (.object ref) = array.storage := by
  show bridge.host.storage ref = _
  rw [Arena.storage, hvalue]

/-- An accepted array object is seen alike from all sides. -/
theorem HostArray.Accepted.exposes {array : HostArray} (h : array.Accepted) {bridge : Bridge}
    {ref : Ref} (hvalue : bridge.host.value? ref = some (.array array)) :
    bridge.Exposes ref array := by
  have hregion := Bridge.regions_object hvalue
  -- both kinds of copies are made of what a view gathers
  have hgather (length : Nat) (hcount : array.shape.count? = some length) :
      (array.view ref length).gather (bridge.regions (.object ref)) = array.contents.flatten := by
    rw [hregion, Descriptor.gather, h.elements_view ref hcount]
  refine ⟨hvalue, ?_, ?_, ?_, ?_⟩
  · rw [Arena.arrayBytes?, hvalue]
    rfl
  · intro view index hview hindex
    obtain ⟨length, hcount, rfl⟩ := hview.eq_view
    have hbytes : (array.view ref length).elementBytes
        ((array.view ref length).region bridge.regions) index = .ok (array.element index) := by
      show (array.view ref length).elementBytes (bridge.regions (.object ref)) index = _
      rw [hregion]
      exact ((h.fits hcount).reaches h.storage_lt ref length hindex).elementBytes_eq
    exact ⟨hbytes, Descriptor.read_of_elementBytes hbytes⟩
  · intro _ length hcount hone
    have hrank := (h.fits hcount).rank_eq
    refine ⟨?_, ?_⟩
    · rw [outcome_toBuffer_of_row hvalue hone hcount hrank, hgather length hcount]
    · intro buffer hbuffer
      obtain ⟨-, -, -, -, helements⟩ := buffer_of_row hvalue hone hcount hrank hbuffer
      rw [helements, hregion, h.elements_view ref hcount]
  · intro view hview
    obtain ⟨length, hcount, rfl⟩ := hview.eq_view
    show Marshal.timed "from_array_descriptor" (Marshal.newArray array.shape array.kind
      ((array.view ref length).gather (bridge.regions (.object ref)))) = _
    rw [hgather length hcount]

/-! ## Writes and endings of views -/

namespace Call

variable {bridge : Bridge} {handle : Nat}

theorem withArray_of_live {array : Descriptor} (h : bridge.arrays.get? handle = some array)
    (next : Descriptor → Call Unit) : withArray handle next bridge = next array bridge := by
  have hget (rest : Bridge → Call Unit) : (get >>= rest) bridge = rest bridge bridge := rfl
  rw [withArray, hget, h]

/-- A change that fails leaves everything as it is. -/
theorem editArray_of_error {change : Bridge → Except Fault (Descriptor × Bridge)} {fault : Fault}
    (h : change bridge = .error fault) : (editArray handle change bridge).result.2 = bridge := by
  rw [editArray, result_modify, h]

end Call

/-- The three ways to let go of an array behind a handle. -/
def Action.endings (handle : Nat) : List Action :=
  [.releaseArray handle, .destroyArray handle, .call (.arrayDestroy (some handle))]

namespace Bridge

variable {bridge : Bridge} {ref : Ref} {array : HostArray} {view : Descriptor}

/-- The storage of one array object is replaced, which everyone sees, and nothing else changes. -/
structure Rewrites (bridge : Bridge) (ref : Ref) (array : HostArray) (storage : Bytes)
    (after : Bridge) : Prop where
  /-- The object has the new storage, for everyone who can see it. -/
  exposes : after.Exposes ref { array with storage }
  /-- All other objects are as they were. -/
  others : ∀ other, other ≠ ref → after.host.value? other = bridge.host.value? other
  /-- There are as many references to each object. -/
  refcount : ∀ other, after.host.refcount? other = bridge.host.refcount? other
  /-- There are as many live objects. -/
  live : after.host.live = bridge.host.live
  /-- The limit stays. -/
  limit : after.host.limit = bridge.host.limit
  /-- The pending exception stays. -/
  error : after.host.error = bridge.host.error
  /-- So does everything outside the host: blocks, buffers, arrays, statistics and settings. -/
  outside : after = { bridge with host := after.host }

/-- Storage of the same size takes the place of the storage of an accepted array object. -/
theorem rewrites_setStorage (haccepted : array.Accepted)
    (hvalue : bridge.host.value? ref = some (.array array)) {storage : Bytes}
    (hlength : storage.length = array.storage.length) :
    bridge.Rewrites ref array storage
      { bridge with host := bridge.host.setStorage ref storage } := by
  obtain ⟨slot, hslot, hnext⟩ := Arena.setStorage_of_array hvalue storage
  -- one slot changes, and what changes in it is the value: the count and the generation stay
  have hslots (other : Ref) : (bridge.host.setStorage ref storage).slot? other =
      if other = ref then some { slot with value := some (.array { array with storage }) }
      else bridge.host.slot? other := by
    refine Arena.slot?_set hslot ?_ ?_ (congrArg Arena.slots hnext) other <;> rfl
  have hothers (other : Ref) (hother : other ≠ ref) :
      (bridge.host.setStorage ref storage).slot? other = bridge.host.slot? other := by
    rw [hslots, if_neg hother]
  have hself := hslots ref
  rw [if_pos rfl] at hself
  refine ⟨(haccepted.written hlength).exposes ?_, ?_, ?_, ?_, ?_, ?_, rfl⟩
  · rw [Arena.value?_eq, hself]
    rfl
  · intro other hother
    exact Arena.value?_congr (hothers other hother)
  · intro other
    by_cases hother : other = ref
    · rw [hother, Arena.refcount?, Arena.refcount?, hself, hslot]
      rfl
    · exact Arena.refcount?_congr (hothers other hother)
  all_goals rw [hnext]

/-- A write through a view replaces the bytes of one element. -/
theorem rewrites_writeElement (haccepted : array.Accepted)
    (hvalue : bridge.host.value? ref = some (.array array)) (hview : array.ViewedBy ref view)
    {index : Index} (hindex : array.shape.Contains index) (value : Value array.kind) :
    ∃ distance storage after, view.byteOffset index = .ok distance ∧ 0 ≤ array.offset + distance ∧
      array.storage.Patched (array.offset + distance).toNat (Value.encode array.kind value)
        storage ∧
      bridge.writeElement view array.kind index value = .ok (view, after) ∧
      bridge.Rewrites ref array storage after := by
  obtain ⟨length, hcount, rfl⟩ := hview.eq_view
  have hreaches := (haccepted.fits hcount).reaches haccepted.storage_lt ref length hindex
  have hregion : (array.view ref length).region bridge.regions = array.storage :=
    regions_object hvalue
  -- the value has as many bytes as the element, which lies inside
  have hinside : Bytes.Inside array.storage.length (array.offset + array.strides.offset index)
      (Value.encode array.kind value).length := by
    rw [Value.length_encode]
    exact hreaches.inside
  have hkind : ¬array.kind ≠ (array.view ref length).kind := not_not.mpr rfl
  have hpatched := Bytes.patched_setWindow hinside
  refine ⟨_, _, _, hreaches.byteOffset_eq, hinside.1, hpatched, ?_,
    rewrites_setStorage haccepted hvalue hpatched.length_eq⟩
  rw [writeElement, hregion, Descriptor.write, if_neg hkind, Descriptor.setElement,
    hreaches.byteOffset_eq]
  rfl

/-- Bytes that the host overwrites are replaced in the storage. -/
theorem rewrites_overwriteArray (haccepted : array.Accepted)
    (hvalue : bridge.host.value? ref = some (.array array)) {pos : Nat} {patch : Bytes}
    (hroom : pos + patch.length ≤ array.bytes.length) :
    ∃ storage, array.storage.Patched (array.offset + pos) patch storage ∧
      bridge.Rewrites ref array storage
        { bridge with host := bridge.host.overwriteArray ref pos patch } := by
  have hoffset := haccepted.offset_le
  rw [HostArray.bytes, List.length_drop] at hroom
  have hinside : Bytes.Inside array.storage.length (array.offset + pos : Nat) patch.length :=
    ⟨by omega, by omega⟩
  have hpatched := Bytes.patched_setWindow hinside
  rw [Int.toNat_natCast] at hpatched
  refine ⟨_, hpatched, ?_⟩
  -- the host writes by position and a view by storage, with the same effect on the arena
  have hsame : bridge.host.overwriteArray ref pos patch = bridge.host.setStorage ref
      (array.storage.setWindow (array.offset + pos : Nat) patch) := by
    simp only [Arena.overwriteArray, Arena.setStorage, hvalue, Nat.cast_add]
  rw [hsame]
  exact rewrites_setStorage haccepted hvalue hpatched.length_eq

/-- A write of another kind, or at an index that the array does not have, fails. -/
theorem writeElement_eq_error {kind : Kind} {index : Index} (value : Value kind)
    (h : kind ≠ view.kind ∨ ¬view.shape.Contains index) :
    ∃ fault, bridge.writeElement view kind index value = .error fault := by
  by_cases hkind : kind ≠ view.kind
  · rw [writeElement, Descriptor.write, if_pos hkind]
    exact ⟨_, rfl⟩
  have hindex := h.resolve_left hkind
  rw [writeElement, Descriptor.write, if_neg hkind, Descriptor.setElement]
  cases hoffset : view.byteOffset index with
  | ok distance => exact absurd (Descriptor.contains_of_byteOffset hoffset) hindex
  | error fault => exact ⟨fault, rfl⟩

/-- Whoever lets go of a view gives up its handle and nothing else. No memory is given back. -/
theorem result_of_ending [Allocator] {handle : Nat} {action : Action}
    (hview : array.ViewedBy ref view) (hheld : bridge.arrays.get? handle = some view)
    (haction : action ∈ Action.endings handle) :
    (action.perform bridge).result.2 = { bridge with arrays := bridge.arrays.erase handle } ∧
      ∀ entity size, Event.released entity size ∉ (action.perform bridge).events := by
  obtain ⟨length, -, rfl⟩ := hview.eq_view
  simp only [Action.endings, List.mem_cons, List.not_mem_nil, or_false] at haction
  rcases haction with rfl | rfl | rfl
  · rw [Action.perform, Call.withArray_of_live hheld]
    have hevents : (Call.dropArray handle (array.view ref length).release bridge).events = [] := rfl
    exact ⟨rfl, by simp [hevents]⟩
  · rw [Action.perform, Call.withArray_of_live hheld]
    have hevents : (Call.dropArray handle (array.view ref length).destroy bridge).events =
        [.arrayDestroyed array.kind true] := rfl
    exact ⟨rfl, by simp [hevents]⟩
  · have hnamed : bridge.arrays.named? (some handle) = some (handle, array.view ref length) :=
      Store.named?_eq_some.mpr ⟨rfl, hheld⟩
    have hrun : Call.arrayDestroy (some handle) bridge =
        ⟨((), { bridge with arrays := bridge.arrays.erase handle }),
          [.arrayHandleDestroyed, .arrayDestroyed array.kind true]⟩ := by
      rw [Call.arrayDestroy, Call.array?_bind, hnamed]
      rfl
    simp only [Action.perform, Call.only, Request.perform, Call.result_map, Call.events_map, hrun]
    exact ⟨trivial, by simp⟩

/-- Views of an array object alias its storage, whatever its strides. -/
theorem views_alias_storage (haccepted : array.Accepted)
    (hvalue : bridge.host.value? ref = some (.array array)) (hview : array.ViewedBy ref view) :
    -- A write at an index replaces the bytes of the element, and everyone sees the new storage.
    (∀ (index : Index) (value : Value array.kind), array.shape.Contains index →
      ∃ distance storage after, view.byteOffset index = .ok distance ∧ 0 ≤ array.offset + distance ∧
        (Value.encode array.kind value).length = array.kind.width ∧
        array.storage.Patched (array.offset + distance).toNat (Value.encode array.kind value)
          storage ∧
        bridge.writeElement view array.kind index value = .ok (view, after) ∧
        bridge.Rewrites ref array storage after) ∧
    -- Bytes that the host overwrites, counted from the first element, are seen by everyone as well.
    (∀ (pos : Nat) (patch : Bytes), pos + patch.length ≤ array.bytes.length →
      ∃ storage, array.storage.Patched (array.offset + pos) patch storage ∧
        bridge.Rewrites ref array storage
          { bridge with host := bridge.host.overwriteArray ref pos patch }) ∧
    -- A write of another kind, or at an index that the array does not have, changes nothing.
    (∀ (kind : Kind) (index : Index) (value : Value kind),
      kind ≠ array.kind ∨ ¬array.shape.Contains index →
        (∃ fault, bridge.writeElement view kind index value = .error fault) ∧
        ∀ [Allocator] (handle : Nat), bridge.arrays.get? handle = some view →
          ((Action.writeElement handle kind index value).perform bridge).result.2 = bridge) ∧
    -- To let go of the view changes nothing but its handle, and gives no memory back.
    ∀ [Allocator] (handle : Nat), bridge.arrays.get? handle = some view →
      ∀ action ∈ Action.endings handle,
        (action.perform bridge).result.2 = { bridge with arrays := bridge.arrays.erase handle } ∧
          ∀ entity size, Event.released entity size ∉ (action.perform bridge).events := by
  refine ⟨?_, ?_, ?_, ?_⟩
  · intro index value hindex
    obtain ⟨distance, storage, after, hoffset, hlow, hpatched, hwrite, hrewrites⟩ :=
      rewrites_writeElement haccepted hvalue hview hindex value
    exact ⟨distance, storage, after, hoffset, hlow, Value.length_encode array.kind value, hpatched,
      hwrite, hrewrites⟩
  · intro pos patch hroom
    exact rewrites_overwriteArray haccepted hvalue hroom
  · intro kind index value hwrong
    have hwrong' : kind ≠ view.kind ∨ ¬view.shape.Contains index := by
      obtain ⟨length, -, rfl⟩ := hview.eq_view
      exact hwrong
    obtain ⟨fault, hfault⟩ := bridge.writeElement_eq_error value hwrong'
    refine ⟨⟨fault, hfault⟩, ?_⟩
    intro _ handle hheld
    rw [Action.perform, Call.withArray_of_live hheld]
    exact Call.editArray_of_error hfault
  · intro _ handle hheld action haction
    exact result_of_ending hview hheld haction

/-- Three elements of two bytes, each of which shares a byte with the next. The first lies last. -/
def shingles : HostArray := .ofBytes .int16 [3] [-1] 2 [1, 2, 3, 4]

/-- The elements as an object of a host, with a view of it behind a handle. -/
def shingled : Bridge :=
  { start ⟨[], none⟩ with
    host := (Arena.empty.arrayFromParts .int16 [3] [-1] 2 [1, 2, 3, 4]).2
    arrays := (Store.empty.add (shingles.view ⟨3, 0⟩ 3)).2 }

/-- A write at the second index replaces the two bytes in the middle, which shows at all three. -/
theorem views_alias_storage_of_shingles :
    shingles.Accepted ∧ shingled.host.value? ⟨3, 0⟩ = some (.array shingles) ∧
    shingles.ViewedBy ⟨3, 0⟩ (shingles.view ⟨3, 0⟩ 3) ∧
    (∃ storage after, storage.slice 1 2 = [9, 8] ∧ storage[0]? = some 1 ∧ storage[3]? = some 4 ∧
      shingled.writeElement (shingles.view ⟨3, 0⟩ 3) .int16 [1] (2057 : Int16) =
        .ok (shingles.view ⟨3, 0⟩ 3, after) ∧
      shingled.Rewrites ⟨3, 0⟩ shingles storage after) ∧
    (∃ storage, storage.slice 2 1 = [7] ∧ shingled.Rewrites ⟨3, 0⟩ shingles storage
      { shingled with host := shingled.host.overwriteArray ⟨3, 0⟩ 0 [7] }) ∧
    (@Action.perform (Allocator.bounded 64) (.writeElement 0 .int16 [3] (2057 : Int16))
      shingled).result.2 = shingled ∧
    (@Action.perform (Allocator.bounded 64) (.destroyArray 0) shingled).result.2 =
      { shingled with arrays := shingled.arrays.erase 0 } := by
  have haccepted : shingles.Accepted :=
    @HostArray.Accepted.ofParts Arena.empty shingled.host ⟨3, 0⟩ .int16 [3] [-1] 2 [1, 2, 3, 4] rfl
      (by decide) (by decide)
  have hview : shingles.ViewedBy ⟨3, 0⟩ (shingles.view ⟨3, 0⟩ 3) :=
    ⟨shingled.toExchange, shingles.storage, rfl, Or.inl rfl⟩
  have hindex : shingles.shape.Contains [1] := .cons (by decide) .nil
  have hbeyond : ¬shingles.shape.Contains [3] := by
    rintro (_ | ⟨hlt, -⟩)
    exact absurd hlt (by decide)
  obtain ⟨hwrite, hoverwrite, hfail, hend⟩ := @views_alias_storage shingled ⟨3, 0⟩ shingles
    (shingles.view ⟨3, 0⟩ 3) haccepted rfl hview
  refine ⟨haccepted, rfl, hview, ?_, ?_, ?_, ?_⟩
  · obtain ⟨distance, storage, after, hoffset, -, -, hpatched, hafter, hrewrites⟩ :=
      hwrite [1] (2057 : Int16) hindex
    cases hoffset
    exact ⟨storage, after, hpatched.written, hpatched.kept 0 (Or.inl (by decide)),
      hpatched.kept 3 (Or.inr (by decide)), hafter, hrewrites⟩
  · obtain ⟨storage, hpatched, hrewrites⟩ := hoverwrite 0 [7] (by decide)
    exact ⟨storage, hpatched.written, hrewrites⟩
  · exact @(hfail .int16 [3] _ (Or.inr hbeyond)).2 (Allocator.bounded 64) 0 rfl
  · exact (@hend (Allocator.bounded 64) 0 rfl _ (by simp [Action.endings])).1

end Bridge

end HostBridge
