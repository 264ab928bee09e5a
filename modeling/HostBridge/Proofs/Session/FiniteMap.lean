import HostBridge.Proofs.Session.Aliasing

/-!
# Dense arrays as finite maps

A dense array behind a handle is a map from indices to values: a read yields what was written last
at its index, or what was there at the beginning. Whether the array has a block of its own or
borrows memory makes no difference, so writes are followed in the region that the array lies in,
wherever that is kept.

## Main definitions

* `Bridge.readThrough`, `Bridge.bytesThrough` and `Bridge.writeThrough`: accesses through a handle;
* `Bridge.assigned`: what comes of writes through a handle, made one after another;
* `Bridge.Holds`: the array behind a handle, and the region that it lies in.

## Main results

* `Bridge.regions_setRegion`: memory that is there holds what is written to it;
* `Bridge.Holds.assign` and `Bridge.Holds.assigned`: writes through a handle are writes in the
  region;
* `Bridge.dense_array_is_finite_map`: what is read after any writes, and which accesses are refused.
-/

namespace HostBridge

/-! ## Memory that is written -/

/-- An array object that is there has the storage that is given to it. -/
theorem Arena.storage_setStorage {arena : Arena} {ref : Ref} (h : arena.storage ref ≠ [])
    (storage : Bytes) : (arena.setStorage ref storage).storage ref = storage := by
  have hvalue : ∃ array, arena.value? ref = some (.array array) := by
    rw [Arena.storage] at h
    split at h
    · exact ⟨_, by assumption⟩
    · exact absurd rfl h
  obtain ⟨array, hvalue⟩ := hvalue
  obtain ⟨slot, hslot, hnext⟩ := setStorage_of_array hvalue storage
  have hself : (arena.setStorage ref storage).slot? ref =
      some { slot with value := some (.array { array with storage }) } := by
    refine (slot?_set hslot ?_ ?_ (congrArg Arena.slots hnext) ref).trans (if_pos rfl) <;> rfl
  rw [Arena.storage, value?_eq, hself]
  rfl

namespace Bridge

variable {bridge : Bridge} {handle : Nat} {array : Descriptor} {region : Bytes} {kind : Kind}
  {index : Index}

/-- Memory that is there holds what is written to it. -/
theorem regions_setRegion {place : Place} (h : bridge.regions place ≠ []) (bytes : Bytes) :
    (bridge.setRegion place bytes).regions place = bytes := by
  -- a place that holds anything is found in its store, and an array there has a block of its own
  cases place with
  | block id =>
    cases hfound : bridge.blocks.get? id with
    | none => exact absurd (by rw [regions, hfound]; rfl) h
    | some block =>
      simp only [setRegion, regions]
      rw [Store.get?_set_self hfound]
      rfl
  | object ref => exact Arena.storage_setStorage h bytes
  | buffer other =>
    cases hfound : bridge.buffers.get? other with
    | none => exact absurd (by rw [regions, hfound]; rfl) h
    | some buffer =>
      simp only [setRegion, regions, hfound]
      rw [Store.get?_set_self hfound]
      rfl
  | array other =>
    cases hfound : bridge.arrays.get? other with
    | none => exact absurd (by rw [regions, hfound]; rfl) h
    | some found =>
      have hblock : found.block ≠ [] := by
        rw [regions, hfound] at h
        exact h
      simp only [setRegion, regions, hfound]
      rw [Store.get?_set_self hfound]
      rcases hsource : found.source with block | address
      · simp only [Option.map_some, Option.getD_some, Descriptor.withBlock, Descriptor.block,
          hsource]
      · exact absurd (by simp only [Descriptor.block, hsource]) hblock

end Bridge

/-! ## Accesses through a handle -/

namespace Descriptor

variable {array : Descriptor}

theorem withBlock_region (array : Descriptor) (regions : Regions) :
    array.withBlock (array.region regions) = array := by
  obtain ⟨kind, shape, strides, source, length, byteLength⟩ := array
  cases source <;> rfl

theorem read_withBlock (block region : Bytes) (kind : Kind) (index : Index) :
    (array.withBlock block).read region kind index = array.read region kind index := by
  obtain ⟨_, shape, strides, source, length, byteLength⟩ := array
  cases source <;> rfl

theorem elementBytes_withBlock (block region : Bytes) (index : Index) :
    (array.withBlock block).elementBytes region index = array.elementBytes region index := by
  obtain ⟨kind, shape, strides, source, length, byteLength⟩ := array
  cases source <;> rfl

theorem write_withBlock (block region : Bytes) (kind : Kind) (index : Index) (value : Value kind) :
    (array.withBlock block).write region kind index value =
      array.write region kind index value := by
  obtain ⟨_, shape, strides, source, length, byteLength⟩ := array
  cases source <;> rfl

end Descriptor

namespace Bridge

variable {bridge : Bridge} {handle : Nat} {array : Descriptor} {region : Bytes} {kind : Kind}
  {index : Index}

/-- What a read through a handle yields, if the handle names an array. -/
def readThrough (bridge : Bridge) (handle : Nat) (kind : Kind) (index : Index) :
    Option (Except Fault (Value kind)) :=
  (bridge.arrays.get? handle).map fun array => array.read (array.region bridge.regions) kind index

/-- The bytes of an element, if the handle names an array. -/
def bytesThrough (bridge : Bridge) (handle : Nat) (index : Index) : Option (Except Fault Bytes) :=
  (bridge.arrays.get? handle).map fun array =>
    array.elementBytes (array.region bridge.regions) index

/-- What a write through a handle yields, if the handle names an array. -/
def writeThrough (bridge : Bridge) (handle : Nat) (write : Assignment) :
    Option (Except Fault (Descriptor × Bridge)) :=
  (bridge.arrays.get? handle).map fun array =>
    bridge.writeElement array write.kind write.index write.value

/-- The bridge after a write through a handle. -/
def assign [Allocator] (handle : Nat) (bridge : Bridge) (write : Assignment) : Bridge :=
  ((Action.writeElement handle write.kind write.index write.value).perform bridge).result.2

/-- The bridge after any number of writes through a handle. -/
def assigned [Allocator] (bridge : Bridge) (handle : Nat) (writes : List Assignment) : Bridge :=
  writes.foldl (assign handle) bridge

/-- The array behind a handle, and the region that it lies in. Its block is that region, if it has
one of its own. -/
structure Holds (bridge : Bridge) (handle : Nat) (array : Descriptor) (region : Bytes) : Prop where
  /-- The array is there, with the region as its block. -/
  live : bridge.arrays.get? handle = some (array.withBlock region)
  /-- It lies in the region. -/
  region_eq : (array.withBlock region).region bridge.regions = region

theorem holds_region (hlive : bridge.arrays.get? handle = some array) :
    bridge.Holds handle array (array.region bridge.regions) := by
  have hsame := array.withBlock_region bridge.regions
  exact ⟨by rw [hsame, hlive], by rw [hsame]⟩

namespace Holds

theorem readThrough_eq (h : bridge.Holds handle array region) :
    bridge.readThrough handle kind index = some (array.read region kind index) := by
  rw [readThrough, h.live, Option.map_some, h.region_eq, Descriptor.read_withBlock]

theorem bytesThrough_eq (h : bridge.Holds handle array region) :
    bridge.bytesThrough handle index = some (array.elementBytes region index) := by
  rw [bytesThrough, h.live, Option.map_some, h.region_eq, Descriptor.elementBytes_withBlock]

/-- A write puts the region that it yields back where it belongs. -/
theorem writeElement_eq (h : bridge.Holds handle array region) (write : Assignment) :
    bridge.writeElement (array.withBlock region) write.kind write.index write.value =
      (array.write region write.kind write.index write.value).map
        (bridge.updateArray (array.withBlock region)) := by
  rw [writeElement, h.region_eq, Descriptor.write_withBlock]
  cases array.write region write.kind write.index write.value <;> rfl

theorem writeThrough_eq (h : bridge.Holds handle array region) {write : Assignment} :
    bridge.writeThrough handle write =
      some ((array.write region write.kind write.index write.value).map
        (bridge.updateArray (array.withBlock region))) := by
  rw [writeThrough, h.live, Option.map_some, h.writeElement_eq]

theorem assign_of_error [Allocator] (h : bridge.Holds handle array region) {write : Assignment}
    {fault : Fault}
    (hwrite : array.write region write.kind write.index write.value = .error fault) :
    bridge.assign handle write = bridge := by
  have hfail : bridge.writeElement (array.withBlock region) write.kind write.index write.value =
      .error fault := by
    rw [h.writeElement_eq, hwrite]
    rfl
  rw [Bridge.assign, Action.perform, Call.withArray_of_live h.live]
  exact Call.editArray_of_error hfail

theorem assign_of_ok [Allocator] (h : bridge.Holds handle array region) {write : Assignment}
    {next : Bytes} (hwrite : array.write region write.kind write.index write.value = .ok next) :
    bridge.assign handle write =
      { (bridge.updateArray (array.withBlock region) next).2 with
        arrays := (bridge.updateArray (array.withBlock region) next).2.arrays.set handle
          (bridge.updateArray (array.withBlock region) next).1 } := by
  have hdone : bridge.writeElement (array.withBlock region) write.kind write.index write.value =
      .ok (bridge.updateArray (array.withBlock region) next) := by
    rw [h.writeElement_eq, hwrite]
    rfl
  rw [Bridge.assign, Action.perform, Call.withArray_of_live h.live]
  rw [Call.editArray, Call.result_modify, hdone]

/-- A region of the same array takes the place of the one that it lies in. -/
theorem updateArray (h : bridge.Holds handle array region) (hmemory : region ≠ []) (next : Bytes) :
    Holds { (bridge.updateArray (array.withBlock region) next).2 with
      arrays := (bridge.updateArray (array.withBlock region) next).2.arrays.set handle
        (bridge.updateArray (array.withBlock region) next).1 } handle array next := by
  obtain ⟨hlive, hregion⟩ := h
  rcases hsource : array.source with block | _ | address
  -- an array with a block of its own takes the new region with it
  · have hown (bytes : Bytes) : array.withBlock bytes = { array with source := .owned bytes } := by
      simp only [Descriptor.withBlock, hsource]
    rw [hown] at hlive hregion ⊢
    refine ⟨?_, ?_⟩
    · rw [hown]
      exact Store.get?_set_self hlive _
    · rw [hown]
      rfl
  -- what lies nowhere has no memory to write to
  · have hview (bytes : Bytes) : array.withBlock bytes = array := by
      simp only [Descriptor.withBlock, hsource]
    rw [hview, Descriptor.region, hsource] at hregion
    exact absurd hregion.symm hmemory
  -- a view stays as it is, and the memory that it borrows changes
  · have hview (bytes : Bytes) : array.withBlock bytes = array := by
      simp only [Descriptor.withBlock, hsource]
    have hplace (regions : Regions) : array.region regions = regions address.place := by
      simp only [Descriptor.region, hsource]
    rw [hview] at hlive hregion
    rw [hplace] at hregion
    have hupdate : bridge.updateArray array next =
        (array, bridge.setRegion address.place next) := by
      simp only [Bridge.updateArray, hsource]
    have hkept := Step.get?_setRegion hlive hsource address.place next
    rw [hview, hupdate]
    refine ⟨?_, ?_⟩
    · rw [hview]
      exact Store.get?_set_self hkept _
    · rw [hview, hplace, Store.set_self hkept]
      exact regions_setRegion (by rwa [hregion]) next

/-- One write through a handle is a write in the region. -/
theorem assign [Allocator] {shape : Shape} {order : Order} (h : bridge.Holds handle array region)
    (hdense : Descriptor.BuiltDense shape kind order array)
    (hsize : shape.prod * kind.width < 2 ^ 63) (hlodged : array.Lodged region)
    (write : Assignment) :
    (bridge.assign handle write).Holds handle array (array.assign region write) := by
  cases hwrite : array.write region write.kind write.index write.value with
  | error fault =>
    rw [h.assign_of_error hwrite, Descriptor.assign_of_error hwrite]
    exact h
  | ok next =>
    obtain ⟨-, hshape, -, -⟩ := hdense.layout
    obtain ⟨-, hindex, offset, hoffset, -⟩ := Descriptor.write_eq_ok hwrite
    -- there is an element, so the region is not empty and its place can be found again
    have hmemory : region ≠ [] := by
      rintro rfl
      obtain ⟨hlow, hhigh⟩ := hdense.inside hsize hlodged (hshape ▸ hindex) hoffset
      have hwidth := kind.width_pos
      rw [List.length_nil] at hhigh
      omega
    rw [h.assign_of_ok hwrite, Descriptor.assign_of_ok hwrite]
    exact h.updateArray hmemory next

/-- Any number of writes through a handle are writes in the region. -/
theorem assigned [Allocator] {shape : Shape} {order : Order} (h : bridge.Holds handle array region)
    (hdense : Descriptor.BuiltDense shape kind order array)
    (hsize : shape.prod * kind.width < 2 ^ 63) (hlodged : array.Lodged region)
    (writes : List Assignment) :
    (bridge.assigned handle writes).Holds handle array (array.assigned region writes) := by
  induction writes generalizing bridge region with
  | nil => exact h
  | cons write writes ih =>
    exact ih (h.assign hdense hsize hlodged write) (hlodged.assigned [write])

end Holds

end Bridge

/-! ## What is read after any writes -/

namespace Descriptor

variable {array : Descriptor} {shape : Shape} {kind : Kind} {order : Order} {index : Index}

theorem elementBytes_of_zeros [Allocator] (h : (zeros shape kind order).run.result = .ok array)
    (hindex : shape.Contains index) (regions : Regions) :
    array.elementBytes (array.region regions) index = .ok (Bytes.zeros kind.width) := by
  obtain ⟨length, byteLength, -, -, rfl⟩ := zeros_eq_ok h
  rw [elementBytes_of_contains hindex, bytesAt, region, Bytes.window_zeros]

end Descriptor

namespace Bridge

variable {bridge : Bridge} {handle : Nat} {array : Descriptor} {kind : Kind}

/-- A dense array is a finite map from its indices to values. -/
theorem dense_array_is_finite_map [Allocator] {shape : Shape} {order : Order}
    (hsize : (shape.map (max · 1)).prod * kind.width < 2 ^ 63)
    (hdense : Descriptor.BuiltDense shape kind order array)
    (hlive : bridge.arrays.get? handle = some array)
    -- Memory that a view borrows is there.
    (hmemory : ∀ address, array.source = .borrowed (some address) →
      Bytes.Inside (bridge.regions address.place).length address.offset
        (shape.prod * kind.width)) :
    -- A fresh array of zeros has the zero element at every index.
    (∀ [Allocator], (Descriptor.zeros shape kind order).run.result = .ok array →
      ∀ index, shape.Contains index →
        bridge.bytesThrough handle index = some (.ok (Bytes.zeros kind.width)) ∧
        bridge.readThrough handle kind index =
          some (.ok (Value.decode kind (Bytes.zeros kind.width)))) ∧
    -- After any writes there is a value at every index.
    (∀ writes index, shape.Contains index →
      ∃ value, (bridge.assigned handle writes).readThrough handle kind index = some (.ok value)) ∧
    -- What was written last at an index is read there, with the bytes that were written.
    (∀ before index (value : Value kind) after, shape.Contains index →
      (∀ write ∈ after, write.kind = kind → write.index ≠ index) →
        (bridge.assigned handle (before ++ ⟨kind, index, value⟩ :: after)).bytesThrough
          handle index =
          some (.ok (Value.encode kind value)) ∧
        (bridge.assigned handle (before ++ ⟨kind, index, value⟩ :: after)).readThrough handle kind
          index = some (.ok value)) ∧
    -- Writes at other indices are not seen, so that without a write the initial element is read.
    (∀ before after index, (∀ write ∈ after, write.kind = kind → write.index ≠ index) →
      (bridge.assigned handle (before ++ after)).bytesThrough handle index =
        (bridge.assigned handle before).bytesThrough handle index ∧
      ∀ other, (bridge.assigned handle (before ++ after)).readThrough handle other index =
        (bridge.assigned handle before).readThrough handle other index) ∧
    -- The first test that fails decides the fault, and a write that fails changes nothing.
    ∀ writes other index fault,
      ((bridge.assigned handle writes).readThrough handle other index = some (.error fault) ↔
        array.Refuses other index fault) ∧
      ∀ value,
        ((bridge.assigned handle writes).writeThrough handle ⟨other, index, value⟩ =
            some (.error fault) ↔ array.Refuses other index fault) ∧
        (array.Refuses other index fault →
          (bridge.assigned handle writes).assign handle ⟨other, index, value⟩ =
            bridge.assigned handle writes) := by
  obtain ⟨-, -, hbytes⟩ := Shape.size_of_max_lt hsize
  obtain ⟨hkind, hshape, -, -⟩ := hdense.layout
  have hlodged := hdense.lodged hmemory
  -- from here on the writes are followed in the region of the array
  have hholds (writes : List Assignment) :=
    (holds_region hlive).assigned hdense hbytes hlodged writes
  have hread {region bytes : Bytes} {index : Index}
      (h : array.elementBytes region index = .ok bytes) :
      array.read region kind index = .ok (Value.decode kind bytes) := by
    rw [← hkind]
    exact Descriptor.read_of_elementBytes h
  refine ⟨?_, ?_, ?_, ?_, ?_⟩
  · intro _ hzeros index hindex
    have helement := Descriptor.elementBytes_of_zeros hzeros hindex bridge.regions
    rw [(holds_region hlive).bytesThrough_eq, (holds_region hlive).readThrough_eq, helement,
      hread helement]
    exact ⟨rfl, rfl⟩
  · intro writes index hindex
    rw [(hholds writes).readThrough_eq]
    exact ⟨_, congrArg some (hread (Descriptor.elementBytes_of_contains (hshape ▸ hindex)))⟩
  · intro before index value after hindex helsewhere
    have helement := hdense.elementBytes_assigned_last hbytes hlodged hindex before value helsewhere
    rw [(hholds _).bytesThrough_eq, (hholds _).readThrough_eq, helement, hread helement,
      Value.decode_encode]
    exact ⟨rfl, rfl⟩
  · intro before after index helsewhere
    have hsame : array.elementBytes
        (array.assigned (array.region bridge.regions) (before ++ after)) index =
          array.elementBytes (array.assigned (array.region bridge.regions) before) index := by
      rw [Descriptor.assigned_append]
      exact hdense.elementBytes_assigned hbytes helsewhere
    refine ⟨?_, fun other => ?_⟩
    · rw [(hholds _).bytesThrough_eq, (hholds _).bytesThrough_eq, hsame]
    · rw [(hholds _).readThrough_eq, (hholds _).readThrough_eq, Descriptor.read_congr hsame]
  · intro writes other index fault
    refine ⟨?_, fun value => ⟨?_, fun hrefuses => ?_⟩⟩
    · rw [(hholds writes).readThrough_eq, Option.some.injEq, Descriptor.read_eq_error_iff]
    · rw [(hholds writes).writeThrough_eq, Option.some.injEq, Fault.map_eq_error_iff,
        Descriptor.write_eq_error_iff]
    · exact (hholds writes).assign_of_error (Descriptor.write_eq_error_iff.mpr hrefuses)

/-- Two rows of three elements, one column after another, in the middle of a block of the caller. -/
def columns : Descriptor where
  kind := .int16
  shape := [2, 3]
  strides := [2, 4]
  source := .borrowed (some ⟨.block 0, 2⟩)
  length := 6
  byteLength := 12

/-- A bridge with the block, and with the elements behind a handle. -/
def columned : Bridge :=
  { start ⟨[], none⟩ with
    blocks := (Store.empty.add [9, 9, 1, 0, 2, 0, 3, 0, 4, 0, 5, 0, 6, 0, 9, 9]).2
    arrays := (Store.empty.add columns).2 }

/-- Two writes at one index, and between them one at a neighbour, one of another kind and one that
lies outside. -/
def columnWrites : List Assignment :=
  [⟨.int16, [1, 1], (70 : Int16)⟩, ⟨.int32, [1, 1], (71 : Int32)⟩, ⟨.int16, [0, 2], (-2 : Int16)⟩,
    ⟨.int16, [1, 3], (72 : Int16)⟩]

/-- The last value is read at its index, an element without a write is as it was, and each refusal
has its reason: the second axis is the first that is left. -/
theorem dense_array_is_finite_map_of_columns :
    Descriptor.BuiltDense [2, 3] .int16 .columnMajor columns ∧
    columned.arrays.get? 0 = some columns ∧
    Bytes.Inside (columned.regions (.block 0)).length 2 12 ∧
    (@assigned (Allocator.bounded 64) columned 0
      (columnWrites ++ ⟨.int16, [1, 1], (-300 : Int16)⟩ :: columnWrites.drop 1)).readThrough
        0 .int16
        [1, 1] = some (.ok (-300 : Int16)) ∧
    (@assigned (Allocator.bounded 64) columned 0 columnWrites).readThrough 0 .int16 [0, 1] =
      columned.readThrough 0 .int16 [0, 1] ∧
    columned.readThrough 0 .int16 [0, 1] = some (.ok (3 : Int16)) ∧
    (@assigned (Allocator.bounded 64) columned 0 columnWrites).readThrough 0 .int16 [1, 3] =
      some (.error (Fault.index 3 3)) ∧
    @assign (Allocator.bounded 64) 0 (@assigned (Allocator.bounded 64) columned 0 columnWrites)
      ⟨.int16, [1, 3], (72 : Int16)⟩ =
        @assigned (Allocator.bounded 64) columned 0 columnWrites := by
  have hdense : Descriptor.BuiltDense [2, 3] .int16 .columnMajor columns :=
    @Descriptor.BuiltDense.view [2, 3] .int16 .columnMajor (some ⟨.block 0, 2⟩) columns rfl
  have hinside : Bytes.Inside (columned.regions (.block 0)).length 2 12 := by decide
  have hindex : Shape.Contains [2, 3] [1, 1] := .cons (by decide) (.cons (by decide) .nil)
  obtain ⟨-, -, hlast, hkept, hrefused⟩ := @dense_array_is_finite_map columned 0 columns .int16
    (Allocator.bounded 64) [2, 3] .columnMajor (by decide) hdense rfl (by
      intro address haddress
      cases haddress
      exact hinside)
  have hleaves : columns.shape.Leaves [1, 3] 1 3 3 := by
    refine ⟨rfl, rfl, le_rfl, ?_⟩
    intro other hother j bound hj hbound
    obtain rfl : other = 0 := by omega
    cases hj
    cases hbound
    decide
  have hkind : Kind.int16 = columns.kind := rfl
  have hrefuses : columns.Refuses .int16 [1, 3] (Fault.index 3 3) := .axis hkind (by decide) hleaves
  refine ⟨hdense, rfl, hinside, ?_, ?_, rfl, ?_, ?_⟩
  · exact (hlast columnWrites [1, 1] (-300 : Int16) _ hindex (by decide)).2
  · exact (hkept [] columnWrites [0, 1] (by decide)).2 .int16
  · exact (hrefused columnWrites .int16 [1, 3] _).1.mpr hrefuses
  · exact ((hrefused columnWrites .int16 [1, 3] _).2 _).2 hrefuses

end Bridge

end HostBridge
