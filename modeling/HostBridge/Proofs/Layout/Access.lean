import HostBridge.Proofs.Layout.Metadata
import HostBridge.Proofs.Value

/-!
# Accesses to elements

A read and a write make the same tests before they touch memory: the kind must be that of the
elements, there must be one coordinate for each axis, and each coordinate must lie inside its axis.
The first test that fails decides the fault. Both then use the element at the same position, and
since the elements of a dense array share no byte, a write is seen at its own index and nowhere
else.

## Main definitions

* `Shape.Leaves`: the first axis on which an index leaves an array;
* `Descriptor.Refuses`: why an access is refused;
* `Descriptor.locate`: the tests that reads and writes make, and the position they lead to;
* `Descriptor.Lodged`: the elements of a dense array lie inside a region;
* `Assignment`: a write that somebody asks for, and `Descriptor.assigned` what comes of it.

## Main results

* `Descriptor.read_eq_error_iff` and `Descriptor.write_eq_error_iff`: which accesses are refused;
* `Descriptor.BuiltDense.elementBytes_write_self` and `elementBytes_write_of_ne`: what one write
  changes;
* `Descriptor.BuiltDense.elementBytes_assigned` and `elementBytes_assigned_last`: what any number of
  writes change.
-/

namespace HostBridge

/-! ## Which accesses are refused -/

theorem Fault.map_eq_error_iff {α β : Type} {x : Except Fault α} {f : α → β} {fault : Fault} :
    x.map f = .error fault ↔ x = .error fault := by
  refine ⟨Fault.map_eq_error, fun h => ?_⟩
  rw [h]
  rfl

namespace Shape

variable {shape : Shape} {index : Index} {axis i extent : Nat}

/-- The first axis on which an index leaves an array, with the coordinate and the extent there. -/
structure Leaves (shape : Shape) (index : Index) (axis i extent : Nat) : Prop where
  /-- The coordinate on the axis. -/
  index_eq : index[axis]? = some i
  /-- The extent of the axis. -/
  shape_eq : shape[axis]? = some extent
  /-- The coordinate lies outside. -/
  beyond : extent ≤ i
  /-- All coordinates on earlier axes lie inside. -/
  earlier : ∀ other < axis, ∀ j bound,
    index[other]? = some j → shape[other]? = some bound → j < bound

theorem leaves_zero_iff {j bound : Nat} :
    Leaves (bound :: shape) (j :: index) 0 i extent ↔ bound ≤ j ∧ j = i ∧ bound = extent := by
  constructor
  · rintro ⟨hcoordinate, hextent, hbeyond, -⟩
    cases hcoordinate
    cases hextent
    exact ⟨hbeyond, rfl, rfl⟩
  · rintro ⟨hbeyond, rfl, rfl⟩
    exact ⟨rfl, rfl, hbeyond, fun other hother => absurd hother (Nat.not_lt_zero other)⟩

theorem leaves_succ_iff {j bound : Nat} :
    Leaves (bound :: shape) (j :: index) (axis + 1) i extent ↔
      j < bound ∧ Leaves shape index axis i extent := by
  constructor
  · rintro ⟨hcoordinate, hextent, hbeyond, hearlier⟩
    refine ⟨hearlier 0 axis.succ_pos j bound rfl rfl, hcoordinate, hextent, hbeyond, ?_⟩
    exact fun other hother => hearlier (other + 1) (Nat.succ_lt_succ hother)
  · rintro ⟨hlt, hcoordinate, hextent, hbeyond, hearlier⟩
    refine ⟨hcoordinate, hextent, hbeyond, ?_⟩
    rintro (_ | other) hother j' bound' hj hbound
    · cases hj
      cases hbound
      exact hlt
    · exact hearlier other (Nat.lt_of_succ_lt_succ hother) j' bound' hj hbound

/-- The test on the coordinates finds the first axis that is left. -/
theorem outside?_eq_some_iff :
    shape.outside? index = some (i, extent) ↔ ∃ axis, shape.Leaves index axis i extent := by
  induction shape generalizing index with
  | nil =>
    refine iff_of_false (by simp [outside?]) ?_
    rintro ⟨axis, h⟩
    simpa using h.shape_eq
  | cons bound shape ih =>
    obtain _ | ⟨j, index⟩ := index
    · refine iff_of_false (by simp [outside?]) ?_
      rintro ⟨axis, h⟩
      simpa using h.index_eq
    rw [outside?]
    -- the first axis decides, unless its coordinate lies inside
    split
    · rename_i hbeyond
      constructor
      · intro h
        cases h
        exact ⟨0, leaves_zero_iff.mpr ⟨hbeyond, rfl, rfl⟩⟩
      · rintro ⟨_ | axis, h⟩
        · obtain ⟨-, rfl, rfl⟩ := leaves_zero_iff.mp h
          rfl
        · exact absurd (leaves_succ_iff.mp h).1 (Nat.not_lt.mpr hbeyond)
    · rename_i hinside
      rw [ih]
      constructor
      · rintro ⟨axis, h⟩
        exact ⟨axis + 1, leaves_succ_iff.mpr ⟨Nat.lt_of_not_le hinside, h⟩⟩
      · rintro ⟨_ | axis, h⟩
        · exact absurd (leaves_zero_iff.mp h).1 hinside
        · exact ⟨axis, (leaves_succ_iff.mp h).2⟩

end Shape

namespace Descriptor

variable {array : Descriptor} {region next : Bytes} {kind : Kind} {index : Index} {fault : Fault}

/-- Why an access to an element of some kind is refused. -/
inductive Refuses (array : Descriptor) (kind : Kind) (index : Index) : Fault → Prop
  /-- The elements are of another kind. -/
  | kind (hkind : kind ≠ array.kind) :
    Refuses array kind index (Fault.kindMismatch array.kind kind)
  /-- The kind is right, but the number of coordinates is not that of the axes. -/
  | rank (hkind : kind = array.kind) (hrank : index.length ≠ array.rank) :
    Refuses array kind index
      (Fault.shape s!"{array.rank} indices" s!"{index.length} indices")
  /-- There is one coordinate for each axis, but some lie outside; the first one is named. -/
  | axis (hkind : kind = array.kind) (hrank : index.length = array.rank)
    {axis i extent : Nat} (hleaves : array.shape.Leaves index axis i extent) :
    Refuses array kind index (Fault.index i extent)

/-- The position of the element that an access is made to, if it is not refused. -/
def locate (array : Descriptor) (kind : Kind) (index : Index) : Except Fault Int :=
  if kind ≠ array.kind then .error (Fault.kindMismatch array.kind kind) else array.byteOffset index

theorem elementBytes_eq : array.elementBytes region index =
    (array.byteOffset index).map (array.bytesAt region) := by
  rw [elementBytes]
  cases array.byteOffset index <;> rfl

theorem read_eq : array.read region kind index =
    (array.locate kind index).map fun offset =>
      Value.decode kind (array.bytesAt region offset) := by
  rw [read, locate]
  split
  · rfl
  · rw [elementBytes]
    cases array.byteOffset index <;> rfl

theorem write_eq {value : Value kind} : array.write region kind index value =
    (array.locate kind index).map fun offset =>
      region.setWindow (array.base + offset) (Value.encode kind value) := by
  rw [write, locate]
  split
  · rfl
  · rw [setElement]
    cases array.byteOffset index <;> rfl

/-- A value that is read is made of the bytes of its element. -/
theorem read_of_elementBytes {bytes : Bytes}
    (h : array.elementBytes region index = .ok bytes) :
    array.read region array.kind index = .ok (Value.decode array.kind bytes) := by
  rw [read, if_neg (not_not.mpr rfl), h]
  rfl

/-- What is read depends on the bytes of the element alone. -/
theorem read_congr {other : Bytes}
    (h : array.elementBytes region index = array.elementBytes other index) :
    array.read region kind index = array.read other kind index := by
  rw [read, read, h]

theorem byteOffset_eq_error_iff : array.byteOffset index = .error fault ↔
    (index.length ≠ array.rank ∧
      fault = Fault.shape s!"{array.rank} indices" s!"{index.length} indices") ∨
    (index.length = array.rank ∧
      ∃ axis i extent, array.shape.Leaves index axis i extent ∧ fault = Fault.index i extent) := by
  by_cases hrank : index.length = array.rank
  · rw [byteOffset, if_neg (not_not.mpr hrank)]
    rcases houtside : array.shape.outside? index with _ | ⟨i, extent⟩
    · refine iff_of_false (by intro h; cases h) ?_
      rintro (⟨hne, -⟩ | ⟨-, axis, i, extent, hleaves, -⟩)
      · exact hne hrank
      · rw [Shape.outside?_eq_some_iff.mpr ⟨axis, hleaves⟩] at houtside
        cases houtside
    · constructor
      · intro h
        cases h
        obtain ⟨axis, hleaves⟩ := Shape.outside?_eq_some_iff.mp houtside
        exact Or.inr ⟨hrank, axis, i, extent, hleaves, rfl⟩
      · rintro (⟨hne, -⟩ | ⟨-, axis, j, bound, hleaves, rfl⟩)
        · exact absurd hrank hne
        · rw [Shape.outside?_eq_some_iff.mpr ⟨axis, hleaves⟩] at houtside
          cases houtside
          rfl
  · rw [byteOffset, if_pos hrank]
    constructor
    · intro h
      cases h
      exact Or.inl ⟨hrank, rfl⟩
    · rintro (⟨-, rfl⟩ | ⟨heq, -⟩)
      · rfl
      · exact absurd heq hrank

/-- The tests fail for the first reason that there is. -/
theorem locate_eq_error_iff :
    array.locate kind index = .error fault ↔ array.Refuses kind index fault := by
  by_cases hkind : kind = array.kind
  · rw [locate, if_neg (not_not.mpr hkind), byteOffset_eq_error_iff]
    constructor
    · rintro (⟨hrank, rfl⟩ | ⟨hrank, axis, i, extent, hleaves, rfl⟩)
      · exact .rank hkind hrank
      · exact .axis hkind hrank hleaves
    · rintro (hne | ⟨-, hrank⟩ | ⟨-, hrank, hleaves⟩)
      · exact absurd hkind hne
      · exact Or.inl ⟨hrank, rfl⟩
      · exact Or.inr ⟨hrank, _, _, _, hleaves, rfl⟩
  · rw [locate, if_pos hkind]
    constructor
    · intro h
      cases h
      exact .kind hkind
    · rintro (- | ⟨heq, -⟩ | ⟨heq, -, -⟩)
      · rfl
      · exact absurd heq hkind
      · exact absurd heq hkind

theorem read_eq_error_iff :
    array.read region kind index = .error fault ↔ array.Refuses kind index fault := by
  rw [read_eq, Fault.map_eq_error_iff, locate_eq_error_iff]

theorem write_eq_error_iff {value : Value kind} :
    array.write region kind index value = .error fault ↔ array.Refuses kind index fault := by
  rw [write_eq, Fault.map_eq_error_iff, locate_eq_error_iff]

theorem length_setElement {bytes : Bytes} (h : array.setElement region index bytes = .ok next) :
    next.length = region.length := by
  obtain ⟨offset, -, hnext⟩ := Fault.bind_eq_ok.mp h
  cases hnext
  exact Bytes.length_setWindow _ _ _

theorem length_write {value : Value kind} (h : array.write region kind index value = .ok next) :
    next.length = region.length := by
  rw [write_eq] at h
  obtain ⟨offset, -, rfl⟩ := Fault.map_eq_ok h
  exact Bytes.length_setWindow _ _ _

/-- A write that succeeds is of the right kind, at an index of the array. -/
theorem write_eq_ok {value : Value kind} (h : array.write region kind index value = .ok next) :
    kind = array.kind ∧ array.shape.Contains index ∧ ∃ offset, array.byteOffset index = .ok offset ∧
      next = region.setWindow (array.base + offset) (Value.encode kind value) := by
  rw [write_eq] at h
  obtain ⟨offset, hlocate, rfl⟩ := Fault.map_eq_ok h
  rw [locate] at hlocate
  split at hlocate
  · cases hlocate
  · rename_i hkind
    exact ⟨not_not.mp hkind, contains_of_byteOffset hlocate, offset, hlocate, rfl⟩

theorem exists_write (hindex : array.shape.Contains index) (region : Bytes)
    (value : Value array.kind) : ∃ next, array.write region array.kind index value = .ok next := by
  rw [write_eq, locate, if_neg (not_not.mpr rfl), byteOffset_eq_signed hindex]
  exact ⟨_, rfl⟩

/-! ## Elements of dense arrays -/

/-- The memory of a dense array lies inside a region. -/
def Lodged (array : Descriptor) (region : Bytes) : Prop :=
  Bytes.Inside region.length array.base (array.length * array.kind.width)

namespace BuiltDense

variable {shape : Shape} {order : Order} {value : Value kind}

/-- A dense array lies inside its own block. If it borrows memory, this is what is asked of the
memory; an array without elements may lie nowhere. -/
theorem lodged (h : BuiltDense shape kind order array) {regions : Regions}
    (hmemory : ∀ address, array.source = .borrowed (some address) →
      Bytes.Inside (regions address.place).length address.offset (shape.prod * kind.width)) :
    array.Lodged (array.region regions) := by
  obtain ⟨hkind, -, -, -⟩ := h.layout
  rw [Lodged, hkind]
  rcases hsource : array.source with block | _ | address
  · have hroom := h.le_block hsource
    simp only [region, base, hsource]
    exact ⟨le_rfl, by omega⟩
  -- a view that lies nowhere was refused if it had elements
  · have hempty : array.length = 0 := by
      rw [h.length_eq]
      cases h with
      | view hview =>
        obtain ⟨length, -, -, rfl⟩ := ofStrided_eq_ok hview
        cases hsource
        by_contra hne
        exact (exists_ofStrided_iff.mp ⟨_, hview⟩).2 ⟨rfl, hne⟩
      | zeros hzeros =>
        obtain ⟨length, byteLength, -, -, rfl⟩ := zeros_eq_ok hzeros
        cases hsource
    simp only [region, base, hsource, hempty, Nat.zero_mul]
    exact ⟨le_rfl, le_rfl⟩
  · have hinside := hmemory address hsource
    rw [h.length_eq]
    simpa only [region, base, hsource] using hinside

/-- Every element of a dense array lies inside the memory of the array. -/
theorem inside (h : BuiltDense shape kind order array) (hsize : shape.prod * kind.width < 2 ^ 63)
    (hlodged : array.Lodged region) (hindex : shape.Contains index) {offset : Int}
    (hoffset : array.byteOffset index = .ok offset) :
    Bytes.Inside region.length (array.base + offset) kind.width := by
  obtain ⟨hkind, -, -, -⟩ := h.layout
  rw [Lodged, h.length_eq, hkind] at hlodged
  obtain ⟨hlow, hhigh⟩ := hlodged
  rw [h.byteOffset_eq hsize hindex] at hoffset
  cases hoffset
  have hend : (shape.positionIn order index + 1) * kind.width ≤ shape.prod * kind.width :=
    Nat.mul_le_mul_right _ (Shape.positionIn_lt order hindex)
  rw [Nat.succ_mul] at hend
  exact ⟨by omega, by omega⟩

/-- A write puts the bytes of its value at its index. -/
theorem elementBytes_write_self (h : BuiltDense shape kind order array)
    (hsize : shape.prod * kind.width < 2 ^ 63) (hlodged : array.Lodged region)
    (hwrite : array.write region kind index value = .ok next) :
    array.elementBytes next index = .ok (Value.encode kind value) := by
  obtain ⟨hkind, hshape, -, -⟩ := h.layout
  obtain ⟨-, hindex, offset, hoffset, rfl⟩ := write_eq_ok hwrite
  have hinside := h.inside hsize hlodged (hshape ▸ hindex) hoffset
  -- the window is as wide as the value, so that all of it is written
  rw [← Value.length_encode kind value] at hinside
  have hwindow := Bytes.window_setWindow_self hinside
  rw [Value.length_encode] at hwindow
  rw [elementBytes_eq, hoffset, Except.map, bytesAt, hkind, hwindow]

/-- A write changes no element at another index. -/
theorem elementBytes_write_of_ne (h : BuiltDense shape kind order array)
    (hsize : shape.prod * kind.width < 2 ^ 63) {other : Index}
    (hwrite : array.write region kind index value = .ok next) (hne : index ≠ other) :
    array.elementBytes next other = array.elementBytes region other := by
  obtain ⟨hkind, hshape, -, -⟩ := h.layout
  obtain ⟨-, hindex, offset, hoffset, rfl⟩ := write_eq_ok hwrite
  rw [elementBytes_eq, elementBytes_eq]
  cases hother : array.byteOffset other with
  | error fault => rfl
  | ok place =>
    -- two elements of a dense array share no byte
    have hdisjoint :=
      h.disjoint hsize (hshape ▸ hindex) (hshape ▸ contains_of_byteOffset hother) hne
      hoffset hother
    rw [Except.map, Except.map, bytesAt, bytesAt, hkind, Bytes.window_setWindow_of_disjoint]
    rw [Value.length_encode]
    omega

end BuiltDense

end Descriptor

/-! ## Writes one after another -/

/-- A write that somebody asks for. It may be of any kind and at any index. -/
structure Assignment where
  /-- The kind of the value. -/
  kind : Kind
  /-- Where the value is to be written. -/
  index : Index
  /-- The value. -/
  value : Value kind

namespace Descriptor

variable {array : Descriptor} {region : Bytes} {kind : Kind} {shape : Shape} {order : Order}
  {index : Index}

/-- The region after a write, which is left alone if the write is refused. -/
def assign (array : Descriptor) (region : Bytes) (write : Assignment) : Bytes :=
  match array.write region write.kind write.index write.value with
  | .ok next => next
  | .error _ => region

/-- The region after any number of writes. -/
def assigned (array : Descriptor) (region : Bytes) (writes : List Assignment) : Bytes :=
  writes.foldl array.assign region

theorem assign_of_ok {write : Assignment} {next : Bytes}
    (h : array.write region write.kind write.index write.value = .ok next) :
    array.assign region write = next := by
  rw [assign, h]

theorem assign_of_error {write : Assignment} {fault : Fault}
    (h : array.write region write.kind write.index write.value = .error fault) :
    array.assign region write = region := by
  rw [assign, h]

theorem length_assign (write : Assignment) :
    (array.assign region write).length = region.length := by
  cases hwrite : array.write region write.kind write.index write.value with
  | ok next => rw [assign_of_ok hwrite, length_write hwrite]
  | error fault => rw [assign_of_error hwrite]

theorem Lodged.assigned (h : array.Lodged region) (writes : List Assignment) :
    array.Lodged (array.assigned region writes) := by
  induction writes generalizing region with
  | nil => exact h
  | cons write writes ih =>
    refine ih ?_
    rw [Lodged, length_assign]
    exact h

/-- One write at another index, or of another kind, leaves an element alone. -/
theorem BuiltDense.elementBytes_assign (h : BuiltDense shape kind order array)
    (hsize : shape.prod * kind.width < 2 ^ 63) {write : Assignment}
    (helsewhere : write.kind = kind → write.index ≠ index) :
    array.elementBytes (array.assign region write) index = array.elementBytes region index := by
  cases hwrite : array.write region write.kind write.index write.value with
  | error fault => rw [assign_of_error hwrite]
  | ok next =>
    rw [assign_of_ok hwrite]
    obtain ⟨hkind, -, -, -⟩ := h.layout
    -- a write that succeeds has the kind of the elements, so it was made at another index
    obtain ⟨writtenKind, writtenIndex, value⟩ := write
    obtain rfl : writtenKind = kind := (write_eq_ok hwrite).1.trans hkind
    exact h.elementBytes_write_of_ne hsize hwrite (helsewhere rfl)

/-- Writes at other indices, or of other kinds, leave an element alone. -/
theorem BuiltDense.elementBytes_assigned (h : BuiltDense shape kind order array)
    (hsize : shape.prod * kind.width < 2 ^ 63) {writes : List Assignment}
    (helsewhere : ∀ write ∈ writes, write.kind = kind → write.index ≠ index) :
    array.elementBytes (array.assigned region writes) index = array.elementBytes region index := by
  induction writes generalizing region with
  | nil => rfl
  | cons write writes ih =>
    rw [List.forall_mem_cons] at helsewhere
    exact (ih helsewhere.2).trans (h.elementBytes_assign hsize helsewhere.1)

theorem assigned_append (region : Bytes) (before after : List Assignment) :
    array.assigned region (before ++ after) = array.assigned (array.assigned region before) after :=
  List.foldl_append

/-- The value that is written last at an index is there. -/
theorem BuiltDense.elementBytes_assigned_last (h : BuiltDense shape kind order array)
    (hsize : shape.prod * kind.width < 2 ^ 63) (hlodged : array.Lodged region)
    (hindex : shape.Contains index) (before : List Assignment) (value : Value kind)
    {after : List Assignment}
    (helsewhere : ∀ write ∈ after, write.kind = kind → write.index ≠ index) :
    array.elementBytes (array.assigned region (before ++ ⟨kind, index, value⟩ :: after)) index =
      .ok (Value.encode kind value) := by
  obtain ⟨hkind, hshape, -, -⟩ := h.layout
  obtain ⟨next, hwrite⟩ : ∃ next,
      array.write (array.assigned region before) kind index value = .ok next := by
    subst hkind
    exact exists_write (hshape ▸ hindex) _ value
  rw [assigned_append, ← List.singleton_append, assigned_append,
    h.elementBytes_assigned hsize helsewhere]
  show array.elementBytes
    (array.assign (array.assigned region before) ⟨kind, index, value⟩) index = _
  rw [assign_of_ok hwrite]
  exact h.elementBytes_write_self hsize (hlodged.assigned before) hwrite

end Descriptor

end HostBridge
