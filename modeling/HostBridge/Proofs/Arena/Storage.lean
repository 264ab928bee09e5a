import HostBridge.Proofs.Arena.Refinement
import HostBridge.Proofs.Layout.Dense
import HostBridge.Proofs.Marshal.Array

/-!
# Array objects and their storage

Array objects are made in three ways. One takes a number of bytes that matches the shape. One takes
any layout and tests it against the bytes that are given, in integers of 128 bits that wrap around.
One lays out any number of values by any shape. This module shows that every element of an array
object lies inside its storage if the calls of the second kind have no element whose position leaves
128 bits and those of the third kind bring enough values; that these conditions are necessary; and
that reads need only the last one, since an object whose elements cannot be counted is not read.

## Main definitions

* `HostArray.Fits`: every element lies inside the storage;
* `Stocked`: all objects of an arena have a property;
* `Operation.Supplied`: a call that brings values for all elements of its shape;
* `Operation.Covered`: such a call, whose layout does not leave 128 bits either.

## Main results

* `Shape.exists_beyond`: a dense layout reaches as far as the product of its extents, also where the
  strides wrap around;
* `HostArray.fits_iff_of_dense`: so a dense array fits if and only if its storage has room for all
  elements;
* `HostArray.fits_iff_of_layoutFits`: an array with a layout that was accepted fits if and only if
  no position leaves 128 bits;
* `Stocked.step` and `Chronicle.stocked_run`: what holds of all objects that are made holds of all
  objects in every state;
* `Chronicle.arrays_fit`: which array objects fit, and what follows for reads.
-/

namespace HostBridge

/-! ## Dense layouts and their storage -/

namespace Shape

variable {shape : Shape}

/-- However far the strides of a dense layout wrap around, some element ends beyond any limit that
all elements together exceed. -/
theorem exists_beyond {step limit : Nat} (hpos : 0 ∉ shape)
    (hstep : step < 2 ^ 63) (hlimit : limit < 2 ^ 63) (hsize : limit < step * shape.prod) :
    ∃ index, shape.Contains index ∧ (limit : Int) < (denseFrom step shape).offset index + step := by
  induction shape generalizing step with
  | nil =>
    refine ⟨[], .nil, ?_⟩
    rw [List.prod_nil, Nat.mul_one] at hsize
    show (limit : Int) < 0 + step
    omega
  | cons extent shape ih =>
    obtain ⟨hextent, hpos⟩ := pos_of_cons hpos
    have hlast : ((extent - 1 : Nat) : Int) * step + step = (step * extent : Nat) := by
      rw [Nat.cast_sub hextent]
      push_cast
      ring
    rw [List.prod_cons, ← Nat.mul_assoc] at hsize
    rw [denseFrom]
    by_cases hwrap : step * extent < 2 ^ 63
    -- the stride of the next axis is exact: go to the end of this axis and on from there
    · have hnext : Word.signed ((step : Int) * (max extent 1 : Nat)) = (step * extent : Nat) := by
        rw [max_eq_left (by omega), ← Nat.cast_mul]
        exact Word.signed_of_fits (Word.fits_iff.mpr ⟨by omega, by omega⟩)
      obtain ⟨index, hindex, hbeyond⟩ := ih hpos hwrap hsize
      refine ⟨(extent - 1) :: index, .cons (by omega) hindex, ?_⟩
      rw [hnext, Strides.offset]
      omega
    -- the end of this axis is beyond every limit: stay at the start of all others
    · refine ⟨(extent - 1) :: shape.map fun _ => 0, .cons (by omega) (contains_zeros hpos), ?_⟩
      rw [Strides.offset, Strides.offset_zeros]
      omega

theorem exists_beyond_dense (order : Order) {width limit : Nat} (hpos : 0 ∉ shape)
    (hwidth : width < 2 ^ 63) (hlimit : limit < 2 ^ 63) (hsize : limit < width * shape.prod) :
    ∃ index, shape.Contains index ∧
      (limit : Int) < (shape.denseStrides width order).offset index + width := by
  have hstep : Word.signed (width : Int) = width :=
    Word.signed_of_fits (Word.fits_iff.mpr ⟨by omega, by omega⟩)
  cases order with
  | columnMajor =>
    rw [denseStrides, hstep]
    exact exists_beyond hpos hwidth hlimit hsize
  | rowMajor =>
    -- a row-major array is a column-major one with its axes reversed
    rw [← List.prod_reverse] at hsize
    obtain ⟨index, hindex, hbeyond⟩ :=
      exists_beyond (mt List.mem_reverse.mp hpos) hwidth hlimit hsize
    refine ⟨index.reverse, ?_, ?_⟩
    · have hreverse := hindex.reverse
      rwa [List.reverse_reverse] at hreverse
    · rwa [denseStrides, hstep, offset_reverse]
      rw [length_denseFrom, hindex.length_eq]

end Shape

namespace HostArray

variable {array : HostArray}

/-- Every element of an array object lies inside its storage. -/
structure Fits (array : HostArray) : Prop where
  /-- There is one stride per axis. -/
  rank_eq : array.shape.length = array.strides.length
  /-- The first element, if any, begins inside. -/
  offset_le : array.offset ≤ array.storage.length
  /-- All bytes of every element lie inside. -/
  inside : ∀ index, array.shape.Contains index →
    Bytes.Inside array.storage.length (array.offset + array.strides.offset index) array.kind.width

theorem Fits.inRange (h : array.Fits) (hstorage : array.storage.length < 2 ^ 63) :
    InRange array.shape array.strides array.offset array.kind.width :=
  inRange_of_inside hstorage h.inside

/-- An array with a layout that was accepted fits if and only if no position leaves 128 bits: the
bytes that are given are part of the storage. -/
theorem fits_iff_of_layoutFits {kind : Kind} {shape : Shape} {strides : Strides} {offset : Nat}
    {bytes : Bytes} (h : layoutFits shape strides offset kind.width bytes.length = true)
    (hstorage : (ofBytes kind shape strides offset bytes).storage.length < 2 ^ 63) :
    (ofBytes kind shape strides offset bytes).Fits ↔ InRange shape strides offset kind.width := by
  refine ⟨fun hfits => hfits.inRange hstorage, fun hrange => ?_⟩
  have hle := Bytes.length_le_padTo 8 bytes
  obtain ⟨hrank, hoffset, hinside⟩ :=
    (layoutFits_iff_forall (hle.trans_lt hstorage) hrange).mp h
  refine ⟨hrank, hoffset.trans hle, fun index hindex => ?_⟩
  obtain ⟨hlow, hhigh⟩ := hinside.resolve_left hindex.zero_notMem index hindex
  exact ⟨hlow, hhigh.trans (by exact_mod_cast hle)⟩

/-- A dense array fits if and only if its storage has room for all elements. -/
theorem fits_iff_of_dense (order : Order) (hstorage : array.storage.length < 2 ^ 63)
    (hoffset : array.offset = 0)
    (hstrides : array.strides = array.shape.denseStrides array.kind.width order) :
    array.Fits ↔ array.shape.prod * array.kind.width ≤ array.storage.length := by
  have hwidth : array.kind.width < 2 ^ 63 := by cases array.kind <;> decide
  rw [Nat.mul_comm]
  constructor
  · intro hfits
    by_contra hlt
    have hpos : 0 ∉ array.shape := by
      intro hempty
      rw [List.prod_eq_zero hempty] at hlt
      omega
    obtain ⟨index, hindex, hbeyond⟩ :=
      Shape.exists_beyond_dense order hpos hwidth hstorage (Nat.not_le.mp hlt)
    have hinside := (hfits.inside index hindex).2
    rw [hstrides, hoffset] at hinside
    omega
  · intro hroom
    refine ⟨?_, by omega, fun index hindex => ?_⟩
    · rw [hstrides, Shape.length_denseStrides]
    · have hposition := Shape.positionIn_lt order hindex
      have hle : array.kind.width * array.shape.positionIn order index + array.kind.width ≤
          array.kind.width * array.shape.prod := Nat.mul_le_mul_left _ hposition
      rw [hstrides, Shape.offset_denseStrides order hindex (by omega), hoffset]
      exact ⟨by omega, by omega⟩

end HostArray

/-! ## What holds of all objects -/

namespace Arena

variable {arena next : Arena} {P : Object → Prop} {ref : Ref} {slot' : Slot} {op : Operation}

/-- Every object that an arena holds has a property, and the free slots are slots of the arena. -/
structure Stocked (P : Object → Prop) (arena : Arena) : Prop where
  kept : ∀ slot ∈ arena.slots, ∀ object, slot.value = some object → P object
  free_lt : ∀ i ∈ arena.free, i < arena.slots.length

namespace Stocked

theorem value? (h : Stocked P arena) {object : Object} (hvalue : arena.value? ref = some object) :
    P object := by
  rw [value?_eq] at hvalue
  obtain ⟨slot, hslot, hobject⟩ := Option.bind_eq_some_iff.mp hvalue
  exact h.kept slot (List.mem_of_getElem? (slot?_eq_some_iff.mp hslot).1) object hobject

theorem of_sameSlots (h : Stocked P arena) (hsame : SameSlots arena next) : Stocked P next := by
  obtain ⟨hslots, hfree⟩ := hsame
  refine ⟨hslots ▸ h.kept, ?_⟩
  rw [hfree, hslots]
  exact h.free_lt

/-- Rewriting one slot. -/
theorem of_set (h : Stocked P arena) {i : Nat} (hslots : next.slots = arena.slots.set i slot')
    (hvalue : ∀ object, slot'.value = some object → P object)
    (hfree : ∀ j ∈ next.free, j ∈ arena.free ∨ j < arena.slots.length) : Stocked P next where
  kept := by
    intro slot hmem object hobject
    rw [hslots] at hmem
    rcases List.mem_or_eq_of_mem_set hmem with hold | rfl
    · exact h.kept slot hold object hobject
    · exact hvalue object hobject
  free_lt := by
    intro j hj
    rw [hslots, List.length_set]
    exact (hfree j hj).elim (h.free_lt j) id

theorem place (h : Stocked P arena) {object : Object} (hobject : P object) :
    Stocked P (arena.place object).2 := by
  unfold Arena.place
  split
  · rename_i index free hfree
    refine h.of_set rfl ?_ fun j hj => Or.inl (hfree ▸ List.mem_cons_of_mem _ hj)
    rintro _ ⟨rfl⟩
    exact hobject
  · refine ⟨?_, fun j hj => ?_⟩
    · intro slot hmem found hfound
      rcases List.mem_append.mp hmem with hold | hnew
      · exact h.kept slot hold found hfound
      · rw [List.mem_singleton.mp hnew] at hfound
        cases hfound
        exact hobject
    · rw [List.length_append]
      exact (h.free_lt j hj).trans (Nat.lt_succ_self _)

theorem incref (h : Stocked P arena) (ref : Ref) : Stocked P (arena.incref ref).result := by
  rcases fixed_or_mortal arena ref with hfixed | ⟨slot, hslot, hmortal⟩
  · rwa [result_incref_of_fixed hfixed]
  · rw [result_incref_of_mortal hslot hmortal]
    exact h.of_set rfl (h.kept slot (List.mem_of_getElem? (slot?_eq_some_iff.mp hslot).1))
      fun j => Or.inl

theorem decref (h : Stocked P arena) (ref : Ref) : Stocked P (arena.decref ref).result := by
  rcases fixed_or_mortal arena ref with hfixed | ⟨slot, hslot, hmortal⟩
  · rwa [result_decref_of_fixed hfixed]
  have hheld := (slot?_eq_some_iff.mp hslot).1
  by_cases hlast : slot.refcount = 1
  · rw [result_decref_of_last hslot hmortal hlast]
    refine h.of_set rfl nofun fun j hj => ?_
    rcases List.mem_cons.mp hj with rfl | hj
    · exact Or.inr (List.getElem?_eq_some_iff.mp hheld).1
    · exact Or.inl hj
  · rw [result_decref_of_shared hslot hmortal hlast]
    exact h.of_set rfl (h.kept slot (List.mem_of_getElem? hheld)) fun j => Or.inl

theorem overwriteArray (h : Stocked P arena)
    (hkeeps : ∀ object pos patch, P object → P (object.overwrite pos patch)) (ref : Ref) (pos : Nat)
    (patch : Bytes) : Stocked P (arena.overwriteArray ref pos patch) := by
  cases hslot : arena.slot? ref with
  | none =>
    rw [Arena.overwriteArray, value?_eq, hslot]
    exact h
  | some slot =>
    rw [overwriteArray_of_slot hslot]
    refine h.of_set rfl ?_ fun j => Or.inl
    intro object hobject
    obtain ⟨old, hold, rfl⟩ := Option.map_eq_some_iff.mp hobject
    have hmem := List.mem_of_getElem? (slot?_eq_some_iff.mp hslot).1
    exact hkeeps old pos patch (h.kept slot hmem old hold)

/-- One call: what holds of the object that it makes, and outlasts changes of bytes, goes on to hold
of all objects. -/
theorem step (h : Stocked P arena)
    (hmade : ∀ ref object, (op.apply arena).1 = some ref → op.object? = some object → P object)
    (hkeeps : ∀ object pos patch, P object → P (object.overwrite pos patch)) :
    Stocked P (op.apply arena).2 := by
  rcases apply_cases arena op with (hplaces | hidles) | ⟨ref, rfl⟩ | ⟨ref, rfl⟩ |
    ⟨ref, pos, patch, rfl⟩
  · obtain ⟨object, hobject, -, happly⟩ := hplaces
    have hP := hmade _ object (by rw [happly]; rfl) hobject
    rw [happly]
    exact h.place hP
  · exact h.of_sameSlots hidles.2.2
  · exact h.incref ref
  · exact h.decref ref
  · exact h.overwriteArray hkeeps ref pos patch

end Stocked

theorem stocked_empty (hbool : ∀ value, P (.bool value)) (hnone : P .none) : Stocked P empty where
  kept := by
    intro slot hmem object hobject
    simp only [empty, List.mem_cons, List.not_mem_nil, or_false] at hmem
    rcases hmem with rfl | rfl | rfl <;> cases hobject
    · exact hbool true
    · exact hbool false
    · exact hnone
  free_lt := by simp [empty]

theorem Chronicle.stocked_run (ops : List Operation) (hbool : ∀ value, P (.bool value))
    (hnone : P .none)
    (hmade : ∀ op ∈ ops, ∀ arena ref object, (op.apply arena).1 = some ref →
      op.object? = some object → P object)
    (hkeeps : ∀ object pos patch, P object → P (object.overwrite pos patch)) :
    Stocked P (run ops).arena := by
  induction ops using List.reverseRecOn with
  | nil => exact stocked_empty hbool hnone
  | append_singleton ops op ih =>
    rw [run_concat]
    refine (ih fun op hop => hmade op (List.mem_append_left _ hop)).step ?_ hkeeps
    exact hmade op (List.mem_append_right _ (List.mem_singleton_self op)) _

theorem Chronicle.free_lt_run (ops : List Operation) :
    ∀ i ∈ (run ops).arena.free, i < (run ops).arena.slots.length :=
  (stocked_run (P := fun _ => True) ops (fun _ => trivial) trivial (fun _ _ _ _ _ _ _ => trivial)
    (fun _ _ _ _ => trivial)).free_lt

/-! ## Calls that make array objects -/

/-- What an array object is made of lies in memory: its strides are words, and its storage is one
block, so it has fewer than `2 ^ 63` bytes. -/
def Operation.InMemory (op : Operation) : Prop :=
  ∀ array, op.object? = some (.array array) →
    array.storage.length < 2 ^ 63 ∧ ∀ stride ∈ array.strides, Word.Fits 64 stride

/-- A call that lays values out by a shape brings values for all its elements, or the storage has
room for them anyway, since it is a whole number of words. -/
def Operation.Supplied : Operation → Prop
  | array kind shape values _ =>
    shape.prod * kind.width ≤ (Bytes.padTo 8 (values.map (Value.encode kind)).flatten).length
  | _ => True

/-- Besides, a call with an explicit layout has no element whose position leaves 128 bits. -/
def Operation.Covered : Operation → Prop
  | arrayFromParts kind shape strides offset _ => HostArray.InRange shape strides offset kind.width
  | op => op.Supplied

theorem Operation.Covered.supplied (h : op.Covered) : op.Supplied := by
  cases op with
  | arrayFromParts kind shape strides offset bytes => trivial
  | _ => exact h

/-- An array object with a layout in memory, all of whose elements lie inside its storage unless a
position leaves 128 bits, or any other object. -/
def Contained : Object → Prop
  | .array array =>
    (HostArray.InRange array.shape array.strides array.offset array.kind.width → array.Fits) ∧
      array.offset ≤ array.storage.length ∧ array.storage.length < 2 ^ 63 ∧
      ∀ stride ∈ array.strides, Word.Fits 64 stride
  | _ => True

/-- An array object none of whose positions leaves 128 bits, or any other object. -/
def Ranged : Object → Prop
  | .array array => HostArray.InRange array.shape array.strides array.offset array.kind.width
  | _ => True

theorem contained_overwrite (object : Object) (pos : Nat) (patch : Bytes) (h : Contained object) :
    Contained (object.overwrite pos patch) := by
  cases object with
  | array array =>
    obtain ⟨hfits, hoffset, hstorage, hstrides⟩ := h
    have hlength : (array.storage.setWindow (array.offset + pos) patch).length =
        array.storage.length := Bytes.length_setWindow ..
    refine ⟨fun hrange => ?_, hlength ▸ hoffset, hlength ▸ hstorage, hstrides⟩
    obtain ⟨hrank, hoffset, hinside⟩ := hfits hrange
    exact ⟨hrank, hlength ▸ hoffset, hlength ▸ hinside⟩
  | _ => exact h

theorem ranged_overwrite (object : Object) (pos : Nat) (patch : Bytes) (h : Ranged object) :
    Ranged (object.overwrite pos patch) := by
  cases object <;> exact h

/-- With a count no position leaves 128 bits. -/
theorem fits_of_contained {array : HostArray} {length : Nat} (h : Contained (.array array))
    (hcount : array.shape.count? = some length) : array.Fits := by
  obtain ⟨hfits, hoffset, hstorage, hstrides⟩ := h
  exact hfits (HostArray.inRange_of_count array.kind hcount hstrides (hoffset.trans_lt hstorage))

/-- The bytes of a new array are those of as many elements as its shape has. -/
theorem prod_mul_width_of_newArray {shape : Shape} {typeCode : Int} {bytes : Bytes} {kind : Kind}
    (hkind : Kind.ofTypeCode? typeCode = some kind)
    (h : (arena.newArray shape typeCode bytes).1 = some ref) :
    shape.prod * kind.width ≤ bytes.length := by
  unfold newArray at h
  simp only [hkind] at h
  split at h
  · rename_i hsize
    obtain ⟨count, hcount, hbytes⟩ := Option.bind_eq_some_iff.mp hsize
    rw [← (Shape.count?_eq_some hcount).1]
    unfold Word.mul? at hbytes
    split at hbytes
    · exact (Option.some.inj hbytes).le
    · cases hbytes
  · cases h

/-- The array objects that are made: of the three ways, one relies on its caller, and one on a test
that is exact unless a position leaves 128 bits. -/
theorem contained_of_apply (hmemory : op.InMemory) (hsupplied : op.Supplied) {object : Object}
    (h : (op.apply arena).1 = some ref) (hobject : op.object? = some object) :
    Contained object := by
  cases op with
  | array kind shape values order =>
    cases hobject
    obtain ⟨hstorage, hstrides⟩ := hmemory _ rfl
    have hfits := (HostArray.fits_iff_of_dense order hstorage rfl rfl).mpr hsupplied
    exact ⟨fun _ => hfits, hfits.offset_le, hstorage, hstrides⟩
  | arrayFromParts kind shape strides offset bytes =>
    cases hobject
    obtain ⟨hstorage, hstrides⟩ := hmemory _ rfl
    have hlayout := (arrayFromParts_eq_some (Prod.ext h rfl)).1
    have hoffset := (HostArray.rank_and_offset_of_layoutFits hlayout).2
    exact ⟨(HostArray.fits_iff_of_layoutFits hlayout hstorage).mpr,
      hoffset.trans (Bytes.length_le_padTo 8 bytes), hstorage, hstrides⟩
  | newArray shape typeCode bytes =>
    obtain ⟨kind, hkind, rfl⟩ := Option.map_eq_some_iff.mp hobject
    obtain ⟨hstorage, hstrides⟩ := hmemory _ hobject
    have hroom := (prod_mul_width_of_newArray hkind h).trans (Bytes.length_le_padTo 8 bytes)
    have hfits := (HostArray.fits_iff_of_dense .rowMajor hstorage rfl rfl).mpr hroom
    exact ⟨fun _ => hfits, hfits.offset_le, hstorage, hstrides⟩
  | int | float | complex | str | newInt | newFloat | newComplex =>
    cases hobject
    trivial
  | _ => cases hobject

/-- A dense array that fits stays in range, and an explicit layout does by assumption. -/
theorem ranged_of_apply (hmemory : op.InMemory) (hcovered : op.Covered) {object : Object}
    (h : (op.apply arena).1 = some ref) (hobject : op.object? = some object) : Ranged object := by
  cases op with
  | array kind shape values order =>
    cases hobject
    have hstorage := (hmemory _ rfl).1
    exact ((HostArray.fits_iff_of_dense order hstorage rfl rfl).mpr hcovered).inRange hstorage
  | arrayFromParts kind shape strides offset bytes =>
    cases hobject
    exact hcovered
  | newArray shape typeCode bytes =>
    obtain ⟨kind, hkind, rfl⟩ := Option.map_eq_some_iff.mp hobject
    have hstorage := (hmemory _ hobject).1
    have hroom := (prod_mul_width_of_newArray hkind h).trans (Bytes.length_le_padTo 8 bytes)
    exact ((HostArray.fits_iff_of_dense .rowMajor hstorage rfl rfl).mpr hroom).inRange hstorage
  | int | float | complex | str | newInt | newFloat | newComplex =>
    cases hobject
    trivial
  | _ => cases hobject

theorem Chronicle.contained_run (ops : List Operation) (hmemory : ∀ op ∈ ops, op.InMemory)
    (hsupplied : ∀ op ∈ ops, op.Supplied) : Stocked Contained (run ops).arena :=
  stocked_run ops (fun _ => trivial) trivial
    (fun op hop _ _ _ => contained_of_apply (hmemory op hop) (hsupplied op hop)) contained_overwrite

theorem Chronicle.ranged_run (ops : List Operation) (hmemory : ∀ op ∈ ops, op.InMemory)
    (hcovered : ∀ op ∈ ops, op.Covered) : Stocked Ranged (run ops).arena :=
  stocked_run ops (fun _ => trivial) trivial
    (fun op hop _ _ _ => ranged_of_apply (hmemory op hop) (hcovered op hop)) ranged_overwrite

/-! ## Reads -/

end Arena

/-- An access that stays inside yields the bytes that lie there. -/
theorem Descriptor.Reaches.elementBytes_eq {array : Descriptor} {region : Bytes} {index : Index}
    (h : array.Reaches region index) :
    array.elementBytes region index =
      .ok (region.slice (array.base + array.strides.offset index).toNat array.kind.width) := by
  rw [elementBytes, h.byteOffset_eq, Fault.ok_bind, bytesAt, Bytes.window, if_pos h.inside]
  rfl

namespace HostArray

variable {array : HostArray} {ref : Ref} {length : Nat}

theorem Fits.reaches (h : array.Fits) (hstorage : array.storage.length < 2 ^ 63) (ref : Ref)
    (length : Nat) {index : Index} (hindex : array.shape.Contains index) :
    (array.view ref length).Reaches array.storage index :=
  Descriptor.reaches_of_inside h.inside h.offset_le hstorage rfl le_rfl hindex

/-- The indices of an array with one axis are its coordinates. -/
theorem contains_of_lt (hone : array.shape.length = 1) (hcount : array.shape.count? = some length)
    {i : Nat} (hi : i < length) : array.shape.Contains [i] := by
  obtain ⟨extent, hshape⟩ := List.length_eq_one_iff.mp hone
  rw [hshape] at hcount ⊢
  have hmul : Word.mul? 1 extent = some length := by simpa [Shape.count?] using hcount
  unfold Word.mul? at hmul
  split at hmul
  · cases hmul
    exact .cons (by omega) .nil
  · cases hmul

/-- A buffer is made of the bytes of all elements. -/
theorem Fits.outcome_toBuffer [Allocator] {exchange : Exchange Arena} {regions : Regions}
    (h : array.Fits) (hstorage : array.storage.length < 2 ^ 63)
    (hvalue : exchange.host.value? ref = some (.array array))
    (hregions : regions (.object ref) = array.storage) (hone : array.shape.length = 1)
    (hcount : array.shape.count? = some length) :
    (Marshal.outcome (Marshal.toBuffer regions ref) exchange).1 =
      (Buffer.create exchange.settings.current.1.defaultCapacity array.kind
        ((List.range length).map fun i => array.storage.slice
          (array.offset + array.strides.offset [i]).toNat
          array.kind.width).flatten).run.result := by
  refine Marshal.outcome_toBuffer hvalue hcount hone h.rank_eq (Fault.mapM_eq_ok fun i hi => ?_)
  rw [hregions]
  exact (h.reaches hstorage ref length
    (contains_of_lt hone hcount (List.mem_range.mp hi))).elementBytes_eq

end HostArray

namespace Arena

/-- The array objects whose elements lie inside their storage. -/
theorem Chronicle.arrays_fit (ops : List Operation) (hmemory : ∀ op ∈ ops, op.InMemory) :
    -- All array objects fit, if every call brings values for all elements and no position leaves
    -- 128 bits.
    ((∀ op ∈ ops, op.Covered) →
      ∀ ref array, (run ops).arena.value? ref = some (.array array) → array.Fits) ∧
    -- For reads it is enough that every call brings values for all elements.
    ((∀ op ∈ ops, op.Supplied) →
      ∀ ref array, (run ops).arena.value? ref = some (.array array) →
        -- An array object whose elements can be counted fits.
        (array.shape.count?.isSome = true → array.Fits) ∧
        ∀ (exchange : Exchange Arena) (regions : Regions), exchange.host = (run ops).arena →
          regions (.object ref) = array.storage →
          -- An access through a view does not overflow and stays inside the storage.
          (∀ view index, (Marshal.outcome (Marshal.toDescriptor ref) exchange).1 = .ok view →
            array.shape.Contains index → view.Reaches (view.region regions) index) ∧
          ∀ [Allocator],
            -- A buffer is made of bytes of the storage only.
            (∀ length, array.shape.length = 1 → array.shape.count? = some length →
              (∀ i < length, Bytes.Inside array.storage.length
                (array.offset + array.strides.offset [i]) array.kind.width) ∧
              (Marshal.outcome (Marshal.toBuffer regions ref) exchange).1 =
                (Buffer.create exchange.settings.current.1.defaultCapacity array.kind
                  ((List.range length).map fun i => array.storage.slice
                    (array.offset + array.strides.offset [i]).toNat
                    array.kind.width).flatten).run.result) ∧
            -- Without one axis or without a count there is no buffer, and no memory is read.
            (array.shape.length ≠ 1 ∨ array.shape.count? = none →
              ∃ fault, ∀ memory, (Marshal.outcome (Marshal.toBuffer memory ref) exchange).1 =
                .error fault)) ∧
    -- A call that brings too few values makes an array object that does not fit.
    (∀ kind shape values order, (Operation.array kind shape values order).InMemory →
      ∃ array, ((run ops).arena.array kind shape values order).2.value?
          ((run ops).arena.array kind shape values order).1 = some (.array array) ∧
        array.kind = kind ∧ array.shape = shape ∧
        (array.Fits ↔ (Operation.array kind shape values order).Covered)) ∧
    -- So does a call whose layout is accepted though a position leaves 128 bits. With a count none
    -- does.
    ∀ kind shape strides offset bytes ref next,
      (Operation.arrayFromParts kind shape strides offset bytes).InMemory →
      (run ops).arena.arrayFromParts kind shape strides offset bytes = (some ref, next) →
      ∃ array, next.value? ref = some (.array array) ∧
        array.kind = kind ∧ array.shape = shape ∧ array.strides = strides ∧
        array.offset = offset ∧
        (array.Fits ↔ (Operation.arrayFromParts kind shape strides offset bytes).Covered) ∧
        (shape.count?.isSome = true → array.Fits) := by
  refine ⟨?_, fun hsupplied ref array hvalue => ?_, ?_, ?_⟩
  · intro hcovered ref array hvalue
    have hsupplied (op : Operation) (hop : op ∈ ops) := (hcovered op hop).supplied
    obtain ⟨hfits, -⟩ := (contained_run ops hmemory hsupplied).value? hvalue
    exact hfits ((ranged_run ops hmemory hcovered).value? hvalue)
  · have hcontained := (contained_run ops hmemory hsupplied).value? hvalue
    have hstorage := hcontained.2.2.1
    refine ⟨fun hcount => ?_, fun exchange regions hhost hregions => ⟨?_, ?_⟩⟩
    · obtain ⟨length, hlength⟩ := Option.isSome_iff_exists.mp hcount
      exact fits_of_contained hcontained hlength
    · intro view index hview hindex
      obtain ⟨found, length, hfound, hcount, rfl⟩ := Marshal.toDescriptor_eq_ok hview
      rw [hhost, hvalue] at hfound
      cases hfound
      have hreaches := (fits_of_contained hcontained hcount).reaches hstorage ref length hindex
      rwa [← hregions] at hreaches
    · intro _
      refine ⟨fun length hone hcount => ?_, Marshal.toBuffer_refused (hhost ▸ hvalue)⟩
      have hfits := fits_of_contained hcontained hcount
      refine ⟨fun i hi => hfits.inside [i] (HostArray.contains_of_lt hone hcount hi), ?_⟩
      exact hfits.outcome_toBuffer hstorage (hhost ▸ hvalue) hregions hone hcount
  · intro kind shape values order hnew
    refine ⟨_, ?_, rfl, rfl, HostArray.fits_iff_of_dense order (hnew _ rfl).1 rfl rfl⟩
    rw [Arena.array, alloc_eq_place]
    exact value?_place (free_lt_run ops) _
  · intro kind shape strides offset bytes ref next hnew hmade
    have hlayout := (arrayFromParts_eq_some hmade).1
    obtain ⟨hstorage, hstrides⟩ := hnew _ rfl
    have hfits := HostArray.fits_iff_of_layoutFits hlayout hstorage
    have hoffset := (HostArray.rank_and_offset_of_layoutFits hlayout).2
    refine ⟨.ofBytes kind shape strides offset bytes, ?_, rfl, rfl, rfl, rfl, hfits,
      fun hcount => ?_⟩
    · rw [arrayFromParts, if_pos hlayout, alloc_eq_place] at hmade
      cases hmade
      exact value?_place (free_lt_run ops) _
    · obtain ⟨length, hlength⟩ := Option.isSome_iff_exists.mp hcount
      have hbegins := (hoffset.trans (Bytes.length_le_padTo 8 bytes)).trans_lt hstorage
      exact hfits.mpr (HostArray.inRange_of_count kind hlength hstrides hbegins)

/-- What conversions work on after a run. -/
def Chronicle.exchange (ops : List Operation) : Exchange Arena := ⟨(run ops).arena, {}, ⟨[], none⟩⟩

/-- One value laid out as four elements. -/
def short : List Operation := [.array .int32 [4] [(1 : Int32)] .rowMajor]

/-- A layout whose last element ends at a position beyond `2 ^ 128`, over one byte. -/
def remote : List Operation :=
  [.arrayFromParts .int8 [18446744073709551615, 18446744073709551615]
    [9223372036854775807, 9223372036854775807] 0 [0]]

/-- Two array objects that do not fit. In the first one, the storage has room for two of the
elements. The last two lie outside, and yet a buffer is made of all four. The second one is accepted
because its last position wraps around to a negative one. Its second row begins outside, but nothing
is read, since its elements cannot be counted. -/
theorem short_and_remote_reach_outside :
    (∃ array, (Chronicle.run short).arena.value? ⟨3, 0⟩ = some (.array array) ∧
      array.storage.length = 8 ∧ array.shape.Contains [3] ∧
      ¬Bytes.Inside array.storage.length (array.offset + array.strides.offset [3])
        array.kind.width ∧
      (Marshal.outcome (@Marshal.toBuffer Arena Ref _ (Allocator.bounded 64)
        (fun _ => array.storage) ⟨3, 0⟩) (Chronicle.exchange short)).1.toOption.map Buffer.length =
          some 4) ∧
    ∃ array, (Chronicle.run remote).arena.value? ⟨3, 0⟩ = some (.array array) ∧
      array.storage.length = 8 ∧ array.shape.Contains [1, 0] ∧
      array.offset + array.strides.offset [1, 0] = 9223372036854775807 ∧
      (Marshal.outcome (Marshal.toDescriptor (⟨3, 0⟩ : Ref))
        (Chronicle.exchange remote)).1.toOption = none :=
  ⟨⟨_, rfl, rfl, .cons (by decide) .nil, by decide, by decide +kernel⟩,
    _, rfl, rfl, .cons (by decide) (.cons (by decide) .nil), rfl, by decide +kernel⟩

/-- Three values for as many elements, and an array whose elements run backwards. -/
def enough : List Operation :=
  [.array .int32 [3] [(1 : Int32), (2 : Int32), (3 : Int32)] .columnMajor,
    .arrayFromParts .int8 [3] [-1] 2 [7, 8, 9]]

theorem arrays_fit_of_enough :
    (∀ op ∈ enough, op.InMemory) ∧ (∀ op ∈ enough, op.Supplied) ∧
    ∃ array, (Chronicle.run enough).arena.value? ⟨4, 0⟩ = some (.array array) ∧ array.Fits ∧
      (Marshal.outcome (@Marshal.toBuffer Arena Ref _ (Allocator.bounded 64)
        (fun _ => array.storage) ⟨4, 0⟩) (Chronicle.exchange enough)).1.toOption.map
          Buffer.elements = some [[9], [8], [7]] := by
  have hmemory : ∀ op ∈ enough, op.InMemory := by
    simp only [enough, List.mem_cons, List.not_mem_nil, or_false]
    rintro op (rfl | rfl) array ⟨rfl⟩ <;> exact ⟨by decide, by decide⟩
  have hsupplied : ∀ op ∈ enough, op.Supplied := by
    simp only [enough, List.mem_cons, List.not_mem_nil, or_false]
    rintro op (rfl | rfl)
    · show 3 * 4 ≤ 16
      decide
    · trivial
  obtain ⟨hfit, hreads⟩ := (Chronicle.arrays_fit enough hmemory).2.1 hsupplied ⟨4, 0⟩ _ rfl
  obtain ⟨-, hbuffer⟩ := hreads (Chronicle.exchange enough) (fun _ => _) rfl rfl
  refine ⟨hmemory, hsupplied, _, rfl, hfit rfl, ?_⟩
  rw [((@hbuffer (Allocator.bounded 64)).1 3 rfl rfl).2]
  decide +kernel

end Arena

end HostBridge
