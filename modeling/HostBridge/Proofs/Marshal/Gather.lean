import HostBridge.Proofs.Arena.Storage
import HostBridge.Proofs.Layout.Walk
import HostBridge.Proofs.Slots

/-!
# Gathering the elements of an array

The elements of an array can be gathered in two ways. A copy with a block of its own is filled by
writing every element at the place of its index; a new array object is made from the elements laid
end to end, and the host gives it strides afresh. This module shows that both yield the same bytes,
whatever the strides of the source, and that gathering from the result yields them again.

## Main definitions

* `Descriptor.packed`: the copy that gathering yields;
* `Descriptor.GathersTo`: all ways to gather an array yield the given elements.

## Main results

* `Bytes.foldl_setWindow`: writing pieces at consecutive places lays them end to end;
* `Descriptor.result_toOwned`: what a copy is like, and when it can be had;
* `Descriptor.elements_of_dense`: the elements of a dense array are the pieces of its memory;
* `Descriptor.gathers_alike`: the two ways agree, and so do their results.
-/

namespace HostBridge

/-! ## Offsets -/

namespace Shape

variable {shape : Shape}

/-- In a dense row-major array an access finds the element at its position. -/
theorem signed_offset_rowMajor {index : Index} {width : Nat} (h : shape.Contains index)
    (hsize : shape.prod * width < 2 ^ 63) :
    Word.signed ((shape.denseStrides width .rowMajor).offset index) =
      (width * shape.position index : Nat) := by
  have hle : width * shape.position index ≤ shape.prod * width := by
    rw [Nat.mul_comm]
    exact Nat.mul_le_mul_right _ (position_lt h).le
  rw [offset_rowMajor h (by rwa [Nat.mul_comm])]
  exact Word.signed_of_fits (Word.fits_iff.mpr ⟨by omega, by omega⟩)

end Shape

/-! ## Pieces one after another -/

/-- A read at the place of a piece yields that piece, whatever comes after the last one. -/
theorem Bytes.Uniform.window_flatten {width : Nat} {pieces : List Bytes} (h : Uniform width pieces)
    {k : Nat} (hk : k < pieces.length) (rest : Bytes) :
    window (pieces.flatten ++ rest) ((width * k : Nat) : Int) width = pieces[k] := by
  have hend : width * k + width ≤ pieces.flatten.length := by
    rw [h.length_flatten, ← Nat.mul_succ, Nat.mul_comm]
    exact Nat.mul_le_mul_right _ hk
  have hinside : Inside (pieces.flatten ++ rest).length ((width * k : Nat) : Int) width := by
    rw [List.length_append]
    exact ⟨by omega, by omega⟩
  rw [← h.slice_slot hk, Nat.mul_comm k, window, if_pos hinside, Int.toNat_natCast, slice, slice,
    List.drop_append_of_le_length (by omega),
    List.take_append_of_le_length (by rw [List.length_drop]; omega)]

/-- Writing pieces of one width at consecutive places lays them end to end. -/
theorem Bytes.foldl_setWindow {α : Type} {width start : Nat} {place : α → Int} {items : List α}
    (piece : α → Bytes) (front rest : Bytes)
    (hplace : items.map place =
      (List.range' start items.length).map fun k => ((width * k : Nat) : Int))
    (hpiece : ∀ item, (piece item).length = width) (hfront : front.length = width * start)
    (hroom : items.length * width ≤ rest.length) :
    items.foldl (fun block item => Bytes.setWindow block (place item) (piece item))
        (front ++ rest) =
      front ++ (items.map piece).flatten ++ rest.drop (items.length * width) := by
  induction items generalizing start front rest with
  | nil => simp
  | cons item items ih =>
    rw [List.length_cons, Nat.succ_mul] at hroom
    rw [List.map_cons, List.length_cons, List.range'_succ, List.map_cons] at hplace
    obtain ⟨hhead, htail⟩ := List.cons.inj hplace
    -- the first piece replaces the first bytes after those that are written
    have hstep : Bytes.setWindow (front ++ rest) (place item) (piece item) =
        (front ++ piece item) ++ rest.drop width := by
      have hinside : Inside (front ++ rest).length (place item) (piece item).length := by
        rw [hhead, List.length_append, hpiece]
        exact ⟨by omega, by omega⟩
      rw [setWindow, if_pos hinside, hhead, Int.toNat_natCast, overwrite, hpiece, ← hfront,
        List.take_left, List.drop_append]
      simp
    have hfront' : (front ++ piece item).length = width * (start + 1) := by
      rw [List.length_append, hfront, hpiece, Nat.mul_succ]
    rw [List.foldl_cons, hstep, ih _ _ htail hfront' (by rw [List.length_drop]; omega)]
    simp [Nat.succ_mul, Nat.add_comm]

/-! ## The elements of an array -/

namespace Descriptor

open Shape

variable {array copy : Descriptor} {region memory : Bytes} {index : Index}

theorem elementBytes_of_contains (h : array.shape.Contains index) :
    array.elementBytes region index =
      .ok (array.bytesAt region (Word.signed (array.strides.offset index))) := by
  rw [elementBytes, byteOffset_eq_signed h]
  rfl

/-- An odometer visits the elements in the order in which they are gathered. -/
theorem mapM_walk (array : Descriptor) (region : Bytes) :
    array.shape.walk.mapM (array.elementBytes region) = .ok (array.elements region) := by
  rw [walk_eq_indices]
  exact Fault.mapM_eq_ok fun index hindex => elementBytes_of_contains (mem_indices_iff.mp hindex)

theorem length_elements (array : Descriptor) (region : Bytes) :
    (array.elements region).length = array.shape.prod := by
  rw [elements, List.length_map, length_indices]

theorem length_bytesAt (array : Descriptor) (region : Bytes) (offset : Int) :
    (array.bytesAt region offset).length = array.kind.width := Bytes.length_window ..

theorem uniform_elements (array : Descriptor) (region : Bytes) :
    Bytes.Uniform array.kind.width (array.elements region) := by
  intro piece hpiece
  obtain ⟨index, -, rfl⟩ := List.mem_map.mp hpiece
  exact length_bytesAt ..

theorem length_gather (array : Descriptor) (region : Bytes) :
    (array.gather region).length = array.shape.prod * array.kind.width := by
  rw [gather, (uniform_elements array region).length_flatten, length_elements]

/-- Arrays with the same elements in order have the same element at every index. -/
theorem elementBytes_congr (hshape : copy.shape = array.shape)
    (helements : copy.elements memory = array.elements region) (h : array.shape.Contains index) :
    copy.elementBytes memory index = array.elementBytes region index := by
  rw [elements, elements, hshape] at helements
  rw [elementBytes_of_contains h, elementBytes_of_contains (hshape ▸ h)]
  exact congrArg _ (List.map_inj_left.mp helements index (mem_indices_iff.mpr h))

/-- The elements of a dense array at the start of a region are the pieces that lie there. -/
theorem elements_of_dense {contents : List Bytes} {rest : Bytes} (hbase : copy.base = 0)
    (hstrides : copy.strides = copy.shape.denseStrides copy.kind.width .rowMajor)
    (hsize : copy.shape.prod * copy.kind.width < 2 ^ 63)
    (huniform : Bytes.Uniform copy.kind.width contents)
    (hlength : contents.length = copy.shape.prod) :
    copy.elements (contents.flatten ++ rest) = contents := by
  apply List.ext_getElem
  · rw [length_elements, hlength]
  intro k hk hk'
  have hplace : k < copy.shape.indices.length := by rwa [length_indices, ← hlength]
  have hindex := mem_indices_iff.mp (List.getElem_mem hplace)
  -- the index at place `k` has position `k`, so its element lies `k` pieces from the start
  have hoffset : Word.signed (copy.strides.offset copy.shape.indices[k]) =
      (copy.kind.width * k : Nat) := by
    rw [hstrides, signed_offset_rowMajor hindex hsize, position_getElem_indices]
  rw [← huniform.window_flatten hk' rest]
  simp only [elements, List.getElem_map]
  rw [hoffset, bytesAt, hbase, zero_add]

/-! ## Copies with a block of their own -/

/-- A dense row-major copy of an array with a block of its own. -/
def packed (array : Descriptor) (region : Bytes) : Descriptor where
  kind := array.kind
  shape := array.shape
  strides := array.shape.denseStrides array.kind.width .rowMajor
  source := .owned (array.gather region ++ Bytes.zeros
    (blockSize array.kind (array.shape.prod * array.kind.width) -
      array.shape.prod * array.kind.width))
  length := array.shape.prod
  byteLength := array.shape.prod * array.kind.width

theorem elements_packed (array : Descriptor) (region : Bytes)
    (hsize : array.shape.prod * array.kind.width < 2 ^ 63) :
    (array.packed region).elements (array.packed region).block = array.elements region :=
  elements_of_dense rfl rfl hsize (uniform_elements array region) (length_elements array region)

/-- Writing every element at the place of its index packs them. -/
theorem foldl_setWindow_indices (hsize : array.shape.prod * array.kind.width < 2 ^ 63)
    {block : Bytes} (hroom : array.shape.prod * array.kind.width ≤ block.length) :
    array.shape.indices.foldl (fun block index => Bytes.setWindow block
        (Word.signed ((array.shape.denseStrides array.kind.width .rowMajor).offset index))
        (array.bytesAt region (Word.signed (array.strides.offset index)))) block =
      array.gather region ++ block.drop (array.shape.prod * array.kind.width) := by
  have hplace : array.shape.indices.map (fun index =>
      Word.signed ((array.shape.denseStrides array.kind.width .rowMajor).offset index)) =
      (List.range' 0 array.shape.indices.length).map fun k =>
        ((array.kind.width * k : Nat) : Int) := by
    rw [length_indices, ← List.range_eq_range', ← map_position_indices, List.map_map]
    exact List.map_congr_left fun index hindex =>
      signed_offset_rowMajor (mem_indices_iff.mp hindex) hsize
  have hloop := Bytes.foldl_setWindow
    (fun index => array.bytesAt region (Word.signed (array.strides.offset index))) [] block hplace
    (fun index => length_bytesAt ..) rfl (by rwa [length_indices])
  rwa [length_indices] at hloop

/-- A copy can be had if its block can, and it is packed. -/
theorem result_toOwned [allocator : Allocator]
    (hsize : (array.shape.map (max · 1)).prod * array.kind.width < 2 ^ 63) :
    (array.toOwned region).run.result =
      if Allocator.Addressable (blockSize array.kind (array.gather region).length)
          array.kind.align ∧ allocator.grants (blockSize array.kind (array.gather region).length)
      then .ok (array.packed region)
      else
        .error (Fault.allocation entity
          (blockSize array.kind (array.gather region).length)) := by
  obtain ⟨hcount, hbytes, hlt⟩ := size_of_max_lt hsize
  have hle : array.shape.prod * array.kind.width ≤
      blockSize array.kind (array.shape.prod * array.kind.width) := le_max_left _ _
  rw [length_gather, toOwned, Attempt.result_bind, result_zeros hcount hbytes]
  split
  · rw [Fault.ok_bind]
    show Except.ok _ = _
    congr 1
    -- only the block is left to compare: it was zeros, and the elements were written over them
    simp only [withBlock, block]
    rw [foldl_setWindow_indices hlt (by rwa [Bytes.length_zeros]), Bytes.zeros, List.drop_replicate]
    rfl
  · rfl

/-! ## Array objects -/

variable {regions : Regions} {exchange after : Exchange Arena} {ref : Ref}

/-- The array object that is made from an array. -/
def object (array : Descriptor) (region : Bytes) : HostArray :=
  .rowMajor array.kind array.shape (array.gather region)

theorem storage_object (array : Descriptor) (region : Bytes) :
    ∃ rest, (array.object region).storage = (array.elements region).flatten ++ rest := ⟨_, rfl⟩

/-- An array object is made unless the host is full. -/
theorem outcome_ofDescriptor (hsize : (array.shape.map (max · 1)).prod * array.kind.width < 2 ^ 63)
    (regions : Regions) (exchange : Exchange Arena) :
    (exchange.host.isFull = true ∧
        (Marshal.outcome (Marshal.ofDescriptor regions array) exchange).1 =
          .error (Fault.allocation "host array" (array.shape.prod * array.kind.width))) ∨
      exchange.host.isFull = false ∧
        ∃ after, after.host =
            (exchange.host.place (.array (array.object (array.region regions)))).2 ∧
          Marshal.outcome (Marshal.ofDescriptor regions array) exchange =
            (.ok (exchange.host.place (.array (array.object (array.region regions)))).1,
              after) := by
  obtain ⟨hcount, hbytes, -⟩ := size_of_max_lt hsize
  rw [← length_gather array (array.region regions)]
  refine (Marshal.outcome_newArray ?_ exchange).imp_left fun hfull => ⟨hfull.1, hfull.2.1⟩
  rw [hcount, Option.bind_some, hbytes, length_gather]

/-- The object that was made is there afterwards, whatever calls the host has seen. -/
theorem value?_of_ofDescriptor
    (hsize : (array.shape.map (max · 1)).prod * array.kind.width < 2 ^ 63)
    {ops : List Arena.Operation} (hhost : exchange.host = (Arena.Chronicle.run ops).arena)
    (h : Marshal.outcome (Marshal.ofDescriptor regions array) exchange = (.ok ref, after)) :
    after.host.value? ref = some (.array (array.object (array.region regions))) := by
  rcases outcome_ofDescriptor hsize regions exchange with ⟨-, hfault⟩ | ⟨-, made, hmade, hok⟩
  · rw [h] at hfault
    cases hfault
  · rw [h] at hok
    cases hok
    rw [hmade, hhost]
    exact Arena.value?_place (Arena.Chronicle.free_lt_run ops) _

/-! ## The two ways agree -/

/-- All ways to gather the elements of an array yield the same bytes. -/
structure GathersTo (array : Descriptor) (regions : Regions) (contents : List Bytes) : Prop where
  /-- These are the elements in the order in which an odometer reaches their indices. -/
  walk : array.shape.walk.mapM (array.elementBytes (array.region regions)) = .ok contents
  /-- A copy with a block of its own is row-major and has the same elements, and its block begins
  with the bytes of all of them. -/
  owned : ∀ [Allocator] (copy : Descriptor),
    (array.toOwned (array.region regions)).run.result = .ok copy →
      copy.kind = array.kind ∧ copy.shape = array.shape ∧ copy.isView = false ∧
      copy.strides = array.shape.denseStrides array.kind.width .rowMajor ∧
      (∀ index, array.shape.Contains index → copy.elementBytes (copy.region regions) index =
        array.elementBytes (array.region regions) index) ∧
      copy.byteLength = contents.flatten.length ∧
      copy.block.take copy.byteLength = contents.flatten
  /-- An array object is row-major, and its storage begins with the same bytes. -/
  placed : ∀ (ops : List Arena.Operation) (exchange after : Exchange Arena) (ref : Ref),
    exchange.host = (Arena.Chronicle.run ops).arena →
    Marshal.outcome (Marshal.ofDescriptor regions array) exchange = (.ok ref, after) →
      ∃ made, after.host.value? ref = some (.array made) ∧
        made.kind = array.kind ∧ made.shape = array.shape ∧
        made.strides = array.shape.denseStrides array.kind.width .rowMajor ∧ made.offset = 0 ∧
        made.storage.take contents.flatten.length = contents.flatten

theorem gathersTo_elements (array : Descriptor)
    (hsize : (array.shape.map (max · 1)).prod * array.kind.width < 2 ^ 63) (regions : Regions) :
    array.GathersTo regions (array.elements (array.region regions)) where
  walk := mapM_walk array (array.region regions)
  owned := by
    intro _ copy hcopy
    obtain ⟨-, -, hlt⟩ := size_of_max_lt hsize
    rw [result_toOwned hsize] at hcopy
    split at hcopy
    · cases hcopy
      have hlength := length_gather array (array.region regions)
      refine ⟨rfl, rfl, rfl, rfl, fun index hindex => ?_, hlength.symm, ?_⟩
      · exact elementBytes_congr rfl (elements_packed array _ hlt) hindex
      · show (array.gather _ ++ _).take (array.shape.prod * array.kind.width) = array.gather _
        rw [← hlength, List.take_left]
    · cases hcopy
  placed := by
    intro ops exchange after ref hhost hmade
    refine ⟨_, value?_of_ofDescriptor hsize hhost hmade, rfl, rfl, rfl, rfl, ?_⟩
    obtain ⟨rest, hstorage⟩ := storage_object array (array.region regions)
    rw [hstorage, List.take_left]

/-- Gathering does not depend on the strides of an array, nor on the way of gathering: a copy with a
block of its own and a new array object hold the same bytes, and gathering again from a view of the
object yields them once more. -/
theorem gathers_alike (array : Descriptor) (regions : Regions)
    (hsize : (array.shape.map (max · 1)).prod * array.kind.width < 2 ^ 63) :
    ∃ contents, array.GathersTo regions contents ∧
      -- A copy fails for want of memory only.
      (∀ [allocator : Allocator],
        (∃ copy, (array.toOwned (array.region regions)).run.result = .ok copy) ↔
          Allocator.Addressable (blockSize array.kind contents.flatten.length) array.kind.align ∧
            allocator.grants (blockSize array.kind contents.flatten.length)) ∧
      -- An array object fails only when the host is full.
      (∀ exchange : Exchange Arena,
        (∃ ref, (Marshal.outcome (Marshal.ofDescriptor regions array) exchange).1 = .ok ref) ↔
          exchange.host.isFull = false) ∧
      -- Once it is made it has a view, and all ways to gather from that yield the same bytes.
      ∀ (ops : List Arena.Operation) (exchange after : Exchange Arena) (ref : Ref)
        (regions' : Regions), exchange.host = (Arena.Chronicle.run ops).arena →
        Marshal.outcome (Marshal.ofDescriptor regions array) exchange = (.ok ref, after) →
        regions' (.object ref) = after.host.storage ref →
        ∃ view, (Marshal.outcome (Marshal.toDescriptor ref) after).1 = .ok view ∧
          view.GathersTo regions' contents := by
  obtain ⟨hcount, -, hlt⟩ := size_of_max_lt hsize
  refine ⟨_, gathersTo_elements array hsize regions, ?_, ?_, ?_⟩
  · intro _
    rw [result_toOwned hsize]
    split
    · exact iff_of_true ⟨_, rfl⟩ ‹_›
    · exact iff_of_false nofun ‹_›
  · intro exchange
    rcases outcome_ofDescriptor hsize regions exchange with ⟨hfull, hfault⟩ | ⟨hroom, _, -, hok⟩
    · rw [hfault, hfull]
      exact iff_of_false nofun nofun
    · exact iff_of_true ⟨_, by rw [hok]⟩ hroom
  · intro ops exchange after ref regions' hhost hmade hregions
    have hvalue := value?_of_ofDescriptor hsize hhost hmade
    obtain ⟨rest, hstorage⟩ := storage_object array (array.region regions)
    let view := (array.object (array.region regions)).view ref array.shape.prod
    have hrank := (length_denseStrides array.shape array.kind.width .rowMajor).symm
    refine ⟨view, Marshal.outcome_toDescriptor hvalue hcount hrank, ?_⟩
    -- the view is dense, so its elements are the pieces of the storage
    have helements : view.elements (view.region regions') =
        array.elements (array.region regions) := by
      rw [show view.region regions' = after.host.storage ref from hregions, Arena.storage, hvalue]
      simp only [hstorage]
      exact elements_of_dense rfl rfl hlt (uniform_elements array _) (length_elements array _)
    rw [← helements]
    exact gathersTo_elements view hsize regions'

/-- Two rows of three elements that overlap: the second row begins one element before the first. -/
def overlapping : Descriptor where
  kind := .int16
  shape := [2, 3]
  strides := [-2, 2]
  source := .borrowed (some ⟨.block 0, 2⟩)
  length := 6
  byteLength := 12

theorem gathers_alike_of_overlapping :
    ∃ contents, overlapping.GathersTo (fun _ => [0, 1, 2, 3, 4, 5, 6, 7]) contents ∧
      contents = [[2, 3], [4, 5], [6, 7], [0, 1], [2, 3], [4, 5]] ∧
      (∃ copy, (@toOwned overlapping (Allocator.bounded 64)
        [0, 1, 2, 3, 4, 5, 6, 7]).run.result = .ok copy) ∧
      ∃ ref, (Marshal.outcome (Marshal.ofDescriptor (fun _ => [0, 1, 2, 3, 4, 5, 6, 7]) overlapping)
        (Arena.Chronicle.exchange [])).1 = .ok ref := by
  obtain ⟨contents, hgathers, howned, hplaced, -⟩ :=
    gathers_alike overlapping (fun _ => [0, 1, 2, 3, 4, 5, 6, 7]) (by decide)
  have hcontents : contents = [[2, 3], [4, 5], [6, 7], [0, 1], [2, 3], [4, 5]] :=
    Except.ok.inj (hgathers.walk.symm.trans rfl)
  refine ⟨contents, hgathers, hcontents, ?_, (hplaced _).mpr rfl⟩
  refine (@howned (Allocator.bounded 64)).mpr ?_
  rw [hcontents]
  decide

end Descriptor

end HostBridge
