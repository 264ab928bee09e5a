import HostBridge.Handle.Buffers
import HostBridge.Proofs.Buffer.Invariant
import HostBridge.Proofs.Layout.Basic
import HostBridge.Proofs.Memory.Account

/-!
# The blocks of buffers and arrays

A buffer stands in the books with one block, whose size is not remembered but computed anew from
capacity and width when it is given back. This module says for every operation on one buffer or one
array how its events lead from the blocks before it to those after it, whether it ends well or not,
and that a growth is reported exactly when the capacity changed.

What the operations rely on is `Buffer.Sound`: the block has the size that the capacity asks for and
there is a spare slot. The bytes behind the elements do not matter here, so the property survives
any write into the block.

## Main definitions

* `Buffer.Sound`: the block of a buffer is as large as it is said to be;
* `Buffer.Made` and `Buffer.Moves`: the events of an operation that makes a buffer, and of one that
  changes a buffer, are balanced;
* `Descriptor.charges` and `Descriptor.Made`: the same for arrays, which own a block or borrow one;
* `Descriptor.Anchored`: an array with elements lies somewhere.

## Main results

* `Buffer.Operation.moves`: the operations that change a buffer in place;
* `Buffer.moves_appendCopy`: a buffer appended to itself by way of a copy that is given back;
* `Buffer.Reachable.sound`: every reachable buffer is sound;
* `Descriptor.made_ofStrided`, `Descriptor.made_zeros`, `Descriptor.made_toOwned`: the ways to make
  an array;
* `Buffer.balanced_destroy`, `Descriptor.balanced_destroy`: what is destroyed gives its block back.
-/

namespace HostBridge

open Account (Balanced Idle growths)

namespace Buffer

/-- The block of a buffer as it stands in the books. -/
def charge (buffer : Buffer) : Charge := (entity, buffer.blockSize)

/-- The block is as large as capacity and width say, which is a size that can be asked for, and it
has a spare slot. -/
structure Sound (buffer : Buffer) : Prop where
  length_block : buffer.block.length = buffer.blockSize
  spare : buffer.length < buffer.capacity
  addressable : Allocator.Addressable buffer.blockSize buffer.kind.align

/-- The buffer that an attempt makes has a block that was obtained for it. -/
def Made (run : Attempt Buffer) : Prop :=
  Account.Made Sound (fun buffer => {buffer.charge}) run.run.result run.run.events

/-- Events by which a buffer comes to be another one. If its block is another one than before, it is
larger, the old one was given back and the growth was reported; otherwise none was. -/
structure MovesTo (buffer next : Buffer) (events : List Event) : Prop where
  sound : next.Sound
  kind_eq : next.kind = buffer.kind
  balanced : Balanced events {buffer.charge} {next.charge}
  growths_eq : growths events =
    if next.capacity = buffer.capacity then [] else [(buffer.kind, buffer.capacity, next.capacity)]

/-- An attempt to change a buffer leaves it with one block; if it fails, that is the one it had. -/
def Moves (buffer : Buffer) (run : Attempt Buffer) : Prop :=
  match run.run.result with
  | .ok next => buffer.MovesTo next run.run.events
  | .error _ => Idle run.run.events

/-! ## Sound buffers -/

theorem length_slice_le (bytes : Bytes) (start width : Nat) :
    (bytes.slice start width).length ≤ width :=
  List.length_take_le _ _

namespace Sound

variable {buffer : Buffer} (h : buffer.Sound)
include h

theorem length_le_block : buffer.length * buffer.kind.width ≤ buffer.block.length := by
  rw [h.length_block]
  exact Nat.mul_le_mul_right _ h.spare.le

theorem length_bytes : buffer.bytes.length = buffer.length * buffer.kind.width := by
  have := h.length_le_block
  simp only [bytes, Bytes.slice, List.length_take, List.length_drop]
  omega

/-- The bytes are those of whole elements. -/
theorem whole_bytes : buffer.bytes.length % buffer.kind.width = 0 := by
  rw [h.length_bytes, Nat.mul_mod_left]

theorem count_bytes : buffer.bytes.length / buffer.kind.width = buffer.length := by
  rw [h.length_bytes, Nat.mul_div_cancel _ buffer.kind.width_pos]

theorem flatten_elements : buffer.elements.flatten = buffer.bytes :=
  Bytes.flatten_chunks h.whole_bytes

theorem length_elements : buffer.elements.length = buffer.length := by
  rw [elements, Bytes.length_chunks, h.count_bytes]

/-- A write into the block, of whatever bytes, changes nothing but bytes. -/
theorem withBlock {block : Bytes} (hlength : block.length = buffer.block.length) :
    { buffer with block := block }.Sound :=
  ⟨hlength.trans h.length_block, h.spare, h.addressable⟩

/-- A write of at most `count` slots from `slot` on, together with a new length. -/
theorem overwritten {length start : Nat} {patch : Bytes} (slot count : Nat)
    (hlength : length < buffer.capacity) (hstart : start = slot * buffer.kind.width)
    (hpatch : patch.length ≤ count * buffer.kind.width) (hroom : slot + count ≤ buffer.capacity) :
    { buffer with length := length, block := buffer.block.overwrite start patch }.Sound where
  length_block := by
    have hinside : start + patch.length ≤ buffer.block.length := by
      calc start + patch.length ≤ slot * buffer.kind.width + count * buffer.kind.width :=
            hstart ▸ Nat.add_le_add_left hpatch _
        _ = (slot + count) * buffer.kind.width := (Nat.add_mul _ _ _).symm
        _ ≤ buffer.block.length := h.length_block ▸ Nat.mul_le_mul_right _ hroom
    rw [Bytes.length_overwrite _ _ _ hinside]
    exact h.length_block
  spare := hlength
  addressable := h.addressable

end Sound

theorem sound_vacant [Allocator] {kind : Kind} {capacity : Nat} (hpos : 0 < capacity)
    (h : Obtainable kind capacity) : (vacant kind capacity).Sound where
  length_block := Bytes.length_zeros _
  spare := hpos
  addressable := h.1

theorem Represents.sound {buffer : Buffer} {items : List Bytes} (h : Represents buffer items)
    (haddressable : Allocator.Addressable buffer.blockSize buffer.kind.align) : buffer.Sound :=
  ⟨h.wellFormed.length_block, h.wellFormed.spare, haddressable⟩

/-- A write through a reference to an element stays inside its slot. -/
theorem Sound.written {buffer : Buffer} (h : buffer.Sound) (index : Nat) {element : Bytes}
    (helement : element.length = buffer.kind.width) :
    ((buffer.set? index element).getD buffer).Sound := by
  unfold set?
  by_cases hindex : index < buffer.length
  · rw [if_pos hindex]
    exact h.overwritten index 1 h.spare rfl (by rw [helement, Nat.one_mul]) (hindex.trans h.spare)
  · rw [if_neg hindex]
    exact h

/-! ## Attempts of a known shape -/

section Shapes

variable {buffer next : Buffer}

theorem moves_throw (buffer : Buffer) (fault : Fault) : buffer.Moves (throw fault) := Idle.nil

/-- A change in place is no move. -/
theorem moves_pure (hnext : next.Sound) (hkind : next.kind = buffer.kind)
    (hcapacity : next.capacity = buffer.capacity) : buffer.Moves (pure next) where
  sound := hnext
  kind_eq := hkind
  balanced := by
    rw [show next.charge = buffer.charge by simp only [charge, blockSize, hkind, hcapacity]]
    exact Balanced.nil _
  growths_eq := by
    rw [if_pos hcapacity]
    rfl

/-- A buffer that goes on in a larger block gives the old one back. -/
theorem movesTo_of_grown (hnext : next.Sound) (hkind : next.kind = buffer.kind)
    (hlarger : buffer.capacity < next.capacity) :
    buffer.MovesTo next [.allocated entity next.blockSize,
      .bufferGrown buffer.kind buffer.capacity next.capacity,
      .released entity buffer.blockSize] where
  sound := hnext
  kind_eq := hkind
  balanced := by
    -- the new block is obtained while the old one is still out
    refine Balanced.allocated_cons (Balanced.other_cons rfl rfl ?_)
    rw [add_comm]
    exact Balanced.released_cons (Balanced.nil _)
  growths_eq := by
    rw [if_neg hlarger.ne']
    rfl

/-- What is done to a buffer after it has moved, in place, is part of the move. -/
theorem Moves.map {run : Attempt Buffer} (h : buffer.Moves run) (update : Buffer → Buffer)
    (hupdate : ∀ roomy, run.run.result = .ok roomy → roomy.Sound → roomy.kind = buffer.kind →
      (update roomy).Sound ∧ (update roomy).kind = roomy.kind ∧
        (update roomy).capacity = roomy.capacity) :
    buffer.Moves (do let roomy ← run; return update roomy) := by
  unfold Moves at h ⊢
  rw [Attempt.result_bind, Attempt.events_bind]
  cases hresult : run.run.result with
  | error fault =>
    rw [hresult] at h
    rw [List.append_nil]
    exact h
  | ok roomy =>
    rw [hresult] at h
    obtain ⟨hsound, hkind, hcapacity⟩ := hupdate roomy hresult h.sound h.kind_eq
    have hcharge : (update roomy).charge = roomy.charge := by
      simp only [charge, blockSize, hkind, hcapacity]
    show buffer.MovesTo (update roomy) (run.run.events ++ [])
    rw [List.append_nil]
    refine ⟨hsound, hkind.trans h.kind_eq, ?_, ?_⟩
    · rw [hcharge]
      exact h.balanced
    · rw [hcapacity]
      exact h.growths_eq

/-- A block that is obtained before a change and given back after it does not show in the books. -/
theorem Moves.bracketed {run bracket : Attempt Buffer} (h : buffer.Moves run) {opening : List Event}
    {entity : String} {size : Nat} (hopening : Balanced opening 0 {(entity, size)})
    (hnone : growths opening = []) (hresult : bracket.run.result = run.run.result)
    (hevents : bracket.run.events = opening ++ (run.run.events ++ [.released entity size])) :
    buffer.Moves bracket := by
  have hgrowths : growths bracket.run.events = growths run.run.events := by
    rw [hevents]
    simp [hnone, Event.growth?]
  have hbalanced : ∀ {before after}, Balanced run.run.events before after →
      Balanced bracket.run.events before after := by
    intro before after hrun
    have hopened := hopening.frame before
    rw [zero_add, add_comm] at hopened
    rw [hevents]
    exact hopened.append ((hrun.frame _).append (Balanced.released_cons (Balanced.nil _)))
  unfold Moves at h ⊢
  rw [hresult]
  cases hrun : run.run.result with
  | error fault =>
    rw [hrun] at h
    exact ⟨hbalanced h.balanced, hgrowths.trans h.growths_eq⟩
  | ok next =>
    rw [hrun] at h
    exact ⟨h.sound, h.kind_eq, hbalanced h.balanced, hgrowths.trans h.growths_eq⟩

/-- What is done to a fresh buffer in place is part of making it. -/
theorem Made.bind {run : Attempt Buffer} (h : Made run) (fill : Buffer → Attempt Buffer)
    (hfill : ∀ fresh, run.run.result = .ok fresh → fresh.Sound →
      ∃ next, (fill fresh).run.result = .ok next ∧
        Idle (fill fresh).run.events ∧ next.Sound ∧ next.kind = fresh.kind ∧
        next.capacity = fresh.capacity) :
    Made (run >>= fill) := by
  unfold Made Account.Made at h ⊢
  rw [Attempt.result_bind, Attempt.events_bind]
  cases hresult : run.run.result with
  | error fault =>
    rw [hresult] at h
    rw [List.append_nil]
    exact h
  | ok fresh =>
    rw [hresult] at h
    obtain ⟨hsound, hbalanced, hgrowths⟩ := h
    obtain ⟨next, hnext, hidle, hnextSound, hkind, hcapacity⟩ := hfill fresh hresult hsound
    have hcharge : next.charge = fresh.charge := by simp only [charge, blockSize, hkind, hcapacity]
    rw [Fault.ok_bind, hnext]
    refine ⟨hnextSound, ?_, ?_⟩
    · show Balanced _ 0 {next.charge}
      rw [hcharge]
      exact hbalanced.append (hidle.framed _)
    · rw [Account.growths_append, hgrowths, hidle.growths_eq]
      rfl

end Shapes

/-! ## Making room -/

section Room

variable [Allocator]

/-- A fresh buffer has the block that was obtained for it. -/
theorem made_withCapacity (kind : Kind) (capacity : Nat) : Made (withCapacity kind capacity) := by
  have hevents := events_withCapacity kind capacity
  unfold Made Account.Made
  by_cases hblock : Obtainable kind (max capacity 1)
  · rw [if_pos hblock] at hevents
    rw [withCapacity_of_obtainable hblock, hevents]
    exact ⟨sound_vacant (by omega) hblock, Balanced.allocated_cons (Balanced.nil _), rfl⟩
  · obtain ⟨fault, hfault⟩ := withCapacity_of_not_obtainable hblock
    rw [if_neg hblock] at hevents
    rw [hfault, hevents]
    exact Idle.nil

variable {buffer : Buffer}

/-- A buffer that grows moves its elements to a block that was obtained for it, and gives the old
one back. -/
theorem reserve_of_obtainable {needed : Nat} (hroom : buffer.capacity ≤ needed)
    (hblock : Obtainable buffer.kind (grownCapacity buffer.capacity needed)) :
    (buffer.reserve needed).run.result = .ok
        { vacant buffer.kind (grownCapacity buffer.capacity needed) with
          length := buffer.length
          block := (vacant buffer.kind (grownCapacity buffer.capacity needed)).block.overwrite 0
            buffer.bytes } ∧
      (buffer.reserve needed).run.events =
        [.allocated entity (grownCapacity buffer.capacity needed * buffer.kind.width),
          .bufferGrown buffer.kind buffer.capacity (grownCapacity buffer.capacity needed),
          .released entity buffer.blockSize] := by
  have hmax := max_grownCapacity buffer.capacity needed
  have hfresh := withCapacity_of_obtainable (hmax.symm ▸ hblock)
  have hevents := events_withCapacity buffer.kind (grownCapacity buffer.capacity needed)
  rw [hmax] at hfresh hevents
  rw [if_pos hblock] at hevents
  simp only [reserve_eq, if_neg (Nat.not_lt.mpr hroom), Attempt.result_bind, Attempt.events_bind,
    hfresh, hevents, Fault.ok_bind]
  exact ⟨rfl, rfl⟩

/-- A buffer that cannot grow leaves no trace. -/
theorem reserve_of_starved {needed : Nat} (h : buffer.Starved needed) :
    (∃ fault, (buffer.reserve needed).run.result = .error fault) ∧
      (buffer.reserve needed).run.events = [] := by
  obtain ⟨hroom, hblock⟩ := h
  have hmax := max_grownCapacity buffer.capacity needed
  obtain ⟨fault, hfault⟩ := withCapacity_of_not_obtainable (hmax.symm ▸ hblock)
  have hevents := events_withCapacity buffer.kind (grownCapacity buffer.capacity needed)
  rw [hmax, if_neg hblock] at hevents
  simp only [reserve_eq, if_neg (Nat.not_lt.mpr hroom), Attempt.result_bind, Attempt.events_bind,
    hfault, hevents, Fault.error_bind]
  exact ⟨⟨fault, rfl⟩, rfl⟩

/-- All that a buffer can lack in growing is memory. -/
theorem category_of_reserve {needed : Nat} {fault : Fault}
    (h : (buffer.reserve needed).run.result = .error fault) : fault.category = .allocation := by
  rw [reserve_eq] at h
  split at h
  · cases h
  · rw [Attempt.result_bind] at h
    rcases hfresh : (withCapacity buffer.kind (grownCapacity buffer.capacity needed)).run.result
      with cause | fresh
    · rw [hfresh] at h
      cases h
      exact category_of_withCapacity hfresh
    · rw [hfresh] at h
      cases h

/-- Making room either finds it there, or moves the elements to a larger block, or fails. -/
theorem moves_reserve (h : buffer.Sound) (needed : Nat) : buffer.Moves (buffer.reserve needed) := by
  by_cases hroom : needed < buffer.capacity
  · rw [show buffer.reserve needed = pure buffer by simp [reserve_eq, hroom]]
    exact moves_pure h rfl rfl
  unfold Moves
  by_cases hblock : Obtainable buffer.kind (grownCapacity buffer.capacity needed)
  · obtain ⟨hresult, hevents⟩ := reserve_of_obtainable (Nat.le_of_not_lt hroom) hblock
    have hlarger : buffer.capacity < grownCapacity buffer.capacity needed :=
      (Nat.le_of_not_lt hroom).trans_lt (lt_grownCapacity _ _)
    have hspare : buffer.length < grownCapacity buffer.capacity needed := h.spare.trans hlarger
    have hroomy := (sound_vacant (Nat.zero_lt_of_lt hlarger) hblock).overwritten 0 buffer.length
      hspare (Nat.zero_mul _).symm h.length_bytes.le (by rw [Nat.zero_add]; exact hspare.le)
    rw [hresult, hevents]
    exact movesTo_of_grown hroomy rfl hlarger
  · obtain ⟨⟨fault, hfault⟩, hevents⟩ := reserve_of_starved ⟨Nat.le_of_not_lt hroom, hblock⟩
    rw [hfault, hevents]
    exact Idle.nil

/-- After room was made there is a spare slot behind it. -/
theorem lt_capacity_of_reserve {needed : Nat} {roomy : Buffer}
    (h : (buffer.reserve needed).run.result = .ok roomy) : needed < roomy.capacity := by
  by_cases hroom : needed < buffer.capacity
  · rw [(reserve_of_lt hroom).1] at h
    cases h
    exact hroom
  by_cases hblock : Obtainable buffer.kind (grownCapacity buffer.capacity needed)
  · rw [(reserve_of_obtainable (Nat.le_of_not_lt hroom) hblock).1] at h
    cases h
    exact lt_grownCapacity _ _
  · obtain ⟨⟨fault, hfault⟩, -⟩ := reserve_of_starved ⟨Nat.le_of_not_lt hroom, hblock⟩
    rw [hfault] at h
    cases h

/-! ## Operations -/

theorem moves_extend (h : buffer.Sound) (bytes : Bytes) : buffer.Moves (buffer.extend bytes) := by
  by_cases hwhole : bytes.length % buffer.kind.width = 0
  · have hextend : buffer.extend bytes = do
        let roomy ← buffer.reserve (buffer.length + bytes.length / buffer.kind.width)
        return { roomy with
          length := buffer.length + bytes.length / buffer.kind.width
          block := roomy.block.overwrite (buffer.length * buffer.kind.width) bytes } := by
      simp only [extend_eq, checkWhole_of_whole hwhole]
      rfl
    rw [hextend]
    refine (moves_reserve h _).map _ fun roomy hroomy hsound hkind => ⟨?_, rfl, rfl⟩
    have hlt := lt_capacity_of_reserve hroomy
    refine hsound.overwritten buffer.length (bytes.length / buffer.kind.width) hlt
      (by rw [hkind]) ?_
      hlt.le
    rw [hkind, Nat.div_mul_cancel (Nat.dvd_of_mod_eq_zero hwhole)]
  · obtain ⟨fault, hfault⟩ := checkWhole_of_ragged hwhole
    have hextend : buffer.extend bytes = throw fault := by
      simp only [extend_eq, hfault]
      rfl
    rw [hextend]
    exact moves_throw buffer fault

theorem moves_append (h : buffer.Sound) (other : Buffer) : buffer.Moves (buffer.append other) := by
  by_cases hkind : other.kind = buffer.kind
  · rw [show buffer.append other = buffer.extend other.bytes by simp [append_eq, hkind]]
    exact moves_extend h other.bytes
  · have hthrow : buffer.append other = throw (Fault.kindMismatch buffer.kind other.kind) := by
      rw [append_eq, if_pos hkind]
    rw [hthrow]
    exact moves_throw buffer _

theorem moves_push (h : buffer.Sound) (kind : Kind) (value : Value kind) :
    buffer.Moves (buffer.push kind value) := by
  by_cases hkind : kind = buffer.kind
  · have hpush : buffer.push kind value = buffer.extend (Value.encode kind value) := by
      simp [push_eq, hkind]
    rw [hpush]
    exact moves_extend h _
  · have hthrow : buffer.push kind value = throw (Fault.kindMismatch buffer.kind kind) := by
      rw [push_eq, if_pos hkind]
    rw [hthrow]
    exact moves_throw buffer _

theorem moves_insert (h : buffer.Sound) (index : Nat) (element : Bytes) :
    buffer.Moves (buffer.insert index element) := by
  by_cases helement : element.length = buffer.kind.width
  · by_cases hindex : buffer.length < index
    · have hthrow : buffer.insert index element = throw (Fault.index index buffer.length) := by
        simp only [insert_eq, checkElement_of_length helement, if_pos hindex]
        rfl
      rw [hthrow]
      exact moves_throw buffer _
    · have hinsert : buffer.insert index element = do
          let roomy ← buffer.reserve (buffer.length + 1)
          return { roomy with
            length := buffer.length + 1
            block := (roomy.block.overwrite ((index + 1) * buffer.kind.width)
              (roomy.block.slice (index * buffer.kind.width)
                ((buffer.length - index) * buffer.kind.width))).overwrite
                (index * buffer.kind.width) element } := by
        simp only [insert_eq, checkElement_of_length helement, if_neg hindex]
        rfl
      rw [hinsert]
      refine (moves_reserve h _).map _ fun roomy hroomy hsound hkind => ⟨?_, rfl, rfl⟩
      have hlt := lt_capacity_of_reserve hroomy
      -- the elements behind the index move up by one slot, into the spare one
      have hmoved := hsound.overwritten (index + 1) (buffer.length - index) hlt (by rw [hkind])
        (by rw [hkind]; exact length_slice_le roomy.block (index * buffer.kind.width) _) (by omega)
      exact hmoved.overwritten index 1 hlt (by rw [hkind]) (by rw [hkind, helement, Nat.one_mul])
        (show index + 1 ≤ roomy.capacity by omega)
  · obtain ⟨fault, hfault⟩ := checkElement_of_ne helement
    have hthrow : buffer.insert index element = throw fault := by
      simp only [insert_eq, hfault]
      rfl
    rw [hthrow]
    exact moves_throw buffer fault

end Room

/-! ### In place -/

/-- Exchanging two slots of a block keeps its size. -/
theorem length_swapSlots {width i j : Nat} {block : Bytes} (hi : (i + 1) * width ≤ block.length)
    (hj : (j + 1) * width ≤ block.length) :
    (swapSlots width i j block).length = block.length := by
  have hback := length_slice_le block (j * width) width
  have hfront := length_slice_le block (i * width) width
  rw [Nat.succ_mul] at hi hj
  have hfirst : (block.overwrite (i * width) (block.slice (j * width) width)).length =
      block.length :=
    Bytes.length_overwrite _ _ _ (by omega)
  rw [swapSlots, Bytes.length_overwrite _ _ _ (by omega), hfirst]

/-- Reversing slots of a block keeps its size. -/
theorem length_reverseSlots {width : Nat} {block : Bytes} (low high : Nat)
    (h : high * width ≤ block.length) :
    (reverseSlots width low high block).length = block.length := by
  fun_induction reverseSlots width low high block with
  | case1 low high block hlt ih =>
    have hlow : (low + 1) * width ≤ high * width := Nat.mul_le_mul_right _ hlt.le
    have hhigh : (high - 1 + 1) * width ≤ high * width := Nat.mul_le_mul_right _ (by omega)
    have hless : (high - 1) * width ≤ high * width := Nat.mul_le_mul_right _ (by omega)
    have hswap := length_swapSlots (hlow.trans h) (hhigh.trans h)
    rw [ih (by omega), hswap]
  | case2 => rfl

section InPlace

variable {buffer : Buffer} (h : buffer.Sound)

include h

/-- Removing an element moves those behind it down. -/
theorem moves_removeAt (index : Nat) : buffer.Moves (liftExcept (buffer.removeAt index)) := by
  by_cases hindex : buffer.length ≤ index
  · have hthrow : (liftExcept (buffer.removeAt index) : Attempt Buffer) =
        throw (Fault.index index buffer.length) := by
      simp only [removeAt_eq, if_pos hindex]
      rfl
    rw [hthrow]
    exact moves_throw buffer _
  · have hremove : (liftExcept (buffer.removeAt index) : Attempt Buffer) = pure
        { buffer with
          length := buffer.length - 1
          block := (buffer.block.overwrite (index * buffer.kind.width)
            (buffer.block.slice ((index + 1) * buffer.kind.width)
              ((buffer.length - 1 - index) * buffer.kind.width))).overwrite
              ((buffer.length - 1) * buffer.kind.width) (Bytes.zeros buffer.kind.width) } := by
      simp only [removeAt_eq, if_neg hindex]
      rfl
    rw [hremove]
    have hspare := h.spare
    have hmoved := h.overwritten index (buffer.length - 1 - index) hspare rfl
      (length_slice_le buffer.block ((index + 1) * buffer.kind.width) _) (by omega)
    refine moves_pure (hmoved.overwritten (buffer.length - 1) 1 ?_ rfl ?_ ?_) rfl rfl
    · show buffer.length - 1 < buffer.capacity
      omega
    · rw [Bytes.length_zeros, Nat.one_mul]
    · show buffer.length - 1 + 1 ≤ buffer.capacity
      omega

/-- Removing an element by value is removing it where it is found. -/
theorem moves_removeValue (element : Bytes) :
    buffer.Moves (liftExcept ((buffer.removeValue element).map Prod.snd)) := by
  cases hfound : buffer.findFirst element with
  | error fault =>
    rw [removeValue_of_error hfound]
    exact moves_throw buffer fault
  | ok found =>
    cases found with
    | none =>
      rw [removeValue_of_absent hfound]
      exact moves_pure h rfl rfl
    | some index =>
      have hmoves := moves_removeAt h index
      have hremove : (buffer.removeValue element).map Prod.snd = buffer.removeAt index := by
        rw [removeValue_of_found hfound]
        cases buffer.removeAt index <;> rfl
      rwa [hremove]

theorem moves_reverse : buffer.Moves (pure buffer.reverse) := by
  have hlength := length_reverseSlots 0 buffer.length h.length_le_block
  exact moves_pure (h.withBlock hlength) rfl rfl

theorem moves_clear : buffer.Moves (pure buffer.clear) := by
  have hclear : buffer.clear.Sound := h.overwritten 0 buffer.length (Nat.zero_lt_of_lt h.spare)
    (Nat.zero_mul _).symm (Bytes.length_zeros _).le (by rw [Nat.zero_add]; exact h.spare.le)
  exact moves_pure hclear rfl rfl

end InPlace

/-- The operations that change a buffer itself. -/
def Operation.InPlace : Operation → Prop
  | copy | write .. => False
  | append .. | extend .. | push .. | insert .. | removeAt .. | removeValue .. | reverse
  | clear => True

theorem Operation.inPlace_or (op : Operation) :
    op.InPlace ∨ op = .copy ∨ ∃ index element, op = .write index element := by
  cases op <;> simp [InPlace]

theorem Operation.moves [Allocator] {buffer : Buffer} (h : buffer.Sound) (op : Operation)
    (hop : op.InPlace) : buffer.Moves (op.run buffer) := by
  cases op with
  | append other => exact moves_append h other
  | extend bytes => exact moves_extend h bytes
  | push kind value => exact moves_push h kind value
  | insert index element => exact moves_insert h index element
  | removeAt index => exact moves_removeAt h index
  | removeValue element => exact moves_removeValue h element
  | reverse => exact moves_reverse h
  | clear => exact moves_clear h
  | copy | write => exact hop.elim

/-! ## Buffers made anew -/

section Making

variable [Allocator] {buffer : Buffer}

/-- Elements that there is room for are appended in place. -/
theorem extend_stays (h : buffer.Sound) (bytes : Bytes)
    (hwhole : bytes.length % buffer.kind.width = 0)
    (hroom : buffer.length + bytes.length / buffer.kind.width < buffer.capacity) :
    ∃ next, (buffer.extend bytes).run.result = .ok next ∧ (buffer.extend bytes).run.events = [] ∧
      next.Sound ∧ next.kind = buffer.kind ∧ next.capacity = buffer.capacity := by
  obtain ⟨hresult, hevents⟩ := extend_of_lt buffer bytes hwhole hroom
  refine ⟨_, hresult, hevents, ?_, rfl, rfl⟩
  refine h.overwritten buffer.length (bytes.length / buffer.kind.width) hroom rfl ?_ hroom.le
  rw [Nat.div_mul_cancel (Nat.dvd_of_mod_eq_zero hwhole)]

/-- A copy takes a block of the same size, and has no need to grow after that. -/
theorem made_copy (h : buffer.Sound) : Made buffer.copy := by
  refine (made_withCapacity buffer.kind buffer.capacity).bind _ fun fresh hresult hfresh => ?_
  have hvacant := eq_vacant_of_withCapacity hresult
  rw [max_eq_left (Nat.zero_lt_of_lt h.spare)] at hvacant
  subst hvacant
  have hroom : 0 + buffer.bytes.length / buffer.kind.width < buffer.capacity := by
    rw [h.count_bytes, Nat.zero_add]
    exact h.spare
  obtain ⟨next, hnext, hevents, hsound, hkind, hcapacity⟩ :=
    extend_stays hfresh buffer.bytes h.whole_bytes hroom
  exact ⟨next, hnext, hevents ▸ Idle.nil, hsound, hkind, hcapacity⟩

/-- A buffer is appended to itself by way of a copy, whose block is given back whatever the outcome
of the appending is. -/
theorem moves_appendCopy (h : buffer.Sound) : buffer.Moves buffer.appendCopy := by
  have hmade := made_copy h
  unfold Made Account.Made at hmade
  cases hresult : buffer.copy.run.result with
  | error fault =>
    rw [hresult] at hmade
    unfold Moves
    rw [appendCopy_eq, Attempt.result_bind, Attempt.events_bind, hresult, List.append_nil]
    exact hmade
  | ok copied =>
    rw [hresult] at hmade
    obtain ⟨-, hbalanced, hgrowths⟩ := hmade
    refine (moves_append h copied).bracketed hbalanced hgrowths ?_ ?_
    · rw [appendCopy_eq, Attempt.result_bind, hresult]
      rfl
    · rw [appendCopy_eq, Attempt.events_bind, hresult]
      rfl

/-- A buffer made from bytes has one block, with a spare slot. -/
theorem made_create (defaultCapacity : Nat) (kind : Kind) (bytes : Bytes) :
    Made (create defaultCapacity kind bytes) := by
  by_cases hwhole : bytes.length % kind.width = 0
  · have hcreate : create defaultCapacity kind bytes =
        withCapacity kind (grownCapacity defaultCapacity (bytes.length / kind.width)) >>=
          fun fresh => do
            Attempt.emit (.bufferCreated kind (bytes.length / kind.width) fresh.capacity)
            return { fresh with
              length := bytes.length / kind.width
              block := fresh.block.overwrite 0 bytes } := by
      simp only [create, checkWhole_of_whole hwhole]
      rfl
    rw [hcreate]
    refine (made_withCapacity kind _).bind _ fun fresh hresult hfresh => ?_
    have hvacant := eq_vacant_of_withCapacity hresult
    rw [max_grownCapacity] at hvacant
    subst hvacant
    have hspare := lt_grownCapacity defaultCapacity (bytes.length / kind.width)
    have hbytes : bytes.length = bytes.length / kind.width * kind.width :=
      (Nat.div_mul_cancel (Nat.dvd_of_mod_eq_zero hwhole)).symm
    have hfilled := hfresh.overwritten 0 (bytes.length / kind.width) hspare (Nat.zero_mul _).symm
      hbytes.le (by rw [Nat.zero_add]; exact hspare.le)
    exact ⟨_, rfl, ⟨Balanced.other_cons rfl rfl (Balanced.nil 0), rfl⟩, hfilled, rfl, rfl⟩
  · obtain ⟨fault, hfault⟩ := checkWhole_of_ragged hwhole
    rw [show create defaultCapacity kind bytes = throw fault by simp only [create, hfault]; rfl]
    exact Idle.nil

/-- A buffer made from values has room for all of them from the start. -/
theorem made_ofValues (defaultCapacity : Nat) (kind : Kind) (values : List (Value kind)) :
    Made (ofValues defaultCapacity kind values) := by
  refine (made_withCapacity kind _).bind _ fun fresh hresult hfresh => ?_
  have hvacant := eq_vacant_of_withCapacity hresult
  rw [max_grownCapacity] at hvacant
  subst hvacant
  have hroom := lt_grownCapacity defaultCapacity values.length
  have hvacant := represents_vacant kind (Nat.zero_lt_of_lt hroom)
  obtain ⟨next, hnext, hevents, hkind, hcapacity, hitems⟩ :=
    pushes_fill values hvacant rfl (by rwa [List.length_nil, Nat.zero_add])
  have haddressable : Allocator.Addressable next.blockSize next.kind.align := by
    rw [blockSize, hkind, hcapacity]
    exact hfresh.addressable
  exact ⟨next, hnext, hevents ▸ Idle.nil, hitems.sound haddressable, hkind, hcapacity⟩

end Making

/-- Every reachable buffer is sound: its constructor obtained a block for it, and no operation
changes the block but for a larger one. -/
theorem Reachable.sound {buffer : Buffer} (h : Reachable buffer) : buffer.Sound := by
  have hmade : ∀ {run : Attempt Buffer} {buffer : Buffer}, Made run → run.run.result = .ok buffer →
      buffer.Sound := by
    intro run buffer hmade hresult
    unfold Made at hmade
    rw [hresult] at hmade
    exact hmade.good
  induction h with
  | empty hresult => exact hmade (made_withCapacity _ _) hresult
  | create hresult => exact hmade (made_create _ _ _) hresult
  | ofValues hresult => exact hmade (made_ofValues _ _ _) hresult
  | @step _ buffer op before hother hwrite ih ihother =>
    cases hresult : (op.edit.made buffer).run.result with
    | error fault =>
      rw [op.atomic_edit.left_of_made hresult]
      exact ih
    | ok next =>
      rw [Edit.left_of_made hresult]
      rw [op.made_edit] at hresult
      rcases op.inPlace_or with hop | rfl | ⟨index, element, rfl⟩
      · have hmoves := op.moves ih hop
        unfold Moves at hmoves
        rw [hresult] at hmoves
        exact hmoves.sound
      · exact hmade (made_copy ih) hresult
      · cases hresult
        exact ih.written index (hwrite index element rfl)

/-- A buffer that is let go gives its block back. -/
theorem balanced_release (buffer : Buffer) : Balanced buffer.release.events {buffer.charge} 0 := by
  have h : Balanced buffer.release.events (0 + {buffer.charge}) 0 :=
    Balanced.released_cons (Balanced.nil 0)
  rwa [zero_add] at h

theorem balanced_destroy (buffer : Buffer) : Balanced buffer.destroy.events {buffer.charge} 0 :=
  Balanced.other_cons rfl rfl buffer.balanced_release

end Buffer

/-! ## Arrays -/

namespace Descriptor

/-- The block of an array as it stands in the books; borrowed memory does not stand there. -/
def charges (array : Descriptor) : Multiset Charge :=
  match array.source with
  | .owned _ => {(entity, blockSize array.kind array.byteLength)}
  | .borrowed _ => 0

/-- An array that lies nowhere has no elements. -/
def Anchored (array : Descriptor) : Prop := array.source = .borrowed none → 0 ∈ array.shape

/-- The array that an attempt makes has a block that was obtained for it, if it is to own one. -/
def Made (run : Attempt Descriptor) : Prop :=
  Account.Made Anchored charges run.run.result run.run.events

/-- Without elements there is an empty axis. -/
theorem zero_mem_of_count? {shape : Shape} (h : shape.count? = some 0) : 0 ∈ shape := by
  by_contra hpos
  exact (Shape.prod_pos hpos).ne (Shape.count?_eq_some h).1

/-- The memory of the array belongs to somebody else, and is there if it is needed. -/
def Borrowed (array : Descriptor) : Prop := array.Anchored ∧ array.charges = 0

/-- Borrowed memory is described without obtaining any. -/
theorem borrowed_ofStrided (data : Option Address) (shape : Shape) (strides : Strides)
    (kind : Kind) :
    Account.Made Borrowed (fun _ => 0) (ofStrided data shape strides kind).run.result
      (ofStrided data shape strides kind).run.events := by
  unfold ofStrided
  by_cases hrank : shape.length = strides.length
  · rw [if_neg (not_not.mpr hrank)]
    cases hcount : shape.count? with
    | none => exact .of_idle Idle.nil nofun
    | some length =>
      by_cases hnull : (data.isNone && length != 0) = true
      · simp only [if_pos hnull]
        exact .of_idle Idle.nil nofun
      · simp only [if_neg hnull]
        refine .of_idle (Idle.single ⟨rfl, rfl, rfl⟩) fun view hview => ?_
        cases hview
        refine ⟨⟨fun hnowhere => ?_, rfl⟩, rfl⟩
        -- without an address only an array without elements is accepted
        cases hnowhere
        have hempty : length = 0 := by simpa using hnull
        exact zero_mem_of_count? (hempty ▸ hcount)
  · rw [if_pos hrank]
    exact .of_idle Idle.nil nofun

/-- Borrowed memory does not stand in the books. -/
theorem made_of_borrowed {outcome : Except Fault Descriptor} {events : List Event}
    (h : Account.Made Borrowed (fun _ => 0) outcome events) :
    Account.Made Anchored charges outcome events :=
  .of_idle h.idle fun _ hmade => by
    subst hmade
    exact h.good

theorem made_ofStrided (data : Option Address) (shape : Shape) (strides : Strides) (kind : Kind) :
    Made (ofStrided data shape strides kind) :=
  made_of_borrowed (borrowed_ofStrided data shape strides kind)

/-- An array of zeros has the block that was obtained for it. -/
theorem made_zeros [Allocator] (shape : Shape) (kind : Kind) (order : Order) :
    Made (zeros shape kind order) := by
  unfold zeros
  cases shape.count? with
  | none => exact .of_idle Idle.nil nofun
  | some length =>
    dsimp only
    cases Word.mul? length kind.width with
    | none => exact .of_idle Idle.nil nofun
    | some byteLength =>
      unfold Made
      simp only [Attempt.result_bind, Attempt.events_bind, Allocator.result_obtain,
        Allocator.events_obtain]
      split
      · exact ⟨nofun, Balanced.allocated_cons (Balanced.nil _), rfl⟩
      · exact .of_idle Idle.nil nofun

theorem charges_withBlock (array : Descriptor) (block : Bytes) :
    (array.withBlock block).charges = array.charges := by
  unfold withBlock
  split <;> simp [charges, *]

theorem Anchored.withBlock {array : Descriptor} (h : array.Anchored) (block : Bytes) :
    (array.withBlock block).Anchored := by
  unfold Descriptor.withBlock
  split
  · nofun
  · exact h

/-- An owned copy has a block of its own, whatever the array lies in. -/
theorem made_toOwned [Allocator] (array : Descriptor) (region : Bytes) :
    Made (array.toOwned region) := by
  have hzeros := made_zeros array.shape array.kind .rowMajor
  unfold Made at hzeros ⊢
  rw [toOwned, Attempt.result_bind, Attempt.events_bind]
  cases hresult : (zeros array.shape array.kind .rowMajor).run.result with
  | error fault =>
    rw [hresult] at hzeros
    rw [List.append_nil]
    exact hzeros
  | ok copy =>
    rw [hresult] at hzeros
    obtain ⟨hanchored, hbalanced, hgrowths⟩ := hzeros
    simp only [Fault.ok_bind, Attempt.result_pure, Attempt.events_pure, List.append_nil]
    refine ⟨hanchored.withBlock _, ?_, hgrowths⟩
    rw [charges_withBlock]
    exact hbalanced

/-- A run of elements that is known to be there lies somewhere and is borrowed. -/
theorem made_ofRun (data : Address) (length : Nat) (kind : Kind) :
    Made (pure (ofRun data length kind)) :=
  .of_idle Idle.nil fun view hview => by
    cases hview
    exact ⟨nofun, rfl⟩

/-- An array that is let go gives back its block if it owns one. -/
theorem balanced_release (array : Descriptor) : Balanced array.release.events array.charges 0 := by
  unfold release charges
  cases array.source with
  | owned block =>
    have h : Balanced [.released entity (blockSize array.kind array.byteLength)] (0 + {_}) 0 :=
      Balanced.released_cons (Balanced.nil 0)
    rwa [zero_add] at h
  | borrowed address => exact Balanced.nil 0

theorem balanced_destroy (array : Descriptor) : Balanced array.destroy.events array.charges 0 :=
  Balanced.other_cons rfl rfl array.balanced_release

theorem growths_release (array : Descriptor) : growths array.release.events = [] := by
  unfold release
  split <;> rfl

end Descriptor

end HostBridge
