import HostBridge.Bridge
import HostBridge.Proofs.Memory.Blocks

/-!
# The books of a bridge

The buffers and arrays behind handles are all the native containers there are, so the native memory
that is out can be read off the stores. A step of whatever kind makes, changes or destroys at most
one container; `Step` says so, together with what its events say about blocks. What holds throughout
a session is then a property that `Step` preserves.

## Main definitions

* `Store.Valid`: every handle names at most one value, and the next handle is new;
* `Bridge.held`: the blocks of all buffers and arrays;
* `Bridge.Orderly`: valid stores of sound buffers and anchored arrays;
* `Step`: what one step may do to the stores, and what its events say about blocks.

## Main results

* `Step.orderly`, `Step.balanced`: a step keeps the stores in order, and its events lead from the
  blocks held before it to those held after it;
* `Step.growths_eq_singleton_iff`: a growth is reported exactly when an existing capacity changed.
-/

namespace HostBridge

open Account (Balanced Idle growths)

namespace Store

variable {α : Type} {store : Store α} {handle : Nat} {value : α}

/-- Every handle names at most one value, and the next handle is new. -/
structure Valid (store : Store α) : Prop where
  nodup : (store.entries.map Prod.fst).Nodup
  lt_upcoming : ∀ entry ∈ store.entries, entry.1 < store.upcoming

/-- The charges of all values together. -/
def total (charges : α → Multiset Charge) (store : Store α) : Multiset Charge :=
  (store.entries.map fun entry => charges entry.2).sum

theorem mem_of_get? (h : store.get? handle = some value) : (handle, value) ∈ store.entries := by
  obtain ⟨front, back, hentries, -⟩ := get?_eq_some_iff.mp h
  rw [hentries]
  exact List.mem_append_right _ List.mem_cons_self

theorem mem_set {entry : Nat × α} (h : entry ∈ (store.set handle value).entries) :
    entry ∈ store.entries ∨ entry = (handle, value) :=
  List.mem_or_eq_of_mem_set h

/-- Replacing a value keeps all handles. -/
theorem keys_set (store : Store α) (handle : Nat) (value : α) :
    (store.set handle value).entries.map Prod.fst = store.entries.map Prod.fst := by
  cases hfound : store.get? handle with
  | none => rw [set_of_none hfound]
  | some old =>
    obtain ⟨front, back, hentries, hfront⟩ := get?_eq_some_iff.mp hfound
    rw [entries_set hentries hfront, hentries]
    simp only [List.map_append, List.map_cons]

/-- A value that is erased leaves the others where they are. -/
theorem get?_erase_of_ne {other : Nat} (h : other ≠ handle) :
    (store.erase handle).get? other = store.get? other := by
  obtain ⟨upcoming, entries⟩ := store
  simp only [get?, erase]
  induction entries with
  | nil => rfl
  | cons entry rest ih =>
    by_cases hkey : entry.1 = handle
    · have hother : (other == entry.1) = false := by simp [hkey, h]
      rw [List.filter_cons_of_neg (by simp [hkey]), ih, List.lookup_cons, hother]
    · rw [List.filter_cons_of_pos (by simp [hkey]), List.lookup_cons, List.lookup_cons, ih]

namespace Valid

theorem empty : (Store.empty : Store α).Valid := ⟨List.nodup_nil, nofun⟩

theorem add (h : store.Valid) (value : α) : (store.add value).2.Valid where
  nodup := by
    simp only [Store.add, List.map_append, List.map_cons, List.map_nil]
    refine h.nodup.append (List.nodup_singleton _) fun key hkey hnew => ?_
    obtain ⟨entry, hentry, rfl⟩ := List.mem_map.mp hkey
    exact (h.lt_upcoming entry hentry).ne (List.mem_singleton.mp hnew)
  lt_upcoming := by
    intro entry hentry
    rcases List.mem_append.mp hentry with hold | hnew
    · exact Nat.lt_succ_of_lt (h.lt_upcoming entry hold)
    · rw [List.mem_singleton.mp hnew]
      exact Nat.lt_succ_self _

/-- A value that a handle names stands at one place, where it is replaced or from where it is
removed. -/
theorem split (hvalid : store.Valid) (h : store.get? handle = some value) :
    ∃ front back, store.entries = front ++ (handle, value) :: back ∧
      (∀ next, (store.set handle next).entries = front ++ (handle, next) :: back) ∧
      (store.erase handle).entries = front ++ back := by
  obtain ⟨front, back, hentries, hfront⟩ := get?_eq_some_iff.mp h
  have hback : ∀ entry ∈ back, entry.1 ≠ handle := by
    have hnodup := hvalid.nodup
    rw [hentries, List.map_append, List.map_cons] at hnodup
    have hnew := (List.nodup_cons.mp (List.nodup_append.mp hnodup).2.1).1
    exact fun entry hentry heq => hnew (List.mem_map.mpr ⟨entry, hentry, heq⟩)
  refine ⟨front, back, hentries, entries_set hentries hfront, ?_⟩
  have hkeep : ∀ part : List (Nat × α), (∀ entry ∈ part, entry.1 ≠ handle) →
      part.filter (fun entry => entry.1 != handle) = part := fun part hpart =>
    List.filter_eq_self.mpr fun entry hentry => bne_iff_ne.mpr (hpart entry hentry)
  simp only [Store.erase, hentries, List.filter_append, List.filter_cons, bne_self_eq_false,
    hkeep front hfront, hkeep back hback, Bool.false_eq_true, if_false]

theorem set (h : store.Valid) (handle : Nat) (value : α) : (store.set handle value).Valid := by
  have hkeys := store.keys_set handle value
  refine ⟨hkeys ▸ h.nodup, fun entry hentry => ?_⟩
  obtain ⟨old, hold, heq⟩ := List.mem_map.mp (hkeys ▸ List.mem_map_of_mem hentry)
  exact heq ▸ h.lt_upcoming old hold

theorem erase (h : store.Valid) (handle : Nat) : (store.erase handle).Valid where
  nodup := h.nodup.sublist (List.filter_sublist.map _)
  lt_upcoming entry hentry := h.lt_upcoming entry (List.mem_of_mem_filter hentry)

/-- The share of one value, apart from that of all others. -/
theorem total_split (hvalid : store.Valid) (h : store.get? handle = some value)
    (charges : α → Multiset Charge) :
    ∃ others, store.total charges = charges value + others ∧
      (∀ next, (store.set handle next).total charges = charges next + others) ∧
      (store.erase handle).total charges = others := by
  obtain ⟨front, back, hentries, hset, herase⟩ := hvalid.split h
  refine ⟨((front ++ back).map fun entry => charges entry.2).sum, ?_, fun next => ?_, ?_⟩
  · rw [total, hentries]
    simp [add_left_comm]
  · rw [total, hset]
    simp [add_left_comm]
  · rw [total, herase]

end Valid

theorem total_add (store : Store α) (value : α) (charges : α → Multiset Charge) :
    (store.add value).2.total charges = store.total charges + charges value := by
  simp [total, add]

end Store

/-! ## What a bridge holds -/

namespace Bridge

/-- The native memory that is out: one block for each buffer and one for each array that owns its
elements. -/
def held (bridge : Bridge) : Multiset Charge :=
  bridge.buffers.total (fun buffer => {buffer.charge}) + bridge.arrays.total Descriptor.charges

/-- The stores are in order, and so is every container in them. -/
structure Orderly (bridge : Bridge) : Prop where
  buffers_valid : bridge.buffers.Valid
  arrays_valid : bridge.arrays.Valid
  sound : ∀ entry ∈ bridge.buffers.entries, entry.2.Sound
  anchored : ∀ entry ∈ bridge.arrays.entries, entry.2.Anchored

theorem orderly_start (cell : Settings.Cell) : (start cell).Orderly :=
  ⟨Store.Valid.empty, Store.Valid.empty, nofun, nofun⟩

end Bridge

/-! ## One step -/

/-- What one step may do to the stores: nothing, or something to one container. -/
inductive Step (bridge after : Bridge) (events : List Event) : Prop
  /-- All containers stay as they are. -/
  | idle (hbuffers : after.buffers = bridge.buffers) (harrays : after.arrays = bridge.arrays)
      (hidle : Idle events)
  /-- A buffer is made. -/
  | bufferMade {buffer : Buffer} (hbuffers : after.buffers = (bridge.buffers.add buffer).2)
      (harrays : after.arrays = bridge.arrays) (hsound : buffer.Sound)
      (hbalanced : Balanced events 0 {buffer.charge}) (hgrowths : growths events = [])
  /-- A buffer is changed. -/
  | bufferChanged {handle : Nat} {buffer next : Buffer}
      (hlive : bridge.buffers.get? handle = some buffer)
      (hbuffers : after.buffers = bridge.buffers.set handle next)
      (harrays : after.arrays = bridge.arrays) (hmoves : buffer.MovesTo next events)
  /-- A buffer goes. -/
  | bufferGone {handle : Nat} {buffer : Buffer} (hlive : bridge.buffers.get? handle = some buffer)
      (hbuffers : after.buffers = bridge.buffers.erase handle)
      (harrays : after.arrays = bridge.arrays)
      (hbalanced : Balanced events {buffer.charge} 0) (hgrowths : growths events = [])
  /-- An array is made. -/
  | arrayMade {array : Descriptor} (hbuffers : after.buffers = bridge.buffers)
      (harrays : after.arrays = (bridge.arrays.add array).2) (hanchored : array.Anchored)
      (hbalanced : Balanced events 0 array.charges) (hgrowths : growths events = [])
  /-- The elements of an array that owns them are changed. -/
  | arrayChanged {handle : Nat} {array next : Descriptor}
      (hlive : bridge.arrays.get? handle = some array) (hbuffers : after.buffers = bridge.buffers)
      (harrays : after.arrays = bridge.arrays.set handle next) (hanchored : next.Anchored)
      (hcharges : next.charges = array.charges) (hidle : Idle events)
  /-- An array goes. -/
  | arrayGone {handle : Nat} {array : Descriptor} (hlive : bridge.arrays.get? handle = some array)
      (hbuffers : after.buffers = bridge.buffers)
      (harrays : after.arrays = bridge.arrays.erase handle)
      (hbalanced : Balanced events array.charges 0) (hgrowths : growths events = [])

namespace Step

variable {bridge after : Bridge} {events : List Event}

/-- A step keeps the stores in order. -/
theorem orderly (h : Step bridge after events) (horderly : bridge.Orderly) : after.Orderly := by
  obtain ⟨hbuffersValid, harraysValid, hsound, hanchored⟩ := horderly
  cases h with
  | idle hbuffers harrays =>
    constructor <;> simpa only [hbuffers, harrays]
  | @bufferMade buffer hbuffers harrays hnew =>
    refine ⟨hbuffers ▸ hbuffersValid.add buffer, harrays ▸ harraysValid, fun entry hentry => ?_,
      harrays ▸ hanchored⟩
    rw [hbuffers] at hentry
    rcases List.mem_append.mp hentry with hold | hadded
    · exact hsound entry hold
    · rw [List.mem_singleton.mp hadded]
      exact hnew
  | @bufferChanged handle _ next _ hbuffers harrays hmoves =>
    refine ⟨hbuffers ▸ hbuffersValid.set handle next, harrays ▸ harraysValid,
      fun entry hentry => ?_, harrays ▸ hanchored⟩
    rw [hbuffers] at hentry
    rcases Store.mem_set hentry with hold | rfl
    · exact hsound entry hold
    · exact hmoves.sound
  | @bufferGone handle _ _ hbuffers harrays =>
    refine ⟨hbuffers ▸ hbuffersValid.erase handle, harrays ▸ harraysValid, fun entry hentry => ?_,
      harrays ▸ hanchored⟩
    rw [hbuffers] at hentry
    exact hsound entry (List.mem_of_mem_filter hentry)
  | @arrayMade array hbuffers harrays hnew =>
    refine ⟨hbuffers ▸ hbuffersValid, harrays ▸ harraysValid.add array, hbuffers ▸ hsound,
      fun entry hentry => ?_⟩
    rw [harrays] at hentry
    rcases List.mem_append.mp hentry with hold | hadded
    · exact hanchored entry hold
    · rw [List.mem_singleton.mp hadded]
      exact hnew
  | @arrayChanged handle _ next _ hbuffers harrays hnext =>
    refine ⟨hbuffers ▸ hbuffersValid, harrays ▸ harraysValid.set handle next, hbuffers ▸ hsound,
      fun entry hentry => ?_⟩
    rw [harrays] at hentry
    rcases Store.mem_set hentry with hold | rfl
    · exact hanchored entry hold
    · exact hnext
  | @arrayGone handle _ _ hbuffers harrays =>
    refine ⟨hbuffers ▸ hbuffersValid, harrays ▸ harraysValid.erase handle, hbuffers ▸ hsound,
      fun entry hentry => ?_⟩
    rw [harrays] at hentry
    exact hanchored entry (List.mem_of_mem_filter hentry)

/-- The events of a step lead from the blocks held before it to those held after it. -/
theorem balanced (h : Step bridge after events) (horderly : bridge.Orderly) :
    Balanced events bridge.held after.held := by
  unfold Bridge.held
  cases h with
  | idle hbuffers harrays hidle =>
    rw [hbuffers, harrays]
    exact hidle.framed _
  | bufferMade hbuffers harrays _ hbalanced =>
    rw [hbuffers, harrays, Store.total_add, add_right_comm]
    exact hbalanced.gain _
  | bufferChanged hlive hbuffers harrays hmoves =>
    -- the other containers are not concerned
    obtain ⟨others, htotal, hset, -⟩ :=
      horderly.buffers_valid.total_split hlive fun buffer => {buffer.charge}
    rw [hbuffers, harrays, htotal, hset, add_assoc, add_assoc]
    exact hmoves.balanced.frame _
  | bufferGone hlive hbuffers harrays hbalanced =>
    obtain ⟨others, htotal, -, herase⟩ :=
      horderly.buffers_valid.total_split hlive fun buffer => {buffer.charge}
    rw [hbuffers, harrays, htotal, herase, add_assoc]
    exact hbalanced.loss _
  | arrayMade hbuffers harrays _ hbalanced =>
    rw [hbuffers, harrays, Store.total_add, ← add_assoc]
    exact hbalanced.gain _
  | arrayChanged hlive hbuffers harrays _ hcharges hidle =>
    obtain ⟨others, htotal, hset, -⟩ := horderly.arrays_valid.total_split hlive Descriptor.charges
    rw [hbuffers, harrays, htotal, hset, hcharges]
    exact hidle.framed _
  | arrayGone hlive hbuffers harrays hbalanced =>
    obtain ⟨others, htotal, -, herase⟩ :=
      horderly.arrays_valid.total_split hlive Descriptor.charges
    rw [hbuffers, harrays, htotal, herase, add_left_comm]
    exact hbalanced.loss _

end Step

end HostBridge
