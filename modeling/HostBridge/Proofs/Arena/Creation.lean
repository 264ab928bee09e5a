import HostBridge.Proofs.Arena.Bookkeeping

/-!
# Objects that are made and released

An object that is made takes a reference that named nothing before, and once that reference is given
back every reference names what it named at first. This holds in every state of an arena, however
many calls led to it. A generation may have come round to zero by then, so that a reference that was
handed out long ago could name a new object; but a slot that is listed as free is vacant all the
same.

## Main definitions

* `Reachable`: the states that calls and writes through views lead to;
* `Regular`: the slots are tidy, after whatever number of calls;
* `Alike`: every reference names the same object, with the same count;
* `Creates`: what becomes of an arena in which one object is made.

## Main results

* `slot?_set` and `Placed.slot?_eq`: what references name when one slot is rewritten or filled;
* `Regular.step` and `Reachable.regular`: the slots stay tidy in every run;
* `Regular.creates`: placing an object makes just that one, and giving it back undoes it.
-/

namespace HostBridge.Arena

variable {arena next : Arena} {ref other : Ref} {slot slot' : Slot} {object : Object} {steps : Nat}

/-! ## What references name -/

/-- Rewriting the slot of a reference within its generation concerns no other reference. -/
theorem slot?_set (hslot : arena.slot? ref = some slot)
    (hgeneration : slot'.generation = slot.generation) (hvalue : slot'.value.isSome = true)
    (hslots : next.slots = arena.slots.set ref.slot slot') (other : Ref) :
    next.slot? other = if other = ref then some slot' else arena.slot? other := by
  obtain ⟨hheld, hname, -⟩ := slot?_eq_some_iff.mp hslot
  obtain ⟨hlt, -⟩ := List.getElem?_eq_some_iff.mp hheld
  by_cases hsame : other.slot = ref.slot
  · have hnext : next.slots[other.slot]? = some slot' := by
      rw [hslots, hsame, List.getElem?_set_self hlt]
    by_cases href : other = ref
    · rw [if_pos href]
      exact slot?_eq_some_iff.mpr ⟨hnext, by rw [hgeneration, hname, href], hvalue⟩
    -- a reference to another generation of the slot names nothing before and after
    · have hother : slot.generation ≠ other.generation := by
        intro heq
        exact href (Ref.ext hsame (heq.symm.trans hname))
      rw [if_neg href, Arena.slot?, Arena.slot?, hnext, hsame, hheld]
      simp [Option.filter, hgeneration, hother]
  · have hne : other ≠ ref := fun heq => hsame (congrArg Ref.slot heq)
    rw [if_neg hne, Arena.slot?, Arena.slot?, hslots, List.getElem?_set_ne (Ne.symm hsame)]

/-- A reference to a slot that holds nothing names nothing. -/
theorem slot?_of_vacant
    (hvacant : ∀ found, arena.slots[ref.slot]? = some found → found.value = none) :
    arena.slot? ref = none := by
  rw [Option.eq_none_iff_forall_ne_some]
  intro found hfound
  obtain ⟨hheld, -, hvalue⟩ := slot?_eq_some_iff.mp hfound
  rw [hvacant found hheld] at hvalue
  cases hvalue

/-- Before an object is placed, no reference names its slot. -/
theorem Placed.slot?_eq_none (hplaced : Placed arena object ref next)
    (hsame : other.slot = ref.slot) :
    arena.slot? other = none :=
  slot?_of_vacant fun found hfound => (hplaced.vacant found (hsame ▸ hfound)).1

/-- Afterwards one more reference names something. -/
theorem Placed.slot?_eq (hplaced : Placed arena object ref next) (other : Ref) :
    next.slot? other =
      if other = ref then some ⟨ref.generation, 1, false, some object⟩ else arena.slot? other := by
  by_cases hsame : other.slot = ref.slot
  · have hnext := hplaced.slots other.slot
    rw [if_pos hsame] at hnext
    by_cases href : other = ref
    · rw [if_pos href]
      exact slot?_eq_some_iff.mpr ⟨hnext, by rw [href], rfl⟩
    · have hother : ref.generation ≠ other.generation := fun heq => href (Ref.ext hsame heq.symm)
      rw [if_neg href, hplaced.slot?_eq_none hsame, Arena.slot?, hnext]
      simp [Option.filter, hother]
  · have hne : other ≠ ref := fun heq => hsame (congrArg Ref.slot heq)
    rw [if_neg hne, Arena.slot?, Arena.slot?, hplaced.slots, if_neg hsame]

/-! ## Tidy slots in every state -/

/-- The slots are tidy, after whatever number of calls. -/
def Regular (arena : Arena) : Prop := ∃ steps, Tidy arena steps

/-- Another generation makes no difference to a slot that can be freed. -/
theorem Tidy.regenerate (h : Tidy arena steps) {i : Nat} (hpermanent : permanent ≤ i)
    (hslot : arena.slots[i]? = some slot) (generation : Nat) :
    Tidy { arena with slots := arena.slots.set i { slot with generation } }
      (steps + generation) := by
  obtain ⟨hlt, -⟩ := List.getElem?_eq_some_iff.mp hslot
  have hget (j : Nat) : (arena.slots.set i { slot with generation })[j]? =
      if j = i then some { slot with generation } else arena.slots[j]? := by
    by_cases hj : j = i
    · rw [if_pos hj, hj, List.getElem?_set_self hlt]
    · rw [if_neg hj, List.getElem?_set_ne (Ne.symm hj)]
  refine ⟨?_, ?_, ?_, ?_, h.free_nodup, ?_⟩
  · intro j hj
    rw [hget, if_neg (by omega)]
    exact h.permanent_eq j hj
  · intro j found hj hfound
    rw [hget] at hfound
    split at hfound
    · cases hfound
      exact h.mortal i slot hpermanent hslot
    · exact h.mortal j found hj hfound
  · rw [List.length_set]
    exact h.length_le.trans (by omega)
  · intro j found hfound
    rw [hget] at hfound
    split at hfound
    · cases hfound
      exact Nat.le_add_left _ _
    · exact (h.generation_le j found hfound).trans (Nat.le_add_right _ _)
  · intro j hj
    obtain ⟨hle, found, hfound, hvacant⟩ := h.free_vacant j hj
    refine ⟨hle, ?_⟩
    rw [hget]
    split
    · rename_i hji
      rw [hji, hslot] at hfound
      cases hfound
      exact ⟨_, rfl, hvacant⟩
    · exact ⟨found, hfound, hvacant⟩

namespace Regular

theorem of_sameSlots (h : Regular arena) (hsame : SameSlots arena next) : Regular next := by
  obtain ⟨steps, htidy⟩ := h
  exact ⟨steps + 1, htidy.of_sameSlots hsame⟩

theorem place (h : Regular arena) (object : Object) : Regular (arena.place object).2 := by
  obtain ⟨steps, htidy⟩ := h
  exact ⟨steps + 1, (htidy.placed object).tidy htidy⟩

/-- Rewriting a slot that goes on to hold an object. -/
theorem of_set (h : Regular arena) (hslot : arena.slot? ref = some slot)
    (hmortal : slot.immortal = false) (hmortal' : slot'.immortal = false)
    (hgeneration : slot'.generation = slot.generation) :
    Regular { arena with slots := arena.slots.set ref.slot slot' } := by
  obtain ⟨steps, htidy⟩ := h
  have hle := htidy.generation_le _ slot (slot?_eq_some_iff.mp hslot).1
  exact ⟨steps + 1,
    (changed_of_set hslot hmortal hmortal' hgeneration).tidy htidy (by omega)⟩

theorem incref (h : Regular arena) (ref : Ref) : Regular (arena.incref ref).result := by
  rcases fixed_or_mortal arena ref with hfixed | ⟨slot, hslot, hmortal⟩
  · rwa [result_incref_of_fixed hfixed]
  · rw [result_incref_of_mortal hslot hmortal]
    exact h.of_set hslot hmortal hmortal rfl

theorem decref (h : Regular arena) (ref : Ref) : Regular (arena.decref ref).result := by
  rcases fixed_or_mortal arena ref with hfixed | ⟨slot, hslot, hmortal⟩
  · rwa [result_decref_of_fixed hfixed]
  by_cases hlast : slot.refcount = 1
  -- the slot is vacated, and then its generation may come round to zero
  · obtain ⟨steps, htidy⟩ := h
    have hheld := (slot?_eq_some_iff.mp hslot).1
    have hle := htidy.generation_le _ slot hheld
    have hchanged := changed_of_vacated hslot hmortal
    have hvacated := hchanged.tidy htidy (Nat.succ_le_succ hle)
    have hround := hvacated.regenerate (hchanged.permanent_le htidy)
      (by rw [hchanged.getElem?_slots, if_pos rfl]) ((slot.generation + 1) % generations)
    rw [List.set_set] at hround
    rw [result_decref_of_last hslot hmortal hlast]
    exact ⟨_, hround⟩
  · rw [result_decref_of_shared hslot hmortal hlast]
    exact h.of_set hslot hmortal hmortal rfl

theorem overwriteArray (h : Regular arena) (ref : Ref) (pos : Nat) (patch : Bytes) :
    Regular (arena.overwriteArray ref pos patch) := by
  rcases fixed_or_mortal arena ref with hfixed | ⟨slot, hslot, hmortal⟩
  · obtain ⟨steps, htidy⟩ := h
    rw [overwriteArray_of_fixed htidy hfixed]
    exact ⟨steps, htidy⟩
  · rw [overwriteArray_of_slot hslot]
    exact h.of_set hslot hmortal hmortal rfl

/-- One call keeps the slots tidy. -/
theorem step (h : Regular arena) (op : Operation) : Regular (op.apply arena).2 := by
  rcases apply_cases arena op with (hplaces | hidles) | ⟨ref, rfl⟩ | ⟨ref, rfl⟩ |
    ⟨ref, pos, patch, rfl⟩
  · obtain ⟨object, -, -, happly⟩ := hplaces
    rw [happly]
    exact h.place object
  · exact h.of_sameSlots hidles.2.2
  · exact h.incref ref
  · exact h.decref ref
  · exact h.overwriteArray ref pos patch

/-- The permanent objects are where they were put first. -/
theorem slot?_permanent (h : Regular arena) (hlt : ref.slot < permanent) :
    arena.slot? ref = empty.slot? ref := by
  obtain ⟨steps, htidy⟩ := h
  rw [Arena.slot?, Arena.slot?, htidy.permanent_eq _ hlt]

end Regular

/-- The storage of an array object is replaced in its slot. -/
theorem setStorage_of_array {array : HostArray} (hvalue : arena.value? ref = some (.array array))
    (storage : Bytes) :
    ∃ slot, arena.slot? ref = some slot ∧ arena.setStorage ref storage =
      { arena with
        slots := arena.slots.set ref.slot
          { slot with value := some (.array { array with storage }) } } := by
  obtain ⟨slot, hslot, -⟩ := Option.bind_eq_some_iff.mp (value?_eq arena ref ▸ hvalue)
  exact ⟨slot, hslot, by simp only [setStorage, hvalue, setValue, hslot]⟩

theorem Regular.setStorage (h : Regular arena) (ref : Ref) (storage : Bytes) :
    Regular (arena.setStorage ref storage) := by
  cases hvalue : arena.value? ref with
  | none => simpa only [Arena.setStorage, hvalue] using h
  | some object =>
    cases object with
    | array array =>
      obtain ⟨slot, hslot, hnext⟩ := setStorage_of_array hvalue storage
      rw [hnext]
      have hmortal : slot.immortal = false := by
        obtain ⟨steps, htidy⟩ := h
        have hheld := (slot?_eq_some_iff.mp hslot).1
        rw [value?_eq, hslot] at hvalue
        exact htidy.mortal _ slot (htidy.permanent_le_of_array hheld hvalue) hheld
      exact h.of_set hslot hmortal hmortal rfl
    | _ => simpa only [Arena.setStorage, hvalue] using h

/-- The states of an arena. A call leads from one to the next, and so does a write through a view,
which replaces bytes of the storage of an array object. -/
inductive Reachable : Arena → Prop
  | empty : Reachable Arena.empty
  | step {arena : Arena} (op : Operation) (before : Reachable arena) : Reachable (op.apply arena).2
  | written {arena : Arena} (ref : Ref) {storage : Bytes} (before : Reachable arena)
      (hlength : storage.length = (arena.storage ref).length) :
      Reachable (arena.setStorage ref storage)

theorem Reachable.regular (h : Reachable arena) : Regular arena := by
  induction h with
  | empty => exact ⟨0, tidy_empty⟩
  | step op _ ih => exact ih.step op
  | written ref _ _ ih => exact ih.setStorage ref _

/-! ## Making an object and giving it back -/

/-- Every reference names the same object in two arenas, and nothing else that can be asked of them
tells them apart. -/
structure Alike (arena next : Arena) : Prop where
  /-- The objects are the same. -/
  value : ∀ ref, next.value? ref = arena.value? ref
  /-- So are the numbers of references to them. -/
  refcount : ∀ ref, next.refcount? ref = arena.refcount? ref
  /-- So is the number of live objects. -/
  live : next.live = arena.live
  /-- So is the limit. -/
  limit : next.limit = arena.limit
  /-- So is the pending exception. -/
  error : next.error = arena.error

/-- One object is made, and nothing else happens. -/
structure Creates (arena : Arena) (object : Object) (ref : Ref) (next : Arena) : Prop where
  /-- The reference named nothing before. -/
  fresh : arena.isAlive ref = false
  /-- It names the object now. -/
  value : next.value? ref = some object
  /-- There is one reference to the object. -/
  refcount : next.refcount? ref = some 1
  /-- It is one more live object. -/
  live : next.live = arena.live + 1
  /-- All other references name what they named before. -/
  others : ∀ other, other ≠ ref →
    next.value? other = arena.value? other ∧ next.refcount? other = arena.refcount? other
  /-- The limit stays. -/
  limit : next.limit = arena.limit
  /-- The pending exception stays. -/
  error : next.error = arena.error
  /-- Giving the reference back undoes all of it. -/
  released : Alike arena (next.decref ref).result

theorem value?_congr (h : next.slot? ref = arena.slot? ref) :
    next.value? ref = arena.value? ref := by
  rw [value?_eq, value?_eq, h]

theorem refcount?_congr (h : next.slot? ref = arena.slot? ref) :
    next.refcount? ref = arena.refcount? ref := by
  rw [refcount?, refcount?, h]

theorem error_place (arena : Arena) (object : Object) :
    (arena.place object).2.error = arena.error := by
  unfold place
  split <;> rfl

/-- The slot of an object that is released on the spot is as vacant as it was. -/
theorem Placed.slot?_decref (hplaced : Placed arena object ref next) (other : Ref) :
    (next.decref ref).result.slot? other = arena.slot? other := by
  have hslot := hplaced.slot?_eq ref
  rw [if_pos rfl] at hslot
  have hother := hplaced.slot?_eq other
  rw [result_decref_of_last hslot rfl rfl]
  by_cases hsame : other.slot = ref.slot
  · rw [hplaced.slot?_eq_none hsame]
    refine slot?_of_vacant fun found hfound => ?_
    obtain ⟨hlt, -⟩ := List.getElem?_eq_some_iff.mp (slot?_eq_some_iff.mp hslot).1
    rw [hsame, List.getElem?_set_self hlt] at hfound
    cases hfound
    rfl
  · rw [if_neg fun heq => hsame (congrArg Ref.slot heq)] at hother
    rw [← hother, Arena.slot?, Arena.slot?, List.getElem?_set_ne (Ne.symm hsame)]

/-- Placing an object makes just that one. -/
theorem Regular.creates (h : Regular arena) (object : Object) :
    Creates arena object (arena.place object).1 (arena.place object).2 := by
  obtain ⟨steps, htidy⟩ := h
  have hplaced := htidy.placed object
  obtain ⟨hlimit, hlive⟩ := enters_place arena object
  have hslot := hplaced.slot?_eq (arena.place object).1
  rw [if_pos rfl] at hslot
  have hothers (other : Ref) (hother : other ≠ (arena.place object).1) :
      (arena.place object).2.slot? other = arena.slot? other := by
    rw [hplaced.slot?_eq, if_neg hother]
  refine ⟨?_, ?_, ?_, hlive, ?_, hlimit, error_place arena object, ?_⟩
  · rw [isAlive_eq, hplaced.slot?_eq_none rfl]
    rfl
  · rw [value?_eq, hslot]
    rfl
  · rw [refcount?, hslot]
    rfl
  · intro other hother
    exact ⟨value?_congr (hothers other hother), refcount?_congr (hothers other hother)⟩
  · have hback := hplaced.slot?_decref
    refine ⟨fun ref => value?_congr (hback ref), fun ref => refcount?_congr (hback ref), ?_, ?_, ?_⟩
    · rw [result_decref_of_last hslot rfl rfl]
      show (arena.place object).2.live - 1 = arena.live
      rw [show (arena.place object).2.live = arena.live + 1 from hlive, Nat.add_sub_cancel]
    · rw [result_decref_of_last hslot rfl rfl]
      exact hlimit
    · rw [result_decref_of_last hslot rfl rfl]
      exact error_place arena object

end HostBridge.Arena
