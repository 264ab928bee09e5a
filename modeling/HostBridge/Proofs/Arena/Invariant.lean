import HostBridge.Proofs.Arena.Ledger
import Mathlib.Data.List.Nodup
import Mathlib.Tactic.IntervalCases

/-!
# The slots of an arena

What the calls on an arena do to its slots and to its list of free slots. Each call places an object
in a vacant slot, or changes the slot of one reference whose object is there, or leaves all slots
alone. From this it follows that the slots stay tidy: the permanent objects stay where they are, and
a slot that is listed as free is vacant and listed once.

## Main definitions

* `Places`, `Idles`: two of the things that a call can do; the third is to be one of three calls;
* `Placed`, `Changed`: what becomes of the slots when an object is placed or one slot changes;
* `Tidy`: the invariant of slots and free list.

## Main results

* `getElem?_place`: where an object is placed;
* `alloc_eq_place`: lifting the limit and setting it again comes down to placing an object;
* `apply_cases`: what a call can do;
* `Tidy.placed`: an arena with tidy slots places objects in vacant slots;
* `Placed.tidy`, `Changed.tidy`: both keep the slots tidy.
-/

namespace HostBridge.Arena

variable {arena : Arena} {ref : Ref}

/-! ## References and slots -/

theorem slot?_eq_some_iff {slot : Slot} :
    arena.slot? ref = some slot ↔
      arena.slots[ref.slot]? = some slot ∧ slot.generation = ref.generation ∧
        slot.value.isSome = true := by
  simp [slot?, Option.filter_eq_some_iff]

theorem value?_eq (arena : Arena) (ref : Ref) :
    arena.value? ref = (arena.slot? ref).bind (·.value) := by
  unfold value? slot?
  cases arena.slots[ref.slot]? with
  | none => rfl
  | some slot =>
    by_cases hgen : slot.generation = ref.generation
    · cases hvalue : slot.value <;> simp [Option.filter, hgen, hvalue]
    · simp [Option.filter, hgen]

theorem isAlive_eq (arena : Arena) (ref : Ref) : arena.isAlive ref = (arena.slot? ref).isSome := by
  rw [isAlive, value?_eq]
  cases hslot : arena.slot? ref with
  | none => rfl
  | some slot => simpa using (slot?_eq_some_iff.mp hslot).2.2

/-! ## Where objects are placed -/

/-- An object is placed in one slot, and no other slot changes. -/
theorem getElem?_place (arena : Arena) (object : Object) (i : Nat) :
    (arena.place object).2.slots[i]? =
      if i = (arena.place object).1.slot ∧ i < (arena.place object).2.slots.length then
        some ⟨(arena.place object).1.generation, 1, false, some object⟩
      else arena.slots[i]? := by
  unfold place
  cases arena.free with
  | nil =>
    simp only [List.length_append, List.length_singleton]
    rcases Nat.lt_trichotomy i arena.slots.length with hlt | rfl | hgt
    · rw [if_neg (by omega), List.getElem?_append_left hlt]
    · rw [if_pos (by omega), List.getElem?_concat_length]
    · rw [if_neg (by omega), List.getElem?_eq_none (by simp; omega),
        List.getElem?_eq_none (by omega)]
  | cons index free =>
    simp only [List.length_set]
    by_cases hi : i = index
    · subst hi
      by_cases hlt : i < arena.slots.length
      · rw [if_pos ⟨rfl, hlt⟩, List.getElem?_set_self hlt]
      · rw [if_neg (fun h => hlt h.2), List.getElem?_eq_none (by simp; omega),
          List.getElem?_eq_none (by omega)]
    · rw [if_neg (fun h => hi h.1), List.getElem?_set_ne (Ne.symm hi)]

/-- The slot is there, if the slots that are listed as free are. -/
theorem slot_lt_place (hfree : ∀ i ∈ arena.free, i < arena.slots.length) (object : Object) :
    (arena.place object).1.slot < (arena.place object).2.slots.length := by
  unfold place
  cases hcases : arena.free with
  | nil => simp
  | cons index free =>
    rw [List.length_set]
    exact hfree index (hcases ▸ List.mem_cons_self)

/-- An object that has just been placed has one reference. -/
theorem slot?_place (hfree : ∀ i ∈ arena.free, i < arena.slots.length) (object : Object) :
    (arena.place object).2.slot? (arena.place object).1 =
      some ⟨(arena.place object).1.generation, 1, false, some object⟩ := by
  refine slot?_eq_some_iff.mpr ⟨?_, rfl, rfl⟩
  rw [getElem?_place, if_pos ⟨rfl, slot_lt_place hfree object⟩]

/-- An object that is placed can be had through its reference. -/
theorem value?_place (hfree : ∀ i ∈ arena.free, i < arena.slots.length) (object : Object) :
    (arena.place object).2.value? (arena.place object).1 = some object := by
  rw [value?_eq, slot?_place hfree, Option.bind_some]

theorem place_setLimit (arena : Arena) (object : Object) (limit : Option Nat) :
    (arena.setLimit limit).place object =
      ((arena.place object).1, (arena.place object).2.setLimit limit) := by
  unfold place setLimit
  cases arena.free <;> rfl

theorem limit_place (arena : Arena) (object : Object) :
    (arena.place object).2.limit = arena.limit := by
  unfold place
  cases arena.free <;> rfl

/-- With the limit lifted an insertion cannot fail, and then the limit is what it was. -/
theorem alloc_eq_place (arena : Arena) (object : Object) :
    arena.alloc object = arena.place object := by
  have hroom : (arena.setLimit none).isFull = false := rfl
  have hlimit : (arena.place object).2.setLimit arena.limit = (arena.place object).2 := by
    rw [← limit_place arena object]
    rfl
  simp only [alloc, insert, hroom, place_setLimit, Bool.false_eq_true, if_false, Option.getD_some]
  exact Prod.ext rfl hlimit

/-! ## What a call can do -/

/-- Two arenas that differ at most in the pending exception, the limit and the count. -/
def SameSlots (arena next : Arena) : Prop := next.slots = arena.slots ∧ next.free = arena.free

theorem sameSlots_raise (arena : Arena) (kind : ExceptionClass) (message : String) :
    SameSlots arena (arena.raise kind message) := ⟨rfl, rfl⟩

theorem sameSlots_realValue (arena : Arena) (ref : Ref) (what : String) :
    SameSlots arena (arena.realValue ref what).2 := by
  unfold realValue
  split <;> exact ⟨rfl, rfl⟩

theorem sameSlots_asInt (arena : Arena) (ref : Ref) : SameSlots arena (arena.asInt ref).2 := by
  unfold asInt
  split
  · split <;> exact ⟨rfl, rfl⟩
  all_goals exact ⟨rfl, rfl⟩

theorem sameSlots_complexReal (arena : Arena) (ref : Ref) :
    SameSlots arena (arena.complexReal ref).2 := by
  unfold complexReal
  split
  · exact ⟨rfl, rfl⟩
  · exact sameSlots_realValue arena ref _

theorem sameSlots_complexImag (arena : Arena) (ref : Ref) :
    SameSlots arena (arena.complexImag ref).2 := by
  unfold complexImag
  split <;> exact ⟨rfl, rfl⟩

/-- A call places the object that it is to make. -/
def Places (arena : Arena) (op : Operation) : Prop :=
  ∃ object, op.object? = some object ∧ op.amend = id ∧
    op.apply arena = (arena.place object).map some id

/-- A call leaves the slots and what is known of references as they are. -/
def Idles (arena : Arena) (op : Operation) : Prop :=
  (op.apply arena).1 = none ∧ op.amend = id ∧ SameSlots arena (op.apply arena).2

theorem places_of_alloc {op : Operation} {object : Object} (hobject : op.object? = some object)
    (hamend : op.amend = id) (happly : op.apply arena = (arena.alloc object).map some id) :
    Places arena op :=
  ⟨object, hobject, hamend, happly.trans (by rw [alloc_eq_place])⟩

/-- A call that inserts an object places it, unless the limit is reached. -/
theorem places_or_idles_of_insert {op : Operation} {object : Object}
    (hobject : op.object? = some object) (hamend : op.amend = id)
    (happly : op.apply arena = arena.insert object) : Places arena op ∨ Idles arena op := by
  unfold insert at happly
  split at happly
  · exact Or.inr ⟨by rw [happly], hamend, by rw [happly]; exact sameSlots_raise arena _ _⟩
  · exact Or.inl ⟨object, hobject, hamend, happly⟩

/-- A call places an object, or it idles, or it is one of the three that change the slot of one
reference. -/
theorem apply_cases (arena : Arena) (op : Operation) :
    (Places arena op ∨ Idles arena op) ∨
    (∃ ref, op = .incref ref) ∨ (∃ ref, op = .decref ref) ∨
    ∃ ref pos patch, op = .overwrite ref pos patch := by
  cases op with
  | int value => exact Or.inl (Or.inl (places_of_alloc rfl rfl rfl))
  | float value => exact Or.inl (Or.inl (places_of_alloc rfl rfl rfl))
  | complex value => exact Or.inl (Or.inl (places_of_alloc rfl rfl rfl))
  | str value => exact Or.inl (Or.inl (places_of_alloc rfl rfl rfl))
  | array kind shape values order => exact Or.inl (Or.inl (places_of_alloc rfl rfl rfl))
  | arrayFromParts kind shape strides offset bytes =>
    by_cases hfits : HostArray.layoutFits shape strides offset kind.width bytes.length = true
    · refine Or.inl (Or.inl (places_of_alloc rfl rfl ?_))
      simp [Operation.apply, arrayFromParts, hfits]
      rfl
    · refine Or.inl (Or.inr ⟨?_, rfl, ?_⟩)
      · simp [Operation.apply, arrayFromParts, hfits]
      · simp [Operation.apply, arrayFromParts, hfits, sameSlots_raise]
  | newInt value => exact Or.inl (places_or_idles_of_insert rfl rfl rfl)
  | newFloat value => exact Or.inl (places_or_idles_of_insert rfl rfl rfl)
  | newComplex value => exact Or.inl (places_or_idles_of_insert rfl rfl rfl)
  | newArray shape typeCode bytes =>
    -- the type number, the size and the limit are checked in this order
    cases hkind : Kind.ofTypeCode? typeCode with
    | none =>
      refine Or.inl (Or.inr ⟨?_, rfl, ?_⟩)
      · simp [Operation.apply, Host.newArray, newArray, hkind]
      · simp [Operation.apply, Host.newArray, newArray, hkind, sameSlots_raise]
    | some kind =>
      by_cases hbytes : (shape.count?.bind (Word.mul? · kind.width)) = some bytes.length
      · refine Or.inl (places_or_idles_of_insert (by simp [Operation.object?, hkind]; rfl) rfl ?_)
        simp [Operation.apply, Host.newArray, newArray, hkind, hbytes]
      · refine Or.inl (Or.inr ⟨?_, rfl, ?_⟩)
        · simp [Operation.apply, Host.newArray, newArray, hkind, hbytes]
        · simp [Operation.apply, Host.newArray, newArray, hkind, hbytes, sameSlots_raise]
  | incref ref => exact Or.inr (Or.inl ⟨ref, rfl⟩)
  | decref ref => exact Or.inr (Or.inr (Or.inl ⟨ref, rfl⟩))
  | overwrite ref pos patch => exact Or.inr (Or.inr (Or.inr ⟨ref, pos, patch, rfl⟩))
  | setLimit limit => exact Or.inl (Or.inr ⟨rfl, rfl, rfl, rfl⟩)
  | setError exception => exact Or.inl (Or.inr ⟨rfl, rfl, rfl, rfl⟩)
  | takeError => exact Or.inl (Or.inr ⟨rfl, rfl, rfl, rfl⟩)
  | asInt ref => exact Or.inl (Or.inr ⟨rfl, rfl, sameSlots_asInt arena ref⟩)
  | asFloat ref => exact Or.inl (Or.inr ⟨rfl, rfl, sameSlots_realValue arena ref _⟩)
  | complexReal ref => exact Or.inl (Or.inr ⟨rfl, rfl, sameSlots_complexReal arena ref⟩)
  | complexImag ref => exact Or.inl (Or.inr ⟨rfl, rfl, sameSlots_complexImag arena ref⟩)

/-! ## Calls on one reference -/

/-- A reference names nothing that can be freed, or it does. -/
theorem fixed_or_mortal (arena : Arena) (ref : Ref) :
    (∀ slot, arena.slot? ref = some slot → slot.immortal = true) ∨
      ∃ slot, arena.slot? ref = some slot ∧ slot.immortal = false := by
  cases hslot : arena.slot? ref with
  | none => exact Or.inl (by simp)
  | some slot =>
    cases himmortal : slot.immortal with
    | true => exact Or.inl (by simpa using himmortal)
    | false => exact Or.inr ⟨slot, rfl, himmortal⟩

theorem result_incref_of_fixed
    (hfixed : ∀ slot, arena.slot? ref = some slot → slot.immortal = true) :
    (arena.incref ref).result = arena := by
  cases hslot : arena.slot? ref with
  | none =>
    rw [incref, hslot]
    rfl
  | some slot =>
    rw [incref, hslot]
    simp [hfixed slot hslot]

theorem result_incref_of_mortal {slot : Slot} (hslot : arena.slot? ref = some slot)
    (hmortal : slot.immortal = false) :
    (arena.incref ref).result =
      { arena with
        slots := arena.slots.set ref.slot { slot with refcount := slot.refcount + 1 } } := by
  rw [incref, hslot]
  simp [hmortal]

theorem result_decref_of_fixed
    (hfixed : ∀ slot, arena.slot? ref = some slot → slot.immortal = true) :
    (arena.decref ref).result = arena := by
  cases hslot : arena.slot? ref with
  | none =>
    rw [decref, hslot]
    rfl
  | some slot =>
    rw [decref, hslot]
    simp [hfixed slot hslot]

theorem result_decref_of_last {slot : Slot} (hslot : arena.slot? ref = some slot)
    (hmortal : slot.immortal = false) (hlast : slot.refcount = 1) :
    (arena.decref ref).result =
      { arena with
        slots := arena.slots.set ref.slot
          { slot with
            refcount := 0
            value := none
            generation := (slot.generation + 1) % generations }
        free := ref.slot :: arena.free
        live := arena.live - 1 } := by
  rw [decref, hslot]
  simp only [hmortal, hlast, if_true]
  rfl

theorem result_decref_of_shared {slot : Slot} (hslot : arena.slot? ref = some slot)
    (hmortal : slot.immortal = false) (hshared : slot.refcount ≠ 1) :
    (arena.decref ref).result =
      { arena with
        slots := arena.slots.set ref.slot { slot with refcount := slot.refcount - 1 } } := by
  rw [decref, hslot]
  simp [hmortal, hshared]

/-! ## The invariant of a run -/

/-- The number of permanent objects. -/
def permanent : Nat := 3

theorem slot_lt_permanent (hmem : ref ∈ [trueRef, falseRef, noneRef]) : ref.slot < permanent := by
  simp only [List.mem_cons, List.not_mem_nil, or_false] at hmem
  rcases hmem with rfl | rfl | rfl <;> decide

/-- The slots and the free list of an arena after `steps` calls. -/
structure Tidy (arena : Arena) (steps : Nat) : Prop where
  /-- The permanent objects are where they were put first. -/
  permanent_eq : ∀ i < permanent, arena.slots[i]? = empty.slots[i]?
  /-- All others can be freed. -/
  mortal : ∀ (i : Nat) (slot : Slot), permanent ≤ i → arena.slots[i]? = some slot →
    slot.immortal = false
  /-- A call uses one more slot at most. -/
  length_le : arena.slots.length ≤ permanent + steps
  /-- A call vacates one slot at most. -/
  generation_le : ∀ (i : Nat) (slot : Slot), arena.slots[i]? = some slot → slot.generation ≤ steps
  /-- A slot is listed as free once. -/
  free_nodup : arena.free.Nodup
  /-- The slots that are listed as free are vacant, and none of them is permanent. -/
  free_vacant : ∀ i ∈ arena.free, permanent ≤ i ∧
    ∃ slot : Slot, arena.slots[i]? = some slot ∧ slot.value = none

theorem tidy_empty : Tidy empty 0 where
  permanent_eq := fun _ _ => rfl
  mortal := by
    intro i slot hi hslot
    obtain ⟨hlt, -⟩ := List.getElem?_eq_some_iff.mp hslot
    exact absurd hlt (Nat.not_lt.mpr hi)
  length_le := le_rfl
  generation_le := by
    intro i slot hslot
    have hmem : slot ∈ empty.slots := List.mem_of_getElem? hslot
    simp only [empty, List.mem_cons, List.not_mem_nil, or_false] at hmem
    rcases hmem with rfl | rfl | rfl <;> exact le_rfl
  free_nodup := List.nodup_nil
  free_vacant := by simp [empty]

namespace Tidy

variable {steps : Nat}

/-- Calls that leave the slots alone keep them tidy. -/
theorem of_sameSlots {next : Arena} (h : Tidy arena steps) (hsame : SameSlots arena next) :
    Tidy next (steps + 1) := by
  obtain ⟨hslots, hfree⟩ := hsame
  refine ⟨hslots ▸ h.permanent_eq, hslots ▸ h.mortal, ?_, ?_, hfree ▸ h.free_nodup, ?_⟩
  · rw [hslots]
    exact h.length_le.trans (by omega)
  · intro i slot hslot
    rw [hslots] at hslot
    exact (h.generation_le i slot hslot).trans (by omega)
  · rw [hfree, hslots]
    exact h.free_vacant

/-- There are slots for the permanent objects. -/
theorem length_ge (h : Tidy arena steps) : permanent ≤ arena.slots.length := by
  have hlast : arena.slots[2]? = empty.slots[2]? := h.permanent_eq 2 (by decide)
  obtain ⟨hlt, -⟩ := List.getElem?_eq_some_iff.mp hlast
  exact hlt

/-- A slot whose object can be freed is not a permanent one. -/
theorem permanent_le {slot : Slot} (h : Tidy arena steps) {i : Nat}
    (hslot : arena.slots[i]? = some slot) (hmortal : slot.immortal = false) : permanent ≤ i := by
  by_contra hlt
  have hi : i < 3 := Nat.lt_of_not_le hlt
  rw [h.permanent_eq i hi] at hslot
  interval_cases i <;> cases hslot <;> cases hmortal

/-- Of the references to the permanent slots, those of the first generation name an object. -/
theorem isAlive_permanent (h : Tidy arena steps) (hlt : ref.slot < permanent) :
    arena.isAlive ref = true ↔ ref ∈ [trueRef, falseRef, noneRef] := by
  have hvalue : arena.value? ref = empty.value? ref := by
    rw [value?, value?, h.permanent_eq _ hlt]
  obtain ⟨slot, generation⟩ := ref
  have hslot : slot < 3 := hlt
  rw [isAlive, hvalue]
  interval_cases slot <;> cases generation <;>
    simp [value?, empty, trueRef, falseRef, noneRef, Option.filter]

/-- The permanent objects are no arrays. -/
theorem permanent_le_of_array {slot : Slot} {array : HostArray} (h : Tidy arena steps) {i : Nat}
    (hslot : arena.slots[i]? = some slot) (harray : slot.value = some (.array array)) :
    permanent ≤ i := by
  by_contra hlt
  have hi : i < 3 := Nat.lt_of_not_le hlt
  rw [h.permanent_eq i hi] at hslot
  interval_cases i <;> cases hslot <;> cases harray

end Tidy

/-- Permanent objects have no bytes, and neither have objects that are gone. -/
theorem overwriteArray_of_fixed {steps : Nat} (h : Tidy arena steps)
    (hfixed : ∀ slot, arena.slot? ref = some slot → slot.immortal = true) (pos : Nat)
    (patch : Bytes) : arena.overwriteArray ref pos patch = arena := by
  unfold overwriteArray
  split
  · rename_i a hvalue
    rw [value?_eq] at hvalue
    obtain ⟨slot, hslot, harray⟩ := Option.bind_eq_some_iff.mp hvalue
    obtain ⟨hheld, -, -⟩ := slot?_eq_some_iff.mp hslot
    have hmortal := h.mortal _ slot (h.permanent_le_of_array hheld harray) hheld
    rw [hfixed slot hslot] at hmortal
    cases hmortal
  · rfl

theorem overwriteArray_of_slot {slot : Slot} (hslot : arena.slot? ref = some slot) (pos : Nat)
    (patch : Bytes) :
    arena.overwriteArray ref pos patch =
      { arena with
        slots := arena.slots.set ref.slot
          { slot with value := slot.value.map (Object.overwrite pos patch) } } := by
  obtain ⟨hheld, -, hvalue⟩ := slot?_eq_some_iff.mp hslot
  obtain ⟨object, hobject⟩ := Option.isSome_iff_exists.mp hvalue
  have hself : { slot with value := some object } = slot := by rw [← hobject]
  rw [overwriteArray, value?_eq, hslot, Option.bind_some, hobject]
  cases object with
  | array a => simp [setValue, hslot, Object.overwrite]
  | _ =>
    -- only arrays have bytes, so any other slot is written back as it is
    obtain ⟨hlt, hget⟩ := List.getElem?_eq_some_iff.mp hheld
    simp only [Option.map_some, Object.overwrite]
    rw [hself, ← hget, List.set_getElem_self]

/-- What it takes and what it does to place an object under a reference. -/
structure Placed (arena : Arena) (object : Object) (ref : Ref) (next : Arena) : Prop where
  /-- The slot is not a permanent one. -/
  mortal : permanent ≤ ref.slot
  /-- The slot was new, or it was vacant and had the generation of the reference. -/
  vacant : ∀ slot, arena.slots[ref.slot]? = some slot →
    slot.value = none ∧ slot.generation = ref.generation
  /-- A new slot starts with the first generation. -/
  first : arena.slots[ref.slot]? = none → ref.generation = 0
  /-- No other slot changes. -/
  slots : ∀ i, next.slots[i]? =
    if i = ref.slot then some ⟨ref.generation, 1, false, some object⟩ else arena.slots[i]?
  /-- At most one slot is added. -/
  length : next.slots.length ≤ arena.slots.length + 1
  /-- The slot is no longer listed as free. -/
  free : next.free.Nodup ∧ next.free ⊆ arena.free ∧ ref.slot ∉ next.free

/-- The slots that are listed as free are there. -/
theorem Tidy.free_lt {steps : Nat} (h : Tidy arena steps) :
    ∀ i ∈ arena.free, i < arena.slots.length := by
  intro i hi
  obtain ⟨-, slot, hslot, -⟩ := h.free_vacant i hi
  exact (List.getElem?_eq_some_iff.mp hslot).1

theorem Tidy.placed {steps : Nat} (h : Tidy arena steps) (object : Object) :
    Placed arena object (arena.place object).1 (arena.place object).2 := by
  have hslots (i : Nat) : (arena.place object).2.slots[i]? =
      if i = (arena.place object).1.slot then
        some ⟨(arena.place object).1.generation, 1, false, some object⟩
      else arena.slots[i]? := by
    have hlt := slot_lt_place h.free_lt object
    by_cases hi : i = (arena.place object).1.slot
    · rw [getElem?_place, if_pos ⟨hi, hi ▸ hlt⟩, if_pos hi]
    · rw [getElem?_place, if_neg (fun hand => hi hand.1), if_neg hi]
  revert hslots
  unfold place
  cases hfree : arena.free with
  -- no slot is free: one is added at the end
  | nil =>
    intro hslots
    refine ⟨h.length_ge, ?_, fun _ => rfl, hslots, by simp, by simp [hfree]⟩
    intro slot hslot
    simp at hslot
  -- the slot vacated last is used again, with the generation that it has now
  | cons index free =>
    intro hslots
    have hnodup := h.free_nodup
    rw [hfree, List.nodup_cons] at hnodup
    obtain ⟨hmortal, slot, hslot, hvalue⟩ :=
      h.free_vacant index (hfree ▸ List.mem_cons_self)
    refine ⟨hmortal, ?_, ?_, hslots, by simp, ?_⟩
    · intro slot' hslot'
      rw [hslot] at hslot'
      cases hslot'
      exact ⟨hvalue, by simp [hslot]⟩
    · intro hnone
      rw [hslot] at hnone
      cases hnone
    · exact ⟨hnodup.2, by rw [hfree]; exact List.subset_cons_self index free, hnodup.1⟩

/-- The generation of a reference that is handed out is that of a slot. -/
theorem Placed.generation_le {object : Object} {next : Arena} {steps : Nat}
    (hplaced : Placed arena object ref next) (h : Tidy arena steps) : ref.generation ≤ steps := by
  cases hslot : arena.slots[ref.slot]? with
  | none =>
    rw [hplaced.first hslot]
    exact Nat.zero_le steps
  | some slot =>
    rw [← (hplaced.vacant slot hslot).2]
    exact h.generation_le _ slot hslot

theorem Placed.tidy {object : Object} {next : Arena} {steps : Nat}
    (hplaced : Placed arena object ref next) (h : Tidy arena steps) : Tidy next (steps + 1) where
  permanent_eq := by
    intro i hi
    have hmortal := hplaced.mortal
    rw [hplaced.slots, if_neg (by omega)]
    exact h.permanent_eq i hi
  mortal := by
    intro i slot hi hslot
    rw [hplaced.slots] at hslot
    split at hslot
    · cases hslot
      rfl
    · exact h.mortal i slot hi hslot
  length_le := by
    have hlength := h.length_le
    have hadded := hplaced.length
    omega
  generation_le := by
    intro i slot hslot
    rw [hplaced.slots] at hslot
    split at hslot
    · cases hslot
      exact (hplaced.generation_le h).trans (by omega)
    · exact (h.generation_le i slot hslot).trans (by omega)
  free_nodup := hplaced.free.1
  free_vacant := by
    intro i hi
    have hne : i ≠ ref.slot := fun heq => hplaced.free.2.2 (heq ▸ hi)
    rw [hplaced.slots, if_neg hne]
    exact h.free_vacant i (hplaced.free.2.1 hi)

/-- What it takes and what it does to change the slot of a reference whose object is there. -/
structure Changed (arena : Arena) (ref : Ref) (slot slot' : Slot) (next : Arena) : Prop where
  /-- The slot holds the object, which is not a permanent one. -/
  held : arena.slot? ref = some slot ∧ slot.immortal = false
  /-- The slot does not become permanent, and its generation does not go back. -/
  mortal : slot'.immortal = false ∧ slot.generation ≤ slot'.generation
  /-- No other slot changes. -/
  slots : next.slots = arena.slots.set ref.slot slot'
  /-- The slot is listed as free when it becomes vacant. -/
  free : next.free = arena.free ∨ next.free = ref.slot :: arena.free ∧ slot'.value = none

/-- Rewriting the slot of a reference without vacating it. -/
theorem changed_of_set {slot slot' : Slot} (hslot : arena.slot? ref = some slot)
    (hmortal : slot.immortal = false) (hmortal' : slot'.immortal = false)
    (hgeneration : slot'.generation = slot.generation) :
    Changed arena ref slot slot' { arena with slots := arena.slots.set ref.slot slot' } where
  held := ⟨hslot, hmortal⟩
  mortal := ⟨hmortal', hgeneration.ge⟩
  slots := rfl
  free := Or.inl rfl

/-- Vacating the slot of a reference. -/
theorem changed_of_vacated {slot : Slot} (hslot : arena.slot? ref = some slot)
    (hmortal : slot.immortal = false) :
    Changed arena ref slot
      { slot with refcount := 0, value := none, generation := slot.generation + 1 }
      { arena with
        slots := arena.slots.set ref.slot
          { slot with refcount := 0, value := none, generation := slot.generation + 1 }
        free := ref.slot :: arena.free
        live := arena.live - 1 } where
  held := ⟨hslot, hmortal⟩
  mortal := ⟨hmortal, Nat.le_succ _⟩
  slots := rfl
  free := Or.inr ⟨rfl, rfl⟩

namespace Changed

variable {slot slot' : Slot} {next : Arena} {steps : Nat}

theorem getElem?_slots (hchanged : Changed arena ref slot slot' next) (i : Nat) :
    next.slots[i]? = if i = ref.slot then some slot' else arena.slots[i]? := by
  obtain ⟨hslot, -, -⟩ := slot?_eq_some_iff.mp hchanged.held.1
  obtain ⟨hlt, -⟩ := List.getElem?_eq_some_iff.mp hslot
  rw [hchanged.slots, List.getElem?_set]
  by_cases hi : i = ref.slot
  · rw [if_pos hi.symm, if_pos (hi ▸ hlt), if_pos hi]
  · rw [if_neg (Ne.symm hi), if_neg hi]

theorem permanent_le (hchanged : Changed arena ref slot slot' next) (h : Tidy arena steps) :
    permanent ≤ ref.slot := by
  obtain ⟨hslot, -, -⟩ := slot?_eq_some_iff.mp hchanged.held.1
  exact h.permanent_le hslot hchanged.held.2

/-- A slot that holds an object is not listed as free. -/
theorem slot_notMem_free (hchanged : Changed arena ref slot slot' next) (h : Tidy arena steps) :
    ref.slot ∉ arena.free := by
  intro hmem
  obtain ⟨hslot, -, hvalue⟩ := slot?_eq_some_iff.mp hchanged.held.1
  obtain ⟨-, vacant, hvacant, hnone⟩ := h.free_vacant _ hmem
  rw [hslot] at hvacant
  cases hvacant
  rw [hnone] at hvalue
  cases hvalue

theorem tidy (hchanged : Changed arena ref slot slot' next) (h : Tidy arena steps)
    (hgen : slot'.generation ≤ steps + 1) : Tidy next (steps + 1) where
  permanent_eq := by
    intro i hi
    have hmortal := hchanged.permanent_le h
    rw [hchanged.getElem?_slots, if_neg (by omega)]
    exact h.permanent_eq i hi
  mortal := by
    intro i found hi hfound
    rw [hchanged.getElem?_slots] at hfound
    split at hfound
    · cases hfound
      exact hchanged.mortal.1
    · exact h.mortal i found hi hfound
  length_le := by
    rw [hchanged.slots, List.length_set]
    exact h.length_le.trans (by omega)
  generation_le := by
    intro i found hfound
    rw [hchanged.getElem?_slots] at hfound
    split at hfound
    · cases hfound
      exact hgen
    · exact (h.generation_le i found hfound).trans (by omega)
  free_nodup := by
    rcases hchanged.free with hfree | ⟨hfree, -⟩
    · rw [hfree]
      exact h.free_nodup
    · rw [hfree, List.nodup_cons]
      exact ⟨hchanged.slot_notMem_free h, h.free_nodup⟩
  free_vacant := by
    -- the slot that changes was not listed, so the listed ones stay vacant
    have hothers : ∀ i ∈ arena.free, permanent ≤ i ∧
        ∃ slot : Slot, next.slots[i]? = some slot ∧ slot.value = none := by
      intro i hi
      have hne : i ≠ ref.slot := fun heq => hchanged.slot_notMem_free h (heq ▸ hi)
      rw [hchanged.getElem?_slots, if_neg hne]
      exact h.free_vacant i hi
    intro i hi
    rcases hchanged.free with hfree | ⟨hfree, hvalue⟩
    · exact hothers i (hfree ▸ hi)
    · rw [hfree, List.mem_cons] at hi
      rcases hi with rfl | hi
      · exact ⟨hchanged.permanent_le h, slot', by simp [hchanged.getElem?_slots], hvalue⟩
      · exact hothers i hi

end Changed

end HostBridge.Arena
