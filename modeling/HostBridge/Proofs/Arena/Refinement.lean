import HostBridge.Proofs.Arena.Invariant
import Mathlib.Data.List.Induction

/-!
# An arena is a store of uniquely named objects

Slots are used again, and only the generation of a slot tells an old reference from the object that
now lies there. This module shows that the arena keeps to its ledger: references are handed out
once, an object is there until one reference more was given back than was taken, it keeps its value
whatever happens to other references, and a reference whose object is gone names nothing ever after.

## Main definitions

* `Record.Describes`: what the slot of a reference must look like;
* `Tracks`: the invariant of a run, which ties all references that were handed out to the slots and
  their generations.

## Main results

* `Tracks.step`: one call keeps the invariant, as long as no generation wraps around;
* `Chronicle.tracks_run`: so does every run of fewer than `2 ^ 31` calls;
* `Chronicle.refines_store`: what the arena answers about every reference that it handed out.
-/

namespace HostBridge.Arena

variable {arena next : Arena} {ref : Ref} {ledger : List Record} {steps : Nat}

/-- The slot of a reference is as its record says: it holds the object while that is there, and it
has moved on to a later generation afterwards. -/
def Record.Describes (record : Record) (slot : Slot) : Prop :=
  if record.Alive then
    slot = ⟨record.ref.generation, record.count, false, some record.object⟩
  else record.ref.generation < slot.generation

/-- What holds of every record after `steps` calls. -/
structure Record.Bounded (record : Record) (steps : Nat) : Prop where
  /-- The object is what was created, its bytes aside. -/
  same : record.created.SameButBytes record.object
  /-- A call takes one reference at most. -/
  increfs_le : record.increfs ≤ steps
  /-- No reference is given back once the object is gone. -/
  decrefs_le : record.decrefs ≤ record.increfs + 1

/-- What becomes of a record when its slot changes to `slot` in one of `steps` calls. -/
structure Record.Follows (record updated : Record) (slot : Slot) (steps : Nat) : Prop where
  /-- The record is still the one of that reference. -/
  ref_eq : updated.ref = record.ref
  /-- The record tells of the change. -/
  describes : updated.Describes slot
  /-- The object is there unless the slot was vacated. -/
  kept : slot.value.isSome = true → updated.Alive
  /-- Its numbers stay those of a run of that length. -/
  bounded : updated.Bounded steps

/-- The arena keeps to its ledger after `steps` calls. -/
structure Tracks (arena : Arena) (ledger : List Record) (steps : Nat) : Prop where
  /-- The slots are tidy. -/
  tidy : Tidy arena steps
  /-- Every reference was handed out once. -/
  refs_nodup : (ledger.map Record.ref).Nodup
  /-- No reference is one to a permanent object. -/
  mortal : ∀ record ∈ ledger, permanent ≤ record.ref.slot
  /-- The slot of every reference is as its record says. -/
  described : ∀ record ∈ ledger,
    ∃ slot : Slot, arena.slots[record.ref.slot]? = some slot ∧ record.Describes slot
  /-- Every object that can be freed has a record. -/
  recorded : ∀ (i : Nat) (slot : Slot), permanent ≤ i → arena.slots[i]? = some slot →
    slot.value.isSome = true →
      ∃ record ∈ ledger, record.ref = ⟨i, slot.generation⟩ ∧ record.Alive
  /-- The numbers in the records are those of a run of that length. -/
  bounded : ∀ record ∈ ledger, record.Bounded steps

theorem tracks_empty : Tracks empty [] 0 where
  tidy := tidy_empty
  refs_nodup := List.nodup_nil
  mortal := by simp
  described := by simp
  recorded := by
    intro i slot hi hslot
    obtain ⟨hlt, -⟩ := List.getElem?_eq_some_iff.mp hslot
    exact absurd hlt (Nat.not_lt.mpr hi)
  bounded := by simp

theorem Record.Bounded.later {record : Record} (h : record.Bounded steps) :
    record.Bounded (steps + 1) where
  same := h.same
  increfs_le := h.increfs_le.trans (by omega)
  decrefs_le := h.decrefs_le

/-- What a record says about a slot that holds nothing: its object is gone. -/
theorem Record.Describes.lt_of_vacant {record : Record} {slot : Slot} (h : record.Describes slot)
    (hvacant : slot.value = none) : ¬record.Alive ∧ record.ref.generation < slot.generation := by
  unfold Describes at h
  split at h
  · rw [h] at hvacant
    cases hvacant
  · exact ⟨‹_›, h⟩

theorem describes_fresh (ref : Ref) (object : Object) :
    (Record.fresh ref object).Describes ⟨ref.generation, 1, false, some object⟩ := by
  simp [Record.Describes, Record.fresh, Record.Alive, Record.count]

/-- A record stays the one of its reference, and of what that was made for. -/
theorem Operation.amend_keeps (op : Operation) (record : Record) :
    (op.amend record).ref = record.ref ∧ (op.amend record).created = record.created := by
  unfold amend Record.change
  split
  · split <;> exact ⟨rfl, rfl⟩
  · split <;> exact ⟨rfl, rfl⟩
  · split <;> exact ⟨rfl, rfl⟩
  · exact ⟨rfl, rfl⟩

/-- Nothing more is put on record once the object is gone. -/
theorem Operation.amend_of_not_alive (op : Operation) {record : Record} (hdead : ¬record.Alive) :
    op.amend record = record := by
  have hchange (ref : Ref) (update : Record → Record) : record.change ref update = record :=
    if_neg fun h => hdead h.2
  unfold amend
  split
  · exact hchange _ _
  · exact hchange _ _
  · exact hchange _ _
  · rfl

namespace Tracks

/-- Calls that leave the slots alone keep the invariant. -/
theorem of_sameSlots (h : Tracks arena ledger steps) (hsame : SameSlots arena next) :
    Tracks next ledger (steps + 1) where
  tidy := h.tidy.of_sameSlots hsame
  refs_nodup := h.refs_nodup
  mortal := h.mortal
  described := by
    rw [hsame.1]
    exact h.described
  recorded := by
    rw [hsame.1]
    exact h.recorded
  bounded := fun record hrecord => (h.bounded record hrecord).later

/-- A reference that is handed out is new: the records of its slot are all of earlier
generations. -/
theorem ref_fresh {object : Object} (h : Tracks arena ledger steps)
    (hplaced : Placed arena object ref next) : ref ∉ ledger.map Record.ref := by
  intro hmem
  obtain ⟨record, hrecord, rfl⟩ := List.mem_map.mp hmem
  obtain ⟨slot, hslot, hdescribes⟩ := h.described record hrecord
  obtain ⟨hvacant, hgeneration⟩ := hplaced.vacant slot hslot
  have hlt := (hdescribes.lt_of_vacant hvacant).2
  omega

/-- Placing an object keeps the invariant, with one more record. -/
theorem of_placed {object : Object} (h : Tracks arena ledger steps)
    (hplaced : Placed arena object ref next) :
    Tracks next (Record.fresh ref object :: ledger) (steps + 1) where
  tidy := hplaced.tidy h.tidy
  refs_nodup := by
    rw [List.map_cons, List.nodup_cons]
    exact ⟨h.ref_fresh hplaced, h.refs_nodup⟩
  mortal := by
    intro record hrecord
    rcases List.mem_cons.mp hrecord with rfl | hrecord
    · exact hplaced.mortal
    · exact h.mortal record hrecord
  described := by
    intro record hrecord
    rw [hplaced.slots]
    rcases List.mem_cons.mp hrecord with rfl | hrecord
    · exact ⟨_, if_pos rfl, describes_fresh ref object⟩
    · obtain ⟨slot, hslot, hdescribes⟩ := h.described record hrecord
      by_cases hsame : record.ref.slot = ref.slot
      · -- an earlier tenant of the slot is gone, and stays so under the new generation
        rw [hsame] at hslot
        obtain ⟨hvacant, hgeneration⟩ := hplaced.vacant slot hslot
        obtain ⟨hdead, hlt⟩ := hdescribes.lt_of_vacant hvacant
        refine ⟨_, if_pos hsame, ?_⟩
        rw [Record.Describes, if_neg hdead]
        exact hgeneration ▸ hlt
      · exact ⟨slot, by rw [if_neg hsame, hslot], hdescribes⟩
  recorded := by
    intro i slot hi hslot hvalue
    rw [hplaced.slots] at hslot
    by_cases hsame : i = ref.slot
    · rw [if_pos hsame] at hslot
      cases hslot
      exact ⟨_, List.mem_cons_self, Ref.ext hsame.symm rfl, Nat.zero_le _⟩
    · rw [if_neg hsame] at hslot
      obtain ⟨record, hrecord, hfound⟩ := h.recorded i slot hi hslot hvalue
      exact ⟨record, List.mem_cons_of_mem _ hrecord, hfound⟩
  bounded := by
    intro record hrecord
    rcases List.mem_cons.mp hrecord with rfl | hrecord
    · exact ⟨Object.sameButBytes_refl object, Nat.zero_le _, Nat.zero_le _⟩
    · exact (h.bounded record hrecord).later

/-- The slot that a reference names, by its record. -/
theorem slot?_of_alive (h : Tracks arena ledger steps) {record : Record}
    (hrecord : record ∈ ledger) (halive : record.Alive) :
    arena.slot? record.ref =
      some ⟨record.ref.generation, record.count, false, some record.object⟩ := by
  obtain ⟨slot, hslot, hdescribes⟩ := h.described record hrecord
  rw [Record.Describes, if_pos halive] at hdescribes
  exact slot?_eq_some_iff.mpr ⟨hdescribes ▸ hslot, rfl, rfl⟩

/-- A reference whose object is gone names no slot. -/
theorem slot?_of_not_alive (h : Tracks arena ledger steps) {record : Record}
    (hrecord : record ∈ ledger) (hdead : ¬record.Alive) : arena.slot? record.ref = none := by
  obtain ⟨slot, hslot, hdescribes⟩ := h.described record hrecord
  rw [Record.Describes, if_neg hdead] at hdescribes
  rw [Option.eq_none_iff_forall_ne_some]
  intro found hfound
  obtain ⟨hfound, hgeneration, -⟩ := slot?_eq_some_iff.mp hfound
  rw [hslot] at hfound
  cases hfound
  omega

/-- The records of a slot that are not of its present object are of earlier generations. -/
theorem generation_lt {slot : Slot} (h : Tracks arena ledger steps)
    (hslot : arena.slot? ref = some slot) {record : Record} (hrecord : record ∈ ledger)
    (hsame : record.ref.slot = ref.slot) (hother : ¬(record.ref = ref ∧ record.Alive)) :
    ¬record.Alive ∧ record.ref.generation < slot.generation := by
  obtain ⟨hheld, hgeneration, -⟩ := slot?_eq_some_iff.mp hslot
  obtain ⟨found, hfound, hdescribes⟩ := h.described record hrecord
  rw [hsame, hheld] at hfound
  cases hfound
  have hdead : ¬record.Alive := by
    intro halive
    rw [Record.Describes, if_pos halive] at hdescribes
    rw [hdescribes] at hgeneration
    exact hother ⟨Ref.ext hsame hgeneration, halive⟩
  rw [Record.Describes, if_neg hdead] at hdescribes
  exact ⟨hdead, hdescribes⟩

/-- Changing one slot keeps the invariant, if the record of the reference follows. -/
theorem of_changed {slot slot' : Slot} {update : Record → Record} (h : Tracks arena ledger steps)
    (hchanged : Changed arena ref slot slot' next) (hgen : slot'.generation ≤ steps + 1)
    (hupdate : ∀ record ∈ ledger, record.ref = ref → record.Alive →
      record.Follows (update record) slot' (steps + 1)) :
    Tracks next (ledger.map (Record.change ref update)) (steps + 1) := by
  have hrefs : ∀ record ∈ ledger, (Record.change ref update record).ref = record.ref := by
    intro record hrecord
    by_cases hchange : record.ref = ref ∧ record.Alive
    · rw [Record.change, if_pos hchange, (hupdate record hrecord hchange.1 hchange.2).ref_eq]
    · rw [Record.change, if_neg hchange]
  -- only records of the same slot need care: the one that changes, and those of earlier tenants
  refine ⟨hchanged.tidy h.tidy hgen, ?_, ?_, ?_, ?_, ?_⟩
  · have hmap : (ledger.map (Record.change ref update)).map Record.ref = ledger.map Record.ref := by
      rw [List.map_map]
      exact List.map_congr_left hrefs
    rw [hmap]
    exact h.refs_nodup
  · intro changed hmem
    obtain ⟨record, hrecord, rfl⟩ := List.mem_map.mp hmem
    rw [hrefs record hrecord]
    exact h.mortal record hrecord
  · intro changed hmem
    obtain ⟨record, hrecord, rfl⟩ := List.mem_map.mp hmem
    rw [hrefs record hrecord, hchanged.getElem?_slots]
    by_cases hchange : record.ref = ref ∧ record.Alive
    · rw [Record.change, if_pos hchange]
      exact ⟨slot', if_pos (by rw [hchange.1]),
        (hupdate record hrecord hchange.1 hchange.2).describes⟩
    · rw [Record.change, if_neg hchange]
      by_cases hsame : record.ref.slot = ref.slot
      · obtain ⟨hdead, hlt⟩ := h.generation_lt hchanged.held.1 hrecord hsame hchange
        refine ⟨slot', if_pos hsame, ?_⟩
        rw [Record.Describes, if_neg hdead]
        exact hlt.trans_le hchanged.mortal.2
      · rw [if_neg hsame]
        exact h.described record hrecord
  · intro i found hi hfound hvalue
    rw [hchanged.getElem?_slots] at hfound
    by_cases hsame : i = ref.slot
    · rw [if_pos hsame] at hfound
      cases hfound
      obtain ⟨hslot, hgeneration, hsome⟩ := slot?_eq_some_iff.mp hchanged.held.1
      obtain ⟨record, hrecord, href, halive⟩ := h.recorded i slot hi (hsame ▸ hslot) hsome
      have href : record.ref = ref := href.trans (Ref.ext hsame hgeneration)
      have hfollows := hupdate record hrecord href halive
      have hupdated : Record.change ref update record = update record := by
        rw [Record.change, if_pos ⟨href, halive⟩]
      refine ⟨update record, List.mem_map.mpr ⟨record, hrecord, hupdated⟩, ?_, hfollows.kept hvalue⟩
      have hdescribes := hfollows.describes
      rw [Record.Describes, if_pos (hfollows.kept hvalue)] at hdescribes
      rw [hdescribes, hsame, ← href, ← hfollows.ref_eq]
    · rw [if_neg hsame] at hfound
      obtain ⟨record, hrecord, href, halive⟩ := h.recorded i found hi hfound hvalue
      have hother : Record.change ref update record = record := by
        rw [Record.change, if_neg]
        rintro ⟨rfl, -⟩
        exact hsame (congrArg Ref.slot href).symm
      exact ⟨record, List.mem_map.mpr ⟨record, hrecord, hother⟩, href, halive⟩
  · intro changed hmem
    obtain ⟨record, hrecord, rfl⟩ := List.mem_map.mp hmem
    by_cases hchange : record.ref = ref ∧ record.Alive
    · rw [Record.change, if_pos hchange]
      exact (hupdate record hrecord hchange.1 hchange.2).bounded
    · rw [Record.change, if_neg hchange]
      exact (h.bounded record hrecord).later

/-- A reference that names nothing that can be freed is not in the ledger as one whose object is
there. -/
theorem map_change_eq_self {update : Record → Record} (h : Tracks arena ledger steps)
    (hfixed : ∀ slot, arena.slot? ref = some slot → slot.immortal = true) :
    ledger.map (Record.change ref update) = ledger := by
  have hself : ∀ record ∈ ledger, Record.change ref update record = record := by
    intro record hrecord
    rw [Record.change, if_neg]
    rintro ⟨rfl, halive⟩
    cases hfixed _ (h.slot?_of_alive hrecord halive)
  rw [List.map_congr_left hself, List.map_id']

/-- The slot of a reference whose object is there, by its record. -/
theorem eq_of_slot? {slot : Slot} (h : Tracks arena ledger steps)
    (hslot : arena.slot? ref = some slot) {record : Record} (hrecord : record ∈ ledger)
    (href : record.ref = ref) (halive : record.Alive) :
    slot = ⟨ref.generation, record.count, false, some record.object⟩ := by
  have hheld := h.slot?_of_alive hrecord halive
  rw [href, hslot] at hheld
  exact Option.some.inj hheld

/-- Rewriting a slot within its generation keeps the invariant, if the record of the reference
changes with it. -/
theorem of_set {slot slot' : Slot} {update : Record → Record} (h : Tracks arena ledger steps)
    (hslot : arena.slot? ref = some slot) (hmortal : slot.immortal = false)
    (hmortal' : slot'.immortal = false) (hgeneration : slot'.generation = slot.generation)
    (hupdate : ∀ record ∈ ledger, record.ref = ref → record.Alive →
      record.Follows (update record) slot' (steps + 1)) :
    Tracks { arena with slots := arena.slots.set ref.slot slot' }
      (ledger.map (Record.change ref update)) (steps + 1) := by
  have hle := h.tidy.generation_le _ slot (slot?_eq_some_iff.mp hslot).1
  exact h.of_changed (changed_of_set hslot hmortal hmortal' hgeneration) (by omega) hupdate

/-- Taking a reference. -/
theorem incref (h : Tracks arena ledger steps) (ref : Ref) :
    Tracks (arena.incref ref).result (ledger.map (Operation.incref ref).amend) (steps + 1) := by
  rcases fixed_or_mortal arena ref with hfixed | ⟨slot, hslot, hmortal⟩
  -- neither the arena nor the ledger takes notice
  · rw [result_incref_of_fixed hfixed, Operation.amend, h.map_change_eq_self hfixed]
    exact h.of_sameSlots ⟨rfl, rfl⟩
  · rw [result_incref_of_mortal hslot hmortal]
    refine h.of_set hslot hmortal hmortal rfl ?_
    intro record hrecord href halive
    have hbounded := h.bounded record hrecord
    have hkept : Record.Alive { record with increfs := record.increfs + 1 } :=
      Nat.le_succ_of_le halive
    refine ⟨rfl, ?_, fun _ => hkept, hbounded.same, Nat.succ_le_succ hbounded.increfs_le,
      Nat.le_succ_of_le hkept⟩
    rw [Record.Describes, if_pos hkept, h.eq_of_slot? hslot hrecord href halive]
    unfold Record.Alive at halive
    simp only [Record.count, href, Slot.mk.injEq, true_and, and_true]
    omega

/-- Giving back a reference. With the last one the generation moves on, and it does not wrap
around. -/
theorem decref (h : Tracks arena ledger steps) (ref : Ref) (hsteps : steps < 2 ^ 31) :
    Tracks (arena.decref ref).result (ledger.map (Operation.decref ref).amend) (steps + 1) := by
  rcases fixed_or_mortal arena ref with hfixed | ⟨slot, hslot, hmortal⟩
  · rw [result_decref_of_fixed hfixed, Operation.amend, h.map_change_eq_self hfixed]
    exact h.of_sameSlots ⟨rfl, rfl⟩
  · by_cases hlast : slot.refcount = 1
    -- the last reference: the record is now that of an object that is gone
    · have hle := h.tidy.generation_le _ slot (slot?_eq_some_iff.mp hslot).1
      have hgeneration : (slot.generation + 1) % generations = slot.generation + 1 :=
        Nat.mod_eq_of_lt (by unfold generations twoPow; omega)
      rw [result_decref_of_last hslot hmortal hlast, hgeneration]
      refine h.of_changed (changed_of_vacated hslot hmortal)
        (Nat.succ_le_succ hle) ?_
      intro record hrecord href halive
      have hbounded := h.bounded record hrecord
      have hcount : record.count = 1 := by
        rw [← hlast, h.eq_of_slot? hslot hrecord href halive]
      unfold Record.Alive at halive
      unfold Record.count at hcount
      have hdead : ¬Record.Alive { record with decrefs := record.decrefs + 1 } := by
        show ¬record.decrefs + 1 ≤ record.increfs
        omega
      refine ⟨rfl, ?_, nofun, hbounded.same, Nat.le_succ_of_le hbounded.increfs_le,
        Nat.succ_le_succ halive⟩
      rw [Record.Describes, if_neg hdead, h.eq_of_slot? hslot hrecord href halive]
      exact href ▸ Nat.lt_succ_self _
    -- others are left, so the object stays
    · rw [result_decref_of_shared hslot hmortal hlast]
      refine h.of_set hslot hmortal hmortal rfl ?_
      intro record hrecord href halive
      have hbounded := h.bounded record hrecord
      have hcount : record.count ≠ 1 := by
        intro hone
        rw [h.eq_of_slot? hslot hrecord href halive] at hlast
        exact hlast hone
      unfold Record.count at hcount
      have hkept : Record.Alive { record with decrefs := record.decrefs + 1 } := by
        unfold Record.Alive at halive
        show record.decrefs + 1 ≤ record.increfs
        omega
      refine ⟨rfl, ?_, fun _ => hkept, hbounded.same, Nat.le_succ_of_le hbounded.increfs_le,
        Nat.le_succ_of_le hkept⟩
      rw [Record.Describes, if_pos hkept, h.eq_of_slot? hslot hrecord href halive]
      simp only [Record.count, href, Slot.mk.injEq, true_and, and_true]
      omega

/-- Changing the bytes of an array. -/
theorem overwrite (h : Tracks arena ledger steps) (ref : Ref) (pos : Nat) (patch : Bytes) :
    Tracks (arena.overwriteArray ref pos patch)
      (ledger.map (Operation.overwrite ref pos patch).amend) (steps + 1) := by
  rcases fixed_or_mortal arena ref with hfixed | ⟨slot, hslot, hmortal⟩
  · rw [overwriteArray_of_fixed h.tidy hfixed, Operation.amend, h.map_change_eq_self hfixed]
    exact h.of_sameSlots ⟨rfl, rfl⟩
  · rw [overwriteArray_of_slot hslot]
    refine h.of_set hslot hmortal hmortal rfl ?_
    intro record hrecord href halive
    have hbounded := h.bounded record hrecord
    refine ⟨rfl, ?_, fun _ => halive, Object.sameButBytes_overwrite hbounded.same pos patch,
      Nat.le_succ_of_le hbounded.increfs_le, hbounded.decrefs_le⟩
    rw [Record.Describes, if_pos (by exact halive), h.eq_of_slot? hslot hrecord href halive]
    simp [Record.count, href]

/-- One call keeps the invariant, as long as no generation wraps around. -/
theorem step {chronicle : Chronicle} (h : Tracks chronicle.arena chronicle.ledger steps)
    (hsteps : steps < 2 ^ 31) (op : Operation) :
    Tracks (chronicle.step op).arena (chronicle.step op).ledger (steps + 1) := by
  rcases apply_cases chronicle.arena op with (hplaces | hidles) | ⟨ref, rfl⟩ | ⟨ref, rfl⟩ |
    ⟨ref, pos, patch, rfl⟩
  · obtain ⟨object, hobject, hamend, happly⟩ := hplaces
    simp only [Chronicle.step, happly, hobject, hamend]
    simpa using h.of_placed (h.tidy.placed object)
  · obtain ⟨hnone, hamend, hsame⟩ := hidles
    simp only [Chronicle.step, hnone, hamend]
    simpa using h.of_sameSlots hsame
  · exact h.incref ref
  · exact h.decref ref hsteps
  · exact h.overwrite ref pos patch

end Tracks

namespace Chronicle

theorem run_concat (ops : List Operation) (op : Operation) :
    run (ops ++ [op]) = (run ops).step op := by
  rw [run, List.foldl_append]
  rfl

/-- The arena keeps to its ledger in every run of fewer than `2 ^ 31` calls. -/
theorem tracks_run (ops : List Operation) (hops : ops.length < 2 ^ 31) :
    Tracks (run ops).arena (run ops).ledger ops.length := by
  -- induction from the end, since the ledger and the arena are those after the calls so far
  induction ops using List.reverseRecOn with
  | nil => exact tracks_empty
  | append_singleton ops op ih =>
    rw [List.length_append, List.length_singleton] at hops ⊢
    rw [run_concat]
    exact (ih (by omega)).step (by omega) op

/-- A call hands out references to what it is to make only. -/
theorem object?_of_apply {op : Operation} (h : (op.apply arena).1 = some ref) :
    ∃ object, op.object? = some object := by
  rcases apply_cases arena op with (⟨object, hobject, -, -⟩ | ⟨hnone, -, -⟩) |
    ⟨_, rfl⟩ | ⟨_, rfl⟩ | ⟨_, _, _, rfl⟩
  · exact ⟨object, hobject⟩
  · rw [hnone] at h
    cases h
  all_goals cases h

/-- Every reference that was handed out has its record, in the same order. -/
theorem issued_run (ops : List Operation) :
    (run ops).issued = (run ops).ledger.map Record.ref := by
  induction ops using List.reverseRecOn with
  | nil => rfl
  | append_singleton ops op ih =>
    rw [run_concat]
    have hamend : ((run ops).ledger.map op.amend).map Record.ref = (run ops).issued := by
      rw [ih, List.map_map]
      exact List.map_congr_left fun record _ => (op.amend_keeps record).1
    rcases apply_cases (run ops).arena op with (⟨object, hobject, -, happly⟩ | ⟨hnone, -, -⟩) |
      ⟨ref, rfl⟩ | ⟨ref, rfl⟩ | ⟨ref, pos, patch, rfl⟩
    · simp only [step, List.map_append, hamend, happly, hobject]
      rfl
    · simp only [step, List.map_append, hamend, hnone]
      rfl
    all_goals exact hamend.symm

/-- A call that hands out a reference puts on record what it was to make, and the record stays. -/
theorem exists_record {ops : List Operation} {op : Operation} {ref : Ref}
    (happly : (op.apply (run ops).arena).1 = some ref) (later : List Operation) :
    ∃ record ∈ (run (ops ++ op :: later)).ledger,
      record.ref = ref ∧ op.object? = some record.created := by
  induction later using List.reverseRecOn with
  | nil =>
    obtain ⟨object, hobject⟩ := object?_of_apply happly
    refine ⟨Record.fresh ref object, ?_, rfl, hobject⟩
    rw [run_concat]
    simp only [step, happly, hobject]
    exact List.mem_append_left _ (by simp)
  | append_singleton later next ih =>
    obtain ⟨record, hrecord, href, hcreated⟩ := ih
    rw [← List.cons_append, ← List.append_assoc, run_concat]
    refine ⟨next.amend record, List.mem_append_right _ (List.mem_map_of_mem hrecord), ?_, ?_⟩
    · rw [(next.amend_keeps record).1, href]
    · rw [(next.amend_keeps record).2, hcreated]

/-- The record of an object that is gone stays as it is. -/
theorem mem_ledger_of_not_alive {ops : List Operation} {record : Record}
    (hrecord : record ∈ (run ops).ledger) (hdead : ¬record.Alive) (later : List Operation) :
    record ∈ (run (ops ++ later)).ledger := by
  induction later using List.reverseRecOn with
  | nil => rwa [List.append_nil]
  | append_singleton later op ih =>
    rw [← List.append_assoc, run_concat]
    exact List.mem_append_right _ (List.mem_map.mpr ⟨record, ih, op.amend_of_not_alive hdead⟩)

end Chronicle

/-- The arena answers about a reference what its record says. -/
structure Record.Honoured (record : Record) (arena : Arena) : Prop where
  /-- The reference names an object until one reference more was given back than was taken. -/
  isAlive_iff : arena.isAlive record.ref = true ↔ record.decrefs ≤ record.increfs
  /-- Until then the references are counted, and the object is what was created, bytes aside. -/
  of_alive : record.Alive →
    arena.refcount? record.ref = some (1 + record.increfs - record.decrefs) ∧
      arena.value? record.ref = some record.object ∧ record.created.SameButBytes record.object
  /-- From then on the reference names nothing, and calls with it have no effect. -/
  of_not_alive : ¬record.Alive →
    record.decrefs = record.increfs + 1 ∧
      arena.value? record.ref = none ∧ arena.typeOf record.ref = .other ∧
      (arena.incref record.ref).result = arena ∧ (arena.decref record.ref).result = arena
  /-- The reference and the count fit in words of 32 bits. -/
  fits : record.ref.slot < 2 ^ 32 ∧ record.ref.generation < 2 ^ 32 ∧ record.count < 2 ^ 32

theorem Tracks.honoured (h : Tracks arena ledger steps) (hsteps : steps < 2 ^ 31) {record : Record}
    (hrecord : record ∈ ledger) : record.Honoured arena := by
  have hbounded := h.bounded record hrecord
  refine ⟨?_, ?_, ?_, ?_⟩
  · by_cases halive : record.Alive
    · rw [isAlive_eq, h.slot?_of_alive hrecord halive]
      exact iff_of_true rfl halive
    · rw [isAlive_eq, h.slot?_of_not_alive hrecord halive]
      exact iff_of_false nofun halive
  · intro halive
    have hslot := h.slot?_of_alive hrecord halive
    exact ⟨by rw [refcount?, hslot]; rfl, by rw [value?_eq, hslot]; rfl, hbounded.same⟩
  · intro hdead
    have hslot := h.slot?_of_not_alive hrecord hdead
    have hvalue : arena.value? record.ref = none := by rw [value?_eq, hslot]; rfl
    refine ⟨?_, hvalue, by rw [typeOf, hvalue], ?_, ?_⟩
    · have hle := hbounded.decrefs_le
      unfold Record.Alive at hdead
      omega
    · exact result_incref_of_fixed (by rw [hslot]; nofun)
    · exact result_decref_of_fixed (by rw [hslot]; nofun)
  · obtain ⟨slot, hslot, hdescribes⟩ := h.described record hrecord
    obtain ⟨hlt, -⟩ := List.getElem?_eq_some_iff.mp hslot
    have hlength := h.tidy.length_le
    have hgeneration := h.tidy.generation_le _ slot hslot
    have hincrefs := hbounded.increfs_le
    refine ⟨by unfold permanent at hlength; omega, ?_, by unfold Record.count; omega⟩
    unfold Record.Describes at hdescribes
    split at hdescribes
    · rw [hdescribes] at hgeneration
      exact hgeneration.trans_lt (by omega)
    · omega

/-- The references that name an object are those to the permanent objects and those whose record
says so. -/
theorem Tracks.isAlive_iff (h : Tracks arena ledger steps) (ref : Ref) :
    arena.isAlive ref = true ↔
      ref ∈ [trueRef, falseRef, noneRef] ∨ ∃ record ∈ ledger, record.ref = ref ∧ record.Alive := by
  constructor
  · intro halive
    by_cases hlt : ref.slot < permanent
    · exact Or.inl ((h.tidy.isAlive_permanent hlt).mp halive)
    · rw [isAlive_eq] at halive
      obtain ⟨slot, hslot⟩ := Option.isSome_iff_exists.mp halive
      obtain ⟨hheld, hgeneration, hvalue⟩ := slot?_eq_some_iff.mp hslot
      rw [← show (⟨ref.slot, slot.generation⟩ : Ref) = ref from Ref.ext rfl hgeneration]
      exact Or.inr (h.recorded _ slot (Nat.not_lt.mp hlt) hheld hvalue)
  · rintro (hmem | ⟨record, hrecord, rfl, halive⟩)
    · exact (h.tidy.isAlive_permanent (slot_lt_permanent hmem)).mpr hmem
    · rw [isAlive_eq, h.slot?_of_alive hrecord halive]
      rfl

/-- An arena is a store of uniquely named objects. -/
theorem Chronicle.refines_store (ops : List Operation) (hops : ops.length < 2 ^ 31) :
    -- References are handed out once, and none of them is one to a permanent object.
    ((run ops).issued ++ [trueRef, falseRef, noneRef]).Nodup ∧
    -- Each has a record of the object that it was made for, and the arena keeps to the record.
    (run ops).ledger.map Record.ref = (run ops).issued ∧
    (∀ earlier op later ref, ops = earlier ++ op :: later →
      (op.apply (run earlier).arena).1 = some ref →
        ∃ record ∈ (run ops).ledger, record.ref = ref ∧ op.object? = some record.created) ∧
    (∀ record ∈ (run ops).ledger, record.Honoured (run ops).arena) ∧
    -- No other reference names an object.
    (∀ ref, (run ops).arena.isAlive ref = true ↔
      ref ∈ [trueRef, falseRef, noneRef] ∨
        ∃ record ∈ (run ops).ledger, record.ref = ref ∧ record.Alive) ∧
    -- What was gone at any time before is gone now.
    ∀ earlier later, ops = earlier ++ later →
      ∀ record ∈ (run earlier).ledger, ¬record.Alive → record ∈ (run ops).ledger := by
  have h := tracks_run ops hops
  refine ⟨?_, (issued_run ops).symm, ?_, fun _ => h.honoured hops, h.isAlive_iff, ?_⟩
  · rw [issued_run, List.nodup_append]
    refine ⟨h.refs_nodup, by decide, ?_⟩
    rintro ref hmem _ hpermanent rfl
    obtain ⟨record, hrecord, rfl⟩ := List.mem_map.mp hmem
    exact absurd (slot_lt_permanent hpermanent) (Nat.not_lt.mpr (h.mortal record hrecord))
  · rintro earlier op later ref rfl happly
    exact exists_record happly later
  · rintro earlier later rfl record hrecord hdead
    exact mem_ledger_of_not_alive hrecord hdead later

/-- A slot with two tenants, and calls with the stale reference to the first of them. -/
def reuse : List Operation :=
  [.int 5, .incref ⟨3, 0⟩, .decref ⟨3, 0⟩, .decref ⟨3, 0⟩, .str "next", .incref ⟨3, 0⟩,
    .decref ⟨3, 0⟩, .decref ⟨0, 0⟩]

theorem refines_store_of_reuse :
    (Chronicle.run reuse).issued = [⟨3, 1⟩, ⟨3, 0⟩] ∧
    (Chronicle.run reuse).ledger =
      [⟨⟨3, 1⟩, .str "next", .str "next", 0, 0⟩, ⟨⟨3, 0⟩, .int 5, .int 5, 1, 2⟩] ∧
    (∀ record ∈ (Chronicle.run reuse).ledger, record.Honoured (Chronicle.run reuse).arena) :=
  ⟨by decide, by rfl, (Chronicle.refines_store reuse (by decide)).2.2.2.1⟩

end HostBridge.Arena
