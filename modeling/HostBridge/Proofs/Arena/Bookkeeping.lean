import HostBridge.Proofs.Arena.Refinement

/-!
# The books of an arena

Whether a slot holds an object is written down four times: in its value, in its reference count, in
the list of free slots and in the number of live objects. Each call updates them in separate steps.
This module shows that they agree after every call, so that the number of live objects never drops
below zero, and that a call which obeys the limit fails exactly when that number has reached it.

## Main definitions

* `Slot.occupied`: the slots that the number of live objects counts;
* `Balanced`: the four notes of every slot agree;
* `Operation.Exempt`, `Operation.Rationed`: the calls that make objects whatever the limit, and
  those that make them within it.

## Main results

* `enters_apply`: which calls can change the limit and the number of live objects;
* `Chronicle.limit_run`: the limit is the one that was set last;
* `Balanced.step` and `Chronicle.balanced_run`: one call keeps the books balanced, hence a run does;
* `Chronicle.books_agree`: what the books say in every state, and when a call is refused.
-/

namespace HostBridge

/-- A slot that holds an object which can be freed. -/
def Slot.occupied (slot : Slot) : Bool := !slot.immortal && slot.value.isSome

namespace Arena

variable {arena next : Arena} {ref : Ref} {slot slot' : Slot} {op : Operation} {steps : Nat}

/-! ## The limit and the number of live objects -/

/-- An answer that leaves the limit alone and counts the reference that it hands out, if any. -/
def Enters (arena : Arena) (answer : Option Ref × Arena) : Prop :=
  answer.2.limit = arena.limit ∧ answer.2.live = arena.live + answer.1.toList.length

theorem enters_place (arena : Arena) (object : Object) :
    Enters arena ((arena.place object).map some id) := by
  unfold place
  split <;> exact ⟨rfl, rfl⟩

theorem enters_alloc (arena : Arena) (object : Object) :
    Enters arena ((arena.alloc object).map some id) := by
  rw [alloc_eq_place]
  exact enters_place arena object

theorem enters_insert (arena : Arena) (object : Object) :
    Enters arena (arena.insert object) := by
  unfold insert
  split
  · exact ⟨rfl, rfl⟩
  · exact enters_place arena object

theorem enters_arrayFromParts (arena : Arena) (kind : Kind) (shape : Shape) (strides : Strides)
    (offset : Nat) (bytes : Bytes) :
    Enters arena (arena.arrayFromParts kind shape strides offset bytes) := by
  unfold arrayFromParts
  split
  · exact enters_alloc arena _
  · exact ⟨rfl, rfl⟩

theorem enters_newArray (arena : Arena) (shape : Shape) (typeCode : Int) (bytes : Bytes) :
    Enters arena (arena.newArray shape typeCode bytes) := by
  unfold newArray
  split
  · exact ⟨rfl, rfl⟩
  · split
    · exact enters_insert arena _
    · exact ⟨rfl, rfl⟩

theorem enters_incref (arena : Arena) (ref : Ref) :
    Enters arena (none, (arena.incref ref).result) := by
  rcases fixed_or_mortal arena ref with hfixed | ⟨slot, hslot, hmortal⟩
  · rw [result_incref_of_fixed hfixed]
    exact ⟨rfl, rfl⟩
  · rw [result_incref_of_mortal hslot hmortal]
    exact ⟨rfl, rfl⟩

theorem enters_overwriteArray (arena : Arena) (ref : Ref) (pos : Nat) (patch : Bytes) :
    Enters arena (none, arena.overwriteArray ref pos patch) := by
  unfold overwriteArray setValue
  split
  · split <;> exact ⟨rfl, rfl⟩
  · exact ⟨rfl, rfl⟩

theorem enters_realValue (arena : Arena) (ref : Ref) (what : String) :
    Enters arena (none, (arena.realValue ref what).2) := by
  unfold realValue
  split <;> exact ⟨rfl, rfl⟩

/-- Only one call changes the limit, and only one takes objects off the count. -/
theorem enters_apply (arena : Arena) (hlimit : ∀ limit, op ≠ .setLimit limit)
    (hdecref : ∀ ref, op ≠ .decref ref) : Enters arena (op.apply arena) := by
  cases op with
  | int value => exact enters_alloc arena _
  | float value => exact enters_alloc arena _
  | complex value => exact enters_alloc arena _
  | str value => exact enters_alloc arena _
  | array kind shape values order => exact enters_alloc arena _
  | arrayFromParts kind shape strides offset bytes =>
    exact enters_arrayFromParts arena kind shape strides offset bytes
  | newInt value => exact enters_insert arena _
  | newFloat value => exact enters_insert arena _
  | newComplex value => exact enters_insert arena _
  | newArray shape typeCode bytes => exact enters_newArray arena shape typeCode bytes
  | incref ref => exact enters_incref arena ref
  | decref ref => exact absurd rfl (hdecref ref)
  | overwrite ref pos patch => exact enters_overwriteArray arena ref pos patch
  | setLimit limit => exact absurd rfl (hlimit limit)
  | setError exception => exact ⟨rfl, rfl⟩
  | takeError => exact ⟨rfl, rfl⟩
  | asInt ref =>
    simp only [Operation.apply, asInt]
    split
    · split <;> exact ⟨rfl, rfl⟩
    all_goals exact ⟨rfl, rfl⟩
  | asFloat ref => exact enters_realValue arena ref _
  | complexReal ref =>
    simp only [Operation.apply, complexReal]
    split
    · exact ⟨rfl, rfl⟩
    · exact enters_realValue arena ref _
  | complexImag ref =>
    simp only [Operation.apply, complexImag]
    split <;> exact ⟨rfl, rfl⟩

/-- The limit that a call sets. -/
def Operation.limit? : Operation → Option (Option Nat)
  | setLimit limit => some limit
  | _ => none

theorem limit_decref (arena : Arena) (ref : Ref) :
    (arena.decref ref).result.limit = arena.limit := by
  rcases fixed_or_mortal arena ref with hfixed | ⟨slot, hslot, hmortal⟩
  · rw [result_decref_of_fixed hfixed]
  by_cases hlast : slot.refcount = 1
  · rw [result_decref_of_last hslot hmortal hlast]
  · rw [result_decref_of_shared hslot hmortal hlast]

theorem limit_apply (arena : Arena) (op : Operation) :
    (op.apply arena).2.limit = op.limit?.getD arena.limit := by
  by_cases hdecref : ∃ ref, op = .decref ref
  · obtain ⟨ref, rfl⟩ := hdecref
    exact limit_decref arena ref
  by_cases hlimit : ∃ limit, op = .setLimit limit
  · obtain ⟨limit, rfl⟩ := hlimit
    rfl
  rw [(enters_apply arena (not_exists.mp hlimit) (not_exists.mp hdecref)).1]
  cases op with
  | setLimit limit => exact absurd ⟨limit, rfl⟩ hlimit
  | _ => rfl

/-- The limit is the one that was set last, and there is none until one is set. -/
theorem Chronicle.limit_run (ops : List Operation) :
    (run ops).arena.limit = (ops.filterMap Operation.limit?).getLast?.getD none := by
  induction ops using List.reverseRecOn with
  | nil => rfl
  | append_singleton ops op ih =>
    rw [run_concat, List.filterMap_append]
    show (op.apply (run ops).arena).2.limit = _
    rw [limit_apply, ih]
    cases hlimit : op.limit? <;> simp [hlimit]

/-! ## Balanced books -/

/-- All notes about a slot agree: a slot without an object is listed as free, an object is there as
long as references to it are counted, and the objects that can be freed are those that are counted
as live. -/
structure Balanced (arena : Arena) : Prop where
  listed : ∀ (i : Nat) (slot : Slot), arena.slots[i]? = some slot → slot.value = none →
    i ∈ arena.free
  counted : ∀ (i : Nat) (slot : Slot), arena.slots[i]? = some slot → slot.immortal = false →
    (slot.value.isSome = true ↔ 0 < slot.refcount)
  live_eq : arena.live = arena.slots.countP Slot.occupied

theorem balanced_empty : Balanced empty where
  listed := by
    intro i slot hslot hvacant
    have hmem : slot ∈ empty.slots := List.mem_of_getElem? hslot
    simp only [empty, List.mem_cons, List.not_mem_nil, or_false] at hmem
    rcases hmem with rfl | rfl | rfl <;> cases hvacant
  counted := by
    intro i slot hslot hmortal
    have hmem : slot ∈ empty.slots := List.mem_of_getElem? hslot
    simp only [empty, List.mem_cons, List.not_mem_nil, or_false] at hmem
    rcases hmem with rfl | rfl | rfl <;> cases hmortal
  live_eq := rfl

namespace Balanced

theorem of_sameSlots (h : Balanced arena) (hsame : SameSlots arena next)
    (hlive : next.live = arena.live) : Balanced next where
  listed := by
    rw [hsame.1, hsame.2]
    exact h.listed
  counted := by
    rw [hsame.1]
    exact h.counted
  live_eq := by rw [hlive, hsame.1, h.live_eq]

/-- Placing an object fills a vacant slot and counts it. -/
theorem place (h : Balanced arena) (htidy : Tidy arena steps) (object : Object) :
    Balanced (arena.place object).2 := by
  have hplaced := htidy.placed object
  refine ⟨?_, ?_, ?_⟩
  · intro i found hfound hvacant
    rw [hplaced.slots] at hfound
    split at hfound
    · cases hfound
      cases hvacant
    · rename_i hne
      have hmem := h.listed i found hfound hvacant
      -- the slot that was taken is the only one that leaves the list
      revert hne
      unfold Arena.place
      split
      · rename_i index free hfree
        intro hne
        rw [hfree] at hmem
        exact (List.mem_cons.mp hmem).resolve_left hne
      · exact fun _ => hmem
  · intro i found hfound hmortal
    rw [hplaced.slots] at hfound
    split at hfound
    · cases hfound
      exact iff_of_true rfl Nat.one_pos
    · exact h.counted i found hfound hmortal
  · unfold Arena.place
    split
    · rename_i index free hfree
      obtain ⟨-, vacant, hvacant, hnone⟩ := htidy.free_vacant index (by rw [hfree]; simp)
      obtain ⟨hlt, hget⟩ := List.getElem?_eq_some_iff.mp hvacant
      rw [List.countP_set hlt, hget, ← h.live_eq]
      simp [Slot.occupied, hnone]
    · rw [List.countP_append, ← h.live_eq]
      rfl

/-- An object that can be freed is one of those that are counted. -/
theorem occupied_of_slot? (hslot : arena.slot? ref = some slot) (hmortal : slot.immortal = false) :
    slot.occupied = true ∧ 0 < arena.slots.countP Slot.occupied := by
  obtain ⟨hheld, -, hvalue⟩ := slot?_eq_some_iff.mp hslot
  have hoccupied : slot.occupied = true := by simp [Slot.occupied, hmortal, hvalue]
  exact ⟨hoccupied, List.countP_pos_iff.mpr ⟨slot, List.mem_of_getElem? hheld, hoccupied⟩⟩

/-- Rewriting one slot changes the count by what the slot holds afterwards. -/
theorem countP_set (slot' : Slot) (hslot : arena.slot? ref = some slot)
    (hmortal : slot.immortal = false) :
    (arena.slots.set ref.slot slot').countP Slot.occupied + 1 =
      arena.slots.countP Slot.occupied + if slot'.occupied then 1 else 0 := by
  obtain ⟨hoccupied, hpos⟩ := occupied_of_slot? hslot hmortal
  obtain ⟨hlt, hget⟩ := List.getElem?_eq_some_iff.mp (slot?_eq_some_iff.mp hslot).1
  rw [List.countP_set hlt, hget, if_pos hoccupied]
  omega

/-- A change of one slot keeps the books balanced if count, list and number follow it. -/
theorem of_changed (h : Balanced arena) (hchanged : Changed arena ref slot slot' next)
    (hcounted : slot'.value.isSome = true ↔ 0 < slot'.refcount)
    (hlisted : slot'.value = none → ref.slot ∈ next.free)
    (hlive : next.live + 1 = arena.live + if slot'.occupied then 1 else 0) : Balanced next where
  listed := by
    intro i found hfound hvacant
    rw [hchanged.getElem?_slots] at hfound
    split at hfound
    · rename_i hi
      cases hfound
      exact hi ▸ hlisted hvacant
    · have hmem := h.listed i found hfound hvacant
      rcases hchanged.free with hfree | ⟨hfree, -⟩
      · exact hfree ▸ hmem
      · exact hfree ▸ List.mem_cons_of_mem _ hmem
  counted := by
    intro i found hfound hmortal
    rw [hchanged.getElem?_slots] at hfound
    split at hfound
    · cases hfound
      exact hcounted
    · exact h.counted i found hfound hmortal
  live_eq := by
    have hcount := countP_set slot' hchanged.held.1 hchanged.held.2
    rw [← hchanged.slots, ← h.live_eq] at hcount
    omega

/-- Rewriting a slot that goes on to hold an object. -/
theorem of_set (h : Balanced arena) (hslot : arena.slot? ref = some slot)
    (hmortal : slot.immortal = false) (hmortal' : slot'.immortal = false)
    (hgeneration : slot'.generation = slot.generation) (hvalue : slot'.value.isSome = true)
    (hcount : 0 < slot'.refcount) :
    Balanced { arena with slots := arena.slots.set ref.slot slot' } := by
  refine h.of_changed (changed_of_set hslot hmortal hmortal' hgeneration)
    (iff_of_true hvalue hcount) ?_ ?_
  · intro hnone
    rw [hnone] at hvalue
    cases hvalue
  · simp [Slot.occupied, hmortal', hvalue]

/-- As long as an object can be freed, references to it are counted and it is counted as live. -/
theorem pos_of_slot? (h : Balanced arena) (hslot : arena.slot? ref = some slot)
    (hmortal : slot.immortal = false) : 0 < slot.refcount ∧ 0 < arena.live := by
  obtain ⟨hheld, -, hvalue⟩ := slot?_eq_some_iff.mp hslot
  refine ⟨(h.counted _ slot hheld hmortal).mp hvalue, ?_⟩
  rw [h.live_eq]
  exact (occupied_of_slot? hslot hmortal).2

theorem incref (h : Balanced arena) (ref : Ref) : Balanced (arena.incref ref).result := by
  rcases fixed_or_mortal arena ref with hfixed | ⟨slot, hslot, hmortal⟩
  · rwa [result_incref_of_fixed hfixed]
  · rw [result_incref_of_mortal hslot hmortal]
    exact h.of_set hslot hmortal hmortal rfl (slot?_eq_some_iff.mp hslot).2.2 (Nat.succ_pos _)

theorem overwriteArray (h : Balanced arena) (htidy : Tidy arena steps) (ref : Ref) (pos : Nat)
    (patch : Bytes) : Balanced (arena.overwriteArray ref pos patch) := by
  rcases fixed_or_mortal arena ref with hfixed | ⟨slot, hslot, hmortal⟩
  · rwa [overwriteArray_of_fixed htidy hfixed]
  · rw [overwriteArray_of_slot hslot]
    refine h.of_set hslot hmortal hmortal rfl ?_ (h.pos_of_slot? hslot hmortal).1
    rw [Option.isSome_map]
    exact (slot?_eq_some_iff.mp hslot).2.2

/-- With the last reference the slot is vacated, listed and taken off the count. -/
theorem decref (h : Balanced arena) (htidy : Tidy arena steps) (hsteps : steps < 2 ^ 31)
    (ref : Ref) : Balanced (arena.decref ref).result := by
  rcases fixed_or_mortal arena ref with hfixed | ⟨slot, hslot, hmortal⟩
  · rwa [result_decref_of_fixed hfixed]
  obtain ⟨hcount, hlive⟩ := h.pos_of_slot? hslot hmortal
  by_cases hlast : slot.refcount = 1
  · have hle := htidy.generation_le _ slot (slot?_eq_some_iff.mp hslot).1
    have hgeneration : (slot.generation + 1) % generations = slot.generation + 1 :=
      Nat.mod_eq_of_lt (by unfold generations twoPow; omega)
    rw [result_decref_of_last hslot hmortal hlast, hgeneration]
    refine h.of_changed (changed_of_vacated hslot hmortal) (iff_of_false nofun (Nat.lt_irrefl 0))
      (fun _ => List.mem_cons_self) ?_
    show arena.live - 1 + 1 = _
    rw [Nat.sub_add_cancel hlive, if_neg (by simp [Slot.occupied]), Nat.add_zero]
  · rw [result_decref_of_shared hslot hmortal hlast]
    refine h.of_set hslot hmortal hmortal rfl (slot?_eq_some_iff.mp hslot).2.2 ?_
    show 0 < slot.refcount - 1
    omega

/-- One call keeps the books balanced. -/
theorem step (h : Balanced arena) (htidy : Tidy arena steps) (hsteps : steps < 2 ^ 31)
    (op : Operation) : Balanced (op.apply arena).2 := by
  by_cases hdecref : ∃ ref, op = .decref ref
  · obtain ⟨ref, rfl⟩ := hdecref
    exact h.decref htidy hsteps ref
  by_cases hlimit : ∃ limit, op = .setLimit limit
  · obtain ⟨limit, rfl⟩ := hlimit
    exact h.of_sameSlots ⟨rfl, rfl⟩ rfl
  have hlive := (enters_apply arena (not_exists.mp hlimit) (not_exists.mp hdecref)).2
  rcases apply_cases arena op with (hplaces | hidles) | ⟨ref, rfl⟩ | ⟨ref, rfl⟩ |
    ⟨ref, pos, patch, rfl⟩
  · obtain ⟨object, -, -, happly⟩ := hplaces
    rw [happly]
    exact h.place htidy object
  · obtain ⟨hnone, -, hsame⟩ := hidles
    rw [hnone] at hlive
    exact h.of_sameSlots hsame hlive
  · exact h.incref ref
  · exact absurd ⟨ref, rfl⟩ hdecref
  · exact h.overwriteArray htidy ref pos patch

end Balanced

theorem Chronicle.balanced_run (ops : List Operation) (hops : ops.length < 2 ^ 31) :
    Balanced (run ops).arena := by
  induction ops using List.reverseRecOn with
  | nil => exact balanced_empty
  | append_singleton ops op ih =>
    rw [List.length_append, List.length_singleton] at hops
    rw [run_concat]
    have hshorter : ops.length < 2 ^ 31 := by omega
    exact (ih hshorter).step (tracks_run ops hshorter).tidy hshorter op

/-! ## Calls and the limit -/

/-- The calls that make an object whatever the limit. -/
def Operation.Exempt : Operation → Prop
  | int _ | float _ | complex _ | str _ | array .. | arrayFromParts .. => True
  | _ => False

/-- The calls that make an object within the limit, with arguments that suit: the bytes of a new
array are those of as many elements as its shape has. -/
def Operation.Rationed : Operation → Prop
  | newInt _ | newFloat _ | newComplex _ => True
  | newArray shape typeCode bytes =>
    ∃ kind count, Kind.ofTypeCode? typeCode = some kind ∧ shape.count? = some count ∧
      bytes.length = count * kind.width ∧ bytes.length < Word.modulus
  | _ => False

/-- The limit makes no difference to an exempt call, and the call makes none to the limit. -/
theorem apply_setLimit_of_exempt (arena : Arena) (hexempt : op.Exempt) (limit : Option Nat) :
    op.apply (arena.setLimit limit) =
      ((op.apply arena).1, (op.apply arena).2.setLimit limit) := by
  have halloc (object : Object) :
      ((arena.setLimit limit).alloc object).map some id =
        (((arena.alloc object).map some id).1,
          ((arena.alloc object).map some id).2.setLimit limit) := by
    rw [alloc_eq_place, alloc_eq_place, place_setLimit]
    rfl
  cases op with
  | int value => exact halloc _
  | float value => exact halloc _
  | complex value => exact halloc _
  | str value => exact halloc _
  | array kind shape values order => exact halloc _
  | arrayFromParts kind shape strides offset bytes =>
    simp only [Operation.apply, arrayFromParts]
    split
    · exact halloc _
    · rfl
  | _ => cases hexempt

theorem isFull_iff : arena.isFull = true ↔ ∃ n, arena.limit = some n ∧ n ≤ arena.live := by
  simp [isFull, Option.any_eq_true]

/-- An insertion is refused when the limit is reached, and then it raises an exception only. -/
theorem insert_eq_none (arena : Arena) (object : Object) :
    ((arena.insert object).1 = none ↔ ∃ n, arena.limit = some n ∧ n ≤ arena.live) ∧
      ((arena.insert object).1 = none →
        (arena.insert object).2 = arena.raise .memoryError "object limit reached") := by
  rw [← isFull_iff]
  unfold insert
  split
  · exact ⟨iff_of_true rfl ‹_›, fun _ => rfl⟩
  · exact ⟨iff_of_false nofun ‹_›, nofun⟩

/-- A rationed call whose arguments suit comes down to an insertion. -/
theorem apply_of_rationed (arena : Arena) (hrationed : op.Rationed) :
    ∃ object, op.apply arena = arena.insert object := by
  cases op with
  | newInt value => exact ⟨_, rfl⟩
  | newFloat value => exact ⟨_, rfl⟩
  | newComplex value => exact ⟨_, rfl⟩
  | newArray shape typeCode bytes =>
    obtain ⟨kind, count, hkind, hcount, hbytes, hword⟩ := hrationed
    have hsize : (shape.count?.bind (Word.mul? · kind.width)) = some bytes.length := by
      rw [hcount, Option.bind_some, Word.mul?, if_pos (hbytes ▸ hword), hbytes]
    refine ⟨.array (HostArray.ofBytes kind shape (shape.denseStrides kind.width .rowMajor) 0 bytes),
      ?_⟩
    show arena.newArray shape typeCode bytes = _
    simp only [newArray, hkind, if_pos hsize]
  | _ => cases hrationed

/-- The books of an arena agree in every state, and the limit is obeyed by the calls that it applies
to and by no others. -/
theorem Chronicle.books_agree (ops : List Operation) (hops : ops.length < 2 ^ 31) :
    -- The free slots are listed once, and they are those that hold nothing.
    ((run ops).arena.free.Nodup ∧
      ∀ i, i ∈ (run ops).arena.free ↔
        ∃ slot : Slot, (run ops).arena.slots[i]? = some slot ∧ slot.value = none) ∧
    -- An object that can be freed is there as long as references to it are counted.
    (∀ slot ∈ (run ops).arena.slots, slot.immortal = false →
      (slot.value.isSome = true ↔ 0 < slot.refcount)) ∧
    -- The live objects are those, so a call that frees one finds their number above zero.
    ((run ops).arena.live =
        (run ops).arena.slots.countP (fun slot => !slot.immortal && slot.value.isSome) ∧
      ∀ ref slot, (run ops).arena.slot? ref = some slot → slot.immortal = false →
        0 < (run ops).arena.live) ∧
    -- The permanent objects are where they were put first.
    ((run ops).arena.slots[0]? = some ⟨0, 1, true, some (.bool true)⟩ ∧
      (run ops).arena.slots[1]? = some ⟨0, 1, true, some (.bool false)⟩ ∧
      (run ops).arena.slots[2]? = some ⟨0, 1, true, some .none⟩ ∧
      0 ∉ (run ops).arena.free ∧ 1 ∉ (run ops).arena.free ∧ 2 ∉ (run ops).arena.free) ∧
    -- Exempt calls leave the limit as they find it and do the same under any other.
    (∀ op : Operation, op.Exempt →
      (op.apply (run ops).arena).2.limit = (run ops).arena.limit ∧
      ∀ limit, op.apply ((run ops).arena.setLimit limit) =
        ((op.apply (run ops).arena).1, (op.apply (run ops).arena).2.setLimit limit)) ∧
    -- Rationed calls fail when the limit is reached, and then nothing but the exception changes.
    ∀ op : Operation, op.Rationed →
      ((op.apply (run ops).arena).1 = none ↔
        ∃ n, (run ops).arena.limit = some n ∧ n ≤ (run ops).arena.live) ∧
      ((op.apply (run ops).arena).1 = none →
        (op.apply (run ops).arena).2 =
          { (run ops).arena with error := some ⟨.memoryError, "object limit reached"⟩ }) := by
  have htidy := (tracks_run ops hops).tidy
  have hbalanced := balanced_run ops hops
  have hlisted (i : Nat) (hi : i < permanent) : i ∉ (run ops).arena.free :=
    fun hmem => absurd hi (Nat.not_lt.mpr (htidy.free_vacant i hmem).1)
  refine ⟨⟨htidy.free_nodup, fun i => ⟨fun hmem => (htidy.free_vacant i hmem).2, ?_⟩⟩, ?_,
    ⟨hbalanced.live_eq, fun ref slot hslot hmortal => (hbalanced.pos_of_slot? hslot hmortal).2⟩,
    ⟨htidy.permanent_eq 0 (by decide), htidy.permanent_eq 1 (by decide),
      htidy.permanent_eq 2 (by decide), hlisted 0 (by decide), hlisted 1 (by decide),
      hlisted 2 (by decide)⟩, ?_, ?_⟩
  · rintro ⟨slot, hslot, hvacant⟩
    exact hbalanced.listed i slot hslot hvacant
  · intro slot hmem hmortal
    obtain ⟨i, hslot⟩ := List.mem_iff_getElem?.mp hmem
    exact hbalanced.counted i slot hslot hmortal
  · intro op hexempt
    refine ⟨?_, apply_setLimit_of_exempt _ hexempt⟩
    refine (enters_apply _ ?_ ?_).1
    · rintro limit rfl
      exact hexempt
    · rintro ref rfl
      exact hexempt
  · intro op hrationed
    obtain ⟨object, happly⟩ := apply_of_rationed (run ops).arena hrationed
    rw [happly]
    exact insert_eq_none _ object

/-- A limit of one object: the second rationed call is refused, an exempt one is not, and the first
object is freed at the end. -/
def overdrawn : List Operation :=
  [.setLimit (some 1), .newInt 5, .newInt 6, .str "exempt", .decref ⟨3, 0⟩]

/-- The object that is left still takes up the whole limit. -/
theorem books_agree_of_overdrawn :
    (Chronicle.run overdrawn).arena.free = [3] ∧ (Chronicle.run overdrawn).arena.live = 1 ∧
      (Operation.newInt 7).Rationed ∧
      ((Operation.newInt 7).apply (Chronicle.run overdrawn).arena).1 = none := by
  obtain ⟨-, -, -, -, -, hrationed⟩ := Chronicle.books_agree overdrawn (by decide)
  exact ⟨by decide, by decide, trivial, (hrationed (.newInt 7) trivial).1.mpr ⟨1, by decide⟩⟩

end Arena

end HostBridge
