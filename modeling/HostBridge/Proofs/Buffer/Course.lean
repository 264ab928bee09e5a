import HostBridge.Proofs.Buffer.Capacity
import Mathlib.Order.Bounds.Basic

/-!
# The course of a capacity

The capacity of a buffer depends on the capacity before a call and on the length that the call
reaches, and on nothing else: it is the old one, doubled as few times as leave a spare slot. All
calls follow this one law, also those that cannot grow a buffer, since the length they reach fits
the capacity that is there. A capacity that grew is at most twice the length that made it grow, so
over the whole life of a buffer no block is larger than the first one and twice the largest length.

## Main definitions

* `Buffer.Turn`: the calls that change a buffer;
* `Buffer.Settles`: whatever buffer a call yields has the capacity that its length asks for;
* `Buffer.Course`: the life of a buffer, with the capacity it was made with and all its lengths.

## Main results

* `Buffer.isLeast_grownCapacity`: growing doubles as few times as it can;
* `Buffer.Turn.settles`: the law for one call;
* `Buffer.Course.capacity_law`: the law over the life of a buffer.
-/

namespace HostBridge.Buffer

/-! ## Doubling as few times as possible -/

theorem isLeast_doubled (capacity needed : Nat) (positive : 0 < capacity) :
    ∃ times, IsLeast {times | needed < capacity * 2 ^ times} times ∧
      doubled capacity needed positive = capacity * 2 ^ times := by
  fun_induction doubled capacity needed positive with
  | case1 capacity positive hle ih =>
    obtain ⟨times, ⟨hlt, hleast⟩, heq⟩ := ih
    have hshift (times : Nat) : capacity * 2 ^ (times + 1) = 2 * capacity * 2 ^ times := by
      rw [Nat.pow_succ, Nat.mul_comm 2 capacity, Nat.mul_assoc, Nat.mul_comm 2]
    refine ⟨times + 1, ⟨?_, ?_⟩, heq.trans (hshift times).symm⟩
    · rwa [Set.mem_ofPred_eq, hshift]
    · intro other hother
      -- not doubling at all is not enough, so the other number of times is a successor
      rcases other with _ | other
      · rw [Set.mem_ofPred_eq, Nat.pow_zero, Nat.mul_one] at hother
        omega
      · rw [Set.mem_ofPred_eq, hshift] at hother
        exact Nat.succ_le_succ (hleast hother)
  | case2 capacity positive hgt =>
    exact ⟨0, ⟨by simpa using hgt, fun _ _ => Nat.zero_le _⟩, by simp⟩

/-- Growing doubles a capacity as few times as make it exceed what is needed. -/
theorem isLeast_grownCapacity {current : Nat} (hpos : 0 < current) (needed : Nat) :
    ∃ times, IsLeast {times | needed < current * 2 ^ times} times ∧
      grownCapacity current needed = current * 2 ^ times := by
  have hmax : max current 1 = current := max_eq_left hpos
  simpa only [grownCapacity, hmax] using isLeast_doubled current needed hpos

theorem grownCapacity_of_lt {current needed : Nat} (h : needed < current) :
    grownCapacity current needed = current := by
  obtain ⟨times, ⟨-, hleast⟩, heq⟩ := isLeast_grownCapacity (Nat.zero_lt_of_lt h) needed
  have htimes : times = 0 := Nat.le_zero.mp (hleast (by simpa using h))
  rw [heq, htimes, Nat.pow_zero, Nat.mul_one]

theorem grownCapacity_ne_iff {current needed : Nat} :
    grownCapacity current needed ≠ current ↔ current ≤ needed := by
  refine ⟨fun hne => Nat.le_of_not_lt fun hlt => hne (grownCapacity_of_lt hlt), fun hle => ?_⟩
  have hlt := lt_grownCapacity current needed
  omega

/-- The capacity before the last doubling did not exceed what was needed. -/
theorem grownCapacity_le_of_le {current needed : Nat} (hpos : 0 < current) (h : current ≤ needed) :
    grownCapacity current needed ≤ 2 * needed := by
  obtain ⟨times, ⟨hlt, hleast⟩, heq⟩ := isLeast_grownCapacity hpos needed
  rcases times with _ | times
  · rw [Set.mem_ofPred_eq, Nat.pow_zero, Nat.mul_one] at hlt
    omega
  · have hbefore : current * 2 ^ times ≤ needed := by
      by_contra hlt
      have := hleast (Nat.lt_of_not_le hlt)
      omega
    rw [heq, Nat.pow_succ, ← Nat.mul_assoc]
    omega

theorem le_grownCapacity {current : Nat} (hpos : 0 < current) (needed : Nat) :
    current ≤ grownCapacity current needed := by
  obtain ⟨times, heq⟩ := doubles_grownCapacity hpos needed
  rw [heq]
  exact Nat.le_mul_of_pos_right current (Nat.two_pow_pos times)

/-! ## One call -/

/-- A call that changes a buffer: an operation, or the appending of the buffer to itself. -/
inductive Turn [Allocator] : Edit Unit → Prop
  | operation (op : Operation) : Turn op.edit
  | appendCopy : Turn Edit.appendCopy

/-- A call that fails leaves the buffer as it was. -/
theorem Turn.atomic [Allocator] {edit : Edit Unit} (h : Turn edit) : edit.Atomic := by
  rcases h with op | _
  · exact op.atomic_edit
  · exact Edit.atomic_appendCopy

/-- Whatever buffer a call yields, its capacity is the one given, grown for the length it has. -/
def Settles (capacity : Nat) (run : Attempt Buffer) : Prop :=
  ∀ next, run.run.result = .ok next → next.capacity = grownCapacity capacity next.length

section Settles

variable {α : Type} {capacity : Nat}

/-- A buffer in place that keeps its spare slot. -/
theorem settles_pure {buffer : Buffer} (hcapacity : buffer.capacity = capacity)
    (hspare : buffer.length < capacity) : Settles capacity (pure buffer) := by
  intro next hnext
  rw [← Except.ok.inj hnext, grownCapacity_of_lt hspare, hcapacity]

theorem settles_bind {run : Attempt α} {next : α → Attempt Buffer}
    (h : ∀ a, run.run.result = .ok a → Settles capacity (next a)) :
    Settles capacity (run >>= next) := by
  intro buffer hbuffer
  obtain ⟨a, ha, hnext⟩ := Attempt.result_bind_eq_ok.mp hbuffer
  exact h a ha buffer hnext

theorem settles_check {condition : Prop} [Decidable condition] {fault : Fault}
    {run : Attempt Buffer} (h : Settles capacity run) :
    Settles capacity (if condition then throw fault else run) := by
  split
  · exact nofun
  · exact h

end Settles

section Room

variable [Allocator] {buffer : Buffer}

/-- Room is made by growing the capacity for what is needed, if there is any need. -/
theorem capacity_of_reserve {needed : Nat} {roomy : Buffer}
    (h : (buffer.reserve needed).run.result = .ok roomy) :
    roomy.capacity = grownCapacity buffer.capacity needed := by
  by_cases hroom : needed < buffer.capacity
  · rw [(reserve_of_lt hroom).1] at h
    rw [← Except.ok.inj h, grownCapacity_of_lt hroom]
  · rw [reserve_eq, if_neg hroom] at h
    obtain ⟨fresh, hfresh, hmoved⟩ := Attempt.result_bind_eq_ok.mp h
    rw [← Except.ok.inj hmoved, eq_vacant_of_withCapacity hfresh]
    exact max_grownCapacity _ _

theorem settles_extend (bytes : Bytes) : Settles buffer.capacity (buffer.extend bytes) := by
  rw [extend_eq]
  refine settles_bind fun _ _ => settles_bind fun roomy hroomy next hnext => ?_
  have hcapacity := capacity_of_reserve hroomy
  rw [← Except.ok.inj hnext]
  exact hcapacity

theorem settles_append (other : Buffer) : Settles buffer.capacity (buffer.append other) := by
  rw [append_eq]
  exact settles_check (settles_extend other.bytes)

theorem settles_push (kind : Kind) (value : Value kind) :
    Settles buffer.capacity (buffer.push kind value) := by
  rw [push_eq]
  exact settles_check (settles_extend _)

theorem settles_insert (index : Nat) (element : Bytes) :
    Settles buffer.capacity (buffer.insert index element) := by
  rw [insert_eq]
  refine settles_bind fun _ _ => settles_check (settles_bind fun roomy hroomy next hnext => ?_)
  have hcapacity := capacity_of_reserve hroomy
  rw [← Except.ok.inj hnext]
  exact hcapacity

/-- The fresh block of a copy has the same capacity, so the copy follows the law as any extension
does. -/
theorem settles_copy (hpos : 0 < buffer.capacity) : Settles buffer.capacity buffer.copy := by
  refine settles_bind fun fresh hfresh => ?_
  have hcapacity : fresh.capacity = buffer.capacity := by
    rw [eq_vacant_of_withCapacity hfresh]
    exact max_eq_left hpos
  exact hcapacity ▸ settles_extend buffer.bytes

/-- The capacity of the copy that is appended plays no part. -/
theorem settles_appendCopy : Settles buffer.capacity buffer.appendCopy := by
  rw [appendCopy_eq]
  exact settles_bind fun copied _ next hnext => settles_append copied next hnext

end Room

theorem length_of_removeAt {buffer next : Buffer} {index : Nat}
    (h : buffer.removeAt index = .ok next) : next.length ≤ buffer.length := by
  rw [removeAt_eq] at h
  split at h
  · cases h
  · rw [← Except.ok.inj h]
    exact Nat.sub_le buffer.length 1

/-- The law for one call on a buffer that has a spare slot. -/
theorem Turn.settles [Allocator] {buffer : Buffer} {edit : Edit Unit} (h : Turn edit)
    (hspare : buffer.length < buffer.capacity) :
    Settles buffer.capacity (edit.made buffer) := by
  have hpos : 0 < buffer.capacity := Nat.zero_lt_of_lt hspare
  have hkeeps (next : Buffer) (hcapacity : next.capacity = buffer.capacity)
      (hlength : next.length ≤ buffer.length) :
      next.capacity = grownCapacity buffer.capacity next.length := by
    rw [grownCapacity_of_lt (hlength.trans_lt hspare), hcapacity]
  rcases h with op | _
  · rw [op.made_edit]
    cases op with
    | append other => exact settles_append other
    | extend bytes => exact settles_extend bytes
    | push kind value => exact settles_push kind value
    | insert index element => exact settles_insert index element
    | copy => exact settles_copy hpos
    | removeAt index =>
      intro next hnext
      rw [Operation.run, Attempt.result_liftExcept] at hnext
      exact hkeeps next (capacity_of_removeAt hnext) (length_of_removeAt hnext)
    | removeValue element =>
      intro next hnext
      rw [Operation.run, Attempt.result_liftExcept] at hnext
      obtain ⟨removal, hremoval, rfl⟩ := Fault.map_eq_ok hnext
      refine hkeeps removal.2 (capacity_of_removeValue hremoval) ?_
      rcases removal_of_removeValue hremoval with hsame | ⟨index, hremove⟩
      · rw [hsame]
      · exact length_of_removeAt hremove
    | reverse => exact settles_pure rfl hspare
    | clear => exact settles_pure rfl hpos
    | write index element =>
      have hwritten : ((buffer.set? index element).getD buffer).capacity = buffer.capacity ∧
          ((buffer.set? index element).getD buffer).length = buffer.length := by
        unfold set?
        split <;> exact ⟨rfl, rfl⟩
      exact settles_pure hwritten.1 (hwritten.2 ▸ hspare)
  · exact settles_appendCopy

/-! ## The life of a buffer -/

/-- The life of a buffer that was made with capacity `start`, with all lengths that it has had, the
latest first. Each call may meet another allocator, and may fail. -/
inductive Course (start : Nat) : List Nat → Buffer → Prop
  | empty [Allocator] {kind : Kind} {capacity : Nat} {buffer : Buffer}
      (hmade : (withCapacity kind capacity).run.result = .ok buffer)
      (hstart : buffer.capacity = start) : Course start [buffer.length] buffer
  | create [Allocator] {defaultCapacity : Nat} {kind : Kind} {bytes : Bytes} {buffer : Buffer}
      (hmade : (create defaultCapacity kind bytes).run.result = .ok buffer)
      (hstart : buffer.capacity = start) : Course start [buffer.length] buffer
  | ofValues [Allocator] {defaultCapacity : Nat} {kind : Kind} {values : List (Value kind)}
      {buffer : Buffer} (hmade : (ofValues defaultCapacity kind values).run.result = .ok buffer)
      (hstart : buffer.capacity = start) : Course start [buffer.length] buffer
  | turn [Allocator] {lengths : List Nat} {buffer : Buffer} {edit : Edit Unit}
      (before : Course start lengths buffer) (hedit : Turn edit) :
      Course start ((edit.left buffer).length :: lengths) (edit.left buffer)

/-- What holds at every point of the life of a buffer. -/
structure Course.Lawful (start : Nat) (lengths : List Nat) (buffer : Buffer) : Prop where
  spare : buffer.length < buffer.capacity
  doubles : Doubles start buffer.capacity
  bounded : ∃ length ∈ lengths, buffer.capacity ≤ max start (2 * length)

namespace Course

variable {start : Nat} {lengths : List Nat} {buffer : Buffer}

theorem Lawful.made (hspare : buffer.length < buffer.capacity) (hstart : buffer.capacity = start) :
    Lawful start [buffer.length] buffer where
  spare := hspare
  doubles := hstart ▸ Doubles.refl _
  bounded := ⟨buffer.length, List.mem_singleton_self _, hstart ▸ le_max_left _ _⟩

/-- A call that fails changes nothing, and one that succeeds grows the buffer for its new length. -/
theorem Lawful.step [Allocator] {edit : Edit Unit} (h : Lawful start lengths buffer)
    (hedit : Turn edit) :
    Lawful start ((edit.left buffer).length :: lengths) (edit.left buffer) := by
  obtain ⟨longest, hmem, hbound⟩ := h.bounded
  have hpos : 0 < buffer.capacity := Nat.zero_lt_of_lt h.spare
  rcases hresult : (edit.made buffer).run.result with fault | next
  · rw [hedit.atomic.left_of_made hresult]
    exact ⟨h.spare, h.doubles, longest, List.mem_cons_of_mem _ hmem, hbound⟩
  · rw [Edit.left_of_made hresult]
    have hcapacity := hedit.settles h.spare next hresult
    refine ⟨hcapacity ▸ lt_grownCapacity _ _, ?_, ?_⟩
    · exact h.doubles.trans (hcapacity ▸ doubles_grownCapacity hpos _)
    · by_cases hroom : next.length < buffer.capacity
      -- nothing has grown, and the length that the capacity is bounded by is still a length
      · rw [hcapacity, grownCapacity_of_lt hroom]
        exact ⟨longest, List.mem_cons_of_mem _ hmem, hbound⟩
      -- the new length made the buffer grow, so it bounds the capacity
      · have hgrown := grownCapacity_le_of_le hpos (Nat.le_of_not_lt hroom)
        exact ⟨next.length, List.mem_cons_self, hcapacity ▸ hgrown.trans (le_max_right _ _)⟩

theorem lawful (h : Course start lengths buffer) : Lawful start lengths buffer := by
  induction h with
  | empty hmade hstart =>
    refine Lawful.made ?_ hstart
    rw [eq_vacant_of_withCapacity hmade]
    exact lt_max_of_lt_right Nat.zero_lt_one
  | create hmade hstart =>
    exact Lawful.made (Reachable.create hmade).sound.spare hstart
  | ofValues hmade hstart =>
    exact Lawful.made (Reachable.ofValues hmade).sound.spare hstart
  | turn before hedit ih => exact ih.step hedit

/-- Over the life of a buffer its capacity follows from the lengths it reaches. -/
theorem capacity_law (h : Course start lengths buffer) :
    -- The capacity is the first one, doubled some number of times, and has not outgrown the largest
    -- length.
    (∃ times, buffer.capacity = start * 2 ^ times) ∧
    (∃ longest, lengths.max? = some longest ∧ buffer.capacity ≤ max start (2 * longest)) ∧
    ∀ [Allocator] (edit : Edit Unit), Turn edit →
      -- A call never makes it smaller, and changes it when it succeeds and uses up the spare slot.
      buffer.capacity ≤ (edit.left buffer).capacity ∧
      ((edit.left buffer).capacity ≠ buffer.capacity ↔
        ∃ next, (edit.made buffer).run.result = .ok next ∧ buffer.capacity ≤ next.length) ∧
      -- It is then doubled as few times as make it exceed the new length.
      ∀ next, (edit.made buffer).run.result = .ok next →
        ∃ times, IsLeast {times | next.length < buffer.capacity * 2 ^ times} times ∧
          next.capacity = buffer.capacity * 2 ^ times := by
  have hlawful := h.lawful
  have hpos : 0 < buffer.capacity := Nat.zero_lt_of_lt hlawful.spare
  refine ⟨hlawful.doubles, ?_, ?_⟩
  · obtain ⟨length, hmem, hbound⟩ := hlawful.bounded
    obtain ⟨longest, hlongest⟩ := Option.isSome_iff_exists.mp
      (List.isSome_max?_of_mem hmem)
    have hle : length ≤ longest := (List.max?_eq_some_iff.mp hlongest).2 length hmem
    exact ⟨longest, hlongest, by omega⟩
  · intro _ edit hedit
    have hsettles := hedit.settles hlawful.spare
    rcases hresult : (edit.made buffer).run.result with fault | next
    · rw [hedit.atomic.left_of_made hresult]
      exact ⟨le_rfl, by simp, by simp⟩
    · have hcapacity := hsettles next hresult
      have hleast := isLeast_grownCapacity hpos next.length
      rw [Edit.left_of_made hresult, hcapacity]
      refine ⟨le_grownCapacity hpos _, ?_, ?_⟩
      · simpa only [Except.ok.injEq, exists_eq_left'] using grownCapacity_ne_iff
      · rintro _ ⟨rfl⟩
        rwa [hcapacity]

/-- Three bytes take four slots. Five more take sixteen, and giving all of them up keeps these; so
does an insertion that is refused. -/
theorem of_clearing :
    Course 4 [0, 0, 8, 3]
      { kind := .int8, length := 0, capacity := 16, block := Bytes.zeros 16 } := by
  have hcreated := @Course.create 4 (Allocator.bounded 64) 2 .int8 [1, 2, 3]
    { kind := .int8, length := 3, capacity := 4, block := [1, 2, 3, 0] } (by decide +kernel) rfl
  have hextended := @Course.turn _ (Allocator.bounded 64) _ _ _ hcreated
    (@Turn.operation (Allocator.bounded 64) (.extend [4, 5, 6, 7, 8]))
  have hcleared := @Course.turn _ (Allocator.bounded 64) _ _ _ hextended
    (@Turn.operation (Allocator.bounded 64) .clear)
  have hrefused := @Course.turn _ (Allocator.bounded 64) _ _ _ hcleared
    (@Turn.operation (Allocator.bounded 64) (.insert 1 [9]))
  convert hrefused using 1
  all_goals decide +kernel

/-- Sixteen slots are twice the largest length. Sixteen elements that are appended then use up the
spare slot, and double the capacity once more. -/
theorem capacity_law_of_clearing :
    ∃ buffer : Buffer, Course 4 [0, 0, 8, 3] buffer ∧
      (∃ longest, [0, 0, 8, 3].max? = some longest ∧ buffer.capacity ≤ max 4 (2 * longest)) ∧
      ((@Edit.extend (Allocator.bounded 64) (Bytes.zeros 16)).left buffer).capacity ≠
        buffer.capacity := by
  obtain ⟨-, hbound, hcalls⟩ := of_clearing.capacity_law
  refine ⟨_, of_clearing, hbound, ?_⟩
  have hextend := @hcalls (Allocator.bounded 64) _
    (@Turn.operation (Allocator.bounded 64) (.extend (Bytes.zeros 16)))
  exact hextend.2.1.mpr
    ⟨{ kind := .int8, length := 16, capacity := 32, block := Bytes.zeros 32 }, by decide +kernel,
      le_rfl⟩

end Course

end HostBridge.Buffer
