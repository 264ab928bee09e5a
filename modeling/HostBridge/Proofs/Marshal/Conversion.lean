import HostBridge.Proofs.Marshal.RoundTrip
import HostBridge.Proofs.Marshal.Scalar

/-!
# What conversions do to the host

Conversions share one host with its callers, and the primitives that they call leave exceptions
pending in it. This module says what becomes of the host, for every conversion and however it ends.
A conversion that reads leaves all objects alone. One that makes an object makes just that object,
which is gone again when its reference is given back; or the limit is reached, and nothing but an
exception is left.

## Main definitions

* `Conversion`, `Conversion.perform`: the conversions with their arguments, as one type;
* `Conversion.object?`: the object that a conversion makes;
* `Conversion.Effect`: what a conversion may do to the host.

## Main results

* `Marshal.Silent`: conversions that leave the host as it is, step by step;
* `Marshal.Makes`: conversions that make an object;
* `Conversion.effect_perform`: the effect of every conversion.
-/

namespace HostBridge

namespace Marshal

variable {α β : Type}

/-! ## Conversions that leave the host as it is -/

/-- A conversion that leaves the host as it is, however it ends. -/
def Silent (run : Marshal Arena α) : Prop :=
  ∀ exchange, (outcome run exchange).2.host = exchange.host

theorem silent_pure (a : α) : Silent (pure a) := fun _ => rfl

theorem silent_emit (event : Event) : Silent (emit event) := fun _ => rfl

theorem silent_count (change : Stats → Stats) : Silent (count change) := fun _ => rfl

theorem silent_ask (question : Arena → α) : Silent (ask question) := fun _ => rfl

theorem silent_fail (target : String) (fault : Fault) :
    Silent (fail target fault : Marshal Arena α) :=
  fun _ => rfl

theorem silent_lift (run : Traced α) :
    Silent (ExceptT.lift (StateT.lift run) : Marshal Arena α) := fun _ => rfl

theorem silent_liftExcept (x : Except Fault α) : Silent (liftExcept x : Marshal Arena α) := by
  intro exchange
  rw [outcome_liftExcept]

theorem silent_attempt (run : Attempt α) : Silent (attempt run) := fun _ => rfl

theorem silent_defaultCapacity : Silent defaultCapacity := fun _ => rfl

namespace Silent

protected theorem bind {x : Marshal Arena α} {f : α → Marshal Arena β} (hx : Silent x)
    (hf : ∀ a, Silent (f a)) : Silent (x >>= f) := by
  intro exchange
  have hfirst := hx exchange
  rw [outcome_bind]
  rcases hrun : outcome x exchange with ⟨fault | a, after⟩
  · rwa [hrun] at hfirst
  · rw [hrun] at hfirst
    exact (hf a after).trans hfirst

protected theorem timed (operation : String) {run : Marshal Arena α} (h : Silent run) :
    Silent (timed operation run) := h

protected theorem named (argument : String) {run : Marshal Arena α} (h : Silent run) :
    Silent (named argument run) := by
  intro exchange
  rw [outcome_named]
  exact h exchange

end Silent

/-- After a failure nothing happens. -/
theorem silent_fail_bind (target : String) (fault : Fault) (f : α → Marshal Arena β) :
    Silent (fail target fault >>= f) := by
  intro exchange
  rw [outcome_bind, outcome_fail]

theorem silent_toBool (ref : Ref) : Silent (toBool ref) := by
  have hfound (value : Bool) : Silent (do
      countConversion
      emit (.converted "bool" "bool")
      return value) :=
    (silent_count _).bind fun _ => (silent_emit _).bind fun _ => silent_pure value
  refine (silent_ask _).bind fun host => ?_
  split
  · exact hfound true
  split
  · exact hfound false
  · exact silent_fail _ _

theorem silent_arrayInfo (ref : Ref) : Silent (arrayInfo ref) := by
  refine (silent_ask _).bind fun host => ?_
  cases Host.arrayInfo host ref with
  | some info => exact silent_pure info
  | none => exact silent_fail _ _

theorem silent_infoKind (info : ArrayInfo) : Silent (infoKind info) := by
  unfold infoKind
  split
  · exact silent_pure _
  · exact silent_fail _ _

theorem silent_viewOfInfo (info : ArrayInfo) : Silent (viewOfInfo info) := by
  refine (silent_infoKind info).bind fun kind => (silent_lift _).bind fun found => ?_
  cases found with
  | error fault => exact silent_fail _ _
  | ok view => exact (silent_count _).bind fun _ => (silent_emit _).bind fun _ => silent_pure view

theorem silent_toDescriptor (ref : Ref) : Silent (toDescriptor ref) :=
  (silent_arrayInfo ref).bind silent_viewOfInfo

theorem silent_extract (ref : Ref) (argument : String) (rank : Nat) (kind : Kind) :
    Silent (extract ref argument rank kind) := by
  refine ((silent_arrayInfo ref).named argument).bind fun info => ?_
  split
  · exact silent_fail_bind _ _ _
  dsimp only
  split
  · exact silent_fail_bind _ _ _
  · exact (silent_viewOfInfo info).named argument

theorem silent_toBuffer [Allocator] (regions : Regions) (ref : Ref) :
    Silent (toBuffer regions ref) := by
  refine (silent_arrayInfo ref).bind fun info => ?_
  split
  · exact silent_fail_bind _ _ _
  refine .timed _ ((silent_viewOfInfo info).bind fun view => ?_)
  refine (silent_liftExcept _).bind fun elements => silent_defaultCapacity.bind fun capacity => ?_
  exact (silent_attempt _).bind fun buffer => (silent_count _).bind fun _ => silent_pure buffer

/-! ## Conversions that make an object -/

/-- A conversion that makes an object: it is placed, or the limit leaves no room and an exception is
pending. -/
structure Makes (object : Object) (run : Marshal Arena Ref) : Prop where
  /-- With room left, the object is placed. -/
  placed : ∀ exchange, exchange.host.isFull = false →
    (outcome run exchange).1 = .ok (exchange.host.place object).1 ∧
      (outcome run exchange).2.host = (exchange.host.place object).2
  /-- Otherwise nothing is placed. -/
  refused : ∀ exchange, exchange.host.isFull = true →
    (∃ fault, (outcome run exchange).1 = .error fault ∧ fault.category = .allocation) ∧
      (outcome run exchange).2.host = exchange.host.raise .memoryError "object limit reached"

theorem makes_created {object : Object} {make : Arena → Option Ref × Arena}
    (hmake : ∀ arena, make arena = arena.insert object) (entity : String) (bytes : Nat) :
    Makes object (created entity bytes make) where
  placed := by
    intro exchange hroom
    rw [created, outcome_bind, outcome_primitive, hmake, Arena.insert, if_neg (by simp [hroom])]
    exact ⟨rfl, rfl⟩
  refused := by
    intro exchange hfull
    rw [created, outcome_bind, outcome_primitive, hmake, Arena.insert, if_pos hfull]
    exact ⟨⟨_, rfl, rfl⟩, rfl⟩

theorem makes_newArray {shape : Shape} {kind : Kind} {bytes : Bytes}
    (hsize : (shape.count?.bind (Word.mul? · kind.width)) = some bytes.length) :
    Makes (.array (.rowMajor kind shape bytes)) (newArray shape kind bytes) := by
  constructor
  · intro exchange hroom
    rcases outcome_newArray hsize exchange with ⟨hfull, -⟩ | ⟨-, after, hhost, hmade⟩
    · rw [hroom] at hfull
      cases hfull
    · rw [hmade]
      exact ⟨rfl, hhost⟩
  · intro exchange hfull
    rcases outcome_newArray hsize exchange with ⟨-, hfault, hhost⟩ | ⟨hroom, -⟩
    · exact ⟨⟨_, hfault, rfl⟩, hhost⟩
    · rw [hfull] at hroom
      cases hroom

protected theorem Makes.timed {object : Object} {run : Marshal Arena Ref} (h : Makes object run)
    (operation : String) : Makes object (timed operation run) := ⟨h.placed, h.refused⟩

end Marshal

/-- The object that a value of a numeric kind becomes. Truth values are there already. -/
def Value.object? : (kind : Kind) → Value kind → Option Object
  | .bool, _ => none
  | .int8, (value : Int8) => some (.int value.toInt)
  | .int16, (value : Int16) => some (.int value.toInt)
  | .int32, (value : Int32) => some (.int value.toInt)
  | .int64, (value : Int64) => some (.int value.toInt)
  | .float32, (value : Binary32) => some (.float value.widen)
  | .float64, (value : Binary64) => some (.float value)
  | .complex64, (value : Complex Binary32) => some (.complex ⟨value.re.widen, value.im.widen⟩)
  | .complex128, (value : Complex Binary64) => some (.complex value)

/-- All values but truth values become new objects. -/
theorem Value.eq_bool_of_object? {kind : Kind} {value : Value kind}
    (h : Value.object? kind value = none) : kind = .bool := by
  cases kind <;> first | rfl | cases h

/-- The objects for the truth values are not counted. -/
theorem Arena.Regular.incref_truth {arena : Arena} (h : arena.Regular) (value : Bool) :
    (arena.incref (if value then trueRef else falseRef)).result = arena := by
  refine result_incref_of_fixed fun slot hslot => ?_
  cases value with
  | true =>
    rw [h.slot?_permanent (by decide)] at hslot
    cases hslot
    rfl
  | false =>
    rw [h.slot?_permanent (by decide)] at hslot
    cases hslot
    rfl

namespace Marshal

theorem outcome_ofBool (value : Bool) (exchange : Exchange Arena) :
    outcome (ofBool value) exchange =
      (.ok (if value then Arena.trueRef else Arena.falseRef),
        { exchange with
          host :=
            (exchange.host.incref (if value then Arena.trueRef else Arena.falseRef)).result }) :=
  rfl

theorem makes_ofValue {kind : Kind} {value : Value kind} {object : Object}
    (h : Value.object? kind value = some object) : Makes object (ofValue kind value) := by
  cases kind <;> cases h <;> exact makes_created (fun _ => rfl) _ _

end Marshal

/-! ## All conversions -/

/-- An array whose elements were counted, and whose bytes taken together can be counted too, as they
must be to be copied. -/
structure Descriptor.Measured (array : Descriptor) : Prop where
  counted : array.shape.count? = some array.length
  sized : array.length * array.kind.width < Word.modulus

theorem Descriptor.Measured.size_eq {array : Descriptor} (h : array.Measured) (region : Bytes) :
    (array.shape.count?.bind (Word.mul? · array.kind.width)) =
      some (array.gather region).length := by
  rw [h.counted, Option.bind_some, Word.mul?, if_pos h.sized, length_gather,
    (Shape.count?_eq_some h.counted).1]

/-- The bytes of a buffer are those of its elements. -/
theorem Buffer.Sound.size_eq {buffer : Buffer} (h : buffer.Sound) :
    (Shape.count? [buffer.length]).bind (Word.mul? · buffer.kind.width) =
      some buffer.bytes.length := by
  obtain ⟨hcount, hbytes, -⟩ := Shape.size_of_max_lt h.max_size_lt
  rw [hcount, Option.bind_some, hbytes, List.prod_singleton, h.length_bytes]

/-- A conversion with its arguments. -/
inductive Conversion where
  /-- Read an object as a value of a kind. -/
  | toValue (kind : Kind) (ref : Ref)
  /-- A view of a host array. -/
  | toDescriptor (ref : Ref)
  /-- A view of the array passed for a named argument. -/
  | extract (ref : Ref) (argument : String) (rank : Nat) (kind : Kind)
  /-- A buffer with a copy of a host array. -/
  | toBuffer (ref : Ref)
  /-- Whether an object has the host type of a kind. -/
  | hasHostType (ref : Ref) (kind : Kind)
  /-- Whether an object is an array with so many axes. -/
  | hasRank (ref : Ref) (rank : Nat)
  /-- Whether an object is an array of elements of a kind. -/
  | hasKind (ref : Ref) (kind : Kind)
  /-- Make a host object from a value. -/
  | ofValue (kind : Kind) (value : Value kind)
  /-- Make a host array from a buffer. -/
  | ofBuffer (buffer : Buffer)
  /-- Make a host array from an array. -/
  | ofDescriptor (array : Descriptor)

/-- What a conversion yields. -/
inductive Converted where
  /-- A value of a kind. -/
  | value (kind : Kind) (value : Value kind)
  /-- A view of a host array. -/
  | array (array : Descriptor)
  /-- A buffer. -/
  | buffer (buffer : Buffer)
  /-- The answer to a question. -/
  | answer (holds : Bool)
  /-- A host object. -/
  | object (ref : Ref)

namespace Conversion

open Marshal (outcome Silent Makes finishes_pure)

/-- Run a conversion, given what the places of memory hold. -/
def perform [Allocator] (regions : Regions) : Conversion → Marshal Arena Converted
  | toValue kind ref => do return .value kind (← Marshal.toValue kind ref)
  | toDescriptor ref => do return .array (← Marshal.toDescriptor ref)
  | extract ref argument rank kind => do return .array (← Marshal.extract ref argument rank kind)
  | toBuffer ref => do return .buffer (← Marshal.toBuffer regions ref)
  | hasHostType ref kind => Marshal.ask fun host => .answer (Marshal.hasHostType host ref kind)
  | hasRank ref rank => Marshal.ask fun host => .answer (Marshal.hasRank host ref rank)
  | hasKind ref kind => Marshal.ask fun host => .answer (Marshal.hasKind host ref kind)
  | ofValue kind value => do return .object (← Marshal.ofValue kind value)
  | ofBuffer buffer => do return .object (← Marshal.ofBuffer buffer)
  | ofDescriptor array => do return .object (← Marshal.ofDescriptor regions array)

/-- What is converted is well formed: buffers were made and used by their own operations, and arrays
can be copied. -/
def Suitable : Conversion → Prop
  | ofBuffer buffer => buffer.Reachable
  | ofDescriptor array => array.Measured
  | _ => True

/-- A conversion that reads from the host. -/
def Reads : Conversion → Prop
  | ofValue _ _ | ofBuffer _ | ofDescriptor _ => False
  | _ => True

/-- A conversion that reads a number, by primitives that may raise an exception. -/
def ReadsNumber : Conversion → Prop
  | toValue kind _ => kind ≠ .bool
  | _ => False

/-- The object that a conversion makes. -/
def object? (regions : Regions) : Conversion → Option Object
  | ofValue kind value => Value.object? kind value
  | ofBuffer buffer => some (.array buffer.hostArray)
  | ofDescriptor array => some (.array (array.object (array.region regions)))
  | _ => none

/-- What a conversion does to an arena that it leaves as `next`. -/
structure Effect (conversion : Conversion) (regions : Regions) (arena : Arena)
    (result : Except Fault Converted) (next : Arena) : Prop where
  /-- Reading changes nothing but the pending exception. -/
  reads : conversion.Reads → next = { arena with error := next.error }
  /-- Unless a number is read, it does not change that either. -/
  silent : conversion.Reads → ¬conversion.ReadsNumber → next = arena
  /-- An object that is to be made is made, and nothing else, if there is room. -/
  made : ∀ object, conversion.object? regions = some object → arena.isFull = false →
    ∃ ref, result = .ok (.object ref) ∧ arena.Creates object ref next
  /-- Otherwise the conversion fails and nothing but an exception is left. -/
  refused : ∀ object, conversion.object? regions = some object → arena.isFull = true →
    (∃ fault, result = .error fault) ∧
      ∃ message, next = { arena with error := some ⟨.memoryError, message⟩ }
  /-- A truth value becomes the object that stands for it. -/
  constant : ∀ value : Bool, conversion = .ofValue .bool value →
    result = .ok (.object (if value then Arena.trueRef else Arena.falseRef)) ∧ next = arena

section Effects

variable [Allocator] {regions : Regions} {conversion : Conversion} {exchange : Exchange Arena}

/-- Of the conversions that read, those of numbers alone call a primitive that may raise. -/
theorem silent_perform (hreads : conversion.Reads) (hnumber : ¬conversion.ReadsNumber) :
    Silent (conversion.perform regions) := by
  cases conversion with
  | toValue kind ref =>
    obtain rfl : kind = .bool := not_not.mp hnumber
    exact (Marshal.silent_toBool ref).bind fun _ => Marshal.silent_pure _
  | toDescriptor ref => exact (Marshal.silent_toDescriptor ref).bind fun _ => Marshal.silent_pure _
  | extract ref argument rank kind =>
    exact (Marshal.silent_extract ref argument rank kind).bind fun _ => Marshal.silent_pure _
  | toBuffer ref => exact (Marshal.silent_toBuffer regions ref).bind fun _ => Marshal.silent_pure _
  | hasHostType ref kind => exact Marshal.silent_ask _
  | hasRank ref rank => exact Marshal.silent_ask _
  | hasKind ref kind => exact Marshal.silent_ask _
  | ofValue kind value => exact hreads.elim
  | ofBuffer buffer => exact hreads.elim
  | ofDescriptor array => exact hreads.elim

omit [Allocator] in
/-- Reading a number leaves all but the pending exception alone. -/
theorem host_toValue {kind : Kind} (hkind : kind ≠ .bool) (ref : Ref) (exchange : Exchange Arena) :
    ∃ error, (outcome (Marshal.toValue kind ref) exchange).2.host =
      { exchange.host with error := error } := by
  rcases Marshal.reading_toValue hkind ref exchange with hread | ⟨-, -, -, message, hhost⟩
  · cases hread with
    | found _ _ _ hhost => exact ⟨exchange.host.error, hhost⟩
    | doubted _ _ _ _ hhost => exact ⟨exchange.host.error, hhost⟩
    | raised exception _ _ hhost => exact ⟨some exception, hhost⟩
  · exact ⟨_, hhost⟩

theorem reads_perform (hreads : conversion.Reads) :
    (outcome (conversion.perform regions) exchange).2.host =
      { exchange.host with
        error := (outcome (conversion.perform regions) exchange).2.host.error } := by
  by_cases hnumber : conversion.ReadsNumber
  · cases conversion with
    | toValue kind ref =>
      obtain ⟨error, hhost⟩ := host_toValue hnumber ref exchange
      obtain ⟨-, hsame⟩ := (finishes_pure (Converted.value kind)).outcome_bind
        (Marshal.toValue kind ref) exchange
      rw [perform, hsame, hhost]
    | _ => exact hnumber.elim
  · rw [silent_perform hreads hnumber exchange]

/-- A conversion that is to make an object makes it by one primitive of the host. -/
theorem exists_makes (hsuitable : conversion.Suitable) {object : Object}
    (hobject : conversion.object? regions = some object) :
    ∃ run, Makes object run ∧
      conversion.perform regions = run >>= fun ref => pure (.object ref) := by
  cases conversion with
  | ofValue kind value => exact ⟨_, Marshal.makes_ofValue hobject, rfl⟩
  | ofBuffer buffer =>
    cases hobject
    exact ⟨_, Marshal.makes_newArray hsuitable.sound.size_eq, rfl⟩
  | ofDescriptor array =>
    cases hobject
    exact ⟨_, (Marshal.makes_newArray (hsuitable.size_eq _)).timed _, rfl⟩
  | _ => cases hobject

/-- With room left, the object is placed. -/
theorem perform_placed (hsuitable : conversion.Suitable) {object : Object}
    (hobject : conversion.object? regions = some object) (hroom : exchange.host.isFull = false) :
    (outcome (conversion.perform regions) exchange).1 =
        .ok (.object (exchange.host.place object).1) ∧
      (outcome (conversion.perform regions) exchange).2.host = (exchange.host.place object).2 := by
  obtain ⟨run, hmakes, hrun⟩ := exists_makes hsuitable hobject
  obtain ⟨hresult, hhost⟩ := (finishes_pure Converted.object).outcome_bind run exchange
  obtain ⟨hplaced, hnext⟩ := hmakes.placed exchange hroom
  rw [hrun, hresult, hhost, hplaced, hnext]
  exact ⟨rfl, rfl⟩

/-- Otherwise the host raises an exception. -/
theorem perform_refused (hsuitable : conversion.Suitable) {object : Object}
    (hobject : conversion.object? regions = some object) (hfull : exchange.host.isFull = true) :
    (∃ fault, (outcome (conversion.perform regions) exchange).1 = .error fault ∧
        fault.category = .allocation) ∧
      (outcome (conversion.perform regions) exchange).2.host =
        exchange.host.raise .memoryError "object limit reached" := by
  obtain ⟨run, hmakes, hrun⟩ := exists_makes hsuitable hobject
  obtain ⟨hresult, hhost⟩ := (finishes_pure Converted.object).outcome_bind run exchange
  obtain ⟨⟨fault, hfault, hcategory⟩, hnext⟩ := hmakes.refused exchange hfull
  rw [hrun, hresult, hhost, hfault, hnext]
  exact ⟨⟨fault, rfl, hcategory⟩, rfl⟩

/-- A truth value becomes another reference to the object that stands for it. -/
theorem outcome_perform_bool (value : Bool) :
    (outcome ((ofValue .bool value).perform regions) exchange).1 =
        .ok (.object (if value then Arena.trueRef else Arena.falseRef)) ∧
      (outcome ((ofValue .bool value).perform regions) exchange).2.host =
        (exchange.host.incref (if value then Arena.trueRef else Arena.falseRef)).result := by
  have hrun : perform regions (ofValue .bool value) =
      Marshal.ofBool value >>= fun ref => pure (.object ref) := rfl
  rw [hrun, Marshal.outcome_bind, Marshal.outcome_ofBool]
  exact ⟨rfl, rfl⟩

/-- The effect of every conversion. -/
theorem effect_perform (regions : Regions) (conversion : Conversion)
    (hsuitable : conversion.Suitable) (exchange : Exchange Arena)
    (hreachable : exchange.host.Reachable) :
    conversion.Effect regions exchange.host (outcome (conversion.perform regions) exchange).1
      (outcome (conversion.perform regions) exchange).2.host where
  reads := reads_perform
  silent hreads hnumber := silent_perform hreads hnumber exchange
  made := by
    intro object hobject hroom
    obtain ⟨hresult, hhost⟩ := perform_placed hsuitable hobject hroom
    rw [hresult, hhost]
    exact ⟨_, rfl, hreachable.regular.creates object⟩
  refused := by
    intro object hobject hfull
    obtain ⟨⟨fault, hfault, -⟩, hhost⟩ := perform_refused hsuitable hobject hfull
    rw [hfault, hhost]
    exact ⟨⟨fault, rfl⟩, _, rfl⟩
  constant := by
    rintro value rfl
    obtain ⟨hresult, hhost⟩ := outcome_perform_bool value
    exact ⟨hresult, hhost.trans (hreachable.regular.incref_truth value)⟩

end Effects

/-- An arena in which the slot of an earlier object is used again. -/
def vacated : Exchange Arena where
  host := ((Arena.Operation.decref ⟨3, 0⟩).apply ((Arena.Operation.newInt 7).apply .empty).2).2
  stats := {}
  settings := ⟨[], none⟩

/-- Three integers in a block of the caller. -/
def row : Descriptor := .ofRun ⟨.block 0, 0⟩ 3 .int16

theorem effect_perform_of_vacated :
    vacated.host.Reachable ∧ (ofDescriptor row).Suitable ∧
      ∃ ref, (outcome (@perform (Allocator.bounded 64) (fun _ => [1, 0, 2, 0, 3, 0])
          (ofDescriptor row)) vacated).1 = .ok (.object ref) ∧
        vacated.host.Creates (.array (row.object [1, 0, 2, 0, 3, 0])) ref
          (outcome (@perform (Allocator.bounded 64) (fun _ => [1, 0, 2, 0, 3, 0])
            (ofDescriptor row)) vacated).2.host := by
  have hreachable : vacated.host.Reachable := .step _ (.step _ .empty)
  have hsuitable : (ofDescriptor row).Suitable := ⟨by decide, by decide⟩
  have heffect := @effect_perform (Allocator.bounded 64) (fun _ => [1, 0, 2, 0, 3, 0])
    (ofDescriptor row) hsuitable vacated hreachable
  exact ⟨hreachable, hsuitable, heffect.made _ rfl (by decide)⟩

end Conversion

end HostBridge
