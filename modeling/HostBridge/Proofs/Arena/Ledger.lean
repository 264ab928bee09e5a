import HostBridge.Host.Arena

/-!
# Calls on an arena, and what is known from them

A run is a list of calls on an empty arena. Beside the arena a ledger is kept, which knows nothing
of slots, generations and free slots: it has one record for each reference that was handed out, with
the object that it was made for and the references that were taken and given back while the object
was there. The ledger is what a user of the arena may rely on.

## Main definitions

* `Operation` and `Operation.apply`: the calls that can change an arena, and what they do;
* `Record` and `Operation.amend`: what is known of one reference, and what a call adds to it;
* `Chronicle`: an arena, the references that it handed out and the ledger; `Chronicle.run` is a
  whole run.
-/

namespace HostBridge

namespace Object

/-- The object after an overwrite of its bytes from position `pos` on, counted from the first
element, provided that they fit. Only arrays have bytes. -/
def overwrite (pos : Nat) (patch : Bytes) : Object → Object
  | .array a => .array { a with storage := a.storage.setWindow (a.offset + pos) patch }
  | object => object

/-- Two objects that are the same but for the bytes of an array. -/
def SameButBytes : Object → Object → Prop
  | .array a, .array b =>
    a.kind = b.kind ∧ a.shape = b.shape ∧ a.strides = b.strides ∧ a.offset = b.offset ∧
      a.storage.length = b.storage.length
  | a, b => a = b

theorem sameButBytes_refl (object : Object) : object.SameButBytes object := by
  cases object <;> simp [SameButBytes]

/-- An overwrite changes nothing but bytes. -/
theorem sameButBytes_overwrite {created object : Object} (h : created.SameButBytes object)
    (pos : Nat) (patch : Bytes) : created.SameButBytes (object.overwrite pos patch) := by
  cases object with
  | array b =>
    cases created with
    | array a => simpa [SameButBytes, overwrite] using h
    | _ => cases h
  | _ => exact h

end Object

namespace Arena

/-- A call that can change an arena. -/
inductive Operation where
  -- objects that are made whatever the limit
  | int (value : Int)
  | float (value : Binary64)
  | complex (value : Complex Binary64)
  | str (value : String)
  | array (kind : Kind) (shape : Shape) (values : List (Value kind)) (order : Order)
  | arrayFromParts (kind : Kind) (shape : Shape) (strides : Strides) (offset : Nat) (bytes : Bytes)
  -- objects that are made within the limit
  | newInt (value : Int)
  | newFloat (value : Binary64)
  | newComplex (value : Complex Binary64)
  | newArray (shape : Shape) (typeCode : Int) (bytes : Bytes)
  -- references taken and given back
  | incref (ref : Ref)
  | decref (ref : Ref)
  -- a change to the bytes of an array in place: whatever it does to them, it overwrites them
  | overwrite (ref : Ref) (pos : Nat) (patch : Bytes)
  -- the limit and the pending exception
  | setLimit (limit : Option Nat)
  | setError (exception : Exception)
  | takeError
  -- readings of a number, which may leave an exception pending
  | asInt (ref : Ref)
  | asFloat (ref : Ref)
  | complexReal (ref : Ref)
  | complexImag (ref : Ref)

namespace Operation

/-- What a call does: the reference that it hands out, if any, and the arena after it. -/
def apply (arena : Arena) : Operation → Option Ref × Arena
  | int value => (arena.alloc (.int value)).map some id
  | float value => (arena.alloc (.float value)).map some id
  | complex value => (arena.alloc (.complex value)).map some id
  | str value => (arena.alloc (.str value)).map some id
  | array kind shape values order => (arena.array kind shape values order).map some id
  | arrayFromParts kind shape strides offset bytes =>
    arena.arrayFromParts kind shape strides offset bytes
  | newInt value => Host.newInt arena value
  | newFloat value => Host.newFloat arena value
  | newComplex value => Host.newComplex arena value
  | newArray shape typeCode bytes => Host.newArray arena shape typeCode bytes
  | incref ref => (none, (arena.incref ref).result)
  | decref ref => (none, (arena.decref ref).result)
  | overwrite ref pos patch => (none, arena.overwriteArray ref pos patch)
  | setLimit limit => (none, arena.setLimit limit)
  | setError exception => (none, Host.setError arena exception)
  | takeError => (none, arena.takeError.2)
  | asInt ref => (none, (arena.asInt ref).2)
  | asFloat ref => (none, (arena.asFloat ref).2)
  | complexReal ref => (none, (arena.complexReal ref).2)
  | complexImag ref => (none, (arena.complexImag ref).2)

/-- The object that a call is to make. -/
def object? : Operation → Option Object
  | int value | newInt value => some (.int value)
  | float value | newFloat value => some (.float value)
  | complex value | newComplex value => some (.complex value)
  | str value => some (.str value)
  | array kind shape values order =>
    some (.array (HostArray.ofBytes kind shape (shape.denseStrides kind.width order) 0
      (values.map (Value.encode kind)).flatten))
  | arrayFromParts kind shape strides offset bytes =>
    some (.array (HostArray.ofBytes kind shape strides offset bytes))
  | newArray shape typeCode bytes =>
    (Kind.ofTypeCode? typeCode).map fun kind =>
      .array (HostArray.ofBytes kind shape (shape.denseStrides kind.width .rowMajor) 0 bytes)
  | _ => none

end Operation

/-- What is known of a reference that was handed out. -/
structure Record where
  /-- The reference. -/
  ref : Ref
  /-- The object that it was made for. -/
  created : Object
  /-- That object after the overwrites of its bytes. -/
  object : Object
  /-- How many references were taken while the object was there. -/
  increfs : Nat
  /-- How many references were given back while the object was there. -/
  decrefs : Nat

namespace Record

/-- The record of an object that has just been made. -/
def fresh (ref : Ref) (object : Object) : Record := ⟨ref, object, object, 0, 0⟩

/-- The object is there until one reference more was given back than was taken. -/
def Alive (record : Record) : Prop := record.decrefs ≤ record.increfs

instance (record : Record) : Decidable record.Alive :=
  inferInstanceAs (Decidable (_ ≤ _))

/-- The number of references to the object while it is there. -/
def count (record : Record) : Nat := 1 + record.increfs - record.decrefs

/-- A change of the record of `ref`, made while its object is there. -/
def change (ref : Ref) (update : Record → Record) (record : Record) : Record :=
  if record.ref = ref ∧ record.Alive then update record else record

end Record

/-- What a call adds to what is known of a reference. -/
def Operation.amend : Operation → Record → Record
  | incref ref => Record.change ref fun record => { record with increfs := record.increfs + 1 }
  | decref ref => Record.change ref fun record => { record with decrefs := record.decrefs + 1 }
  | overwrite ref pos patch =>
    Record.change ref fun record => { record with object := record.object.overwrite pos patch }
  | _ => id

/-- An arena together with what was seen of it. -/
structure Chronicle where
  /-- The arena. -/
  arena : Arena
  /-- The references that it handed out, the latest first. -/
  issued : List Ref
  /-- What is known of them. -/
  ledger : List Record

namespace Chronicle

/-- An empty arena that has handed out nothing. -/
def start : Chronicle := ⟨empty, [], []⟩

/-- One call. -/
def step (chronicle : Chronicle) (op : Operation) : Chronicle :=
  let (answer, arena) := op.apply chronicle.arena
  { arena
    issued := answer.toList ++ chronicle.issued
    ledger := (answer.bind fun ref => op.object?.map (Record.fresh ref)).toList ++
      chronicle.ledger.map op.amend }

/-- A run of calls on an empty arena. -/
def run (ops : List Operation) : Chronicle := ops.foldl step start

end Chronicle

end Arena

end HostBridge
