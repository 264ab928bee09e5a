import HostBridge.Host.Interface

/-!
# The object arena

A self-contained host. Objects live in slots; a reference names a slot and its generation, and a
slot moves on to the next generation when its object is freed, so stale references are recognised.
Freed slots are used again, the last one freed first. The first three slots hold the objects for
true, false and the empty value, which are never freed. A limit on the number of live objects
stands in for memory that runs out.

Generations come round after `2 ^ 32` of them. The numbers of slots and the counts of references are
words of 32 bits too, but they are natural numbers here: an arena has fewer objects, and an object
fewer references, than such a word can count.
-/

namespace HostBridge

/-- One slot of the arena. -/
structure Slot where
  /-- How often the slot has been vacated. -/
  generation : Nat
  /-- The number of references to the object. -/
  refcount : Nat
  /-- Whether the object is never freed. -/
  immortal : Bool
  /-- The object, if the slot holds one. -/
  value : Option Object
  deriving DecidableEq

/-- The state of the host. -/
structure Arena where
  /-- All slots, in the order in which they were first used. -/
  slots : List Slot
  /-- The vacant slots, the last one vacated first. -/
  free : List Nat
  /-- The pending exception. -/
  error : Option Exception
  /-- The number of live objects that must not be exceeded. -/
  limit : Option Nat
  /-- The number of live objects that can be freed. -/
  live : Nat
  deriving DecidableEq

namespace Arena

/-- The object that stands for true. -/
def trueRef : Ref := ⟨0, 0⟩

/-- The object that stands for false. -/
def falseRef : Ref := ⟨1, 0⟩

/-- The empty value. -/
def noneRef : Ref := ⟨2, 0⟩

/-- The number of generations of a slot, after which the first one comes again. -/
def generations : Nat := twoPow 32

/-- An arena that holds nothing but the three permanent objects. -/
def empty : Arena where
  slots := [⟨0, 1, true, some (.bool true)⟩, ⟨0, 1, true, some (.bool false)⟩,
    ⟨0, 1, true, some .none⟩]
  free := []
  error := none
  limit := none
  live := 0

variable (arena : Arena)

/-- The slot that a reference names, provided that its object is still there. -/
def slot? (ref : Ref) : Option Slot :=
  arena.slots[ref.slot]?.filter fun slot => slot.generation == ref.generation && slot.value.isSome

/-- The object that a reference names, while it is there. -/
def value? (ref : Ref) : Option Object :=
  (arena.slots[ref.slot]?.filter fun slot => slot.generation == ref.generation).bind (·.value)

/-- Whether a reference still names an object. -/
def isAlive (ref : Ref) : Bool := (arena.value? ref).isSome

/-- The number of references to a live object. -/
def refcount? (ref : Ref) : Option Nat := (arena.slot? ref).map (·.refcount)

/-- Make an exception pending, in place of any other. -/
def raise (kind : ExceptionClass) (message : String) : Arena :=
  { arena with error := some ⟨kind, message⟩ }

/-- The message of an access through a reference whose object is gone. -/
def staleMessage : String := "stale object handle"

/-- Put an object into the slot vacated last, or into a new slot. -/
def place (object : Object) : Ref × Arena :=
  match arena.free with
  | index :: free =>
    let generation := (arena.slots[index]?.map (·.generation)).getD 0
    (⟨index, generation⟩,
      { arena with
        slots := arena.slots.set index ⟨generation, 1, false, some object⟩
        free
        live := arena.live + 1 })
  | [] =>
    (⟨arena.slots.length, 0⟩,
      { arena with
        slots := arena.slots ++ [⟨0, 1, false, some object⟩]
        live := arena.live + 1 })

/-- Whether the limit leaves no room for another object. -/
def isFull : Bool := arena.limit.any fun limit => limit ≤ arena.live

/-- Put an object into the arena, unless the limit is reached. -/
def insert (object : Object) : Option Ref × Arena :=
  if arena.isFull then (none, arena.raise .memoryError "object limit reached")
  else
    let (ref, arena) := arena.place object
    (some ref, arena)

/-- Set or lift the limit on live objects. -/
def setLimit (limit : Option Nat) : Arena := { arena with limit }

/-- Put an object into the arena whatever the limit, which is lifted meanwhile. -/
def alloc (object : Object) : Ref × Arena :=
  let (ref, next) := (arena.setLimit none).insert object
  (ref.getD noneRef, next.setLimit arena.limit)

/-- A new array with the given values, laid out densely. The limit does not apply. -/
def array (kind : Kind) (shape : Shape) (values : List (Value kind)) (order : Order) :
    Ref × Arena :=
  let bytes := (values.map (Value.encode kind)).flatten
  let strides := shape.denseStrides kind.width order
  arena.alloc (.array (HostArray.ofBytes kind shape strides 0 bytes))

/-- A new array with an explicit layout, provided that it fits its bytes. The limit does not
apply. -/
def arrayFromParts (kind : Kind) (shape : Shape) (strides : Strides) (offset : Nat)
    (bytes : Bytes) : Option Ref × Arena :=
  if HostArray.layoutFits shape strides offset kind.width bytes.length then
    let (ref, arena) := arena.alloc (.array (HostArray.ofBytes kind shape strides offset bytes))
    (some ref, arena)
  else (none, arena.raise .valueError "array layout exceeds its storage")

/-- Replace the object that a live reference names. -/
def setValue (ref : Ref) (object : Object) : Arena :=
  match arena.slot? ref with
  | some slot =>
    { arena with slots := arena.slots.set ref.slot { slot with value := some object } }
  | none => arena

/-- The storage of an array from its first element on. -/
def arrayBytes? (ref : Ref) : Option Bytes :=
  match arena.value? ref with
  | some (.array array) => some array.bytes
  | _ => none

/-- Overwrite bytes of an array from position `pos` on, counted from its first element, provided
that they fit. -/
def overwriteArray (ref : Ref) (pos : Nat) (patch : Bytes) : Arena :=
  match arena.value? ref with
  | some (.array array) =>
    arena.setValue ref
      (.array { array with storage := array.storage.setWindow (array.offset + pos) patch })
  | _ => arena

/-- The whole storage of an array. -/
def storage (ref : Ref) : Bytes :=
  match arena.value? ref with
  | some (.array array) => array.storage
  | _ => []

/-- Replace the whole storage of an array. -/
def setStorage (ref : Ref) (storage : Bytes) : Arena :=
  match arena.value? ref with
  | some (.array array) => arena.setValue ref (.array { array with storage })
  | _ => arena

/-- Take and clear the pending exception. -/
def takeError : Option Exception × Arena := (arena.error, { arena with error := none })

/-- Take a reference to an object. Permanent objects are not counted. -/
def incref (ref : Ref) : Traced Arena := do
  match arena.slot? ref with
  | some slot =>
    if slot.immortal then return arena
    return { arena with
      slots := arena.slots.set ref.slot { slot with refcount := slot.refcount + 1 } }
  | none =>
    Traced.emit (.staleIncrement ref)
    return arena

/-- Give back a reference to an object. With the last reference the object is freed and its slot
moves on to the next generation. -/
def decref (ref : Ref) : Traced Arena := do
  match arena.slot? ref with
  | some slot =>
    if slot.immortal then return arena
    if slot.refcount = 1 then
      Traced.emit (.objectFreed ref)
      return { arena with
        slots := arena.slots.set ref.slot
          { slot with
            refcount := 0
            value := none
            generation := (slot.generation + 1) % generations }
        free := ref.slot :: arena.free
        live := arena.live - 1 }
    return { arena with
      slots := arena.slots.set ref.slot { slot with refcount := slot.refcount - 1 } }
  | none =>
    Traced.emit (.staleDecrement ref)
    return arena

/-- The type of an object. -/
def typeOf (ref : Ref) : HostType :=
  match arena.value? ref with
  | some object => object.type
  | none => .other

/-- The value of an integer of 64 bits or of a truth value. -/
def asInt (ref : Ref) : Int × Arena :=
  match arena.value? ref with
  | some (.int value) =>
    if Word.Fits 64 value then (value, arena)
    else (-1, arena.raise .overflowError "int too large to convert to C long")
  | some (.bool value) => (if value then 1 else 0, arena)
  | some object =>
    (-1, arena.raise .typeError s!"an integer is required (got type {object.typeName})")
  | none => (-1, arena.raise .typeError staleMessage)

/-- The value of a real number, where `what` names it in a message. -/
def realValue (ref : Ref) (what : String) : Binary64 × Arena :=
  match arena.value? ref with
  | some (.float value) => (value, arena)
  | some (.int value) => (Binary64.ofInt value, arena)
  | some (.bool value) => (Binary64.ofBool value, arena)
  | some object =>
    (Binary64.minusOne,
      arena.raise .typeError s!"{what} must be a real number, not {object.typeName}")
  | none => (Binary64.minusOne, arena.raise .typeError staleMessage)

/-- The value of a real number. -/
def asFloat (ref : Ref) : Binary64 × Arena := arena.realValue ref "value"

/-- The real part of a number. -/
def complexReal (ref : Ref) : Binary64 × Arena :=
  match arena.value? ref with
  | some (.complex value) => (value.re, arena)
  | _ => arena.realValue ref "complex real part"

/-- The imaginary part of a number, which is zero for a real number. -/
def complexImag (ref : Ref) : Binary64 × Arena :=
  match arena.value? ref with
  | some (.complex value) => (value.im, arena)
  | some (.float _) | some (.int _) | some (.bool _) => (Binary64.zero, arena)
  | some object =>
    (Binary64.minusOne,
      arena.raise .typeError s!"complex imaginary part must be a number, not {object.typeName}")
  | none => (Binary64.minusOne, arena.raise .typeError staleMessage)

/-- What the arena reports about an array whose number of elements fits in a word. -/
def arrayInfo (ref : Ref) : Option ArrayInfo :=
  match arena.value? ref with
  | some (.array array) =>
    array.shape.count?.map fun length => {
      length
      data := some ⟨.object ref, array.offset⟩
      shape := array.shape
      strides := array.strides
      typeCode := array.kind.typeCode
      itemSize := array.kind.width
      byteLength := Word.unsigned (length * array.kind.width) }
  | _ => none

/-- A new dense row-major array, provided that the type number is known and the bytes are exactly
those of its elements. -/
def newArray (shape : Shape) (typeCode : Int) (bytes : Bytes) : Option Ref × Arena :=
  match Kind.ofTypeCode? typeCode with
  | none => (none, arena.raise .typeError s!"unsupported array type {typeCode}")
  | some kind =>
    if (shape.count?.bind (Word.mul? · kind.width)) = some bytes.length then
      arena.insert (.array
        (HostArray.ofBytes kind shape (shape.denseStrides kind.width .rowMajor) 0 bytes))
    else (none, arena.raise .valueError "array data does not match shape")

instance : Host Arena Ref where
  incref := incref
  decref := decref
  isSame _ a b := a == b
  typeOf := typeOf
  asInt := asInt
  asFloat := asFloat
  complexReal := complexReal
  complexImag := complexImag
  errorOccurred arena := arena.error.isSome
  setError arena exception := { arena with error := some exception }
  trueRef _ := trueRef
  falseRef _ := falseRef
  arrayInfo := arrayInfo
  newInt arena value := arena.insert (.int value)
  newFloat arena value := arena.insert (.float value)
  newComplex arena value := arena.insert (.complex value)
  newArray := newArray

end Arena

end HostBridge
