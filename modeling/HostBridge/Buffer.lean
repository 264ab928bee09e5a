import HostBridge.Descriptor

/-!
# Typed buffers

A buffer is a growable sequence of elements of one kind. Its elements lie one after another at
the start of a single block that has room for `capacity` of them; the rest of the block is zero.
There is always at least one spare slot. When an operation would use it up, the buffer moves to a
block whose capacity is doubled as often as needed. Capacity never shrinks.

The operations that change a buffer work on it in place, step by step, as edits: what an edit leaves
behind is there whether it succeeds or ends in a fault. `Buffer.extend` and its like are the edits
as attempts that yield the changed buffer.
-/

namespace HostBridge

/-- A growable sequence of elements of one kind. -/
structure Buffer where
  /-- The kind of the elements. -/
  kind : Kind
  /-- The number of elements. -/
  length : Nat
  /-- The number of elements that the block has room for. -/
  capacity : Nat
  /-- The block that the elements lie in. -/
  block : Bytes
  deriving DecidableEq

namespace Buffer

/-- The name under which blocks of buffers are accounted for. -/
def entity : String := "typed buffer"

/-- Double a positive capacity until it exceeds `needed`. -/
def doubled (capacity needed : Nat) (positive : 0 < capacity) : Nat :=
  if capacity ≤ needed then doubled (2 * capacity) needed (by omega) else capacity
termination_by needed + 1 - capacity

/-- The capacity that a buffer of capacity `current` takes on so as to exceed `needed` elements. -/
def grownCapacity (current needed : Nat) : Nat := doubled (max current 1) needed (by omega)

/-- Exchange the elements of `width` bytes in two slots of a block. -/
def swapSlots (width i j : Nat) (block : Bytes) : Bytes :=
  let front := block.slice (i * width) width
  let back := block.slice (j * width) width
  (block.overwrite (i * width) back).overwrite (j * width) front

/-- Put the slots of a block from `low` on and before `high` in the opposite order: the outermost
two are exchanged, then those between them. -/
def reverseSlots (width low high : Nat) (block : Bytes) : Bytes :=
  if low + 1 < high then
    reverseSlots width (low + 1) (high - 1) (swapSlots width low (high - 1) block)
  else block
termination_by high - low

/-- An empty buffer with a fresh block of zeros. There is room for one element at least. -/
def withCapacity [Allocator] (kind : Kind) (capacity : Nat) : Attempt Buffer := do
  let capacity := max capacity 1
  match Word.mul? capacity kind.width with
  | none => throw (Fault.allocation entity Word.maxUnsigned)
  | some size =>
    Allocator.obtain entity size kind.align
    return { kind, capacity, length := 0, block := Bytes.zeros size }

/-- Refuse bytes that are not a whole number of elements. -/
def checkWhole (kind : Kind) (bytes : Bytes) : Except Fault Unit :=
  if bytes.length % kind.width ≠ 0 then
    throw (Fault.conversion s!"whole {kind.name} elements" s!"{bytes.length} bytes")
  else return ()

/-- A buffer that holds the elements with the given bytes. Its capacity is the default capacity,
doubled until there is a spare slot. -/
def create [Allocator] (defaultCapacity : Nat) (kind : Kind) (bytes : Bytes) : Attempt Buffer := do
  liftExcept (checkWhole kind bytes)
  let count := bytes.length / kind.width
  let fresh ← withCapacity kind (grownCapacity defaultCapacity count)
  Attempt.emit (.bufferCreated kind count fresh.capacity)
  return { fresh with length := count, block := fresh.block.overwrite 0 bytes }

variable (buffer : Buffer)

/-- Whether the buffer has no elements. -/
def isEmpty : Bool := buffer.length == 0

/-- The bytes of all elements. -/
def bytes : Bytes := buffer.block.slice 0 (buffer.length * buffer.kind.width)

/-- The elements, each as its bytes. -/
def elements : List Bytes := buffer.bytes.chunks buffer.kind.width

/-- The size of the block in bytes. -/
def blockSize : Nat := buffer.capacity * buffer.kind.width

/-- Refuse bytes that are not exactly one element. -/
def checkElement (element : Bytes) : Except Fault Unit :=
  if element.length ≠ buffer.kind.width then
    throw (Fault.conversion s!"one {buffer.kind.name} element ({buffer.kind.width} bytes)"
      s!"{element.length} bytes")
  else return ()

/-- The position of the first element with the given bytes. -/
def findFirst (element : Bytes) : Except Fault (Option Nat) := do
  buffer.checkElement element
  return buffer.elements.findIdx? (· == element)

/-- The number of elements with the given bytes. -/
def countEqual (element : Bytes) : Except Fault Nat := do
  buffer.checkElement element
  return buffer.elements.countP (· == element)

/-- Put the elements in the opposite order, in place. -/
def reverse : Buffer :=
  { buffer with block := reverseSlots buffer.kind.width 0 buffer.length buffer.block }

/-- Remove all elements and keep the block. -/
def clear : Buffer :=
  { buffer with
    length := 0
    block := buffer.block.overwrite 0 (Bytes.zeros (buffer.length * buffer.kind.width)) }

/-! ## Edits -/

/-- A computation on a buffer in place. When it ends in a fault, the buffer is what the steps before
the fault have made of it. -/
abbrev Edit := ExceptT Fault (StateT Buffer Traced)

namespace Edit

variable {α : Type}

/-- What an edit of a buffer yields, and the buffer that it leaves behind. -/
def on (edit : Edit α) (buffer : Buffer) : Traced (Except Fault α × Buffer) := edit.run.run buffer

/-- The buffer that an edit leaves behind, also when it ends in a fault. -/
def left (edit : Edit α) (buffer : Buffer) : Buffer := (edit.on buffer).result.2

/-- An edit as an attempt, which yields the buffer together with the result. -/
def apply (edit : Edit α) (buffer : Buffer) : Attempt (α × Buffer) :=
  ExceptT.mk ⟨(edit.on buffer).result.1.map fun a => (a, edit.left buffer),
    (edit.on buffer).events⟩

/-- An edit as an attempt, which yields the buffer. -/
def made (edit : Edit Unit) (buffer : Buffer) : Attempt Buffer :=
  ExceptT.mk ⟨(edit.on buffer).result.1.map fun _ => edit.left buffer, (edit.on buffer).events⟩

/-- An attempt that does not touch the buffer. -/
def attempt (run : Attempt α) : Edit α := ExceptT.mk (StateT.lift run.run)

/-- Overwrite bytes of the block from position `pos` on. -/
def write (pos : Nat) (bytes : Bytes) : Edit Unit :=
  modify fun buffer => { buffer with block := buffer.block.overwrite pos bytes }

/-- Set the number of elements. -/
def setLength (length : Nat) : Edit Unit := modify fun buffer => { buffer with length }

/-- Make room for `needed` elements and a spare slot. The old block is let go of when the new one
takes its place. -/
def reserve [Allocator] (needed : Nat) : Edit Unit := do
  let buffer ← get
  unless needed < buffer.capacity do
    let fresh ← attempt (withCapacity buffer.kind (grownCapacity buffer.capacity needed))
    attempt (Attempt.emit (.bufferGrown buffer.kind buffer.capacity fresh.capacity))
    attempt (Attempt.emit (.released entity buffer.blockSize))
    set { fresh with length := buffer.length, block := fresh.block.overwrite 0 buffer.bytes }

/-- Append the elements with the given bytes. -/
def extend [Allocator] (bytes : Bytes) : Edit Unit := do
  let buffer ← get
  attempt (liftExcept (checkWhole buffer.kind bytes))
  let total := buffer.length + bytes.length / buffer.kind.width
  reserve total
  write (buffer.length * buffer.kind.width) bytes
  setLength total

/-- Append the elements of another buffer of the same kind. -/
def append [Allocator] (other : Buffer) : Edit Unit := do
  let buffer ← get
  if other.kind ≠ buffer.kind then throw (Fault.kindMismatch buffer.kind other.kind)
  else extend other.bytes

/-- Append one value. -/
def push [Allocator] (kind : Kind) (value : Value kind) : Edit Unit := do
  let buffer ← get
  if kind ≠ buffer.kind then throw (Fault.kindMismatch buffer.kind kind)
  else extend (Value.encode kind value)

/-- Insert one element before the element at `index`, moving those behind it up. -/
def insert [Allocator] (index : Nat) (element : Bytes) : Edit Unit := do
  let buffer ← get
  attempt (liftExcept (buffer.checkElement element))
  if buffer.length < index then throw (Fault.index index buffer.length)
  else
    reserve (buffer.length + 1)
    let width := buffer.kind.width
    let roomy ← get
    write ((index + 1) * width)
      (roomy.block.slice (index * width) ((buffer.length - index) * width))
    write (index * width) element
    setLength (buffer.length + 1)

/-- Remove the element at `index`, moving those behind it down. The slot that becomes free is
zeroed. -/
def removeAt (index : Nat) : Edit Unit := do
  let buffer ← get
  if buffer.length ≤ index then throw (Fault.index index buffer.length)
  else
    let width := buffer.kind.width
    let last := buffer.length - 1
    write (index * width) (buffer.block.slice ((index + 1) * width) ((last - index) * width))
    write (last * width) (Bytes.zeros width)
    setLength last

/-- Remove the first element with the given bytes, and tell whether there was one. -/
def removeValue (element : Bytes) : Edit Bool := do
  let buffer ← get
  match ← attempt (liftExcept (buffer.findFirst element)) with
  | some index =>
    removeAt index
    return true
  | none => return false

/-- Put the elements in the opposite order. -/
def reverse : Edit Unit := modify Buffer.reverse

/-- Remove all elements. -/
def clear : Edit Unit := modify Buffer.clear

end Edit

/-- Make room for `needed` elements and a spare slot. -/
def reserve [Allocator] (needed : Nat) : Attempt Buffer := (Edit.reserve needed).made buffer

/-- Append the elements with the given bytes. -/
def extend [Allocator] (bytes : Bytes) : Attempt Buffer := (Edit.extend bytes).made buffer

/-- Append the elements of another buffer of the same kind. -/
def append [Allocator] (other : Buffer) : Attempt Buffer := (Edit.append other).made buffer

/-- Append one value. -/
def push [Allocator] (kind : Kind) (value : Value kind) : Attempt Buffer :=
  (Edit.push kind value).made buffer

/-- A buffer that holds the given values, each appended in turn. -/
def ofValues [Allocator] (defaultCapacity : Nat) (kind : Kind) (values : List (Value kind)) :
    Attempt Buffer := do
  let fresh ← withCapacity kind (grownCapacity defaultCapacity values.length)
  values.foldlM (fun buffer value => buffer.push kind value) fresh

/-- Insert one element before the element at `index`, moving those behind it up. -/
def insert [Allocator] (index : Nat) (element : Bytes) : Attempt Buffer :=
  (Edit.insert index element).made buffer

/-- Remove the element at `index`, moving those behind it down. -/
def removeAt (index : Nat) : Except Fault Buffer := ((Edit.removeAt index).made buffer).run.result

/-- Remove the first element with the given bytes, and tell whether there was one. -/
def removeValue (element : Bytes) : Except Fault (Bool × Buffer) :=
  ((Edit.removeValue element).apply buffer).run.result

/-- A buffer with the same elements and the same capacity, and a block of its own. -/
def copy [Allocator] : Attempt Buffer := do
  let fresh ← withCapacity buffer.kind buffer.capacity
  fresh.extend buffer.bytes

/-- Append a copy of a buffer to the buffer itself. The copy is released afterwards, whatever the
outcome. -/
def Edit.appendCopy [Allocator] : Edit Unit := do
  let buffer ← get
  let copy ← attempt buffer.copy
  ExceptT.mk fun buffer => do
    let outcome ← (append copy).on buffer
    Traced.emit (.released entity copy.blockSize)
    return outcome

/-- Append a copy of the buffer to the buffer itself. -/
def appendCopy [Allocator] : Attempt Buffer := Edit.appendCopy.made buffer

/-- The bytes of the element at `index`. -/
def at? (index : Nat) : Option Bytes :=
  if index < buffer.length then
    some (buffer.block.slice (index * buffer.kind.width) buffer.kind.width)
  else none

/-- Replace the bytes of the element at `index`, if there is one. -/
def set? (index : Nat) (element : Bytes) : Option Buffer :=
  if index < buffer.length then
    some { buffer with block := buffer.block.overwrite (index * buffer.kind.width) element }
  else none

/-- The value at `index`, read as an element of the given kind. -/
def get (kind : Kind) (index : Nat) : Except Fault (Value kind) := do
  if kind ≠ buffer.kind then
    throw (Fault.kindMismatch buffer.kind kind)
  match buffer.at? index with
  | some bytes => return Value.decode kind bytes
  | none => throw (Fault.index index buffer.length)

/-- All values, read as elements of the given kind. -/
def toValues (kind : Kind) : Except Fault (List (Value kind)) := do
  if kind ≠ buffer.kind then
    throw (Fault.kindMismatch buffer.kind kind)
  return buffer.elements.map (Value.decode kind)

/-- Whether two buffers hold the same elements of the same kind. -/
def sameElements (other : Buffer) : Bool :=
  buffer.kind == other.kind && buffer.bytes == other.bytes

/-- The elements seen as an array with one axis, where `data` is the address of the block. -/
def view (data : Address) : Descriptor := Descriptor.ofRun data buffer.length buffer.kind

/-- Let go of the buffer and of its block. -/
def release : Traced Unit := Traced.emit (.released entity buffer.blockSize)

/-- Destroy the buffer. -/
def destroy : Traced Unit := do
  Traced.emit (.bufferDestroyed buffer.kind buffer.length)
  buffer.release

/-- The buffer written out with its size. -/
def describe : String :=
  "TypedBuffer \x7b kind: " ++ buffer.kind.label ++
    s!", len: {buffer.length}, capacity: {buffer.capacity} " ++ "\x7d"

end Buffer

end HostBridge
