import HostBridge.Handle.Status

/-!
# Buffers behind handles

The calls by which native code makes, uses and destroys buffers. A null handle is `none`. An element
is passed by a pointer, which may point into the very buffer that the call changes; it is read
before anything is changed. A buffer is changed where it is: what an operation has done to it when a
fault ends the call stays done.
-/

namespace HostBridge

/-- What a pointer to an element points at. -/
inductive Operand where
  /-- Bytes of the caller. -/
  | bytes (value : Bytes)
  /-- Memory that the bridge knows. -/
  | address (value : Address)
  deriving DecidableEq

/-- The `width` bytes that a pointer points at. -/
def Operand.load (operand : Operand) (bridge : Bridge) (width : Nat) : Bytes :=
  match operand with
  | bytes value => value.take width
  | address value => bridge.load value width

/-- A byte of the caller to which a truth value can be written. -/
structure Outlet where
  /-- The block of the caller. -/
  block : Nat
  /-- The position of the byte in it. -/
  offset : Nat
  deriving DecidableEq

/-- Write a truth value, unless the pointer for it is null. -/
def Bridge.tell (bridge : Bridge) (outlet : Option Outlet) (value : Bool) : Bridge :=
  match outlet with
  | some place => bridge.store ⟨.block place.block, place.offset⟩ [if value then 1 else 0]
  | none => bridge

namespace Call

/-- The reason for refusing a null handle of a buffer. -/
def nullBuffer : String := "null buffer handle"

/-- The reason for refusing a null pointer to an element. -/
def nullElement : String := "null element"

/-- The reason for refusing an unknown tag of a kind. -/
def unknownKind : String := "unknown element kind"

/-- The buffer behind a handle, with the handle. -/
def buffer? (handle : Option Nat) : Call (Option (Nat × Buffer)) := do
  let bridge ← get
  return handle.bind fun h => (bridge.buffers.get? h).map fun buffer => (h, buffer)

/-- Put a changed buffer back behind its handle. -/
def setBuffer (handle : Nat) (buffer : Buffer) : Call Unit :=
  modify fun bridge => { bridge with buffers := bridge.buffers.set handle buffer }

/-- Put a new buffer behind a new handle, or record the fault that prevented it. -/
def bufferHandle (outcome : Except Fault Buffer) : Call (Option Nat) := do
  match outcome with
  | .ok buffer =>
    let _ ← succeed
    modifyGet fun bridge =>
      let (handle, buffers) := bridge.buffers.add buffer
      (some handle, { bridge with buffers })
  | .error fault =>
    let _ ← fail fault
    return none

/-- Refuse a call that returns a handle or a pointer. -/
def refuseNull {α : Type} (reason : String) : Call (Option α) := do
  let _ ← refuse reason
  return none

/-- The bytes that a pointer to `size` bytes points at; a null pointer will do for none. -/
def rawBytes? (data : Option Bytes) (size : Nat) : Option Bytes :=
  if size = 0 then some [] else data.map (·.take size)

/-- Make a buffer of `count` elements. -/
def bufferCreate [Allocator] (tag : Nat) (data : Option Bytes) (count : Nat) :
    Call (Option Nat) := do
  match Kind.ofTag? tag with
  | none => refuseNull unknownKind
  | some kind =>
    match (Word.mul? count kind.width).bind (rawBytes? data) with
    | none => refuseNull "null element data"
    | some bytes => bufferHandle (← createBuffer kind bytes)

/-- Destroy the buffer behind a handle. A null handle is left alone. -/
def bufferDestroy (handle : Option Nat) : Call Unit := do
  match ← buffer? handle with
  | some (h, buffer) =>
    modify fun bridge => { bridge with buffers := bridge.buffers.erase h }
    emit .bufferHandleDestroyed
    StateT.lift buffer.destroy
  | none => return ()

/-- Edit the buffer behind a handle. The buffer that the edit leaves behind is the one that is there
afterwards, whatever the outcome. -/
def editBuffer {α : Type} (handle : Nat) (buffer : Buffer) (edit : Buffer.Edit α) :
    Call (Except Fault α) := do
  let (outcome, left) ← StateT.lift (edit.on buffer)
  setBuffer handle left
  return outcome

/-- Edit the buffer behind a handle, and record the outcome. -/
def update (handle : Nat) (buffer : Buffer) (edit : Buffer.Edit Unit) : Call Int := do
  status (← editBuffer handle buffer edit)

/-- Append one buffer to another, which may be the same. -/
def bufferAppend [Allocator] (handle other : Option Nat) : Call Int := do
  match ← buffer? handle, ← buffer? other with
  | some (h, buffer), some (k, appended) =>
    update h buffer (if h = k then Buffer.Edit.appendCopy else Buffer.Edit.append appended)
  | _, _ => refuse nullBuffer

/-- The bytes of one element of a buffer that a pointer points at. -/
def element? (buffer : Buffer) (operand : Option Operand) : Call (Option Bytes) := do
  let bridge ← get
  return operand.map fun operand => operand.load bridge buffer.kind.width

/-- Insert an element before the one at `index`. -/
def bufferInsert [Allocator] (handle : Option Nat) (index : Nat) (operand : Option Operand) :
    Call Int := do
  match ← buffer? handle with
  | none => refuse nullBuffer
  | some (h, buffer) =>
    match ← element? buffer operand with
    | none => refuse nullElement
    | some element => update h buffer (Buffer.Edit.insert index element)

/-- Remove the element at `index`. -/
def bufferRemoveAt (handle : Option Nat) (index : Nat) : Call Int := do
  match ← buffer? handle with
  | none => refuse nullBuffer
  | some (h, buffer) => update h buffer (Buffer.Edit.removeAt index)

/-- The position of the first element equal to a given one, or -1. -/
def bufferFindFirst (handle : Option Nat) (operand : Option Operand) : Call Int := do
  match ← buffer? handle with
  | none => refuse nullBuffer
  | some (_, buffer) =>
    match ← element? buffer operand with
    | none => refuse nullElement
    | some element =>
      match buffer.findFirst element with
      | .ok found =>
        let _ ← succeed
        return match found with
          | some index => index
          | none => -1
      | .error fault =>
        let _ ← fail fault
        return -1

/-- The number of elements equal to a given one, or -1 for a call that failed. -/
def bufferCount (handle : Option Nat) (operand : Option Operand) : Call Int := do
  match ← buffer? handle with
  | none => refuse nullBuffer
  | some (_, buffer) =>
    match ← element? buffer operand with
    | none => refuse nullElement
    | some element =>
      match buffer.countEqual element with
      | .ok count =>
        let _ ← succeed
        return count
      | .error fault =>
        let _ ← fail fault
        return -1

/-- Remove the first element equal to a given one. If the call succeeds, `removed` is told whether
there was one. -/
def bufferRemoveValue (handle : Option Nat) (operand : Option Operand) (removed : Option Outlet) :
    Call Int := do
  match ← buffer? handle with
  | none => refuse nullBuffer
  | some (h, buffer) =>
    match ← element? buffer operand with
    | none => refuse nullElement
    | some element =>
      match ← editBuffer h buffer (Buffer.Edit.removeValue element) with
      | .ok found =>
        modify fun bridge => bridge.tell removed found
        succeed
      | .error fault => fail fault

/-- Put the elements of a buffer in the opposite order. -/
def bufferReverse (handle : Option Nat) : Call Int := do
  match ← buffer? handle with
  | none => refuse nullBuffer
  | some (h, buffer) => update h buffer Buffer.Edit.reverse

/-- Remove all elements of a buffer. -/
def bufferClear (handle : Option Nat) : Call Int := do
  match ← buffer? handle with
  | none => refuse nullBuffer
  | some (h, buffer) => update h buffer Buffer.Edit.clear

/-- Make a copy of a buffer. -/
def bufferCopy [Allocator] (handle : Option Nat) : Call (Option Nat) := do
  match ← buffer? handle with
  | none => refuseNull nullBuffer
  | some (_, buffer) => bufferHandle (← attempt buffer.copy)

/-- The address of the element at `index`. -/
def bufferElementAt (handle : Option Nat) (index : Nat) : Call (Option Address) := do
  match ← buffer? handle with
  | none => refuseNull nullBuffer
  | some (h, buffer) =>
    if index < buffer.length then
      let _ ← succeed
      return some ⟨.buffer h, (index * buffer.kind.width : Nat)⟩
    else
      let _ ← fail (Fault.index index buffer.length)
      return none

/-- The number of elements of a buffer. -/
def bufferLength (handle : Option Nat) : Call Nat := do
  return ((← buffer? handle).map fun (_, buffer) => buffer.length).getD 0

/-- The capacity of a buffer. -/
def bufferCapacity (handle : Option Nat) : Call Nat := do
  return ((← buffer? handle).map fun (_, buffer) => buffer.capacity).getD 0

/-- The tag of the kind of a buffer, or -1 for a null handle. -/
def bufferKind (handle : Option Nat) : Call Int := do
  return ((← buffer? handle).map fun (_, buffer) => (buffer.kind.tag : Int)).getD refusedCode

end Call

end HostBridge
