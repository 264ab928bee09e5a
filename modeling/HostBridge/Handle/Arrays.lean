import HostBridge.Handle.Buffers

/-!
# Arrays behind handles

The calls by which native code makes, uses and destroys array descriptors. Order 0 is row-major,
order 1 is column-major, and any other number stands for the order in the settings.
-/

namespace HostBridge.Call

/-- The array behind a handle, with the handle. -/
def array? (handle : Option Nat) : Call (Option (Nat × Descriptor)) := do
  let bridge ← get
  return handle.bind fun h => (bridge.arrays.get? h).map fun array => (h, array)

/-- Put a new array behind a new handle, or record the fault that prevented it. -/
def arrayHandle (outcome : Except Fault Descriptor) : Call (Option Nat) := do
  match outcome with
  | .ok array =>
    let _ ← succeed
    modifyGet fun bridge =>
      let (handle, arrays) := bridge.arrays.add array
      (some handle, { bridge with arrays })
  | .error fault =>
    let _ ← fail fault
    return none

/-- The order that a number stands for. -/
def orderOf (code : Int) : Call Order := do
  if code = 0 then return .rowMajor
  else if code = 1 then return .columnMajor
  else return (← settings).order

/-- The list that a pointer to `length` items points at; a null pointer will do for none. -/
def rawList? {α : Type} (data : Option (List α)) (length : Nat) : Option (List α) :=
  if length = 0 then some [] else data.map (·.take length)

/-- Describe dense memory of the caller. -/
def arrayOfDense (data : Option Address) (rank : Nat) (shape : Option Shape) (tag : Nat)
    (order : Int) : Call (Option Nat) := do
  match Kind.ofTag? tag with
  | none => refuseNull unknownKind
  | some kind =>
    match rawList? shape rank with
    | none => refuseNull "null shape"
    | some shape =>
      let order ← orderOf order
      arrayHandle (← attempt (Descriptor.ofDense data shape kind order))

/-- Describe memory of the caller with explicit strides. -/
def arrayOfStrided (data : Option Address) (rank : Nat) (shape : Option Shape)
    (strides : Option Strides) (tag : Nat) : Call (Option Nat) := do
  match Kind.ofTag? tag with
  | none => refuseNull unknownKind
  | some kind =>
    match rawList? shape rank, rawList? strides rank with
    | some shape, some strides =>
      arrayHandle (← attempt (Descriptor.ofStrided data shape strides kind))
    | _, _ => refuseNull "null shape or strides"

/-- Make an array of zeros. -/
def arrayZeros [Allocator] (rank : Nat) (shape : Option Shape) (tag : Nat) (order : Int) :
    Call (Option Nat) := do
  match Kind.ofTag? tag with
  | none => refuseNull unknownKind
  | some kind =>
    match rawList? shape rank with
    | none => refuseNull "null shape"
    | some shape =>
      let order ← orderOf order
      arrayHandle (← attempt (Descriptor.zeros shape kind order))

/-- Describe the elements of a buffer. -/
def bufferAsArray (handle : Option Nat) : Call (Option Nat) := do
  match ← buffer? handle with
  | none => refuseNull nullBuffer
  | some (h, buffer) =>
    arrayHandle (← attempt
      (Descriptor.ofDense (some ⟨.buffer h, 0⟩) [buffer.length] buffer.kind .rowMajor))

/-- Destroy the array behind a handle. A null handle is left alone. -/
def arrayDestroy (handle : Option Nat) : Call Unit := do
  match ← array? handle with
  | some (h, array) =>
    modify fun bridge => { bridge with arrays := bridge.arrays.erase h }
    emit .arrayHandleDestroyed
    StateT.lift array.destroy
  | none => return ()

/-- The number of axes of an array. -/
def arrayRank (handle : Option Nat) : Call Nat := do
  return ((← array? handle).map fun (_, array) => array.rank).getD 0

/-- The extents of an array. -/
def arrayShape (handle : Option Nat) : Call (Option Shape) := do
  return (← array? handle).map fun (_, array) => array.shape

/-- The strides of an array in bytes. -/
def arrayStrides (handle : Option Nat) : Call (Option Strides) := do
  return (← array? handle).map fun (_, array) => array.strides

/-- The tag of the kind of an array, or -1 for a null handle. -/
def arrayKind (handle : Option Nat) : Call Int := do
  return ((← array? handle).map fun (_, array) => (array.kind.tag : Int)).getD refusedCode

/-- The number of elements of an array. -/
def arrayLength (handle : Option Nat) : Call Nat := do
  return ((← array? handle).map fun (_, array) => array.length).getD 0

/-- The number of bytes that the elements of an array take together. -/
def arrayByteLength (handle : Option Nat) : Call Nat := do
  return ((← array? handle).map fun (_, array) => array.byteLength).getD 0

/-- Whether an array borrows its memory. -/
def arrayIsView (handle : Option Nat) : Call Bool := do
  return ((← array? handle).map fun (_, array) => array.isView).getD false

/-- The address of the first element of the array behind a handle. -/
def arrayData (handle : Nat) (array : Descriptor) : Option Address :=
  match array.source with
  | .owned _ => some ⟨.array handle, 0⟩
  | .borrowed address => address

/-- The address of the element at an index. -/
def arrayElement (handle : Option Nat) (index : Option Index) : Call (Option Address) := do
  match ← array? handle with
  | none => refuseNull "null array handle"
  | some (h, array) =>
    match rawList? index array.rank with
    | none => refuseNull "null index"
    | some index =>
      match array.byteOffset index with
      | .ok offset =>
        let _ ← succeed
        return (arrayData h array).map (·.shift offset)
      | .error fault =>
        let _ ← fail fault
        return none

end HostBridge.Call
