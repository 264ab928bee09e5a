import HostBridge.Marshal.Basic

/-!
# Array conversions

A view of a host array borrows its storage and copies nothing. Buffers and new host arrays hold
copies, gathered element by element in the order of the indices.
-/

namespace HostBridge.Marshal

variable {H R : Type} [Host H R]

/-- What the host reports about an object that must be an array. -/
def arrayInfo (object : R) : Marshal H ArrayInfo := do
  let host ← ask id
  match Host.arrayInfo host object with
  | some info => return info
  | none => fail "array" (Fault.conversion "ndarray" (Host.typeOf host object).typeName)

/-- The kind of the elements of an array, which must have the width that the host reports. -/
def infoKind (info : ArrayInfo) : Marshal H Kind :=
  match (Kind.ofTypeCode? info.typeCode).filter fun kind => kind.width == info.itemSize with
  | some kind => return kind
  | none => fail "array" (Fault.conversion "array of a supported element kind"
      s!"array type {info.typeCode} ({info.itemSize} byte items)")

/-- A view of the array that the host reports. -/
def viewOfInfo (info : ArrayInfo) : Marshal H Descriptor := do
  let kind ← infoKind info
  match ← ExceptT.lift (StateT.lift
      (Descriptor.ofStrided info.data info.shape info.strides kind).outcome) with
  | .ok view =>
    countView
    emit (.converted "ndarray" kind.name)
    return view
  | .error fault => fail "array" fault

/-- A view of a host array. -/
def toDescriptor (object : R) : Marshal H Descriptor := do viewOfInfo (← arrayInfo object)

/-- Whether an object is an array with `rank` axes. -/
def hasRank (host : H) (object : R) (rank : Nat) : Bool :=
  (Host.arrayInfo host object).any fun info => info.rank == rank

/-- Whether an object is an array of elements of a kind. -/
def hasKind (host : H) (object : R) (kind : Kind) : Bool :=
  (Host.arrayInfo host object).any fun info => Kind.ofTypeCode? info.typeCode == some kind

/-- A view of the array passed for a named argument, which must have the given rank and kind. -/
def extract (object : R) (argument : String) (rank : Nat) (kind : Kind) :
    Marshal H Descriptor := do
  let info ← named argument (arrayInfo object)
  if info.rank ≠ rank then
    fail "array" ((Fault.shape s!"rank {rank}" s!"rank {info.rank}").withArgument argument)
  let found := Kind.ofTypeCode? info.typeCode
  if found ≠ some kind then
    let found := match found with
      | some found => s!"{found.name} array"
      | none => s!"array type {info.typeCode}"
    fail "array" ((Fault.conversion s!"{kind.name} array" found).withArgument argument)
  named argument (viewOfInfo info)

/-- A buffer with a copy of the elements of a host array with one axis, given what the places of
memory hold. The elements are gathered first; that a process cannot gather more than
`Word.maxSigned` bytes and panics is not modelled, so an array of that size ends with the fault of
the allocation. -/
def toBuffer [Allocator] (regions : Regions) (object : R) : Marshal H Buffer := do
  let info ← arrayInfo object
  if info.rank ≠ 1 then
    fail "typed buffer" (Fault.shape "rank 1" s!"rank {info.rank}")
  timed "to_typed_buffer" do
    let view ← viewOfInfo info
    let elements ← liftExcept ((List.range view.length).mapM fun i =>
      view.elementBytes (view.region regions) [i])
    let buffer ← attempt (Buffer.create (← defaultCapacity) view.kind elements.flatten)
    countConversion
    return buffer

/-- Make a host array from the bytes of its elements. -/
def newArray (shape : Shape) (kind : Kind) (bytes : Bytes) : Marshal H R := do
  match ← primitive (Host.newArray · shape kind.typeCode bytes) with
  | some object =>
    countObject
    emit (.converted kind.name "ndarray")
    return object
  | none => fail "host array" (Fault.allocation "host array" bytes.length)

/-- Make a host array with a copy of the elements of a buffer. -/
def ofBuffer (buffer : Buffer) : Marshal H R :=
  newArray [buffer.length] buffer.kind buffer.bytes

/-- Make a dense row-major host array with a copy of the elements of an array, given what the places
of memory hold. As for `toBuffer`, the panic of a process that gathers more than `Word.maxSigned`
bytes is not modelled. -/
def ofDescriptor (regions : Regions) (array : Descriptor) : Marshal H R :=
  timed "from_array_descriptor"
    (newArray array.shape array.kind (array.gather (array.region regions)))

end HostBridge.Marshal
