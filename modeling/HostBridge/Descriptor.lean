import HostBridge.Allocator
import HostBridge.Place
import HostBridge.Shape
import HostBridge.Value

/-!
# Array descriptors

A descriptor gives shape and strides to memory that it either borrows or owns. Owned memory is
part of the descriptor; borrowed memory is named by an address. Accesses to elements are functions
of the region that the elements lie in, so reading and writing are stated once for both.
-/

namespace HostBridge

/-- Where the elements of an array lie. -/
inductive Source where
  /-- In a block that belongs to the descriptor and is released with it. -/
  | owned (block : Bytes)
  /-- In memory of somebody else, which is never released. An array without elements may lie
  nowhere. -/
  | borrowed (address : Option Address)
  deriving DecidableEq

/-- An array: the layout of its elements and where they lie. -/
structure Descriptor where
  /-- The kind of the elements. -/
  kind : Kind
  /-- The extent of each axis. -/
  shape : Shape
  /-- The stride of each axis in bytes. -/
  strides : Strides
  /-- Where the elements lie. -/
  source : Source
  /-- The number of elements. -/
  length : Nat
  /-- The number of bytes that the elements take together. -/
  byteLength : Nat
  deriving DecidableEq

namespace Descriptor

/-- The name under which blocks of descriptors are accounted for. -/
def entity : String := "array descriptor"

/-- A list of words written between brackets. -/
def showList {α : Type} [ToString α] (items : List α) : String :=
  "[" ++ ", ".intercalate (items.map toString) ++ "]"

/-- Describe memory of somebody else with explicit strides. -/
def ofStrided (data : Option Address) (shape : Shape) (strides : Strides) (kind : Kind) :
    Attempt Descriptor := do
  if shape.length ≠ strides.length then
    throw (Fault.shape s!"{shape.length} strides" s!"{strides.length} strides")
  match shape.count? with
  | none => throw (Fault.shape "addressable extents" (showList shape))
  | some length =>
    if data.isNone && length != 0 then
      throw (Fault.conversion "array data pointer" "null")
    Attempt.emit (.viewCreated kind shape.length length)
    return {
      kind, shape, strides, length
      source := .borrowed data
      byteLength := Word.unsigned (length * kind.width) }

/-- Describe memory of somebody else that is laid out densely. -/
def ofDense (data : Option Address) (shape : Shape) (kind : Kind) (order : Order) :
    Attempt Descriptor :=
  ofStrided data shape (shape.denseStrides kind.width order) kind

/-- Describe a run of `length` elements that is known to be there. -/
def ofRun (data : Address) (length : Nat) (kind : Kind) : Descriptor where
  kind := kind
  shape := [length]
  strides := Shape.denseStrides [length] kind.width .rowMajor
  source := .borrowed (some data)
  length := length
  byteLength := Word.unsigned (length * kind.width)

/-- The size of the block of an owned array; an empty array still has a block of one alignment. -/
def blockSize (kind : Kind) (byteLength : Nat) : Nat := max byteLength kind.align

/-- An array of zeros that owns its block. -/
def zeros [Allocator] (shape : Shape) (kind : Kind) (order : Order) : Attempt Descriptor := do
  match shape.count? with
  | none => throw (Fault.allocation entity Word.maxUnsigned)
  | some length =>
    match Word.mul? length kind.width with
    | none => throw (Fault.allocation entity Word.maxUnsigned)
    | some byteLength =>
      Allocator.obtain entity (blockSize kind byteLength) kind.align
      return {
        kind, shape, length, byteLength
        strides := shape.denseStrides kind.width order
        source := .owned (Bytes.zeros (blockSize kind byteLength)) }

variable (array : Descriptor)

/-- The number of axes. -/
def rank : Nat := array.shape.length

/-- Whether the array has no elements. -/
def isEmpty : Bool := array.length == 0

/-- Whether the memory belongs to somebody else. -/
def isView : Bool :=
  match array.source with
  | .owned _ => false
  | .borrowed _ => true

/-- The strides counted in elements, if each is a whole number of them. -/
def elementStrides? : Option (List Int) :=
  array.strides.mapM fun stride =>
    if stride.tmod array.kind.width = 0 then some (stride.tdiv array.kind.width) else none

/-- Whether the elements lie densely in the given order. -/
def isDense (order : Order) : Bool :=
  array.shape.isDense array.strides array.kind.width order

/-- The position of the first element in the region that the array lies in. -/
def base : Int :=
  match array.source with
  | .borrowed (some address) => address.offset
  | _ => 0

/-- The region that the array lies in, given what the borrowed places hold. -/
def region (regions : Regions) : Bytes :=
  match array.source with
  | .owned block => block
  | .borrowed (some address) => regions address.place
  | .borrowed none => []

/-- The distance in bytes from the first element to the one at an index. -/
def byteOffset (index : Index) : Except Fault Int := do
  if index.length ≠ array.rank then
    throw (Fault.shape s!"{array.rank} indices" s!"{index.length} indices")
  match array.shape.outside? index with
  | some (i, extent) => throw (Fault.index i extent)
  | none => return Word.signed (array.strides.offset index)

/-- The bytes at a distance from the first element. -/
def bytesAt (region : Bytes) (offset : Int) : Bytes :=
  region.window (array.base + offset) array.kind.width

/-- The bytes of the element at an index. -/
def elementBytes (region : Bytes) (index : Index) : Except Fault Bytes := do
  let offset ← array.byteOffset index
  return array.bytesAt region offset

/-- The region after the bytes of the element at an index have been replaced. -/
def setElement (region : Bytes) (index : Index) (bytes : Bytes) : Except Fault Bytes := do
  let offset ← array.byteOffset index
  return region.setWindow (array.base + offset) bytes

/-- The value at an index, read as an element of the given kind. -/
def read (region : Bytes) (kind : Kind) (index : Index) : Except Fault (Value kind) := do
  if kind ≠ array.kind then
    throw (Fault.kindMismatch array.kind kind)
  let bytes ← array.elementBytes region index
  return Value.decode kind bytes

/-- The region after a value has been written at an index. -/
def write (region : Bytes) (kind : Kind) (index : Index) (value : Value kind) :
    Except Fault Bytes := do
  if kind ≠ array.kind then
    throw (Fault.kindMismatch array.kind kind)
  array.setElement region index (Value.encode kind value)

/-- The elements at every index, the last coordinate varying fastest. -/
def elements (region : Bytes) : List Bytes :=
  array.shape.indices.map fun index =>
    array.bytesAt region (Word.signed (array.strides.offset index))

/-- The bytes of all elements, one after another. -/
def gather (region : Bytes) : Bytes := (array.elements region).flatten

/-- Replace the block of an owned array; a view stays as it is. -/
def withBlock (block : Bytes) : Descriptor :=
  match array.source with
  | .owned _ => { array with source := .owned block }
  | .borrowed _ => array

/-- The block that an owned array lies in. -/
def block : Bytes :=
  match array.source with
  | .owned block => block
  | .borrowed _ => []

/-- A dense row-major copy that owns its block. Each element is written at its own place. -/
def toOwned [Allocator] (region : Bytes) : Attempt Descriptor := do
  let copy ← zeros array.shape array.kind .rowMajor
  return copy.withBlock (array.shape.indices.foldl (fun block index =>
    block.setWindow (Word.signed (copy.strides.offset index))
      (array.bytesAt region (Word.signed (array.strides.offset index)))) copy.block)

/-- Let go of the array: an owned block is released, borrowed memory is left alone. -/
def release : Traced Unit :=
  match array.source with
  | .owned _ => Traced.emit (.released entity (blockSize array.kind array.byteLength))
  | .borrowed _ => pure ()

/-- Destroy the array. -/
def destroy : Traced Unit := do
  Traced.emit (.arrayDestroyed array.kind array.isView)
  array.release

/-- The array written out with its layout. -/
def describe : String :=
  "ArrayDescriptor \x7b kind: " ++ array.kind.label ++ ", shape: " ++ showList array.shape ++
    ", strides: " ++ showList array.strides ++ ", view: " ++ toString array.isView ++ " \x7d"

end Descriptor

end HostBridge
