import HostBridge.Binary
import HostBridge.Place
import HostBridge.Shape
import HostBridge.Value

/-!
# Host objects

The values that live on the host side: numbers, truth values, text, the empty value, and arrays
that own their storage. Exceptions are the classes of error that the host can carry.
-/

namespace HostBridge

/-- The type of a host object, as the host's own checks see it. -/
inductive HostType where
  /-- Integers. -/
  | int
  /-- Floating-point numbers. -/
  | float
  /-- Complex numbers. -/
  | complex
  /-- Truth values. -/
  | bool
  /-- The empty value. -/
  | none
  /-- Arrays. -/
  | array
  /-- Anything else, and objects that are gone. -/
  | other
  deriving DecidableEq

namespace HostType

/-- The name of a type. -/
def label : HostType → String
  | int => "Int"
  | float => "Float"
  | complex => "Complex"
  | bool => "Bool"
  | none => "None"
  | array => "Array"
  | other => "Other"

/-- The type name by which a message refers to an object of this type. -/
def typeName : HostType → String
  | int => "int"
  | float => "float"
  | complex => "complex"
  | bool => "bool"
  | none => "NoneType"
  | array => "ndarray"
  | other => "object"

/-- Every type. -/
def all : List HostType := [int, float, complex, bool, none, array, other]

/-- The type with the given name. -/
def ofLabel? (label : String) : Option HostType := all.find? fun type => type.label == label

end HostType

/-- The classes of exception that can be raised in the host. -/
inductive ExceptionClass where
  /-- An object of the wrong type. -/
  | typeError
  /-- An object of the right type with an unsuitable value. -/
  | valueError
  /-- A number out of range. -/
  | overflowError
  /-- An index out of range. -/
  | indexError
  /-- Memory that could not be obtained. -/
  | memoryError
  deriving DecidableEq

namespace ExceptionClass

/-- The name of an exception class. -/
def name : ExceptionClass → String
  | typeError => "TypeError"
  | valueError => "ValueError"
  | overflowError => "OverflowError"
  | indexError => "IndexError"
  | memoryError => "MemoryError"

/-- Every exception class. -/
def all : List ExceptionClass := [typeError, valueError, overflowError, indexError, memoryError]

/-- The exception class with the given name. -/
def ofName? (name : String) : Option ExceptionClass := all.find? fun kind => kind.name == name

end ExceptionClass

/-- An exception that the host carries. -/
structure Exception where
  /-- The class of the exception. -/
  kind : ExceptionClass
  /-- Its text. -/
  message : String
  deriving DecidableEq

/-- What the host reports about an array. -/
structure ArrayInfo where
  /-- The first element, or `none` for a null pointer. -/
  data : Option Address
  /-- The extent of each axis. -/
  shape : Shape
  /-- The stride of each axis in bytes. -/
  strides : Strides
  /-- The type number of the elements. -/
  typeCode : Int
  /-- The size of one element in bytes. -/
  itemSize : Nat
  /-- The number of elements. -/
  length : Nat
  /-- The number of bytes that the elements take together. -/
  byteLength : Nat
  deriving DecidableEq

/-- The number of axes that the host reports. -/
def ArrayInfo.rank (info : ArrayInfo) : Nat := info.shape.length

/-- An array object together with its storage. -/
structure HostArray where
  /-- The kind of the elements. -/
  kind : Kind
  /-- The extent of each axis. -/
  shape : Shape
  /-- The stride of each axis in bytes. -/
  strides : Strides
  /-- The position of the first element in the storage. -/
  offset : Nat
  /-- The storage: a whole number of eight-byte words, and one word at least. -/
  storage : Bytes
  deriving DecidableEq

namespace HostArray

/-- An array whose storage begins with the given bytes. -/
def ofBytes (kind : Kind) (shape : Shape) (strides : Strides) (offset : Nat) (bytes : Bytes) :
    HostArray :=
  { kind, shape, strides, offset, storage := bytes.padTo 8 }

/-- The storage from the first element on. -/
def bytes (array : HostArray) : Bytes := array.storage.drop array.offset

/-- Widen the positions of the lowest and the highest element by one more axis. The last element
along the axis lies `(extent - 1) * stride` bytes from the first. The product of two words fits in
128 bits; the sums may not, and then they wrap around. -/
def widen (reach : Int × Int) (axis : Nat × Int) : Int × Int :=
  let span := ((axis.1 : Int) - 1) * axis.2
  if span < 0 then (Word.wrap 128 (reach.1 + span), reach.2)
  else (reach.1, Word.wrap 128 (reach.2 + span))

/-- The positions of the lowest and of the highest element in 128 bits, where the first lies at
`offset` and every axis has elements. -/
def reach (offset : Nat) (axes : List (Nat × Int)) : Int × Int :=
  axes.foldl widen ((offset : Int), (offset : Int))

/-- Whether every element of a layout lies inside storage of `length` bytes, as far as the lowest
and the highest element tell. If their positions leave 128 bits, what they tell is wrong. -/
def layoutFits (shape : Shape) (strides : Strides) (offset width length : Nat) : Bool :=
  if shape.length ≠ strides.length ∨ length < offset then false
  else if shape.hasEmptyAxis then true
  else
    let (low, high) := reach offset (shape.zip strides)
    decide (0 ≤ low ∧ Word.wrap 128 (high + width) ≤ length)

end HostArray

/-- The value of a host object. -/
inductive Object where
  /-- An integer. -/
  | int (value : Int)
  /-- A floating-point number. -/
  | float (value : Binary64)
  /-- A complex number. -/
  | complex (value : Complex Binary64)
  /-- A truth value. -/
  | bool (value : Bool)
  /-- The empty value. -/
  | none
  /-- A text. -/
  | str (value : String)
  /-- An array. -/
  | array (value : HostArray)
  deriving DecidableEq

namespace Object

/-- The type name by which a message refers to an object. -/
def typeName : Object → String
  | int _ => "int"
  | float _ => "float"
  | complex _ => "complex"
  | bool _ => "bool"
  | none => "NoneType"
  | str _ => "str"
  | array _ => "ndarray"

/-- The type of an object. -/
def type : Object → HostType
  | int _ => .int
  | float _ => .float
  | complex _ => .complex
  | bool _ => .bool
  | none => .none
  | str _ => .other
  | array _ => .array

/-- Whether two objects have equal values. Numbers compare numerically, so a pattern that is no
number differs from itself; arrays compare their layout and storage. -/
def same : Object → Object → Bool
  | int a, int b => a == b
  | float a, float b => a.same b
  | complex a, complex b => a.re.same b.re && a.im.same b.im
  | bool a, bool b => a == b
  | none, none => true
  | str a, str b => a == b
  | array a, array b => a == b
  | _, _ => false

end Object

end HostBridge
