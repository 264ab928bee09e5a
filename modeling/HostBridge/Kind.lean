import HostBridge.Numeral

/-!
# Element kinds

A container holds elements of one kind. The kind fixes the width of an element in bytes, the
alignment of its block, and its names on both sides of the bridge: a numeric tag for native
callers, a type code and a type string for host arrays, and a type name for messages.
-/

namespace HostBridge

/-- The scalar kinds that a buffer or an array can hold. -/
inductive Kind where
  /-- Truth values, one byte each. -/
  | bool
  /-- Signed integers of 8 bits. -/
  | int8
  /-- Signed integers of 16 bits. -/
  | int16
  /-- Signed integers of 32 bits. -/
  | int32
  /-- Signed integers of 64 bits. -/
  | int64
  /-- Binary floating-point numbers of 32 bits. -/
  | float32
  /-- Binary floating-point numbers of 64 bits. -/
  | float64
  /-- Complex numbers with two 32-bit parts. -/
  | complex64
  /-- Complex numbers with two 64-bit parts. -/
  | complex128
  deriving DecidableEq

namespace Kind

/-- Every kind, in the order of the tags. -/
def all : List Kind :=
  [bool, int8, int16, int32, int64, float32, float64, complex64, complex128]

/-- The size of one element in bytes. -/
def width : Kind → Nat
  | bool | int8 => 1
  | int16 => 2
  | int32 | float32 => 4
  | int64 | float64 | complex64 => 8
  | complex128 => 16

theorem width_pos (kind : Kind) : 0 < kind.width := by
  cases kind <;> decide

/-- The alignment of a block of elements; complex numbers align like their parts. -/
def align : Kind → Nat
  | complex64 => 4
  | complex128 => 8
  | kind => kind.width

/-- The tag by which native callers name the kind. -/
def tag : Kind → Nat
  | bool => 0
  | int8 => 1
  | int16 => 2
  | int32 => 3
  | int64 => 4
  | float32 => 5
  | float64 => 6
  | complex64 => 7
  | complex128 => 8

/-- The kind with the given tag. -/
def ofTag? (tag : Nat) : Option Kind := all[tag]?

/-- The type number that host arrays of this kind report. -/
def typeCode : Kind → Int
  | bool => 0
  | int8 => 1
  | int16 => 3
  | int32 => 5
  | int64 => 7
  | float32 => 11
  | float64 => 12
  | complex64 => 14
  | complex128 => 15

/-- The kind of host arrays that report the given type number. Both 7 and 9 stand for integers
of 64 bits. -/
def ofTypeCode? : Int → Option Kind
  | 0 => some bool
  | 1 => some int8
  | 3 => some int16
  | 5 => some int32
  | 7 | 9 => some int64
  | 11 => some float32
  | 12 => some float64
  | 14 => some complex64
  | 15 => some complex128
  | _ => none

/-- A host array of some kind is taken for one of that kind. -/
@[simp]
theorem ofTypeCode?_typeCode (kind : Kind) : ofTypeCode? kind.typeCode = some kind := by
  cases kind <;> rfl

/-- The kind with a class letter and a width in bytes. -/
def ofClass? : Char → Nat → Option Kind
  | 'b', 1 => some bool
  | 'i', 1 => some int8
  | 'i', 2 => some int16
  | 'i', 4 => some int32
  | 'i', 8 => some int64
  | 'f', 4 => some float32
  | 'f', 8 => some float64
  | 'c', 8 => some complex64
  | 'c', 16 => some complex128
  | _, _ => none

/-- A byte-order mark that describes little-endian or order-free elements. -/
def isNativeOrder (mark : Char) : Bool :=
  mark == '<' || mark == '|' || mark == '='

/-- Read a type string: a byte-order mark, a class letter and a width. -/
def ofTypeString? (text : String) : Option Kind :=
  match text.toList with
  | mark :: letter :: size =>
    (Numeral.word? size).bind fun width =>
      if isNativeOrder mark then ofClass? letter width else none
  | _ => none

/-- The byte-order mark of the type string; single bytes have no order. -/
def orderMark : Kind → Char
  | bool | int8 => '|'
  | _ => '<'

/-- The class letter of the type string. -/
def classLetter : Kind → Char
  | bool => 'b'
  | int8 | int16 | int32 | int64 => 'i'
  | float32 | float64 => 'f'
  | complex64 | complex128 => 'c'

/-- The type string of the kind. -/
def typeString (kind : Kind) : String :=
  String.ofList [kind.orderMark, kind.classLetter] ++ toString kind.width

/-- The format letter by which an argument of this kind is parsed. Complex arguments are taken
as general objects and unwrapped later. -/
def parseCode : Kind → Char
  | bool => 'p'
  | int8 => 'b'
  | int16 => 'h'
  | int32 => 'i'
  | int64 => 'l'
  | float32 => 'f'
  | float64 => 'd'
  | complex64 | complex128 => 'O'

/-- The name of the host type that values of this kind become. -/
def hostTypeName : Kind → String
  | bool => "bool"
  | int8 | int16 | int32 | int64 => "int"
  | float32 | float64 => "float"
  | complex64 | complex128 => "complex"

/-- The name of the kind in messages and events. -/
def name : Kind → String
  | bool => "bool"
  | int8 => "int8"
  | int16 => "int16"
  | int32 => "int32"
  | int64 => "int64"
  | float32 => "float32"
  | float64 => "float64"
  | complex64 => "complex64"
  | complex128 => "complex128"

/-- The capitalised name of the kind, used in structural descriptions. -/
def label : Kind → String
  | bool => "Bool"
  | int8 => "Int8"
  | int16 => "Int16"
  | int32 => "Int32"
  | int64 => "Int64"
  | float32 => "Float32"
  | float64 => "Float64"
  | complex64 => "Complex64"
  | complex128 => "Complex128"

/-- The kind with the given name. -/
def ofName? (name : String) : Option Kind := all.find? fun kind => kind.name == name

end Kind

end HostBridge
