import HostBridge.Marshal.Basic

/-!
# Scalar conversions

Numbers are read by the primitives of the host, which report a failure by the value -1. That value
is a failure only if an exception is pending. Integers must lie in the range of the native kind;
floating-point numbers are rounded to it. Truth values are recognised by identity.
-/

namespace HostBridge.Marshal

variable {H R : Type} [Host H R]

/-- Read an integer of 64 bits on behalf of a conversion to `target`. -/
def readInt (target : String) (object : R) : Marshal H Int := do
  let value ← primitive (Host.asInt · object)
  if value = -1 && (← ask Host.errorOccurred) then
    fail target (Fault.hostRaised target)
  return value

/-- Read a number by a primitive on behalf of a conversion to `target`. -/
def readFloat (target : String) (read : H → Binary64 × H) : Marshal H Binary64 := do
  let value ← primitive read
  if value = Binary64.minusOne && (← ask Host.errorOccurred) then
    fail target (Fault.hostRaised target)
  return value

/-- Read an integer of `bits` bits. One that is out of range also leaves an exception pending. -/
def narrow (target : String) (bits : Nat) (object : R) : Marshal H Int := do
  let value ← readInt target object
  if Word.Fits bits value then
    countConversion
    emit (.converted "int" target)
    return value
  else
    primitive fun (host : H) => ((), Host.setError host
      ⟨.overflowError, s!"value {value} out of range for {target}"⟩)
    fail target (Fault.conversion target s!"int {value}")

/-- Read an object as an integer of 8 bits. -/
def toInt8 (object : R) : Marshal H Int8 := do
  return Int8.ofInt (← narrow "int8" 8 object)

/-- Read an object as an integer of 16 bits. -/
def toInt16 (object : R) : Marshal H Int16 := do
  return Int16.ofInt (← narrow "int16" 16 object)

/-- Read an object as an integer of 32 bits. -/
def toInt32 (object : R) : Marshal H Int32 := do
  return Int32.ofInt (← narrow "int32" 32 object)

/-- Read an object as an integer of 64 bits. -/
def toInt64 (object : R) : Marshal H Int64 := do
  let value ← readInt "int64" object
  countConversion
  emit (.converted "int" "int64")
  return Int64.ofInt value

/-- Read an object as a floating-point number of 64 bits. -/
def toFloat64 (object : R) : Marshal H Binary64 := do
  let value ← readFloat "float64" (Host.asFloat · object)
  countConversion
  emit (.converted "float" "float64")
  return value

/-- Read an object as a floating-point number of 32 bits. -/
def toFloat32 (object : R) : Marshal H Binary32 := do
  let value ← readFloat "float32" (Host.asFloat · object)
  countConversion
  emit (.converted "float" "float32")
  return value.narrow

/-- Read an object as a truth value. -/
def toBool (object : R) : Marshal H Bool := do
  let host ← ask id
  if Host.isSame host object (Host.trueRef host) then
    countConversion
    emit (.converted "bool" "bool")
    return true
  else if Host.isSame host object (Host.falseRef host) then
    countConversion
    emit (.converted "bool" "bool")
    return false
  else
    fail "bool" (Fault.conversion "bool" (Host.typeOf host object).typeName)

/-- Read both parts of a number on behalf of a conversion to `target`. -/
def readComplex (target : String) (object : R) : Marshal H (Complex Binary64) := do
  let re ← readFloat target (Host.complexReal · object)
  let im ← readFloat target (Host.complexImag · object)
  countConversion
  emit (.converted "complex" target)
  return ⟨re, im⟩

/-- Read an object as a complex number with 64-bit parts. -/
def toComplex128 (object : R) : Marshal H (Complex Binary64) := readComplex "complex128" object

/-- Read an object as a complex number with 32-bit parts. -/
def toComplex64 (object : R) : Marshal H (Complex Binary32) := do
  let value ← readComplex "complex64" object
  return ⟨value.re.narrow, value.im.narrow⟩

/-- Read an object as a value of a kind. -/
def toValue : (kind : Kind) → R → Marshal H (Value kind)
  | .bool, object => toBool object
  | .int8, object => toInt8 object
  | .int16, object => toInt16 object
  | .int32, object => toInt32 object
  | .int64, object => toInt64 object
  | .float32, object => toFloat32 object
  | .float64, object => toFloat64 object
  | .complex64, object => toComplex64 object
  | .complex128, object => toComplex128 object

/-- Make a host object by a primitive; `entity` and `bytes` describe it if that fails. -/
def created (entity : String) (bytes : Nat) (make : H → Option R × H) : Marshal H R := do
  match ← primitive make with
  | some object =>
    countObject
    return object
  | none => fail entity (Fault.allocation entity bytes)

/-- Make a host integer. -/
def ofInt (value : Int) : Marshal H R := created "host int" 8 (Host.newInt · value)

/-- Make a host floating-point number. -/
def ofFloat (value : Binary64) : Marshal H R := created "host float" 8 (Host.newFloat · value)

/-- Make a host complex number. -/
def ofComplex (value : Complex Binary64) : Marshal H R :=
  created "host complex" 16 (Host.newComplex · value)

/-- Take a reference to the host object for a truth value. -/
def ofBool (value : Bool) : Marshal H R := do
  let host ← ask id
  let object := if value then Host.trueRef host else Host.falseRef host
  let host ← ExceptT.lift (StateT.lift (Host.incref host object))
  primitive fun _ => (object, host)

/-- Make a host object from a value of a kind. -/
def ofValue : (kind : Kind) → Value kind → Marshal H R
  | .bool, (value : Bool) => ofBool value
  | .int8, (value : Int8) => ofInt value.toInt
  | .int16, (value : Int16) => ofInt value.toInt
  | .int32, (value : Int32) => ofInt value.toInt
  | .int64, (value : Int64) => ofInt value.toInt
  | .float32, (value : Binary32) => ofFloat value.widen
  | .float64, (value : Binary64) => ofFloat value
  | .complex64, (value : Complex Binary32) => ofComplex ⟨value.re.widen, value.im.widen⟩
  | .complex128, (value : Complex Binary64) => ofComplex value

/-- The host type that values of a kind have. -/
def hostType : Kind → HostType
  | .bool => .bool
  | .int8 | .int16 | .int32 | .int64 => .int
  | .float32 | .float64 => .float
  | .complex64 | .complex128 => .complex

/-- Whether an object has the host type of a kind. -/
def hasHostType (host : H) (object : R) (kind : Kind) : Bool :=
  Host.typeOf host object == hostType kind

end HostBridge.Marshal
