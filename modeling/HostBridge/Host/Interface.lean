import HostBridge.Host.Object
import HostBridge.Traced

/-!
# The host interface

All that conversions need of a host. Primitives that read a number report failure by the value -1
and leave an exception pending; primitives that make an object report failure by `none` and leave
an exception pending. Arguments are borrowed: no primitive except `incref` and `decref` changes a
reference count, and a new object starts with one reference.
-/

namespace HostBridge

/-- A host with state of type `H`, whose objects are named by references of type `R`. -/
class Host (H : Type) (R : outParam Type) where
  /-- Take a reference to an object. -/
  incref : H → R → Traced H
  /-- Give back a reference to an object. -/
  decref : H → R → Traced H
  /-- Whether two references name the same object. -/
  isSame : H → R → R → Bool
  /-- The type of an object. -/
  typeOf : H → R → HostType
  /-- The value of an integer, or -1 with an exception pending. -/
  asInt : H → R → Int × H
  /-- The value of a real number, or -1 with an exception pending. -/
  asFloat : H → R → Binary64 × H
  /-- The real part of a number, or -1 with an exception pending. -/
  complexReal : H → R → Binary64 × H
  /-- The imaginary part of a number, or -1 with an exception pending. -/
  complexImag : H → R → Binary64 × H
  /-- Whether an exception is pending. -/
  errorOccurred : H → Bool
  /-- Make an exception pending, in place of any other. -/
  setError : H → Exception → H
  /-- The object that stands for true. -/
  trueRef : H → R
  /-- The object that stands for false. -/
  falseRef : H → R
  /-- What the host reports about an array, or `none` for anything else. -/
  arrayInfo : H → R → Option ArrayInfo
  /-- A new integer of 64 bits. -/
  newInt : H → Int → Option R × H
  /-- A new floating-point number. -/
  newFloat : H → Binary64 → Option R × H
  /-- A new complex number. -/
  newComplex : H → Complex Binary64 → Option R × H
  /-- A new dense row-major array with the given type number and bytes. -/
  newArray : H → Shape → Int → Bytes → Option R × H

/-- A host that reports one fixed array and one fixed type for every object. It makes no objects
and never has an exception pending. Its objects are numbers; 1 stands for true and 2 for false. -/
structure FixedHost where
  /-- What it reports about every array. -/
  info : Option ArrayInfo
  /-- The type that it reports for every object. -/
  type : HostType

instance : Host FixedHost Nat where
  incref host _ := pure host
  decref host _ := pure host
  isSame _ a b := a == b
  typeOf host _ := host.type
  asInt host _ := (-1, host)
  asFloat host _ := (Binary64.minusOne, host)
  complexReal host _ := (Binary64.minusOne, host)
  complexImag host _ := (Binary64.minusOne, host)
  errorOccurred _ := false
  setError host _ := host
  trueRef _ := 1
  falseRef _ := 2
  arrayInfo host _ := host.info
  newInt host _ := (none, host)
  newFloat host _ := (none, host)
  newComplex host _ := (none, host)
  newArray host _ _ _ := (none, host)

end HostBridge
