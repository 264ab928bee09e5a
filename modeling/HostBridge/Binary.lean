import HostBridge.Word

/-!
# Binary floating-point numbers

Floating-point numbers are carried as their interchange bit patterns, so that every payload and
both zeros survive storage. Three conversions need arithmetic: rounding an integer to 64 bits,
narrowing 64 bits to 32, and widening 32 bits to 64. They round to the nearest representable
number, a tie going to the even significand.
-/

namespace HostBridge

/-- A 32-bit binary floating-point number: one sign bit, 8 exponent bits, 23 fraction bits. -/
structure Binary32 where
  /-- The interchange bit pattern. -/
  bits : UInt32
  deriving DecidableEq

/-- A 64-bit binary floating-point number: one sign bit, 11 exponent bits, 52 fraction bits. -/
structure Binary64 where
  /-- The interchange bit pattern. -/
  bits : UInt64
  deriving DecidableEq

/-- A complex number with parts of type `α`. -/
structure Complex (α : Type) where
  /-- The real part. -/
  re : α
  /-- The imaginary part. -/
  im : α
  deriving DecidableEq

/-- The integer nearest to `n / 2 ^ shift`, a tie going to the even integer. -/
def roundShift (n shift : Nat) : Nat :=
  let quotient := n / twoPow shift
  let twice := 2 * (n % twoPow shift)
  if twice < twoPow shift then quotient
  else if twoPow shift < twice then quotient + 1
  else quotient + quotient % 2

namespace Binary32

/-- The sign bit: 1 for negative numbers. -/
def sign (x : Binary32) : Nat := x.bits.toNat / twoPow 31

/-- The biased exponent. -/
def exponent (x : Binary32) : Nat := x.bits.toNat / twoPow 23 % twoPow 8

/-- The fraction, without the implicit leading bit. -/
def fraction (x : Binary32) : Nat := x.bits.toNat % twoPow 23

/-- Whether the pattern stands for no number at all. -/
def isNaN (x : Binary32) : Bool := x.exponent == 255 && x.fraction != 0

end Binary32

namespace Binary64

/-- The sign bit: 1 for negative numbers. -/
def sign (x : Binary64) : Nat := x.bits.toNat / twoPow 63

/-- The biased exponent. -/
def exponent (x : Binary64) : Nat := x.bits.toNat / twoPow 52 % twoPow 11

/-- The fraction, without the implicit leading bit. -/
def fraction (x : Binary64) : Nat := x.bits.toNat % twoPow 52

/-- Whether the pattern stands for no number at all. -/
def isNaN (x : Binary64) : Bool := x.exponent == 2047 && x.fraction != 0

/-- The number with the given sign bit and remaining bits. -/
def ofParts (sign magnitude : Nat) : Binary64 :=
  ⟨UInt64.ofNat (sign * twoPow 63 + magnitude)⟩

/-- Positive zero. -/
def zero : Binary64 := ofParts 0 0

/-- The number -1, by which a host primitive reports that it may have failed. -/
def minusOne : Binary64 := ofParts 1 (1023 * twoPow 52)

/-- Numerical equality: a pattern that is no number equals nothing, and both zeros are equal. -/
def same (x y : Binary64) : Bool :=
  !x.isNaN && !y.isNaN &&
    (x.bits == y.bits || (x.bits.toNat % twoPow 63 == 0 && y.bits.toNat % twoPow 63 == 0))

/-- The leading 53 bits of the positive integer `n`, rounded to the nearest. Rounding up may carry
into a bit more. -/
def significandOfNat (n : Nat) : Nat :=
  if n.log2 ≤ 52 then n * twoPow (52 - n.log2) else roundShift n (n.log2 - 52)

/-- The bits below the sign of the number nearest to the positive integer `n`. A significand
that rounds up to the next power of two carries into the exponent. -/
def magnitudeOfNat (n : Nat) : Nat := (n.log2 + 1022) * twoPow 52 + significandOfNat n

/-- The number nearest to an integer. -/
def ofInt (n : Int) : Binary64 :=
  if n = 0 then zero
  else ofParts (if n < 0 then 1 else 0) (magnitudeOfNat n.natAbs)

/-- The number 0 or 1 that a truth value stands for. -/
def ofBool (b : Bool) : Binary64 := ofInt (if b then 1 else 0)

/-- The bits below the sign of the 32-bit number nearest to a 64-bit number. Numbers too large
become infinite, numbers too small become subnormal or zero, and a pattern that is no number
keeps its leading payload bits and becomes quiet. -/
def narrowMagnitude (exponent fraction : Nat) : Nat :=
  if exponent = 2047 then
    if fraction = 0 then 255 * twoPow 23
    else 255 * twoPow 23 + (fraction / twoPow 29 ||| twoPow 22)
  else if exponent < 897 then
    roundShift (twoPow 52 * min exponent 1 + fraction) (29 + (897 - max exponent 1))
  else
    min (255 * twoPow 23) ((exponent - 897) * twoPow 23 + roundShift (twoPow 52 + fraction) 29)

/-- The 32-bit number nearest to a 64-bit number. -/
def narrow (x : Binary64) : Binary32 :=
  ⟨UInt32.ofNat (x.sign * twoPow 31 + narrowMagnitude x.exponent x.fraction)⟩

end Binary64

namespace Binary32

/-- The bits below the sign of the 64-bit number equal to a 32-bit number. -/
def widenMagnitude (exponent fraction : Nat) : Nat :=
  if exponent = 255 then
    if fraction = 0 then 2047 * twoPow 52
    else 2047 * twoPow 52 + (fraction * twoPow 29 ||| twoPow 51)
  else if exponent = 0 then
    if fraction = 0 then 0
    else (fraction.log2 + 873) * twoPow 52 + fraction * twoPow (52 - fraction.log2)
  else
    (exponent + 896) * twoPow 52 + fraction * twoPow 29

/-- The 64-bit number equal to a 32-bit number. -/
def widen (x : Binary32) : Binary64 :=
  Binary64.ofParts x.sign (widenMagnitude x.exponent x.fraction)

end Binary32

end HostBridge
