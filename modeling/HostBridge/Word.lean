/-!
# Machine words

Lengths, extents and strides are 64-bit machine words. Lengths are unsigned and strides are
signed; arithmetic that is not checked wraps around, and products that are checked fail instead.
-/

namespace HostBridge

/-- Two to the power `n`. -/
def twoPow (n : Nat) : Nat := 1 <<< n

namespace Word

/-- The number of distinct 64-bit words. -/
def modulus : Nat := twoPow 64

/-- The greatest unsigned word. -/
def maxUnsigned : Nat := modulus - 1

/-- The greatest signed word, which is also the greatest size of one block of memory. -/
def maxSigned : Nat := twoPow 63 - 1

/-- The range of signed integers of so many bits. -/
def Fits (bits : Nat) (x : Int) : Prop :=
  -(twoPow (bits - 1) : Int) ≤ x ∧ x < (twoPow (bits - 1) : Int)

instance (bits : Nat) (x : Int) : Decidable (Fits bits x) := inferInstanceAs (Decidable (_ ∧ _))

/-- The signed integer of so many bits that is congruent to `x`. -/
def wrap (bits : Nat) (x : Int) : Int := x.bmod (twoPow bits)

/-- The signed word congruent to `x`: the value kept by arithmetic that wraps around. -/
def signed (x : Int) : Int := x.bmod modulus

/-- The unsigned word congruent to `n`. -/
def unsigned (n : Nat) : Nat := n % modulus

/-- The product of two unsigned words, or `none` when it does not fit in a word. -/
def mul? (a b : Nat) : Option Nat :=
  if a * b < modulus then some (a * b) else none

end Word

end HostBridge
