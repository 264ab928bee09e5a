import HostBridge.Traced
import HostBridge.Word

/-!
# Obtaining memory

Whether a block can be had depends on its size alone. A request that no block could ever meet,
because its size rounded up to the alignment is not a signed word, is refused without asking.
-/

namespace HostBridge

/-- The part of the machine that hands out blocks of memory. -/
class Allocator where
  /-- Whether a block of so many bytes can be had. -/
  grants : Nat → Bool

namespace Allocator

/-- An allocator with a fixed address space: blocks of fewer than `limit` bytes can be had. -/
@[reducible] def bounded (limit : Nat) : Allocator := ⟨fun size => size < limit⟩

/-- A size that, rounded up to the alignment, is a signed word. -/
def Addressable (size align : Nat) : Prop := size + (align - 1) ≤ Word.maxSigned

instance (size align : Nat) : Decidable (Addressable size align) :=
  inferInstanceAs (Decidable (_ ≤ _))

/-- Obtain a block of `size` bytes for `entity`. -/
def obtain [allocator : Allocator] (entity : String) (size align : Nat) : Attempt Unit :=
  if Addressable size align ∧ allocator.grants size then
    Attempt.emit (.allocated entity size)
  else
    throw (Fault.allocation entity size)

@[simp]
theorem result_obtain [allocator : Allocator] (entity : String) (size align : Nat) :
    (obtain entity size align).run.result =
      if Addressable size align ∧ allocator.grants size then .ok ()
      else .error (Fault.allocation entity size) := by
  unfold obtain
  split <;> rfl

/-- Only a block that was obtained is recorded. -/
@[simp]
theorem events_obtain [allocator : Allocator] (entity : String) (size align : Nat) :
    (obtain entity size align).run.events =
      if Addressable size align ∧ allocator.grants size then [.allocated entity size] else [] := by
  unfold obtain
  split <;> rfl

/-- The size of a block that can be asked for is a word. -/
theorem Addressable.lt_modulus {size align : Nat} (h : Addressable size align) :
    size < Word.modulus := by
  unfold Addressable Word.maxSigned twoPow at h
  unfold Word.modulus twoPow
  omega

end Allocator

end HostBridge
