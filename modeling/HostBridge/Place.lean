import HostBridge.Bytes
import HostBridge.Host.Ref

/-!
# Places in memory

Borrowed memory belongs to somebody else: to the caller, to a host array, or to a buffer or an
owned array behind a handle. An address names one of these places and a position in it. What a
place holds is looked up when an access is made, so that all who borrow it see each other's writes.
-/

namespace HostBridge

/-- A region of memory that others can borrow. -/
inductive Place where
  /-- A block of the caller. -/
  | block (id : Nat)
  /-- The storage of a host array. -/
  | object (ref : Ref)
  /-- The block of the buffer behind a handle. -/
  | buffer (handle : Nat)
  /-- The block of the owned array behind a handle. -/
  | array (handle : Nat)
  deriving DecidableEq

/-- A position in a place. It may lie outside, as long as nothing is accessed there. -/
structure Address where
  /-- The region. -/
  place : Place
  /-- The position in bytes from the start of the region. -/
  offset : Int
  deriving DecidableEq

/-- The address so many bytes further on. -/
def Address.shift (address : Address) (bytes : Int) : Address :=
  { address with offset := address.offset + bytes }

/-- What every place holds at some moment. -/
abbrev Regions := Place → Bytes

end HostBridge
