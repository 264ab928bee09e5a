import HostBridge.Binary
import HostBridge.Bytes
import HostBridge.Kind

/-!
# Element values

Each kind has a type of values, and each value has exactly one encoding as `width` bytes, least
significant byte first. Reading is the other way round: every byte string of the right width
stands for a value. Only truth values have more byte strings than values, since every nonzero
byte is read as true.
-/

namespace HostBridge

/-- The values that an element of a kind can take. -/
def Value : Kind → Type
  | .bool => Bool
  | .int8 => Int8
  | .int16 => Int16
  | .int32 => Int32
  | .int64 => Int64
  | .float32 => Binary32
  | .float64 => Binary64
  | .complex64 => Complex Binary32
  | .complex128 => Complex Binary64

namespace Binary32

/-- The four bytes of a number. -/
def encode (x : Binary32) : Bytes := Bytes.ofNat 4 x.bits.toNat

/-- The number with the given four bytes. -/
def decode (bytes : Bytes) : Binary32 := ⟨UInt32.ofNat bytes.toNat⟩

end Binary32

namespace Binary64

/-- The eight bytes of a number. -/
def encode (x : Binary64) : Bytes := Bytes.ofNat 8 x.bits.toNat

/-- The number with the given eight bytes. -/
def decode (bytes : Bytes) : Binary64 := ⟨UInt64.ofNat bytes.toNat⟩

end Binary64

namespace Value

/-- The bytes of a value. Complex numbers put the real part first. -/
def encode : (kind : Kind) → Value kind → Bytes
  | .bool, (b : Bool) => [if b then 1 else 0]
  | .int8, (v : Int8) => Bytes.ofNat 1 v.toBitVec.toNat
  | .int16, (v : Int16) => Bytes.ofNat 2 v.toBitVec.toNat
  | .int32, (v : Int32) => Bytes.ofNat 4 v.toBitVec.toNat
  | .int64, (v : Int64) => Bytes.ofNat 8 v.toBitVec.toNat
  | .float32, (x : Binary32) => x.encode
  | .float64, (x : Binary64) => x.encode
  | .complex64, (z : Complex Binary32) => z.re.encode ++ z.im.encode
  | .complex128, (z : Complex Binary64) => z.re.encode ++ z.im.encode

@[simp]
theorem length_encode (kind : Kind) (value : Value kind) :
    (encode kind value).length = kind.width := by
  cases kind <;> simp [encode, Kind.width, Binary32.encode, Binary64.encode]

/-- The value that the bytes of one element stand for. -/
def decode : (kind : Kind) → Bytes → Value kind
  | .bool, bytes => (bytes.toNat != 0 : Bool)
  | .int8, bytes => Int8.ofBitVec (BitVec.ofNat 8 bytes.toNat)
  | .int16, bytes => Int16.ofBitVec (BitVec.ofNat 16 bytes.toNat)
  | .int32, bytes => Int32.ofBitVec (BitVec.ofNat 32 bytes.toNat)
  | .int64, bytes => Int64.ofBitVec (BitVec.ofNat 64 bytes.toNat)
  | .float32, bytes => Binary32.decode bytes
  | .float64, bytes => Binary64.decode bytes
  | .complex64, bytes =>
    (⟨Binary32.decode (bytes.take 4), Binary32.decode (bytes.drop 4)⟩ : Complex Binary32)
  | .complex128, bytes =>
    (⟨Binary64.decode (bytes.take 8), Binary64.decode (bytes.drop 8)⟩ : Complex Binary64)

end Value

end HostBridge
