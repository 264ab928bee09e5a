/-!
# Byte strings

Every block of memory is a byte string. Numbers are laid out with the least significant byte
first. Reads and writes name a position and a width; a window that leaves the string reads as
zeros and is not written at all, so both operations are total and a write never changes a length.
-/

namespace HostBridge

/-- A byte string. -/
abbrev Bytes := List UInt8

namespace Bytes

/-- The `width` low bytes of `n`, the least significant one first. -/
def ofNat : (width : Nat) → Nat → Bytes
  | 0, _ => []
  | width + 1, n => UInt8.ofNat (n % 256) :: ofNat width (n / 256)

/-- The natural number whose bytes are given, least significant first. -/
def toNat : Bytes → Nat
  | [] => 0
  | byte :: rest => byte.toNat + 256 * toNat rest

@[simp]
theorem length_ofNat (width n : Nat) : (ofNat width n).length = width := by
  induction width generalizing n with
  | zero => rfl
  | succ width ih => simp [ofNat, ih]

/-- Laying a number out and reading it back keeps what fits in the width. -/
theorem toNat_ofNat (width n : Nat) : (ofNat width n).toNat = n % Nat.pow 256 width := by
  induction width generalizing n with
  | zero => simp [ofNat, toNat, Nat.mod_one]
  | succ width ih =>
    have h : n % Nat.pow 256 (width + 1) = n % 256 + 256 * (n / 256 % Nat.pow 256 width) := by
      show n % (Nat.pow 256 width * 256) = _
      rw [Nat.mul_comm (Nat.pow 256 width), Nat.mod_mul]
    have hbyte : (UInt8.ofNat (n % 256)).toNat = n % 256 := by simp
    rw [ofNat, toNat, ih, h, hbyte]

/-- Reading a byte string as a number and laying it out again gives the string back. -/
theorem ofNat_toNat (bytes : Bytes) : ofNat bytes.length bytes.toNat = bytes := by
  induction bytes with
  | nil => rfl
  | cons byte rest ih =>
    have hb : byte.toNat < 256 := byte.toNat_lt
    have hm : (byte.toNat + 256 * toNat rest) % 256 = byte.toNat := by omega
    have hd : (byte.toNat + 256 * toNat rest) / 256 = toNat rest := by omega
    simp [ofNat, toNat, hm, hd, ih]

/-- A run of `n` zero bytes. -/
def zeros (n : Nat) : Bytes := List.replicate n 0

/-- The `width` bytes from `start` on, fewer where the string ends before them. -/
def slice (bytes : Bytes) (start width : Nat) : Bytes := (bytes.drop start).take width

/-- Replace the bytes from `start` on by those of `patch`. -/
def overwrite (bytes : Bytes) (start : Nat) (patch : Bytes) : Bytes :=
  bytes.take start ++ patch ++ bytes.drop (start + patch.length)

@[simp]
theorem length_zeros (n : Nat) : (zeros n).length = n := by simp [zeros]

/-- Overwriting inside a string keeps its length. -/
theorem length_overwrite (bytes : Bytes) (start : Nat) (patch : Bytes)
    (h : start + patch.length ≤ bytes.length) :
    (bytes.overwrite start patch).length = bytes.length := by
  simp only [overwrite, List.length_append, List.length_take, List.length_drop]
  omega

/-- What was written is read back. -/
theorem slice_overwrite (bytes : Bytes) (start : Nat) (patch : Bytes)
    (h : start ≤ bytes.length) :
    (bytes.overwrite start patch).slice start patch.length = patch := by
  have hlen : (bytes.take start).length = start := by simp [h]
  simp [slice, overwrite, List.append_assoc, hlen]

/-- The string cut into pieces of `width` bytes; an incomplete last piece is dropped. -/
def chunks (width : Nat) (bytes : Bytes) : List Bytes :=
  (List.range (bytes.length / width)).map fun i => bytes.slice (i * width) width

/-- The `width` bytes at integer position `pos` lie inside a string of `length` bytes. -/
def Inside (length : Nat) (pos : Int) (width : Nat) : Prop :=
  0 ≤ pos ∧ pos + width ≤ length

instance (length : Nat) (pos : Int) (width : Nat) : Decidable (Inside length pos width) :=
  inferInstanceAs (Decidable (_ ∧ _))

/-- The `width` bytes at position `pos`, read as zeros when they do not lie inside. -/
def window (bytes : Bytes) (pos : Int) (width : Nat) : Bytes :=
  if Inside bytes.length pos width then bytes.slice pos.toNat width else zeros width

/-- Write `patch` at position `pos`, provided that it lies inside. -/
def setWindow (bytes : Bytes) (pos : Int) (patch : Bytes) : Bytes :=
  if Inside bytes.length pos patch.length then bytes.overwrite pos.toNat patch else bytes

/-- A write never changes the length of a string. -/
@[simp]
theorem length_setWindow (bytes : Bytes) (pos : Int) (patch : Bytes) :
    (bytes.setWindow pos patch).length = bytes.length := by
  unfold setWindow
  split
  · rename_i h
    obtain ⟨h0, h1⟩ := h
    exact length_overwrite bytes pos.toNat patch (by omega)
  · rfl

@[simp]
theorem length_window (bytes : Bytes) (pos : Int) (width : Nat) :
    (bytes.window pos width).length = width := by
  unfold window
  split
  · rename_i h
    obtain ⟨h0, h1⟩ := h
    simp only [slice, List.length_take, List.length_drop]
    omega
  · exact length_zeros width

/-- Append zero bytes up to the next multiple of `unit` bytes, and to one `unit` at least. -/
def padTo (unit : Nat) (bytes : Bytes) : Bytes :=
  let size := max 1 ((bytes.length + unit - 1) / unit) * unit
  bytes ++ zeros (size - bytes.length)

theorem length_le_padTo (unit : Nat) (bytes : Bytes) :
    bytes.length ≤ (bytes.padTo unit).length := by
  simp [padTo]

end Bytes

end HostBridge
