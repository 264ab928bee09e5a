import HostBridge.Value
import Mathlib.Tactic.Common

/-!
# Values in memory

What is written is read back. A write replaces the bytes at one position and keeps all others, so
that a window elsewhere reads what it read before. A value is written as the bytes of its bit
pattern, least significant first. Whether the pattern is that of an integer or of a floating-point
number does not matter: all bits come back, also of a pattern that is no number. The other way
round, every string of the right width is the bytes of the value that it is read as, unless it is a
truth value other than zero and one.

## Main definitions

* `Bytes.Patched`: bytes at one position are replaced and all others are kept.

## Main results

* `Bytes.window_setWindow_self` and `Bytes.window_setWindow_of_disjoint`: what is read after a
  write;
* `Value.decode_encode`: every value comes back from its bytes;
* `Value.encode_decode`: bytes come back from the value that they are read as;
* `Value.codecs_inverse`: writing and reading undo each other, for all kinds.
-/

namespace HostBridge

/-! ## Bytes that are replaced -/

namespace Bytes

variable {bytes patch : Bytes}

/-- The bytes at one position are replaced, and all others are kept. -/
structure Patched (bytes : Bytes) (pos : Nat) (patch next : Bytes) : Prop where
  /-- The new bytes lie inside. -/
  inside : pos + patch.length ≤ bytes.length
  /-- The string has the same length. -/
  length_eq : next.length = bytes.length
  /-- The new bytes are there. -/
  written : next.slice pos patch.length = patch
  /-- All bytes before and after them are as they were. -/
  kept : ∀ k, k < pos ∨ pos + patch.length ≤ k → next[k]? = bytes[k]?

theorem patched_overwrite {pos : Nat} (h : pos + patch.length ≤ bytes.length) :
    bytes.Patched pos patch (bytes.overwrite pos patch) where
  inside := h
  length_eq := length_overwrite bytes pos patch h
  written := slice_overwrite bytes pos patch (by omega)
  kept := by
    intro k hk
    have hfront : (bytes.take pos).length = pos := by
      rw [List.length_take]
      omega
    rw [overwrite]
    rcases hk with hbefore | hafter
    · rw [List.append_assoc, List.getElem?_append_left (by omega), List.getElem?_take_of_lt hbefore]
    · rw [List.getElem?_append_right (by rw [List.length_append]; omega), List.getElem?_drop,
        List.length_append, hfront, Nat.add_sub_cancel' hafter]

theorem patched_setWindow {pos : Int} (h : Inside bytes.length pos patch.length) :
    bytes.Patched pos.toNat patch (bytes.setWindow pos patch) := by
  have hroom : pos.toNat + patch.length ≤ bytes.length := by
    obtain ⟨hlow, hhigh⟩ := h
    omega
  rw [setWindow, if_pos h]
  exact patched_overwrite hroom

theorem window_setWindow_self {pos : Int} (h : Inside bytes.length pos patch.length) :
    (bytes.setWindow pos patch).window pos patch.length = patch := by
  rw [window, length_setWindow, if_pos h, (patched_setWindow h).written]

/-- A window that shares no byte with what is written stays as it is. -/
theorem window_setWindow_of_disjoint {pos other : Int} {width : Nat}
    (h : pos + patch.length ≤ other ∨ other + width ≤ pos) :
    (bytes.setWindow pos patch).window other width = bytes.window other width := by
  by_cases hinside : Inside bytes.length pos patch.length
  · rw [window, window, length_setWindow]
    split
    · rename_i hother
      have hkept := (patched_setWindow hinside).kept
      obtain ⟨hpos, -⟩ := hinside
      obtain ⟨hlow, -⟩ := hother
      refine List.ext_getElem? fun k => ?_
      rw [slice, slice, List.getElem?_take, List.getElem?_take]
      split
      · rw [List.getElem?_drop, List.getElem?_drop]
        exact hkept _ (by omega)
      · rfl
    · rfl
  -- what does not lie inside is not written at all
  · rw [setWindow, if_neg hinside]

theorem window_zeros (length : Nat) (pos : Int) (width : Nat) :
    (zeros length).window pos width = zeros width := by
  rw [window]
  split
  · rename_i hinside
    obtain ⟨hlow, hhigh⟩ := hinside
    rw [length_zeros] at hhigh
    rw [slice, zeros, zeros, List.drop_replicate, List.take_replicate, Nat.min_eq_left (by omega)]
  · rfl

end Bytes

/-! ## Bytes of values -/

/-- A number that fits in its bytes comes back from them. -/
theorem Bytes.toNat_ofNat_of_lt {width n : Nat} (h : n < Nat.pow 256 width) :
    (Bytes.ofNat width n).toNat = n := by
  rw [toNat_ofNat, Nat.mod_eq_of_lt h]

/-- A bit pattern of whole bytes comes back from its bytes. -/
theorem Bytes.ofNat_bits (width : Nat) (bits : BitVec (8 * width)) :
    BitVec.ofNat (8 * width) (Bytes.ofNat width bits.toNat).toNat = bits := by
  have hlt : bits.toNat < Nat.pow 256 width := by
    have h := bits.isLt
    rwa [Nat.pow_mul] at h
  rw [toNat_ofNat_of_lt hlt, BitVec.ofNat_toNat, BitVec.setWidth_eq]

theorem Binary32.decode_encode (x : Binary32) : Binary32.decode x.encode = x := by
  have hbits : (Bytes.ofNat 4 x.bits.toNat).toNat = x.bits.toNat :=
    Bytes.toNat_ofNat_of_lt x.bits.toNat_lt
  rw [Binary32.encode, Binary32.decode, hbits, UInt32.ofNat_toNat]

theorem Binary64.decode_encode (x : Binary64) : Binary64.decode x.encode = x := by
  have hbits : (Bytes.ofNat 8 x.bits.toNat).toNat = x.bits.toNat :=
    Bytes.toNat_ofNat_of_lt x.bits.toNat_lt
  rw [Binary64.encode, Binary64.decode, hbits, UInt64.ofNat_toNat]

/-- Every value comes back from its bytes. -/
theorem Value.decode_encode (kind : Kind) (value : Value kind) :
    decode kind (encode kind value) = value := by
  cases kind with
  | bool => cases value <;> rfl
  | int8 => exact congrArg Int8.ofBitVec (Bytes.ofNat_bits 1 (Int8.toBitVec value))
  | int16 => exact congrArg Int16.ofBitVec (Bytes.ofNat_bits 2 (Int16.toBitVec value))
  | int32 => exact congrArg Int32.ofBitVec (Bytes.ofNat_bits 4 (Int32.toBitVec value))
  | int64 => exact congrArg Int64.ofBitVec (Bytes.ofNat_bits 8 (Int64.toBitVec value))
  | float32 => exact Binary32.decode_encode value
  | float64 => exact Binary64.decode_encode value
  -- the real part takes the first half of the bytes and the imaginary part the rest
  | complex64 =>
    obtain ⟨re, im⟩ : Complex Binary32 := value
    have hre : re.encode.length = 4 := Bytes.length_ofNat ..
    show Complex.mk (Binary32.decode ((re.encode ++ im.encode).take 4))
      (Binary32.decode ((re.encode ++ im.encode).drop 4)) = _
    rw [List.take_left' hre, List.drop_left' hre, Binary32.decode_encode, Binary32.decode_encode]
  | complex128 =>
    obtain ⟨re, im⟩ : Complex Binary64 := value
    have hre : re.encode.length = 8 := Bytes.length_ofNat ..
    show Complex.mk (Binary64.decode ((re.encode ++ im.encode).take 8))
      (Binary64.decode ((re.encode ++ im.encode).drop 8)) = _
    rw [List.take_left' hre, List.drop_left' hre, Binary64.decode_encode, Binary64.decode_encode]

/-! ## Values of bytes -/

/-- A byte string stands for a number that fits in as many bytes. -/
theorem Bytes.toNat_lt (bytes : Bytes) : bytes.toNat < Nat.pow 256 bytes.length := by
  have hmod := toNat_ofNat bytes.length bytes.toNat
  rw [ofNat_toNat] at hmod
  rw [hmod]
  exact Nat.mod_lt _ (Nat.pow_pos (by decide))

/-- A byte string comes back from the bit pattern that it is read as. -/
theorem Bytes.ofNat_ofBits {width : Nat} {bytes : Bytes} (h : bytes.length = width) :
    Bytes.ofNat width (BitVec.ofNat (8 * width) bytes.toNat).toNat = bytes := by
  subst h
  have hlt : bytes.toNat < 2 ^ (8 * bytes.length) := by
    rw [Nat.pow_mul]
    exact bytes.toNat_lt
  rw [BitVec.toNat_ofNat, Nat.mod_eq_of_lt hlt, ofNat_toNat]

theorem Binary32.encode_decode {bytes : Bytes} (h : bytes.length = 4) :
    (Binary32.decode bytes).encode = bytes :=
  Bytes.ofNat_ofBits h

theorem Binary64.encode_decode {bytes : Bytes} (h : bytes.length = 8) :
    (Binary64.decode bytes).encode = bytes :=
  Bytes.ofNat_ofBits h

theorem Bytes.length_halves {half : Nat} {bytes : Bytes} (h : bytes.length = 2 * half) :
    (bytes.take half).length = half ∧ (bytes.drop half).length = half := by
  rw [List.length_take, List.length_drop]
  omega

/-- Bytes come back from the value that they are read as. Truth values have more byte strings than
values. -/
theorem Value.encode_decode {kind : Kind} (hkind : kind ≠ .bool) {bytes : Bytes}
    (h : bytes.length = kind.width) : encode kind (decode kind bytes) = bytes := by
  cases kind with
  | bool => exact absurd rfl hkind
  | int8 | int16 | int32 | int64 => exact Bytes.ofNat_ofBits h
  | float32 => exact Binary32.encode_decode h
  | float64 => exact Binary64.encode_decode h
  -- each part comes back from its half
  | complex64 =>
    obtain ⟨hre, him⟩ : (bytes.take 4).length = 4 ∧ (bytes.drop 4).length = 4 :=
      Bytes.length_halves h
    show (Binary32.decode (bytes.take 4)).encode ++ (Binary32.decode (bytes.drop 4)).encode = bytes
    rw [Binary32.encode_decode hre, Binary32.encode_decode him, List.take_append_drop]
  | complex128 =>
    obtain ⟨hre, him⟩ : (bytes.take 8).length = 8 ∧ (bytes.drop 8).length = 8 :=
      Bytes.length_halves h
    show (Binary64.decode (bytes.take 8)).encode ++ (Binary64.decode (bytes.drop 8)).encode = bytes
    rw [Binary64.encode_decode hre, Binary64.encode_decode him, List.take_append_drop]

/-- Every nonzero byte is read as true, and true is written as one. -/
theorem Value.encode_decode_bool (byte : UInt8) :
    encode .bool (decode .bool [byte]) = if byte = 0 then [0] else [1] := by
  have hzero : (Bytes.toNat [byte] != 0) = (byte != 0) := by
    rw [bne, bne, Bool.not_inj_iff, Bool.eq_iff_iff, beq_iff_eq, beq_iff_eq, Bytes.toNat,
      Bytes.toNat, ← UInt8.toNat_inj]
    rfl
  show [if (Bytes.toNat [byte] != 0) then 1 else 0] = _
  rw [hzero]
  by_cases h : byte = 0 <;> simp [h]

/-- Writing and reading undo each other, for all kinds. -/
theorem Value.codecs_inverse :
    -- A value takes as many bytes as its kind is wide, and comes back from them.
    (∀ (kind : Kind) (value : Value kind),
      (encode kind value).length = kind.width ∧ decode kind (encode kind value) = value) ∧
    -- Bytes come back from the value they are read as, except that a nonzero truth value becomes
    -- one.
    (∀ (kind : Kind) (bytes : Bytes), bytes.length = kind.width →
      encode kind (decode kind bytes) =
        if kind = .bool ∧ bytes ≠ [0] then [1] else bytes) ∧
    -- The real part takes the first half of the bytes and the imaginary part the second.
    (∀ z : Complex Binary32,
      (encode .complex64 z).take (Kind.complex64.width / 2) = encode .float32 z.re ∧
      (encode .complex64 z).drop (Kind.complex64.width / 2) = encode .float32 z.im) ∧
    ∀ z : Complex Binary64,
      (encode .complex128 z).take (Kind.complex128.width / 2) = encode .float64 z.re ∧
      (encode .complex128 z).drop (Kind.complex128.width / 2) = encode .float64 z.im := by
  refine ⟨fun kind value => ⟨length_encode kind value, decode_encode kind value⟩, ?_, ?_, ?_⟩
  · intro kind bytes hlength
    by_cases hkind : kind = .bool
    · subst hkind
      obtain ⟨byte, rfl⟩ := List.length_eq_one_iff.mp hlength
      rw [encode_decode_bool]
      by_cases hzero : byte = 0 <;> simp [hzero]
    · rw [encode_decode hkind hlength, if_neg fun h => hkind h.1]
  · intro z
    have hre : z.re.encode.length = 4 := Bytes.length_ofNat ..
    exact ⟨List.take_left' hre, List.drop_left' hre⟩
  · intro z
    have hre : z.re.encode.length = 8 := Bytes.length_ofNat ..
    exact ⟨List.take_left' hre, List.drop_left' hre⟩

/-- A part that signals that it is no number and a negative zero keep all their bits, and a truth
value that was written as seven becomes one. -/
theorem Value.codecs_inverse_of_payloads :
    encode .complex64 (decode .complex64 [1, 0, 128, 127, 0, 0, 0, 128]) =
      [1, 0, 128, 127, 0, 0, 0, 128] ∧
    (decode .float32 [1, 0, 128, 127] : Binary32).isNaN = true ∧
    encode .bool (decode .bool [7]) = [1] := by
  obtain ⟨-, hbytes, -⟩ := codecs_inverse
  have hparts := hbytes .complex64 [1, 0, 128, 127, 0, 0, 0, 128] rfl
  have htruth := hbytes .bool [7] rfl
  exact ⟨hparts, by decide, htruth⟩

end HostBridge
