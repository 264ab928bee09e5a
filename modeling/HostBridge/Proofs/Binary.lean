import HostBridge.Proofs.Layout.Basic
import Mathlib.Tactic.Ring

/-!
# Narrowing undoes widening

Every number of 32 bits is a number of 64 bits, so widening is exact and narrowing a widened number
rounds nothing. What changes is how the number is written: a subnormal number becomes a normal one,
with its leading bit moved into the exponent. A pattern that is no number becomes quiet on the way,
and is left out here.

## Main results

* `roundShift_mul`: nothing is rounded where there is no remainder;
* `Binary64.narrow_ofParts`: narrowing reads sign, exponent and fraction off the bits;
* `Binary32.narrow_widenMagnitude`: the bits below the sign come back, one case per class of
  numbers;
* `Binary32.narrow_widen`: so does the number.
-/

namespace HostBridge

/-- Nothing is rounded where there is no remainder. -/
theorem roundShift_mul (n shift : Nat) : roundShift (n * twoPow shift) shift = n := by
  have hpos : 0 < twoPow shift := by
    rw [twoPow_eq]
    exact Nat.two_pow_pos shift
  rw [roundShift, Nat.mul_div_cancel _ hpos, Nat.mul_mod_left]
  exact if_pos hpos

/-- The leading bit of a number that is moved to the place of the implicit bit. -/
theorem leading_bounds {n : Nat} (hpos : n ≠ 0) (hlog : n.log2 ≤ 52) :
    twoPow 52 ≤ n * twoPow (52 - n.log2) ∧ n * twoPow (52 - n.log2) < 2 * twoPow 52 := by
  have hsplit : 2 ^ 52 = 2 ^ n.log2 * 2 ^ (52 - n.log2) := by
    rw [← Nat.pow_add]
    congr 1
    omega
  rw [twoPow_eq, twoPow_eq, hsplit]
  refine ⟨Nat.mul_le_mul_right _ (Nat.log2_self_le hpos), ?_⟩
  have hdouble : 2 * (2 ^ n.log2 * 2 ^ (52 - n.log2)) = 2 ^ (n.log2 + 1) * 2 ^ (52 - n.log2) := by
    ring
  rw [hdouble]
  exact Nat.mul_lt_mul_of_pos_right Nat.lt_log2_self (Nat.two_pow_pos _)

namespace Binary64

variable {sign exponent fraction : Nat}

/-- Sign, exponent and fraction are read off the bits. -/
theorem parts_ofParts (hsign : sign ≤ 1) (hexponent : exponent < 2048)
    (hfraction : fraction < twoPow 52) :
    (ofParts sign (exponent * twoPow 52 + fraction)).sign = sign ∧
      (ofParts sign (exponent * twoPow 52 + fraction)).exponent = exponent ∧
      (ofParts sign (exponent * twoPow 52 + fraction)).fraction = fraction := by
  rw [twoPow_eq] at hfraction
  have hbits : (ofParts sign (exponent * twoPow 52 + fraction)).bits.toNat =
      sign * twoPow 63 + (exponent * twoPow 52 + fraction) := by
    refine UInt64.toNat_ofNat_of_lt ?_
    rw [UInt64.size, twoPow_eq, twoPow_eq]
    omega
  rw [Binary64.sign, Binary64.exponent, Binary64.fraction, hbits]
  simp only [twoPow_eq]
  omega

/-- Narrowing depends on these parts. -/
theorem narrow_ofParts (hsign : sign ≤ 1) (hexponent : exponent < 2048)
    (hfraction : fraction < twoPow 52) :
    (ofParts sign (exponent * twoPow 52 + fraction)).narrow =
      ⟨UInt32.ofNat (sign * twoPow 31 + narrowMagnitude exponent fraction)⟩ := by
  obtain ⟨hs, he, hf⟩ := parts_ofParts hsign hexponent hfraction
  rw [narrow, hs, he, hf]

end Binary64

namespace Binary32

variable {x : Binary32} {exponent fraction : Nat}

/-- The bits of a number are its sign, its exponent and its fraction. -/
theorem toNat_bits (x : Binary32) :
    x.bits.toNat = x.sign * twoPow 31 + (x.exponent * twoPow 23 + x.fraction) := by
  have hlt := x.bits.toNat_lt
  simp only [sign, exponent, fraction, twoPow_eq]
  omega

theorem bounds (x : Binary32) : x.sign ≤ 1 ∧ x.exponent < 256 ∧ x.fraction < twoPow 23 := by
  have hlt := x.bits.toNat_lt
  simp only [sign, exponent, fraction, twoPow_eq]
  omega

/-- The bits below the sign come back. -/
theorem narrow_widenMagnitude (hexponent : exponent < 256) (hfraction : fraction < twoPow 23)
    (hnumber : exponent = 255 → fraction = 0) :
    ∃ wide rest, widenMagnitude exponent fraction = wide * twoPow 52 + rest ∧ wide < 2048 ∧
      rest < twoPow 52 ∧
      Binary64.narrowMagnitude wide rest = exponent * twoPow 23 + fraction := by
  by_cases htop : exponent = 255
  -- infinity
  · refine ⟨2047, 0, ?_, by decide, by decide, ?_⟩
    · rw [widenMagnitude, if_pos htop, if_pos (hnumber htop), Nat.add_zero]
    · rw [Binary64.narrowMagnitude, if_pos rfl, if_pos rfl, htop, hnumber htop, Nat.add_zero]
  by_cases hzero : exponent = 0
  · by_cases hempty : fraction = 0
    -- zero
    · refine ⟨0, 0, ?_, by decide, by decide, ?_⟩
      · rw [widenMagnitude, if_neg htop, if_pos hzero, if_pos hempty]
        rfl
      · have hround := roundShift_mul 0 925
        rw [Nat.zero_mul] at hround
        rw [hzero, hempty]
        exact hround
    -- a subnormal number: the leading bit becomes implicit
    · have hlog : fraction.log2 < 23 := (Nat.log2_lt hempty).mpr (by rwa [twoPow_eq] at hfraction)
      obtain ⟨hlow, hhigh⟩ := leading_bounds hempty (by omega)
      have hsum : twoPow 52 + (fraction * twoPow (52 - fraction.log2) - twoPow 52) =
          fraction * twoPow (52 - fraction.log2) := Nat.add_sub_cancel' hlow
      refine ⟨fraction.log2 + 874, fraction * twoPow (52 - fraction.log2) - twoPow 52, ?_,
        by omega, by omega, ?_⟩
      · rw [widenMagnitude, if_neg htop, if_pos hzero, if_neg hempty, Nat.add_mul _ 874,
          Nat.add_mul _ 873]
        omega
      · have hshift : 29 + (897 - max (fraction.log2 + 874) 1) = 52 - fraction.log2 := by omega
        rw [Binary64.narrowMagnitude, if_neg (by omega), if_pos (by omega), hshift,
          Nat.min_eq_right (by omega), Nat.mul_one, hsum, roundShift_mul, hzero]
        omega
  -- a normal number
  · refine ⟨exponent + 896, fraction * twoPow 29, ?_, by omega, ?_, ?_⟩
    · rw [widenMagnitude, if_neg htop, if_neg hzero]
    · unfold twoPow at *
      omega
    · have hsum : twoPow 52 + fraction * twoPow 29 = (twoPow 23 + fraction) * twoPow 29 := by
        unfold twoPow
        omega
      rw [Binary64.narrowMagnitude, if_neg (by omega), if_neg (by omega), hsum, roundShift_mul]
      unfold twoPow at *
      omega

/-- Narrowing a widened number yields the number. -/
theorem narrow_widen (h : x.isNaN = false) : x.widen.narrow = x := by
  obtain ⟨hsign, hexponent, hfraction⟩ := x.bounds
  have hnumber : x.exponent = 255 → x.fraction = 0 := by
    intro htop
    simpa [isNaN, htop] using h
  obtain ⟨wide, rest, hwide, hlt, hrest, hback⟩ :=
    narrow_widenMagnitude hexponent hfraction hnumber
  rw [widen, hwide, Binary64.narrow_ofParts hsign hlt hrest, hback, ← toNat_bits,
    UInt32.ofNat_toNat]

end Binary32

end HostBridge
