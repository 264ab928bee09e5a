import HostBridge.Proofs.Binary
import Mathlib.Algebra.Order.Field.Power
import Mathlib.Tactic.Linarith

/-!
# Integers as floating-point numbers

A finite pattern of 64 bits stands for a rational number. The one that is made from an integer is as
near to the integer as any, and equal to it if the integer has at most 53 bits. Hence -1, by which a
host primitive reports that it may have failed, is read from no other integer.

## Main results

* `roundShift_nearest`: no multiple of a power of two is nearer than the rounded one;
* `Binary64.value_ofParts`: what a pattern stands for, also if the significand carries;
* `Binary64.ofInt_nearest`: no number is nearer to an integer than the one that is made from it;
* `Binary64.value_ofInt`: integers of 53 bits are exact;
* `Binary64.ofInt_eq_minusOne_iff`: only -1 is read as -1.
-/

namespace HostBridge

/-! ## Rounding a quotient -/

/-- A quotient is rounded down if the remainder is at most half a unit, or up if it is at least
that. -/
theorem roundShift_cases (n shift : Nat) :
    roundShift n shift = n / 2 ^ shift ∧ 2 * (n % 2 ^ shift) ≤ 2 ^ shift ∨
      roundShift n shift = n / 2 ^ shift + 1 ∧ 2 ^ shift ≤ 2 * (n % 2 ^ shift) := by
  simp only [roundShift, twoPow_eq]
  split_ifs with hlow hhigh
  · exact Or.inl ⟨rfl, hlow.le⟩
  · exact Or.inr ⟨rfl, hhigh.le⟩
  · omega

/-- Rounding is off by half a unit at most. -/
theorem roundShift_error (n shift : Nat) :
    2 * |(roundShift n shift : ℤ) * 2 ^ shift - n| ≤ 2 ^ shift := by
  have hsplit : (n : ℤ) = (n / 2 ^ shift : ℕ) * 2 ^ shift + (n % 2 ^ shift : ℕ) := by
    exact_mod_cast (Nat.div_add_mod' n (2 ^ shift)).symm
  have hrest : ((n % 2 ^ shift : ℕ) : ℤ) ≤ 2 ^ shift := by
    exact_mod_cast (Nat.mod_lt n (Nat.two_pow_pos shift)).le
  rcases roundShift_cases n shift with ⟨hround, hhalf⟩ | ⟨hround, hhalf⟩
  · have hoff : (roundShift n shift : ℤ) * 2 ^ shift - n = -(n % 2 ^ shift : ℕ) := by
      rw [hround]
      linarith
    rw [hoff, abs_neg, Nat.abs_cast]
    exact_mod_cast hhalf
  · have hoff : (roundShift n shift : ℤ) * 2 ^ shift - n = 2 ^ shift - (n % 2 ^ shift : ℕ) := by
      rw [hround]
      push_cast at hsplit ⊢
      linarith
    have hhalf : (2 : ℤ) ^ shift ≤ 2 * (n % 2 ^ shift : ℕ) := by exact_mod_cast hhalf
    rw [hoff, abs_of_nonneg (by linarith)]
    linarith

/-- No multiple of `2 ^ shift` is nearer to `n` than the rounded one. -/
theorem roundShift_nearest (n shift k : Nat) :
    |(roundShift n shift : ℤ) * 2 ^ shift - n| ≤ |(k : ℤ) * 2 ^ shift - n| := by
  have herror := roundShift_error n shift
  by_cases hsame : k = roundShift n shift
  · rw [hsame]
  have hapart : (2 : ℤ) ^ shift ≤ |(k : ℤ) * 2 ^ shift - roundShift n shift * 2 ^ shift| := by
    rw [← sub_mul, abs_mul, abs_of_pos (by positivity : (0 : ℤ) < 2 ^ shift)]
    have hone : 1 ≤ |(k : ℤ) - roundShift n shift| := by
      refine Int.one_le_abs ?_
      omega
    exact le_mul_of_one_le_left (by positivity) hone
  have htriangle := abs_sub_le ((k : ℤ) * 2 ^ shift) n (roundShift n shift * 2 ^ shift)
  rw [abs_sub_comm (n : ℤ)] at htriangle
  omega

namespace Binary64

/-! ## What a pattern stands for -/

/-- The significand, with the leading bit that a normal number leaves out. -/
def significand (x : Binary64) : Nat :=
  if x.exponent = 0 then x.fraction else 2 ^ 52 + x.fraction

/-- The place of the last bit of the significand. A subnormal number has that of the smallest normal
ones. -/
def scale (x : Binary64) : ℤ := (max x.exponent 1 : ℕ) - 1075

/-- The rational number that a finite pattern stands for. -/
def value (x : Binary64) : ℚ := (-1) ^ x.sign * (x.significand * 2 ^ x.scale)

/-- A pattern stands for a rational number: it is not infinite, and it is a number. -/
def IsFinite (x : Binary64) : Prop := x.exponent < 2047

theorem significand_lt (x : Binary64) : x.significand < 2 ^ 53 := by
  have hfraction : x.fraction < 2 ^ 52 := by
    rw [fraction, twoPow_eq]
    exact Nat.mod_lt _ (by decide)
  rw [significand]
  split <;> omega

theorem abs_value (x : Binary64) : |x.value| = x.significand * 2 ^ x.scale := by
  have hsize : (0 : ℚ) ≤ x.significand * 2 ^ x.scale := by positivity
  rw [value, abs_mul, abs_neg_one_pow, one_mul, abs_of_nonneg hsize]

/-- A significand of 53 bits stands for itself at the place that the exponent gives it. This holds
also of one that is too large by one: it carries into the exponent. -/
theorem value_ofParts {sign exponent m : Nat} (hsign : sign ≤ 1) (hexponent : exponent < 2045)
    (hlow : 2 ^ 52 ≤ m) (hhigh : m ≤ 2 ^ 53) :
    (ofParts sign (exponent * twoPow 52 + m)).IsFinite ∧
      (ofParts sign (exponent * twoPow 52 + m)).value =
        (-1) ^ sign * (m * 2 ^ ((exponent : ℤ) - 1074)) := by
  rcases hhigh.lt_or_eq with hlt | rfl
  · obtain ⟨hs, he, hf⟩ := @parts_ofParts sign (exponent + 1) (m - 2 ^ 52) hsign (by omega)
      (by rw [twoPow_eq]; omega)
    have hbits : (exponent + 1) * twoPow 52 + (m - 2 ^ 52) = exponent * twoPow 52 + m := by
      rw [twoPow_eq]
      omega
    rw [hbits] at hs he hf
    have hm : 2 ^ 52 + (m - 2 ^ 52) = m := by omega
    have hscale : ((max (exponent + 1) 1 : ℕ) : ℤ) - 1075 = exponent - 1074 := by omega
    rw [IsFinite, value, significand, scale, hs, he, hf, if_neg (by omega), hm, hscale]
    exact ⟨by omega, rfl⟩
  · obtain ⟨hs, he, hf⟩ := @parts_ofParts sign (exponent + 2) 0 hsign (by omega) (by decide)
    have hbits : (exponent + 2) * twoPow 52 + 0 = exponent * twoPow 52 + 2 ^ 53 := by
      rw [twoPow_eq]
      omega
    rw [hbits] at hs he hf
    have hscale : ((max (exponent + 2) 1 : ℕ) : ℤ) - 1075 = exponent - 1074 + 1 := by omega
    rw [IsFinite, value, significand, scale, hs, he, hf, if_neg (by omega), hscale,
      zpow_add_one₀ two_ne_zero]
    refine ⟨by omega, ?_⟩
    push_cast
    ring

/-! ## The number made from an integer -/

variable {n : Nat}

/-- The leading bits are 53 bits, or a carry. -/
theorem significandOfNat_bounds (hn : n ≠ 0) :
    2 ^ 52 ≤ significandOfNat n ∧ significandOfNat n ≤ 2 ^ 53 := by
  rw [significandOfNat]
  split
  case isTrue hsmall =>
    obtain ⟨hlow, hhigh⟩ := leading_bounds hn hsmall
    have htop := twoPow_eq 52
    omega
  case isFalse hlarge =>
    have hpos := Nat.two_pow_pos (n.log2 - 52)
    have hlow : 2 ^ 52 ≤ n / 2 ^ (n.log2 - 52) := by
      rw [Nat.le_div_iff_mul_le hpos, ← Nat.pow_add, Nat.add_sub_cancel' (by omega)]
      exact Nat.log2_self_le hn
    have hhigh : n / 2 ^ (n.log2 - 52) < 2 ^ 53 := by
      rw [Nat.div_lt_iff_lt_mul hpos, ← Nat.pow_add,
        show 53 + (n.log2 - 52) = n.log2 + 1 by omega]
      exact Nat.lt_log2_self
    rcases roundShift_cases n (n.log2 - 52) with ⟨hround, -⟩ | ⟨hround, -⟩ <;> omega

/-- A number of 53 bits is not rounded. -/
theorem significandOfNat_exact (hsmall : n.log2 ≤ 52) :
    (significandOfNat n : ℚ) * 2 ^ ((n.log2 : ℤ) - 52) = n := by
  have hplace : (n.log2 : ℤ) - 52 = -((52 - n.log2 : ℕ) : ℤ) := by omega
  rw [significandOfNat, if_pos hsmall, hplace, zpow_neg, zpow_natCast, twoPow_eq]
  push_cast
  exact mul_inv_cancel_right₀ (by positivity) _

/-- No number with a significand of 53 bits is nearer than the one with the leading bits. -/
theorem significandOfNat_nearest (hn : n ≠ 0) {m : Nat} (hm : m < 2 ^ 53) (place : ℤ) :
    |(significandOfNat n : ℚ) * 2 ^ ((n.log2 : ℤ) - 52) - n| ≤ |(m : ℚ) * 2 ^ place - n| := by
  by_cases hsmall : n.log2 ≤ 52
  · rw [significandOfNat_exact hsmall, sub_self, abs_zero]
    exact abs_nonneg _
  obtain ⟨shift, hshift⟩ : ∃ shift : ℕ, n.log2 = 52 + shift := ⟨n.log2 - 52, by omega⟩
  have hplace : (n.log2 : ℤ) - 52 = shift := by omega
  have hgrid : ∀ k : ℕ, |(significandOfNat n : ℚ) * 2 ^ ((n.log2 : ℤ) - 52) - n| ≤
      |(k : ℚ) * 2 ^ shift - n| := by
    intro k
    rw [significandOfNat, if_neg hsmall, hplace, zpow_natCast, hshift, Nat.add_sub_cancel_left]
    exact_mod_cast roundShift_nearest n shift k
  rcases le_or_gt (shift : ℤ) place with hcoarse | hfine
  -- a multiple of the last place
  · obtain ⟨d, hd⟩ := Int.le.dest hcoarse
    have hmultiple : (m : ℚ) * 2 ^ place = ((m * 2 ^ d : ℕ) : ℚ) * 2 ^ shift := by
      rw [← hd, ← Nat.cast_add, zpow_natCast, pow_add]
      push_cast
      ring
    rw [hmultiple]
    exact hgrid _
  -- a number of a smaller order, below the first multiple
  · have hfirst : (m : ℚ) * 2 ^ place ≤ ((2 ^ 52 : ℕ) : ℚ) * 2 ^ shift := by
      have hplace : (2 : ℚ) ^ place ≤ 2 ^ ((shift : ℤ) - 1) :=
        zpow_le_zpow_right₀ one_le_two (by omega)
      have hm : (m : ℚ) ≤ 2 ^ 53 := by exact_mod_cast hm.le
      calc (m : ℚ) * 2 ^ place
          ≤ 2 ^ 53 * 2 ^ ((shift : ℤ) - 1) := by gcongr
        _ = ((2 ^ 52 : ℕ) : ℚ) * 2 ^ shift := by
            rw [zpow_sub_one₀ two_ne_zero, zpow_natCast]
            push_cast
            ring
    have hbelow : ((2 ^ 52 : ℕ) : ℚ) * 2 ^ shift ≤ n := by
      have hlow := Nat.log2_self_le hn
      rw [hshift, Nat.pow_add] at hlow
      exact_mod_cast hlow
    refine (hgrid (2 ^ 52)).trans ?_
    rw [abs_of_nonpos (by linarith), abs_of_nonpos (by linarith)]
    linarith

/-- What the number made from an integer stands for. -/
theorem value_ofInt_of_ne_zero {n : ℤ} (hn : n ≠ 0) (hlog : n.natAbs.log2 < 1023) :
    (ofInt n).IsFinite ∧
      (ofInt n).value = (-1) ^ (if n < 0 then 1 else 0) *
        (significandOfNat n.natAbs * 2 ^ ((n.natAbs.log2 : ℤ) - 52)) := by
  obtain ⟨hlow, hhigh⟩ := significandOfNat_bounds (Int.natAbs_ne_zero.mpr hn)
  have hplace : (n.natAbs.log2 : ℤ) - 52 = (n.natAbs.log2 + 1022 : ℕ) - 1074 := by omega
  rw [ofInt, if_neg hn, magnitudeOfNat, hplace]
  exact value_ofParts (by split <;> omega) (by omega) hlow hhigh

theorem value_ofInt_zero : (ofInt 0).IsFinite ∧ (ofInt 0).value = 0 := by
  have hexponent : (ofInt 0).exponent = 0 := by decide
  have hfraction : (ofInt 0).fraction = 0 := by decide
  refine ⟨by rw [IsFinite, hexponent]; decide, ?_⟩
  rw [value, significand, if_pos hexponent, hfraction, Nat.cast_zero, zero_mul, mul_zero]

/-- An integer has a sign and a size. -/
theorem cast_eq_sign_mul (n : ℤ) : (n : ℚ) = (-1) ^ (if n < 0 then 1 else 0) * n.natAbs := by
  rw [Nat.cast_natAbs]
  split
  case isTrue hneg => rw [abs_of_neg hneg, Int.cast_neg, pow_one, neg_one_mul, neg_neg]
  case isFalse hpos => rw [abs_of_nonneg (not_lt.mp hpos), pow_zero, one_mul]

/-- No number is nearer to an integer of the host than the one that is made from it. -/
theorem ofInt_nearest {n : ℤ} (hfits : Word.Fits 128 n) :
    (ofInt n).IsFinite ∧ ∀ x : Binary64, |(ofInt n).value - n| ≤ |x.value - n| := by
  by_cases hn : n = 0
  · obtain ⟨hfinite, hvalue⟩ := value_ofInt_zero
    rw [hn, hvalue, Int.cast_zero, sub_zero, abs_zero]
    exact ⟨hfinite, fun x => abs_nonneg _⟩
  have habs : n.natAbs ≠ 0 := Int.natAbs_ne_zero.mpr hn
  have hlog : n.natAbs.log2 < 128 := by
    obtain ⟨hlow, hhigh⟩ := Word.fits_iff.mp hfits
    exact (Nat.log2_lt habs).mpr (by omega)
  obtain ⟨hfinite, hvalue⟩ := value_ofInt_of_ne_zero hn (by omega)
  have hsize : |(n : ℚ)| = n.natAbs := by rw [Nat.cast_natAbs, Int.cast_abs]
  refine ⟨hfinite, fun x => ?_⟩
  calc |(ofInt n).value - n|
      = |(significandOfNat n.natAbs : ℚ) * 2 ^ ((n.natAbs.log2 : ℤ) - 52) - n.natAbs| := by
        rw [hvalue, cast_eq_sign_mul n, ← mul_sub, abs_mul, abs_neg_one_pow, one_mul]
    _ ≤ |(x.significand : ℚ) * 2 ^ x.scale - n.natAbs| :=
        significandOfNat_nearest habs x.significand_lt x.scale
    _ = |(|x.value| - |(n : ℚ)|)| := by rw [abs_value, hsize]
    _ ≤ |x.value - n| := abs_abs_sub_abs_le _ _

/-- An integer of 53 bits is not rounded. -/
theorem value_ofInt {n : ℤ} (hlt : n.natAbs < 2 ^ 53) : (ofInt n).value = n := by
  by_cases hn : n = 0
  · rw [hn, Int.cast_zero]
    exact value_ofInt_zero.2
  · have hlog : n.natAbs.log2 < 53 := (Nat.log2_lt (Int.natAbs_ne_zero.mpr hn)).mpr hlt
    rw [(value_ofInt_of_ne_zero hn (by omega)).2, significandOfNat_exact (by omega),
      ← cast_eq_sign_mul]

/-- An integer of the host is read as -1 only if it is -1: to any other, 0 or -2 is nearer. -/
theorem ofInt_eq_minusOne_iff {n : ℤ} (hfits : Word.Fits 128 n) :
    ofInt n = minusOne ↔ n = -1 := by
  have hone : ofInt (-1) = minusOne := by decide
  refine ⟨fun heq => ?_, fun heq => heq ▸ hone⟩
  have hnearest : ∀ k : ℤ, k.natAbs < 2 ^ 53 → |-1 - n| ≤ |k - n| := by
    intro k hk
    have hle := (ofInt_nearest hfits).2 (ofInt k)
    rw [heq, ← hone, value_ofInt (by decide), value_ofInt hk] at hle
    exact_mod_cast hle
  have hzero := hnearest 0 (by decide)
  have htwo := hnearest (-2) (by decide)
  simp only [Int.abs_eq_natAbs] at hzero htwo
  omega

end Binary64

end HostBridge
