import CatalogRules.Proofs.Number.Nearest

/-!
Decimals as numbers. The nearest rank belongs to a quotient, however it is written, and a
quotient that is a number has its rank. The number of a decimal is the one nearest to its
exact value, also where the value is so large or so small that it is not computed.
-/

namespace CatalogRules

namespace Binary64

variable {num den rank : ℕ}

theorem nearestRank_mul_right (num den : ℕ) {k : ℕ} (hk : 0 < k) :
    nearestRank (num * k) (den * k) = nearestRank num den := by
  have hmiddle (low : ℕ) :
      compare (2 * (num * k)) ((scaled low + scaled (low + 1)) * (den * k)) =
        compare (2 * num) ((scaled low + scaled (low + 1)) * den) := by
    rw [← Nat.mul_assoc, ← Nat.mul_assoc]
    exact compare_congr (Nat.mul_lt_mul_right hk) (Nat.mul_left_inj hk.ne')
  simp only [nearestRank, Nat.mul_div_mul_right num den hk, hmiddle]

theorem nearestRank_congr {num' den' : ℕ} (hden : 0 < den) (hden' : 0 < den')
    (h : num * den' = num' * den) : nearestRank num den = nearestRank num' den' := by
  rw [← nearestRank_mul_right num den hden', ← nearestRank_mul_right num' den' hden, h,
    Nat.mul_comm den]

variable (hden : 0 < den)

include hden

theorem nearestRank_scaled (rank : ℕ) : nearestRank (scaled rank * den) den = rank := by
  have hden' : (den : ℚ) ≠ 0 := by exact_mod_cast hden.ne'
  obtain ⟨hnearest, -⟩ := nearestRank_nearest (scaled rank * den) hden rank
  rw [Nat.cast_mul, mul_div_cancel_right₀ _ hden', sub_self, abs_zero, abs_nonpos_iff,
    sub_eq_zero, Nat.cast_inj] at hnearest
  exact (scaled_strictMono.injective hnearest).symm

theorem le_nearestRank (h : scaled rank * den ≤ num) : rank ≤ nearestRank num den := by
  have hden' : (0 : ℚ) < den := by exact_mod_cast hden
  have hle : (scaled rank : ℚ) ≤ num / den := by
    rw [le_div_iff₀ hden']
    exact_mod_cast h
  obtain ⟨hnearest, -⟩ := nearestRank_nearest num hden rank
  rw [abs_of_nonneg (sub_nonneg.2 hle), abs_le] at hnearest
  have hscaled : (scaled rank : ℚ) ≤ scaled (nearestRank num den) := by linarith
  exact scaled_strictMono.le_iff_le.1 (by exact_mod_cast hscaled)

theorem nearestRank_eq_zero (h : 2 * num < den) : nearestRank num den = 0 := by
  have hden' : (0 : ℚ) < den := by exact_mod_cast hden
  have hhalf : 2 * (num / den : ℚ) < 1 := by
    rw [← mul_div_assoc, div_lt_one hden']
    exact_mod_cast h
  obtain ⟨hnearest, -⟩ := nearestRank_nearest num hden 0
  have hquotient : (0 : ℚ) ≤ num / den := by positivity
  rw [scaled_zero, Nat.cast_zero, sub_zero, abs_of_nonneg hquotient, abs_le] at hnearest
  have hscaled : (scaled (nearestRank num den) : ℚ) < 1 := by linarith
  have hzero : scaled (nearestRank num den) = scaled 0 := by
    rw [scaled_zero]
    exact Nat.lt_one_iff.1 (by exact_mod_cast hscaled)
  exact scaled_strictMono.injective hzero

end Binary64

namespace Decimal

open Binary64 (nearest nearestRank scaled rankCount)

/-- The exact value of a decimal, in units of `2^-1074`, is this over `den`. -/
def num (d : Decimal) : ℕ := d.coefficient * pow10 d.exponent.toNat * pow2 1074

def den (d : Decimal) : ℕ := pow10 (-d.exponent).toNat

theorem den_pos (d : Decimal) : 0 < d.den := pow10_pos _

theorem pow2_le_pow10 (n k : ℕ) : pow2 (93 * n + k) ≤ pow10 (28 * n + k) := by
  change 2 ^ (93 * n + k) ≤ 10 ^ (28 * n + k)
  rw [Nat.pow_add, Nat.pow_mul, Nat.pow_add, Nat.pow_mul]
  exact Nat.mul_le_mul (Nat.pow_le_pow_left (by norm_num) n) (Nat.pow_le_pow_left (by norm_num) k)

theorem pow10_le_pow10 {m n : ℕ} (h : m ≤ n) : pow10 m ≤ pow10 n :=
  Nat.pow_le_pow_right (by norm_num) h

variable {d : Decimal}

theorem rankCount_le_nearestRank (hcoefficient : d.coefficient ≠ 0)
    (hexponent : greatestExponent < d.exponent) : rankCount ≤ nearestRank d.num d.den := by
  -- The exponents are variables, so that no power is evaluated.
  have hbeyond (k m : ℕ) (hten : pow2 1024 ≤ pow10 m) :
      scaled ((972 + k) * 2 ^ 52 + 2 ^ 52) * 1 ≤ d.coefficient * pow10 m * pow2 k := by
    rw [Binary64.scaled_pow2, mul_one]
    exact Nat.mul_le_mul_right _ (hten.trans (Nat.le_mul_of_pos_left _ (by omega)))
  have hten : pow2 1024 ≤ pow10 d.exponent.toNat := by
    refine (pow2_le_pow10 11 1).trans (pow10_le_pow10 ?_)
    simp only [greatestExponent] at hexponent
    omega
  have hden : d.den = 1 := by
    have hzero : (-d.exponent).toNat = 0 := by
      simp only [greatestExponent] at hexponent
      omega
    rw [den, hzero, pow10_zero]
  rw [hden]
  exact (show rankCount ≤ (972 + 1074) * 2 ^ 52 + 2 ^ 52 by norm_num).trans
    (Binary64.le_nearestRank Nat.one_pos (hbeyond 1074 _ hten))

theorem nearestRank_of_tiny {k : ℕ} (hcoefficient : d.coefficient < 10 ^ k)
    (hexponent : d.exponent + (k + 360) ≤ 0) : nearestRank d.num d.den = 0 := by
  apply Binary64.nearestRank_eq_zero d.den_pos
  have hzero : d.exponent.toNat = 0 := by omega
  have htwo : 2 * pow2 1074 ≤ pow10 360 := by
    rw [Nat.mul_comm, ← pow2_succ]
    exact pow2_le_pow10 11 52
  calc
    2 * d.num = d.coefficient * (2 * pow2 1074) := by rw [num, hzero, pow10_zero]; ring
    _ ≤ d.coefficient * pow10 360 := Nat.mul_le_mul_left _ htwo
    _ < pow10 k * pow10 360 := Nat.mul_lt_mul_of_pos_right hcoefficient (pow10_pos _)
    _ = pow10 (k + 360) := (pow10_add ..).symm
    _ ≤ d.den := pow10_le_pow10 (by omega)

theorem nearestRank_of_small (hexponent : d.exponent + (d.coefficient.log2 + 1) < leastMagnitude) :
    nearestRank d.num d.den = 0 := by
  have hcoefficient : d.coefficient < 10 ^ (d.coefficient.log2 + 1) :=
    Nat.lt_log2_self.trans_le (Nat.pow_le_pow_left (by norm_num) _)
  apply nearestRank_of_tiny hcoefficient
  simp only [leastMagnitude] at hexponent
  omega

/-- The number of a decimal is the one nearest to its exact value. -/
theorem toBinary64_eq_nearest (d : Decimal) : d.toBinary64 = nearest d.negative d.num d.den := by
  unfold toBinary64
  split_ifs with hcoefficient hlarge hsmall hwhole
  · have hnum : d.num = 0 := by rw [num, hcoefficient, Nat.zero_mul, Nat.zero_mul]
    have hrank : nearestRank 0 d.den = 0 :=
      Binary64.nearestRank_eq_zero d.den_pos (by simpa using d.den_pos)
    rw [nearest, hnum, hrank]
  · have hrank := rankCount_le_nearestRank hcoefficient hlarge
    rw [nearest, Binary64.ofRank, dif_neg (Nat.not_lt.2 hrank)]
  · rw [nearest, nearestRank_of_small hsmall]
  · have hden : (-d.exponent).toNat = 0 := by omega
    rw [num, den, hden, pow10_zero]
  · have hnum : d.exponent.toNat = 0 := by omega
    rw [num, den, hnum, pow10_zero, Nat.mul_one]

end Decimal

end CatalogRules
