import CatalogRules.Number.Stepwise
import CatalogRules.Proofs.Number.Decimal

/-!
Numbers read in steps, where only the last step rounds. A count of up to 53 bits and a power of ten
up to the twenty-second are numbers themselves, so that their product and their quotient are rounded
once. Then the steps give the number that is nearest to the decimal.
-/

namespace CatalogRules.Binary64

open Text (digitsValue)

variable {a b m n count : ℕ} {exponent : ℤ} {cs : List Char}

theorem le_ofDigitChars (n : ℕ) (cs : List Char) : n ≤ Nat.ofDigitChars 10 cs n := by
  rw [Nat.ofDigitChars_eq_ofDigitChars_zero]
  exact (Nat.le_mul_of_pos_left n (by positivity)).trans (Nat.le_add_right _ _)

theorem countDigits_eq (h : Nat.ofDigitChars 10 cs count ≤ greatestCount) :
    countDigits count cs = (Nat.ofDigitChars 10 cs count, cs.length) := by
  induction cs generalizing count with
  | nil => rfl
  | cons c cs ih =>
      have hnext : Nat.ofDigitChars 10 (c :: cs) count =
          Nat.ofDigitChars 10 cs (count * 10 + digitsValue [c]) := by
        rw [Nat.ofDigitChars_cons, Nat.mul_comm]
        simp [digitsValue, Nat.ofDigitChars]
      rw [hnext] at h ⊢
      rw [countDigits, if_pos ((le_ofDigitChars _ cs).trans h), ih h]
      rfl

theorem countDigits_append {whole fraction : List Char}
    (h : digitsValue (whole ++ fraction) ≤ greatestCount) :
    countDigits 0 whole = (digitsValue whole, whole.length) ∧
      countDigits (digitsValue whole) fraction =
        (digitsValue (whole ++ fraction), fraction.length) := by
  rw [digitsValue, Nat.ofDigitChars_append] at h
  refine ⟨countDigits_eq ((le_ofDigitChars _ fraction).trans h), ?_⟩
  rw [digitsValue, countDigits_eq h, digitsValue, Nat.ofDigitChars_append]

theorem scaled_rankOfNat {rank : ℕ} (h : scaled rank = n * pow2 1074) :
    scaled (rankOfNat n) = n * pow2 1074 := by
  have hback := nearestRank_scaled Nat.one_pos rank
  rw [Nat.mul_one, h] at hback
  rw [rankOfNat, hback, h]

theorem scaled_rankOfNat_of_le (h : n ≤ 2 ^ 53) : scaled (rankOfNat n) = n * pow2 1074 := by
  obtain ⟨rank, hrank⟩ := exists_scaled_eq_shift (k := 1074) h (by norm_num)
  rw [← pow2_eq] at hrank
  exact scaled_rankOfNat hrank

/-- The fives of a power of ten are bits of it, and the twos only move them. -/
theorem scaled_rankOfNat_pow10 (h : n ≤ 22) :
    scaled (rankOfNat (pow10 n)) = pow10 n * pow2 1074 := by
  have hfives : pow5 n ≤ 2 ^ 53 :=
    (Nat.pow_le_pow_right (by norm_num) h).trans (by norm_num)
  obtain ⟨rank, hrank⟩ := exists_scaled_eq_shift (k := n + 1074) hfives (by omega)
  rw [← pow2_eq, pow2_add, ← Nat.mul_assoc, Nat.mul_comm (pow5 n), ← pow10_eq] at hrank
  exact scaled_rankOfNat hrank

section

variable (ha : scaled a = m * pow2 1074) (hb : scaled b = n * pow2 1074)

include ha hb

theorem timesRank_eq : timesRank a b = nearestRank (m * n * pow2 1074) 1 := by
  have hproduct (u : ℕ) : m * u * (n * u) = m * n * u * u := by ring
  rw [timesRank, ha, hb, hproduct, ← nearestRank_mul_right _ 1 (pow2_pos 1074), Nat.one_mul]

theorem dividedRank_eq : dividedRank a b = nearestRank (m * pow2 1074) n := by
  rw [dividedRank, ha, hb, nearestRank_mul_right _ _ (pow2_pos 1074)]

end

/-- A short count times a small power of ten is rounded once. -/
theorem steppedRank_eq (hcount : count ≤ 2 ^ 53) (hlow : -22 ≤ exponent) (hhigh : exponent ≤ 22) :
    steppedRank count exponent =
      nearestRank (count * pow10 exponent.toNat * pow2 1074) (pow10 (-exponent).toNat) := by
  have hscaled := scaled_rankOfNat_of_le hcount
  by_cases hzero : count = 0
  · subst hzero
    rw [steppedRank_zero, Nat.zero_mul, Nat.zero_mul]
    exact (nearestRank_eq_zero (pow10_pos _) (pow10_pos _)).symm
  · rw [steppedRank, if_neg hzero, if_neg (by simp only [greatestPower]; omega)]
    split
    · rename_i hwhole
      have hnone : (-exponent).toNat = 0 := by omega
      rw [timesRank_eq hscaled (scaled_rankOfNat_pow10 (by omega)), hnone, pow10_zero]
    · rename_i hwhole
      have hnone : exponent.toNat = 0 := by omega
      have htimes : ((-exponent).toNat - 1) / greatestPower = 0 := by
        simp only [greatestPower]
        omega
      simp only [htimes, Nat.zero_mul, Nat.sub_zero, shrunkRank]
      rw [dividedRank_eq hscaled (scaled_rankOfNat_pow10 (by omega)), hnone, pow10_zero,
        Nat.mul_one]

/-- Few digits with a small power of ten are read as the nearest number. -/
theorem stepped_eq_toBinary64 (negative : Bool) {whole fraction : List Char}
    (hcount : digitsValue (whole ++ fraction) ≤ 2 ^ 53) (hlow : -22 ≤ exponent - fraction.length)
    (hhigh : exponent - fraction.length ≤ 22) :
    stepped negative whole fraction exponent =
      (⟨negative, digitsValue (whole ++ fraction), exponent - fraction.length⟩ :
        Decimal).toBinary64 := by
  obtain ⟨hwhole, hfraction⟩ := countDigits_append (hcount.trans (by decide))
  have hexponent : (whole.length - whole.length - fraction.length + exponent : ℤ) =
      exponent - fraction.length := by omega
  simp only [stepped, hwhole, hfraction, hexponent]
  rw [steppedRank_eq hcount hlow hhigh, Decimal.toBinary64_eq_nearest]
  rfl

end CatalogRules.Binary64
