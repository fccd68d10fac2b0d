import CatalogRules.Number.Whole
import CatalogRules.Proofs.Number.Decimal

/-!
Integers against numbers. Rounding an integer to a number is monotone and gives a whole
number, and a whole number compares as the integer that it is. So an integer of up to 64
bits compares with the value of a number, whether the number becomes an integer for it or the
integer a number: a number with a fraction is never what an integer is rounded to.
-/

namespace CatalogRules.Binary64

/-- From `2^52` on the spacing is a whole number. -/
theorem pow2_dvd_scaled {rank : ℕ} (h : 1075 * 2 ^ 52 ≤ rank) : pow2 1074 ∣ scaled rank := by
  have hbinade : 1075 ≤ rank / 2 ^ 52 := (Nat.le_div_iff_mul_le (by norm_num)).2 h
  have hpow (k : ℕ) (hk : k ≤ rank / 2 ^ 52 - 1) : pow2 k ∣ 2 ^ (rank / 2 ^ 52 - 1) :=
    Nat.pow_dvd_pow 2 hk
  rw [scaled_eq, if_neg (by omega)]
  exact (hpow 1074 (by omega)).mul_left _

theorem isWhole_finite_iff {negative : Bool} {rank : Fin rankCount} :
    (finite negative rank).isWhole = true ↔ pow2 1074 ∣ scaled rank := by
  rw [isWhole, beq_iff_eq, Nat.dvd_iff_mod_eq_zero]

theorem truncate_mul {negative : Bool} {rank : Fin rankCount}
    (h : (finite negative rank).isWhole = true) :
    (finite negative rank).truncate * (pow2 1074 : ℕ) = units negative rank := by
  have hdiv := Nat.div_mul_cancel (isWhole_finite_iff.1 h)
  cases negative with
  | false =>
      simp only [truncate, units, Bool.false_eq_true, if_false]
      exact_mod_cast hdiv
  | true =>
      simp only [truncate, units, if_true, neg_mul, neg_inj]
      exact_mod_cast hdiv

theorem compareInt?_of_isWhole {x : Binary64} (h : x.isWhole = true) (i : ℤ) :
    x.compareInt? i = some (compare i x.truncate) := by
  cases x with
  | finite negative rank =>
      have hpos : (0 : ℤ) < (pow2 1074 : ℕ) := by exact_mod_cast pow2_pos 1074
      rw [compareInt?, ← truncate_mul h]
      exact congrArg some
        (compare_congr (mul_lt_mul_iff_of_pos_right hpos) (mul_left_inj' hpos.ne'))
  | _ => simp [isWhole] at h

def natRank (n : ℕ) : ℕ := nearestRank (n * pow2 1074) 1

def intPlace (i : ℤ) : ℤ := i.sign * natRank i.natAbs

theorem ofInt_eq_natRank {i : ℤ} (h : i.natAbs ≤ 2 ^ 64) :
    ofInt i = .finite (i < 0) ⟨natRank i.natAbs, nearestRank_lt_rankCount h⟩ :=
  ofInt_eq_finite h

theorem natRank_le {n rank : ℕ} (h : n * pow2 1074 ≤ scaled rank) : natRank n ≤ rank :=
  nearestRank_le Nat.one_pos (by rwa [mul_one])

theorem le_natRank {n rank : ℕ} (h : scaled rank ≤ n * pow2 1074) : rank ≤ natRank n :=
  le_nearestRank Nat.one_pos (by rwa [mul_one])

theorem natRank_zero : natRank 0 = 0 := Nat.le_zero.1 (natRank_le (by simp))

@[simp] theorem intPlace_neg (i : ℤ) : intPlace (-i) = -intPlace i := by
  simp [intPlace]

@[simp] theorem intPlace_natCast (n : ℕ) : intPlace n = natRank n := by
  rcases Nat.eq_zero_or_pos n with rfl | hn
  · simp [intPlace, natRank_zero]
  · have hsign : (n : ℤ).sign = 1 := Int.sign_eq_one_of_pos (by omega)
    simp [intPlace, hsign]

@[simp] theorem unitsAt_neg (p : ℤ) : unitsAt (-p) = -unitsAt p := by
  simp [unitsAt]

@[simp] theorem unitsAt_natCast (rank : ℕ) : unitsAt rank = scaled rank :=
  (units_eq_unitsAt false rank).symm

theorem place_ofInt {i : ℤ} (h : i.natAbs ≤ 2 ^ 64) : (ofInt i).place = some (intPlace i) := by
  have hplace : (ofInt i).place =
      some (if (i < 0 : Bool) then -(natRank i.natAbs : ℤ) else natRank i.natAbs) := by
    rw [ofInt_eq_natRank h]
    rfl
  rw [hplace]
  obtain ⟨n, rfl | rfl⟩ := Int.eq_nat_or_neg i
  · simp
  · rcases Nat.eq_zero_or_pos n with rfl | hn
    · simp [natRank_zero, intPlace]
    · simp [hn]

/-- An integer that is not above a number does not become a number above it. -/
theorem intPlace_le {i p : ℤ} (h : i * (pow2 1074 : ℕ) ≤ unitsAt p) : intPlace i ≤ p := by
  rcases Int.eq_nat_or_neg i with ⟨n, rfl | rfl⟩
  · have hp : 0 ≤ p := by
      rw [← unitsAt_strictMono.le_iff_le, unitsAt, Int.sign_zero, zero_mul]
      exact (mul_nonneg (Nat.cast_nonneg n) (Nat.cast_nonneg _)).trans h
    obtain ⟨rank, rfl⟩ := Int.eq_ofNat_of_zero_le hp
    rw [unitsAt_natCast] at h
    rw [intPlace_natCast]
    exact_mod_cast natRank_le (by exact_mod_cast h)
  · rw [intPlace_neg, intPlace_natCast]
    rcases le_total 0 p with hp | hp
    · omega
    · obtain ⟨rank, hrank⟩ := Int.eq_ofNat_of_zero_le (neg_nonneg.2 hp)
      obtain rfl : p = -rank := by omega
      rw [unitsAt_neg, unitsAt_natCast, neg_mul, neg_le_neg_iff] at h
      exact neg_le_neg (by exact_mod_cast le_natRank (by exact_mod_cast h))

theorem le_intPlace {i p : ℤ} (h : unitsAt p ≤ i * (pow2 1074 : ℕ)) : p ≤ intPlace i := by
  have hneg : intPlace (-i) ≤ -p := intPlace_le (by rw [neg_mul, unitsAt_neg]; exact neg_le_neg h)
  rwa [intPlace_neg, neg_le_neg_iff] at hneg

theorem isWhole_ofInt {i : ℤ} (h : i.natAbs ≤ 2 ^ 64) : (ofInt i).isWhole = true := by
  rw [ofInt_eq_natRank h, isWhole_finite_iff]
  rcases Nat.lt_or_ge (2 ^ 53) i.natAbs with hlarge | hsmall
  · have hrank : (1 + 1074) * 2 ^ 52 + 2 ^ 52 ≤ natRank i.natAbs := by
      apply le_natRank
      rw [scaled_pow2]
      exact Nat.mul_le_mul_right _ hlarge.le
    exact pow2_dvd_scaled (le_trans (by norm_num) hrank)
  · obtain ⟨rank, hrank⟩ := exists_scaled_eq hsmall
    rw [← pow2_eq] at hrank
    have hexact : natRank i.natAbs = rank := by
      rw [natRank, ← hrank, ← Nat.mul_one (scaled rank), nearestRank_scaled Nat.one_pos]
    simp only [hexact, hrank]
    exact Nat.dvd_mul_left _ _

def wideRank : ℕ := 0x47E0000000000000

theorem wideBound_eq : wideBound = .finite false ⟨wideRank, by norm_num [wideRank]⟩ := by
  decide +kernel

theorem isWideInteger_iff {negative : Bool} {rank : Fin rankCount} :
    (finite negative rank).isWideInteger = true ↔
      (finite negative rank).isWhole = true ∧ (rank : ℕ) < wideRank := by
  have hcompare : (finite negative rank).magnitude.compare? wideBound =
      some (compare ((rank : ℕ) : ℤ) (wideRank : ℤ)) := by
    rw [wideBound_eq]
    rfl
  rw [isWideInteger, hcompare, Bool.and_eq_true, beq_iff_eq, Option.some_inj, compare_natCast,
    compare_lt_iff_lt]

theorem isWideInteger_ofInt {i : ℤ} (h : i.natAbs ≤ 2 ^ 64) : (ofInt i).isWideInteger = true := by
  have hwhole := isWhole_ofInt h
  rw [ofInt_eq_natRank h] at hwhole ⊢
  have hrank : natRank i.natAbs ≤ (12 + 1074) * 2 ^ 52 + 2 ^ 52 := by
    apply natRank_le
    rw [scaled_pow2]
    exact Nat.mul_le_mul_right _ h
  exact isWideInteger_iff.2 ⟨hwhole, hrank.trans_lt (by norm_num [wideRank])⟩

theorem natAbs_intPlace (i : ℤ) : (intPlace i).natAbs = natRank i.natAbs := by
  obtain ⟨n, rfl | rfl⟩ := Int.eq_nat_or_neg i
  · rw [intPlace_natCast, Int.natAbs_natCast, Int.natAbs_natCast]
  · rw [intPlace_neg, Int.natAbs_neg, Int.natAbs_neg, intPlace_natCast, Int.natAbs_natCast,
      Int.natAbs_natCast]

/-- What an integer becomes is an integer of 128 bits, so the two places differ. -/
theorem intPlace_ne {i : ℤ} (h : i.natAbs ≤ 2 ^ 64) {negative : Bool} {rank : Fin rankCount}
    (hx : (finite negative rank).isWideInteger = false) :
    intPlace i ≠ if negative then -(rank : ℤ) else rank := by
  intro heq
  have hnat : natRank i.natAbs = rank := by
    rw [← natAbs_intPlace, heq]
    cases negative <;> simp
  have hwide := isWideInteger_ofInt h
  rw [ofInt_eq_natRank h, isWideInteger_iff, isWhole_finite_iff] at hwide
  rw [← Bool.not_eq_true, isWideInteger_iff, isWhole_finite_iff, ← hnat] at hx
  exact hx hwide

/-- What is no integer of 128 bits compares with an integer as with what the integer becomes. -/
theorem compare?_ofInt {i : ℤ} (h : i.natAbs ≤ 2 ^ 64) {x : Binary64}
    (hx : x.isWideInteger = false) : (ofInt i).compare? x = x.compareInt? i := by
  rw [compare?, place_ofInt h]
  cases x with
  | nan => rfl
  | infinite negative =>
      have habs := natAbs_intPlace i
      have hlt : natRank i.natAbs < rankCount := nearestRank_lt_rankCount h
      cases negative with
      | false =>
          have habove : intPlace i < rankCount := by omega
          exact congrArg some (compare_lt_iff_lt.2 habove)
      | true =>
          have hbelow : -(rankCount : ℤ) < intPlace i := by omega
          exact congrArg some (compare_gt_iff_gt.2 hbelow)
  | finite negative rank =>
      have hne := intPlace_ne h hx
      refine congrArg some (compare_congr ?_ ?_) <;> rw [units_eq_unitsAt]
      · constructor
        · intro hlt
          by_contra hnot
          exact absurd hlt (not_lt.2 (le_intPlace (not_lt.1 hnot)))
        · exact fun hlt => lt_of_le_of_ne (intPlace_le hlt.le) hne
      · exact iff_of_false hne fun heq =>
          hne (le_antisymm (intPlace_le heq.le) (le_intPlace heq.ge))

end CatalogRules.Binary64
