import CatalogRules.Number.Decimal
import CatalogRules.Proofs.Number.Comparison
import Mathlib

/-!
What binary64 numbers are worth. A finite number is a rational, the infinities
stand below and above all rationals, and what is not a number has no value. The
ranks ascend with the values, so comparing places is comparing values, and so is
comparing an integer with a number.
-/

namespace CatalogRules

theorem pow2_eq (k : ℕ) : pow2 k = 2 ^ k := rfl

namespace Binary64

/-- The rationals, with one element below and one above them all. -/
abbrev Extended := WithBot (WithTop ℚ)

def Extended.ofRat (q : ℚ) : Extended := (q : WithTop ℚ)

def Extended.ofInt (i : ℤ) : Extended := ofRat i

theorem Extended.ofRat_lt {p q : ℚ} : ofRat p < ofRat q ↔ p < q := by
  rw [ofRat, ofRat, WithBot.coe_lt_coe, WithTop.coe_lt_coe]

theorem Extended.ofRat_inj {p q : ℚ} : ofRat p = ofRat q ↔ p = q := by
  rw [ofRat, ofRat, WithBot.coe_inj, WithTop.coe_inj]

theorem Extended.ofRat_strictMono : StrictMono ofRat := fun _ _ => ofRat_lt.2

def finiteValue (negative : Bool) (rank : ℕ) : ℚ := units negative rank / 2 ^ 1074

def value? : Binary64 → Option Extended
  | nan => none
  | infinite negative => some (if negative then ⊥ else ⊤)
  | finite negative rank => some (.ofRat (finiteValue negative rank))

theorem value?_of_ofLiteral? {cs : List Char} {x : Binary64} (h : ofLiteral? cs = some x) :
    ∃ q, x.value? = some (.ofRat q) := by
  simp only [ofLiteral?, Option.bind_eq_bind, Option.bind_eq_some_iff] at h
  obtain ⟨d, -, h⟩ := h
  split at h
  · rename_i hfinite
    rw [Option.some.injEq] at h
    subst x
    cases hx : d.toBinary64 with
    | finite negative rank => exact ⟨_, rfl⟩
    | _ => simp [hx, isFinite] at hfinite
  · simp at h

/-- Below `2^52` the spacing is the least one; from there on the lower 52 bits of
the rank are the fraction behind a leading one. -/
theorem scaled_eq (rank : ℕ) :
    scaled rank =
      if rank < 2 ^ 52 then rank
      else (2 ^ 52 + rank % 2 ^ 52) * 2 ^ (rank / 2 ^ 52 - 1) := by
  have hpow : pow2 52 = 2 ^ 52 := rfl
  have hmod := Nat.div_add_mod rank (2 ^ 52)
  simp only [scaled, spacingExponent, hpow]
  split
  · rename_i h
    rw [Nat.div_eq_of_lt h]
    simp
  · rename_i h
    have hdiv : 1 ≤ rank / 2 ^ 52 := (Nat.one_le_div_iff (by norm_num)).2 (not_lt.1 h)
    congr 1
    obtain ⟨k, hk⟩ := Nat.exists_eq_add_of_le hdiv
    rw [hk] at hmod ⊢
    simp only [Nat.add_sub_cancel_left]
    omega

@[simp] theorem scaled_zero : scaled 0 = 0 := by
  simp [scaled_eq]

theorem scaled_lt_scaled_succ (rank : ℕ) : scaled rank < scaled (rank + 1) := by
  have hmod := Nat.div_add_mod rank (2 ^ 52)
  have hlt := Nat.mod_lt rank (show 0 < 2 ^ 52 by norm_num)
  rw [scaled_eq, scaled_eq]
  by_cases hnext : rank % 2 ^ 52 + 1 < 2 ^ 52
  · -- The two ranks lie in one binade and have one spacing.
    have hdiv : (rank + 1) / 2 ^ 52 = rank / 2 ^ 52 := by omega
    have hrem : (rank + 1) % 2 ^ 52 = rank % 2 ^ 52 + 1 := by omega
    rw [hdiv, hrem]
    split
    · split <;> omega
    · rw [if_neg (by omega)]
      exact Nat.mul_lt_mul_of_pos_right (by omega) (by positivity)
  · -- The next rank begins a binade: its fraction is zero.
    have hrem : rank % 2 ^ 52 = 2 ^ 52 - 1 := by omega
    have hdiv : (rank + 1) / 2 ^ 52 = rank / 2 ^ 52 + 1 := by omega
    have hrem' : (rank + 1) % 2 ^ 52 = 0 := by omega
    rw [hdiv, hrem', hrem, if_neg (show ¬rank + 1 < 2 ^ 52 by omega)]
    split
    · rename_i hsmall
      rw [Nat.div_eq_of_lt hsmall]
      simpa using hsmall
    · rename_i hlarge
      have hone : 1 ≤ rank / 2 ^ 52 := (Nat.one_le_div_iff (by norm_num)).2 (not_lt.1 hlarge)
      obtain ⟨k, hk⟩ := Nat.exists_eq_add_of_le hone
      rw [hk, show 1 + k - 1 = k by omega, show 1 + k + 1 - 1 = k + 1 by omega]
      calc
        (2 ^ 52 + (2 ^ 52 - 1)) * 2 ^ k < (2 ^ 52 + 2 ^ 52) * 2 ^ k :=
          Nat.mul_lt_mul_of_pos_right (by norm_num) (by positivity)
        _ = (2 ^ 52 + 0) * 2 ^ (k + 1) := by ring

theorem scaled_strictMono : StrictMono scaled :=
  strictMono_nat_of_lt_succ scaled_lt_scaled_succ

def unitsAt (place : ℤ) : ℤ := place.sign * scaled place.natAbs

theorem units_eq_unitsAt (negative : Bool) (rank : ℕ) :
    units negative rank = unitsAt (if negative then -rank else rank) := by
  cases negative with
  | false =>
      rcases Nat.eq_zero_or_pos rank with rfl | hpos
      · simp [units, unitsAt]
      · have hsign : (rank : ℤ).sign = 1 := Int.sign_eq_one_of_pos (by omega)
        simp [units, unitsAt, hsign]
  | true =>
      rcases Nat.eq_zero_or_pos rank with rfl | hpos
      · simp [units, unitsAt]
      · have hsign : (rank : ℤ).sign = 1 := Int.sign_eq_one_of_pos (by omega)
        simp [units, unitsAt, hsign]

theorem unitsAt_strictMono : StrictMono unitsAt := by
  intro p q hpq
  have hnat : ∀ m n : ℕ, m < n → (scaled m : ℤ) < scaled n := fun m n h => by
    exact_mod_cast scaled_strictMono h
  rcases lt_trichotomy p 0 with hp | rfl | hp
  · have hpos := hnat 0 p.natAbs (by omega)
    rcases lt_trichotomy q 0 with hq | rfl | hq
    · have hlt := hnat q.natAbs p.natAbs (by omega)
      simpa [unitsAt, Int.sign_eq_neg_one_of_neg hp, Int.sign_eq_neg_one_of_neg hq] using hlt
    · simpa [unitsAt, Int.sign_eq_neg_one_of_neg hp] using hpos
    · have hq' := hnat 0 q.natAbs (by omega)
      simp only [unitsAt, Int.sign_eq_neg_one_of_neg hp, Int.sign_eq_one_of_pos hq]
      simp only [scaled_zero] at hpos hq'
      omega
  · have hq' := hnat 0 q.natAbs (by omega)
    simpa [unitsAt, Int.sign_eq_one_of_pos hpq] using hq'
  · have hlt := hnat p.natAbs q.natAbs (by omega)
    simpa [unitsAt, Int.sign_eq_one_of_pos hp, Int.sign_eq_one_of_pos (hp.trans hpq)] using hlt

def valueAt (place : ℤ) : Extended :=
  if place ≤ -rankCount then ⊥
  else if rankCount ≤ place then ⊤
  else .ofRat (unitsAt place / 2 ^ 1074)

theorem value?_eq_map_place (x : Binary64) : x.value? = x.place.map valueAt := by
  cases x with
  | nan => rfl
  | infinite negative => cases negative <;> rfl
  | finite negative rank =>
      have hrank : (rank : ℕ) < rankCount := rank.isLt
      have hlow : ¬(if negative then -((rank : ℕ) : ℤ) else (rank : ℕ)) ≤ -rankCount := by
        split <;> omega
      have hhigh : ¬(rankCount : ℤ) ≤ (if negative then -((rank : ℕ) : ℤ) else (rank : ℕ)) := by
        split <;> omega
      simp only [value?, place, Option.map_some, valueAt, finiteValue, units_eq_unitsAt]
      rw [if_neg hlow, if_neg hhigh]

theorem place_mem_Icc {x : Binary64} {p : ℤ} (h : x.place = some p) :
    p ∈ Set.Icc (-(rankCount : ℤ)) rankCount := by
  cases x with
  | nan => simp [place] at h
  | infinite negative =>
      simp only [place, Option.some.injEq] at h
      subst p
      cases negative <;> simp
  | finite negative rank =>
      have hrank : (rank : ℕ) < rankCount := rank.isLt
      simp only [place, Option.some.injEq] at h
      subst p
      constructor <;> split <;> omega

theorem valueAt_strictMonoOn : StrictMonoOn valueAt (Set.Icc (-(rankCount : ℤ)) rankCount) := by
  rintro p ⟨hp, -⟩ q ⟨-, hq⟩ hpq
  have hqlow : ¬q ≤ -(rankCount : ℤ) := by omega
  have hphigh : ¬(rankCount : ℤ) ≤ p := by omega
  rw [valueAt, valueAt, if_neg hqlow, if_neg hphigh]
  split
  · split
    · exact WithBot.bot_lt_coe _
    · exact WithBot.bot_lt_coe _
  · split
    · exact WithBot.coe_lt_coe.2 (WithTop.coe_lt_top _)
    · have hunits : (unitsAt p : ℚ) < unitsAt q := by
        exact_mod_cast unitsAt_strictMono hpq
      exact Extended.ofRat_lt.2 (by gcongr)

/-- Numbers compare as their values; what has no value cannot be compared. -/
theorem compare?_eq (x y : Binary64) :
    x.compare? y = do return compare (← x.value?) (← y.value?) := by
  rw [value?_eq_map_place, value?_eq_map_place, compare?]
  cases hx : x.place with
  | none => rfl
  | some p =>
      cases hy : y.place with
      | none => rfl
      | some q =>
          have hp := place_mem_Icc hx
          have hq := place_mem_Icc hy
          have heq : compare p q = compare (valueAt p) (valueAt q) :=
            compare_congr (valueAt_strictMonoOn.lt_iff_lt hp hq).symm
              (valueAt_strictMonoOn.injOn.eq_iff hp hq).symm
          exact congrArg some heq

/-- An integer against the exact value of a number. -/
def compareInt? (i : Int) : Binary64 → Option Ordering
  | nan => none
  | infinite negative => some (if negative then .gt else .lt)
  | finite negative rank => some (compare (i * (pow2 1074 : Nat)) (units negative rank))

/-- An integer compares with a number as with the value of the number. -/
theorem compareInt?_eq (i : ℤ) (x : Binary64) :
    x.compareInt? i = x.value?.map (compare (Extended.ofInt i)) := by
  cases x with
  | nan => rfl
  | infinite negative =>
      cases negative with
      | false =>
          have hlt : Extended.ofInt i < ⊤ :=
            WithBot.coe_lt_coe.2 (WithTop.coe_lt_top _)
          exact congrArg some (compare_lt_iff_lt.2 hlt).symm
      | true =>
          have hgt : ⊥ < Extended.ofInt i := WithBot.bot_lt_coe _
          exact congrArg some (compare_gt_iff_gt.2 hgt).symm
  | finite negative rank =>
      have hpos : (0 : ℚ) < 2 ^ 1074 := by positivity
      have hpow : ((pow2 1074 : ℕ) : ℤ) = 2 ^ 1074 := by
        rw [pow2_eq, Nat.cast_pow, Nat.cast_ofNat]
      -- The exponent is a variable here, so that no power is evaluated.
      have hlt (k : ℕ) (u : ℤ) : i * 2 ^ k < u ↔ (i : ℚ) * 2 ^ k < u := by exact_mod_cast Iff.rfl
      have heq (k : ℕ) (u : ℤ) : i * 2 ^ k = u ↔ (i : ℚ) * 2 ^ k = u := by exact_mod_cast Iff.rfl
      refine congrArg some (compare_congr ?_ ?_)
      · rw [Extended.ofInt, Extended.ofRat_lt, finiteValue, lt_div_iff₀ hpos, hpow, hlt]
      · rw [Extended.ofInt, Extended.ofRat_inj, finiteValue, eq_div_iff hpos.ne', hpow, heq]

end Binary64

end CatalogRules
