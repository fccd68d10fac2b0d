import CatalogRules.Proofs.Number.Decimal

/-!
The rounding of decimals. A decimal becomes the finite number that is nearest to its exact value,
or an infinity if the value is as far out as the middle between the greatest finite number and
the next power of two. That leaves one number for every decimal.
-/

namespace CatalogRules

namespace Binary64

/-- A rank with an odd one below it is reached from the middle between the two numbers on. -/
theorem nearestRank_le_iff {num den rank : ℕ} (hden : 0 < den) (hodd : ¬Even rank) :
    nearestRank num den ≤ rank ↔
      2 * (num / den : ℚ) < scaled rank + scaled (rank + 1) := by
  have hlt : (scaled rank : ℚ) < scaled (rank + 1) := by
    exact_mod_cast scaled_strictMono (Nat.lt_succ_self rank)
  have hden' : (0 : ℚ) < den := by exact_mod_cast hden
  constructor
  · intro hrank
    by_contra hmiddle
    rw [not_lt] at hmiddle
    have habove : (scaled rank : ℚ) ≤ num / den := by linarith
    -- The quotient is the middle, and so the odd rank is not the nearest one.
    have heq : nearestRank num den = rank := by
      refine le_antisymm hrank (le_nearestRank hden ?_)
      rw [le_div_iff₀ hden'] at habove
      exact_mod_cast habove
    obtain ⟨hnearest, htie⟩ := nearestRank_nearest num hden (rank + 1)
    rw [heq, abs_of_nonneg (sub_nonneg.2 habove)] at hnearest htie
    have hbelow : (num / den : ℚ) ≤ scaled (rank + 1) := by
      by_contra h
      rw [not_le] at h
      rw [abs_of_pos (sub_pos.2 h)] at hnearest
      linarith
    rw [abs_of_nonpos (sub_nonpos.2 hbelow)] at hnearest htie
    rcases htie (by linarith) with h | h
    · exact absurd (scaled_strictMono.injective h) (Nat.succ_ne_self rank)
    · exact hodd h
  · intro hmiddle
    by_contra hrank
    rw [not_le] at hrank
    have hbeyond : (scaled (rank + 1) : ℚ) ≤ scaled (nearestRank num den) := by
      exact_mod_cast scaled_strictMono.monotone hrank
    obtain ⟨hnearest, -⟩ := nearestRank_nearest num hden rank
    rw [abs_of_nonpos (by linarith)] at hnearest
    rcases abs_cases ((num : ℚ) / den - scaled rank) with ⟨h, -⟩ | ⟨h, -⟩ <;> linarith

/-- The middle between the greatest finite number and the next power of two. -/
def overflow : ℚ := (2 ^ 54 - 1) * 2 ^ 970

/-- The last rank of a binade and the first of the next. The exponents are variables, so that no
power is evaluated. -/
theorem scaled_add_scaled_succ (j k : ℕ) :
    (scaled ((j + 1 + k) * 2 ^ 52 + (2 ^ 53 - 1)) + scaled ((j + 1 + k) * 2 ^ 52 + 2 ^ 53) : ℚ) =
      2 * ((2 ^ 54 - 1) * 2 ^ j * 2 ^ k) := by
  rw [scaled_binade (.inr (by norm_num)) (by norm_num), scaled_binade (.inr (by norm_num)) le_rfl]
  push_cast
  rw [pow_add, pow_succ]
  ring

theorem nearestRank_lt_rankCount_iff {num den : ℕ} (hden : 0 < den) :
    nearestRank num den < rankCount ↔ (num / den : ℚ) < overflow * 2 ^ 1074 := by
  have hlast : ¬Even (rankCount - 1) := by decide
  have hmiddle : (scaled (rankCount - 1) + scaled (rankCount - 1 + 1) : ℚ) =
      2 * (overflow * 2 ^ 1074) := scaled_add_scaled_succ 970 1074
  rw [← Nat.le_sub_one_iff_lt (by norm_num), nearestRank_le_iff hden hlast, hmiddle]
  exact mul_lt_mul_iff_right₀ two_pos

theorem finiteValue_eq_unitsAt (negative : Bool) (rank : ℕ) :
    finiteValue negative rank = unitsAt (if negative then -rank else rank) / 2 ^ 1074 := by
  rw [finiteValue, units_eq_unitsAt]

theorem representable_unitsAt {p : ℤ} (h : p.natAbs < rankCount) :
    Representable (unitsAt p / 2 ^ 1074) := by
  have hplace : (if decide (p < 0) = true then -(p.natAbs : ℤ) else p.natAbs) = p := by
    simp only [decide_eq_true_eq]
    split <;> omega
  exact ⟨p < 0, ⟨p.natAbs, h⟩, by rw [finiteValue_eq_unitsAt, hplace]⟩

/-- Between the values of two even places there is another one, so that they are not both nearest
to one rational. -/
theorem not_nearest_of_even {q : ℚ} {p p' : ℤ} (hlt : p < p') (hp : Even p) (hp' : Even p')
    (habs : p.natAbs < rankCount) (habs' : p'.natAbs < rankCount)
    (hsame : |q - unitsAt p / 2 ^ 1074| = |q - unitsAt p' / 2 ^ 1074|)
    (hnearest : ∀ w, Representable w → |q - unitsAt p / 2 ^ 1074| ≤ |q - w|) : False := by
  have hbetween : p + 1 < p' := by
    obtain ⟨m, rfl⟩ := hp
    obtain ⟨n, rfl⟩ := hp'
    omega
  have hunit : (0 : ℚ) < 2 ^ 1074 := by positivity
  have hless {i j : ℤ} (h : i < j) : (unitsAt i / 2 ^ 1074 : ℚ) < unitsAt j / 2 ^ 1074 := by
    rw [div_lt_div_iff_of_pos_right hunit]
    exact_mod_cast unitsAt_strictMono h
  have hlow := hless (Int.lt_succ p)
  have hhigh := hless hbetween
  have hle := hnearest _ (representable_unitsAt (p := p + 1) (by omega))
  generalize (unitsAt p / 2 ^ 1074 : ℚ) = v at *
  generalize (unitsAt (p + 1) / 2 ^ 1074 : ℚ) = w at *
  generalize (unitsAt p' / 2 ^ 1074 : ℚ) = v' at *
  -- The rational is the middle, and the value between is nearer to it.
  have hmiddle : q - v = v' - q := by
    rcases abs_eq_abs.1 hsame with h | h <;> linarith
  rw [abs_of_nonneg (by linarith), le_abs] at hle
  rcases hle with h | h <;> linarith

theorem IsNearest.eq {q v v' : ℚ} (h : IsNearest q v) (h' : IsNearest q v') : v = v' := by
  obtain ⟨negative, rank, rfl, hnearest⟩ := h
  obtain ⟨negative', rank', rfl, hnearest'⟩ := h'
  have hsame := le_antisymm (hnearest _ ⟨negative', rank', rfl⟩).1
    (hnearest' _ ⟨negative, rank, rfl⟩).1
  by_contra hne
  have heven := ((hnearest _ ⟨negative', rank', rfl⟩).2 hsame).resolve_left (Ne.symm hne)
  have heven' := ((hnearest' _ ⟨negative, rank, rfl⟩).2 hsame.symm).resolve_left hne
  have hplace (negative : Bool) (rank : Fin rankCount) (h : Even (rank : ℕ)) :
      Even (if negative then -((rank : ℕ) : ℤ) else (rank : ℕ)) ∧
        (if negative then -((rank : ℕ) : ℤ) else (rank : ℕ)).natAbs < rankCount := by
    have hrank := rank.isLt
    cases negative <;> simpa [Int.even_coe_nat] using h
  obtain ⟨hp, habs⟩ := hplace negative rank heven
  obtain ⟨hp', habs'⟩ := hplace negative' rank' heven'
  rw [finiteValue_eq_unitsAt, finiteValue_eq_unitsAt] at *
  generalize (if negative then -((rank : ℕ) : ℤ) else (rank : ℕ)) = p at *
  generalize (if negative' then -((rank' : ℕ) : ℤ) else (rank' : ℕ)) = p' at *
  rcases lt_trichotomy p p' with hlt | rfl | hlt
  · exact not_nearest_of_even hlt hp hp' habs habs' hsame fun w hw => (hnearest w hw).1
  · exact hne rfl
  · exact not_nearest_of_even hlt hp' hp habs' habs hsame.symm fun w hw => (hnearest' w hw).1

/-- What is as near to the greater of two numbers as to the smaller one is not below their
middle. -/
theorem add_le_two_mul_of_abs_sub_le {q v v' : ℚ} (hlt : v' < v) (h : |q - v| ≤ |q - v'|) :
    v + v' ≤ 2 * q := by
  rcases abs_cases (q - v) with ⟨heq, -⟩ | ⟨heq, -⟩
  · linarith [abs_nonneg (q - v)]
  · rcases abs_cases (q - v') with ⟨heq', -⟩ | ⟨heq', -⟩ <;> linarith

/-- What is not above a rational is not rounded to a number above that of the rational. -/
theorem IsNearest.mono {q q' v v' : ℚ} (h : IsNearest q v) (h' : IsNearest q' v') (hle : q ≤ q') :
    v ≤ v' := by
  rcases hle.eq_or_lt with rfl | hlt
  · exact (h.eq h').le
  · obtain ⟨negative, rank, rfl, hnearest⟩ := h
    obtain ⟨negative', rank', rfl, hnearest'⟩ := h'
    have hnear := (hnearest _ ⟨negative', rank', rfl⟩).1
    have hnear' := (hnearest' _ ⟨negative, rank, rfl⟩).1
    generalize finiteValue negative rank = v at *
    generalize finiteValue negative' rank' = v' at *
    -- Otherwise the rationals stand on the wrong sides of the middle between the two numbers.
    by_contra hnot
    rw [not_le] at hnot
    have hbelow : v + v' ≤ 2 * q := add_le_two_mul_of_abs_sub_le hnot hnear
    have habove : -v' + -v ≤ 2 * -q' := by
      apply add_le_two_mul_of_abs_sub_le (neg_lt_neg hnot)
      rwa [neg_sub_neg, neg_sub_neg, abs_sub_comm, abs_sub_comm v]
    linarith

theorem finiteValue_inj {negative : Bool} {rank rank' : ℕ}
    (h : finiteValue negative rank = finiteValue negative rank') : rank = rank' := by
  have hunit : (2 ^ 1074 : ℚ) ≠ 0 := by positivity
  rw [finiteValue_eq, finiteValue_eq, div_left_inj' hunit] at h
  apply scaled_strictMono.injective
  cases negative <;> simpa [signed] using h

end Binary64

namespace Decimal

open Binary64 (IsNearest finiteValue nearestRank overflow rankCount signed)

def value (d : Decimal) : ℚ := signed d.negative (d.coefficient * 10 ^ d.exponent)

/-- A decimal is rounded to the number nearest to it, with its own sign. -/
def RoundsTo (d : Decimal) : Binary64 → Prop
  | .nan => False
  | .infinite negative => negative = d.negative ∧ overflow ≤ |d.value|
  | .finite negative rank =>
    negative = d.negative ∧ |d.value| < overflow ∧ IsNearest d.value (finiteValue negative rank)

variable {d : Decimal} {x y : Binary64}

theorem num_div_den (d : Decimal) :
    (d.num / d.den : ℚ) = d.coefficient * 10 ^ d.exponent * 2 ^ 1074 := by
  have hpow (k : ℕ) : ((pow10 k : ℕ) : ℚ) = 10 ^ k := by
    rw [show pow10 k = 10 ^ k from rfl, Nat.cast_pow, Nat.cast_ofNat]
  have hunit (k : ℕ) : ((pow2 k : ℕ) : ℚ) = 2 ^ k := by rw [pow2_eq, Nat.cast_pow, Nat.cast_ofNat]
  have hexponent : (10 : ℚ) ^ d.exponent = 10 ^ d.exponent.toNat / 10 ^ (-d.exponent).toNat := by
    rw [← zpow_natCast, ← zpow_natCast, ← zpow_sub₀ (by norm_num)]
    congr 1
    omega
  rw [num, den, Nat.cast_mul, Nat.cast_mul, hpow, hpow, hunit, hexponent, mul_div_right_comm,
    mul_div_assoc]

theorem value_eq (d : Decimal) : d.value = signed d.negative (d.num / d.den) / 2 ^ 1074 := by
  rw [num_div_den, Binary64.signed_mul_div _ _ (by positivity), value]

theorem abs_value (d : Decimal) : |d.value| = d.coefficient * 10 ^ d.exponent := by
  have habs := Binary64.abs_signed_sub_signed d.negative (d.coefficient * 10 ^ d.exponent) 0
  have hzero : signed d.negative 0 = 0 := by cases d.negative <;> simp [signed]
  rw [hzero, sub_zero, sub_zero] at habs
  rw [value, habs, abs_of_nonneg (by positivity)]

theorem nearestRank_lt_iff (d : Decimal) :
    nearestRank d.num d.den < rankCount ↔ |d.value| < overflow := by
  rw [Binary64.nearestRank_lt_rankCount_iff d.den_pos, num_div_den, abs_value]
  exact mul_lt_mul_iff_left₀ (by positivity)

theorem roundsTo_toBinary64 (d : Decimal) : d.RoundsTo d.toBinary64 := by
  rw [toBinary64_eq_nearest, Binary64.nearest, Binary64.ofRank]
  split
  · rename_i hfinite
    refine ⟨rfl, (nearestRank_lt_iff d).1 hfinite, ?_⟩
    rw [value_eq]
    exact Binary64.isNearest_finiteValue d.negative d.den_pos hfinite
  · rename_i hinfinite
    exact ⟨rfl, not_lt.1 fun h => hinfinite ((nearestRank_lt_iff d).2 h)⟩

theorem RoundsTo.eq (hx : d.RoundsTo x) (hy : d.RoundsTo y) : x = y := by
  match x, y, hx, hy with
  | .infinite _, .infinite _, ⟨rfl, _⟩, ⟨rfl, _⟩ => rfl
  | .infinite _, .finite _ _, ⟨_, hle⟩, ⟨_, hlt, _⟩ => exact absurd hlt (not_lt.2 hle)
  | .finite _ _, .infinite _, ⟨_, hlt, _⟩, ⟨_, hle⟩ => exact absurd hlt (not_lt.2 hle)
  | .finite _ rank, .finite _ rank', ⟨rfl, _, hnearest⟩, ⟨rfl, _, hnearest'⟩ =>
      rw [Fin.ext (Binary64.finiteValue_inj (hnearest.eq hnearest'))]

/-- The number of a decimal is the one that it is rounded to. -/
theorem toBinary64_eq_iff : d.toBinary64 = x ↔ d.RoundsTo x :=
  ⟨fun h => h ▸ d.roundsTo_toBinary64, fun h => d.roundsTo_toBinary64.eq h⟩

end Decimal

end CatalogRules
