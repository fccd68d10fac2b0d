import CatalogRules.Proofs.Number.Value

/-!
Rounding to the nearest number. The numbers between which a quotient lies are found from
the length of its whole part, and of these two the nearer one is taken, the even one if
they are equally near. Below `2^53` every integer is a number and stays what it is.
-/

namespace CatalogRules.Binary64

/-- The ranks with one spacing, from the first of a binade to the first of the next. -/
theorem scaled_binade {e m : ℕ} (hlow : e = 0 ∨ 2 ^ 52 ≤ m) (hhigh : m ≤ 2 ^ 53) :
    scaled (e * 2 ^ 52 + m) = m * 2 ^ e := by
  rw [scaled_eq]
  by_cases hsmall : e * 2 ^ 52 + m < 2 ^ 52
  · obtain rfl : e = 0 := by omega
    rw [if_pos hsmall]
    simp
  · rw [if_neg hsmall]
    by_cases hnext : m = 2 ^ 53
    · have hdiv : (e * 2 ^ 52 + m) / 2 ^ 52 = e + 2 := by omega
      have hmod : (e * 2 ^ 52 + m) % 2 ^ 52 = 0 := by omega
      rw [hdiv, hmod, hnext, Nat.add_sub_cancel_right (n := e + 1) (m := 1)]
      ring
    · have hdiv : (e * 2 ^ 52 + m) / 2 ^ 52 = e + 1 := by omega
      have hmod : (e * 2 ^ 52 + m) % 2 ^ 52 = m - 2 ^ 52 := by omega
      rw [hdiv, hmod, Nat.add_sub_cancel, Nat.add_sub_cancel' (by omega)]

/-- The rank of a power of two; the exponent of a unit is a variable, so that no power is
evaluated. -/
theorem scaled_pow2 (t k : ℕ) :
    scaled ((t + k) * 2 ^ 52 + 2 ^ 52) = pow2 (52 + t) * pow2 k := by
  rw [scaled_binade (.inr le_rfl) (by norm_num), ← pow2_add, Nat.add_assoc, pow2_eq,
    Nat.pow_add 2 52]

/-- A whole number of units lies between the number of its rank and the next one. -/
theorem scaled_floorRank (q : ℕ) :
    scaled (floorRank q) ≤ q ∧ q < scaled (floorRank q + 1) := by
  have hlog := Nat.lt_log2_self (n := q)
  let e := q.log2 - 52
  let m := q / 2 ^ e
  have hpos : 0 < 2 ^ e := by positivity
  have hhigh : m < 2 ^ 53 := by
    rw [Nat.div_lt_iff_lt_mul hpos, ← Nat.pow_add]
    exact hlog.trans_le (Nat.pow_le_pow_right (by norm_num) (by omega))
  have hlow : e = 0 ∨ 2 ^ 52 ≤ m := by
    rcases Nat.eq_zero_or_pos e with he | he
    · exact .inl he
    · right
      have hq : q ≠ 0 := by
        rintro rfl
        simp [e] at he
      rw [Nat.le_div_iff_mul_le hpos, ← Nat.pow_add]
      exact (Nat.pow_le_pow_right (by norm_num) (by omega)).trans (Nat.log2_self_le hq)
  have hrank : floorRank q = e * 2 ^ 52 + m := rfl
  rw [hrank, scaled_binade hlow hhigh.le, Nat.add_assoc,
    scaled_binade (hlow.imp_right fun h => h.trans (Nat.le_succ m)) hhigh]
  exact ⟨Nat.div_mul_le_self q _, (Nat.div_lt_iff_lt_mul hpos).1 (Nat.lt_succ_self m)⟩

section

variable (num : ℕ) {den : ℕ} (hden : 0 < den)

include hden

theorem scaled_floorRank_div :
    (scaled (floorRank (num / den)) : ℚ) ≤ num / den ∧
      (num / den : ℚ) < scaled (floorRank (num / den) + 1) := by
  obtain ⟨hle, hlt⟩ := scaled_floorRank (num / den)
  have hden' : (0 : ℚ) < den := by exact_mod_cast hden
  rw [le_div_iff₀ hden', div_lt_iff₀ hden']
  exact ⟨by exact_mod_cast (Nat.le_div_iff_mul_le hden).1 hle,
    by exact_mod_cast (Nat.div_lt_iff_lt_mul hden).1 hlt⟩

omit hden in
theorem nearer_cases (low : ℕ) (o : Ordering) :
    (nearer low o = low ∧ o ≠ .gt ∧ (o = .eq → Even low)) ∨
      (nearer low o = low + 1 ∧ o ≠ .lt ∧ (o = .eq → Even (low + 1))) := by
  cases o with
  | lt => exact .inl ⟨rfl, by simp, by simp⟩
  | gt => exact .inr ⟨rfl, by simp, by simp⟩
  | eq =>
      by_cases heven : low % 2 = 0
      · exact .inl ⟨if_pos heven, by simp, fun _ => Nat.even_iff.2 heven⟩
      · exact .inr ⟨if_neg heven, by simp, fun _ => Nat.even_iff.2 (by omega)⟩

/-- A quotient lies between two ranks. The nearest one is the lower of them if the quotient
is not above their middle, or the upper one if it is not below, and it is even where the
quotient is the middle. -/
theorem exists_around_nearestRank :
    ∃ low : ℕ, (scaled low : ℚ) ≤ num / den ∧ (num / den : ℚ) < scaled (low + 1) ∧
      ((nearestRank num den = low ∧ 2 * (num / den : ℚ) ≤ scaled low + scaled (low + 1) ∧
          (2 * (num / den : ℚ) = scaled low + scaled (low + 1) → Even low)) ∨
        (nearestRank num den = low + 1 ∧ (scaled low + scaled (low + 1) : ℚ) ≤ 2 * (num / den) ∧
          (2 * (num / den : ℚ) = scaled low + scaled (low + 1) → Even (low + 1)))) := by
  obtain ⟨hle, hlt⟩ := scaled_floorRank_div num hden
  have hden' : (0 : ℚ) < den := by exact_mod_cast hden
  unfold nearestRank
  generalize floorRank (num / den) = low at hle hlt
  refine ⟨low, hle, hlt, ?_⟩
  have hmiddle : compare (2 * num) ((scaled low + scaled (low + 1)) * den) = .eq ↔
      2 * (num / den : ℚ) = scaled low + scaled (low + 1) := by
    rw [Nat.compare_eq_eq, ← mul_div_assoc, div_eq_iff hden'.ne']
    exact_mod_cast Iff.rfl
  have hbelow : compare (2 * num) ((scaled low + scaled (low + 1)) * den) ≠ .gt ↔
      2 * (num / den : ℚ) ≤ scaled low + scaled (low + 1) := by
    rw [Nat.compare_ne_gt, ← mul_div_assoc, div_le_iff₀ hden']
    exact_mod_cast Iff.rfl
  have habove : compare (2 * num) ((scaled low + scaled (low + 1)) * den) ≠ .lt ↔
      (scaled low + scaled (low + 1) : ℚ) ≤ 2 * (num / den) := by
    rw [Nat.compare_ne_lt, ← mul_div_assoc, le_div_iff₀ hden']
    exact_mod_cast Iff.rfl
  rw [← hmiddle, ← hbelow, ← habove]
  exact nearer_cases low _

/-- No number is nearer to a quotient than the one of the nearest rank, and if another one
is as near, the rank is even. -/
theorem nearestRank_nearest (rank : ℕ) :
    |(num / den : ℚ) - scaled (nearestRank num den)| ≤ |(num / den : ℚ) - scaled rank| ∧
      (|(num / den : ℚ) - scaled (nearestRank num den)| = |(num / den : ℚ) - scaled rank| →
        scaled rank = scaled (nearestRank num den) ∨ Even (nearestRank num den)) := by
  obtain ⟨low, hle, hlt, hnearest⟩ := exists_around_nearestRank num hden
  have hbeyond : (scaled rank : ℚ) ≤ scaled low ∨ (scaled (low + 1) : ℚ) ≤ scaled rank := by
    rcases Nat.lt_or_ge low rank with h | h
    · exact .inr (by exact_mod_cast scaled_strictMono.monotone h)
    · exact .inl (by exact_mod_cast scaled_strictMono.monotone h)
  have hcast : (scaled rank : ℚ) = scaled (nearestRank num den) ↔
      scaled rank = scaled (nearestRank num den) := Nat.cast_inj
  rw [← hcast]
  rcases hnearest with ⟨hrank, hmiddle, heven⟩ | ⟨hrank, hmiddle, heven⟩
  · rw [hrank, abs_of_nonneg (sub_nonneg.2 hle)]
    rcases hbeyond with h | h
    · rw [abs_of_nonneg (by linarith)]
      exact ⟨by linarith, fun heq => .inl (by linarith)⟩
    · rw [abs_of_nonpos (by linarith)]
      exact ⟨by linarith, fun heq => .inr (heven (by linarith))⟩
  · rw [hrank, abs_of_nonpos (sub_nonpos.2 hlt.le)]
    rcases hbeyond with h | h
    · rw [abs_of_nonneg (by linarith)]
      exact ⟨by linarith, fun heq => .inr (heven (by linarith))⟩
    · rw [abs_of_nonpos (by linarith)]
      exact ⟨by linarith, fun heq => .inl (by linarith)⟩

variable {num} in
theorem nearestRank_le {rank : ℕ} (h : num ≤ scaled rank * den) : nearestRank num den ≤ rank := by
  have hden' : (0 : ℚ) < den := by exact_mod_cast hden
  have hle : (num / den : ℚ) ≤ scaled rank := by
    rw [div_le_iff₀ hden']
    exact_mod_cast h
  obtain ⟨hnearest, -⟩ := nearestRank_nearest num hden rank
  rw [abs_of_nonpos (sub_nonpos.2 hle), abs_le] at hnearest
  have hscaled : (scaled (nearestRank num den) : ℚ) ≤ scaled rank := by linarith
  exact scaled_strictMono.le_iff_le.1 (by exact_mod_cast hscaled)

end

/-- The rationals that are finite numbers. -/
def Representable (q : ℚ) : Prop :=
  ∃ negative, ∃ rank : Fin rankCount, finiteValue negative rank = q

/-- The second rational is the finite number nearest to the first: none is nearer, and
where another one is as near, its rank is even. -/
def IsNearest (q v : ℚ) : Prop :=
  ∃ negative, ∃ rank : Fin rankCount, finiteValue negative rank = v ∧
    ∀ w, Representable w → |q - v| ≤ |q - w| ∧ (|q - v| = |q - w| → w = v ∨ Even (rank : ℕ))

theorem IsNearest.eq_of_representable {q v : ℚ} (h : IsNearest q v) (hq : Representable q) :
    v = q := by
  obtain ⟨negative, rank, -, hnearest⟩ := h
  have hle := (hnearest q hq).1
  rw [sub_self, abs_zero] at hle
  linarith [abs_nonpos_iff.1 hle]

def signed (negative : Bool) (q : ℚ) : ℚ := if negative then -q else q

theorem finiteValue_eq (negative : Bool) (rank : ℕ) :
    finiteValue negative rank = signed negative (scaled rank) / 2 ^ 1074 := by
  cases negative <;> simp [finiteValue, units, signed]

theorem abs_signed_sub_signed (negative : Bool) (p q : ℚ) :
    |signed negative p - signed negative q| = |p - q| := by
  cases negative with
  | false => rfl
  | true => rw [signed, signed, if_pos rfl, if_pos rfl, neg_sub_neg, abs_sub_comm]

theorem abs_signed_sub_signed_not (negative : Bool) {p q : ℚ} (hp : 0 ≤ p) (hq : 0 ≤ q) :
    |signed negative p - signed (!negative) q| = p + q := by
  cases negative with
  | false => simpa [signed] using add_nonneg hp hq
  | true =>
      have hneg : signed true p - signed (!true) q = -(p + q) := by
        simp [signed]
        ring
      rw [hneg, abs_neg, abs_of_nonneg (add_nonneg hp hq)]

/-- No number with either sign is nearer to a quotient with a sign than the one of the
nearest rank with this sign. -/
theorem signed_nearestRank_nearest (negative negative' : Bool) (num : ℕ) {den : ℕ}
    (hden : 0 < den) (rank : ℕ) :
    let q := signed negative (num / den)
    let v := signed negative (scaled (nearestRank num den))
    |q - v| ≤ |q - signed negative' (scaled rank)| ∧
      (|q - v| = |q - signed negative' (scaled rank)| →
        signed negative' (scaled rank) = v ∨ Even (nearestRank num den)) := by
  intro q v
  obtain ⟨hle, heven⟩ := nearestRank_nearest num hden rank
  rcases Bool.eq_or_eq_not negative' negative with rfl | rfl
  · rw [abs_signed_sub_signed, abs_signed_sub_signed]
    exact ⟨hle, fun heq => (heven heq).imp_left fun h => by rw [h]⟩
  · -- A number with the other sign is no nearer than zero, and it is as near as zero only
    -- if it is zero.
    obtain ⟨hzero, hzeroEven⟩ := nearestRank_nearest num hden 0
    have hquotient : (0 : ℚ) ≤ num / den := by positivity
    have hrank : (0 : ℚ) ≤ scaled rank := Nat.cast_nonneg _
    rw [scaled_zero, Nat.cast_zero, sub_zero, abs_of_nonneg hquotient] at hzero hzeroEven
    rw [abs_signed_sub_signed, abs_signed_sub_signed_not _ hquotient hrank]
    refine ⟨by linarith, fun heq => ?_⟩
    have hscaled : (scaled rank : ℚ) = 0 := by linarith
    refine (hzeroEven (by linarith)).imp_left fun h => ?_
    simp [v, hscaled, ← h, signed]

theorem isNearest_finiteValue (negative : Bool) {num den : ℕ} (hden : 0 < den)
    (hfinite : nearestRank num den < rankCount) :
    IsNearest (signed negative (num / den) / 2 ^ 1074)
      (finiteValue negative (nearestRank num den)) := by
  refine ⟨negative, ⟨_, hfinite⟩, rfl, ?_⟩
  rintro w ⟨negative', rank, rfl⟩
  obtain ⟨hle, heven⟩ := signed_nearestRank_nearest negative negative' num hden rank
  have hunit : (0 : ℚ) < 2 ^ 1074 := by positivity
  rw [finiteValue_eq, finiteValue_eq, ← sub_div, ← sub_div, abs_div, abs_div,
    abs_of_pos hunit, div_le_div_iff_of_pos_right hunit, div_left_inj' hunit.ne',
    div_left_inj' hunit.ne']
  exact ⟨hle, heven⟩

theorem signed_natAbs (i : ℤ) : signed (i < 0) i.natAbs = i := by
  by_cases h : i < 0
  · have hcast : ((i.natAbs : ℤ) : ℚ) = -i := by
      rw [show (i.natAbs : ℤ) = -i by omega, Int.cast_neg]
    rw [Int.cast_natCast] at hcast
    simp [signed, h, hcast]
  · have hcast : ((i.natAbs : ℤ) : ℚ) = i := by
      rw [show (i.natAbs : ℤ) = i by omega]
    rw [Int.cast_natCast] at hcast
    simp [signed, h, hcast]

theorem signed_mul_div (negative : Bool) (q : ℚ) {u : ℚ} (hu : u ≠ 0) :
    signed negative (q * u) / u = signed negative q := by
  cases negative <;> simp [signed, hu, neg_div]

theorem nearestRank_lt_rankCount {n : ℕ} (h : n ≤ 2 ^ 64) :
    nearestRank (n * pow2 1074) 1 < rankCount := by
  have hbelow : n * pow2 1074 ≤ scaled ((12 + 1074) * 2 ^ 52 + 2 ^ 52) * 1 := by
    rw [scaled_pow2, mul_one]
    exact Nat.mul_le_mul_right _ h
  exact (nearestRank_le Nat.one_pos hbelow).trans_lt (by norm_num)

theorem ofInt_eq_finite {i : ℤ} (h : i.natAbs ≤ 2 ^ 64) :
    ofInt i = .finite (i < 0) ⟨_, nearestRank_lt_rankCount h⟩ := by
  rw [ofInt, nearest, ofRank, dif_pos (nearestRank_lt_rankCount h)]

/-- An integer becomes the number nearest to it. -/
theorem isNearest_ofInt {i : ℤ} (h : i.natAbs ≤ 2 ^ 64) :
    ∃ v, (ofInt i).value? = some (.ofRat v) ∧ IsNearest i v := by
  have hvalue (k : ℕ) : signed (i < 0) ((i.natAbs * pow2 k : ℕ) / (1 : ℕ)) / 2 ^ k = i := by
    have hpow : ((pow2 k : ℕ) : ℚ) = 2 ^ k := by rw [pow2_eq, Nat.cast_pow, Nat.cast_ofNat]
    rw [Nat.cast_one, div_one, Nat.cast_mul, hpow, signed_mul_div _ _ (by positivity),
      signed_natAbs]
  have hnearest := isNearest_finiteValue (i < 0) one_pos (nearestRank_lt_rankCount h)
  rw [hvalue] at hnearest
  exact ⟨_, by rw [ofInt_eq_finite h]; rfl, hnearest⟩

theorem exists_scaled_eq_shift {n k : ℕ} (h : n ≤ 2 ^ 53) (hk : 52 ≤ k) :
    ∃ rank, scaled rank = n * 2 ^ k := by
  rcases Nat.eq_zero_or_pos n with rfl | hpos
  · exact ⟨0, by rw [scaled_zero, Nat.zero_mul]⟩
  · -- The bits of the integer are moved up until the first of them is the leading one.
    let t := 52 - n.log2
    have hlow : 2 ^ 52 ≤ n * 2 ^ t := by
      calc
        2 ^ 52 ≤ 2 ^ (n.log2 + t) := Nat.pow_le_pow_right (by norm_num) (by omega)
        _ = 2 ^ n.log2 * 2 ^ t := Nat.pow_add ..
        _ ≤ n * 2 ^ t := Nat.mul_le_mul_right _ (Nat.log2_self_le hpos.ne')
    have hhigh : n * 2 ^ t ≤ 2 ^ 53 := by
      rcases Nat.eq_zero_or_pos t with ht | ht
      · simpa [ht] using h
      · calc
          n * 2 ^ t ≤ 2 ^ (n.log2 + 1) * 2 ^ t := Nat.mul_le_mul_right _ Nat.lt_log2_self.le
          _ = 2 ^ (n.log2 + 1 + t) := (Nat.pow_add ..).symm
          _ = 2 ^ 53 := by congr 1; omega
    refine ⟨(k - t) * 2 ^ 52 + n * 2 ^ t, ?_⟩
    rw [scaled_binade (.inr hlow) hhigh, Nat.mul_assoc, ← Nat.pow_add]
    congr 2
    omega

theorem exists_scaled_eq {n : ℕ} (h : n ≤ 2 ^ 53) :
    ∃ rank : Fin rankCount, scaled rank = n * 2 ^ 1074 := by
  have hbound {k rank : ℕ} (hrank : scaled rank = n * 2 ^ k) :
      rank ≤ (1 + k) * 2 ^ 52 + 2 ^ 52 := by
    rw [← scaled_strictMono.le_iff_le, hrank, scaled_pow2]
    exact Nat.mul_le_mul_right _ h
  obtain ⟨rank, hrank⟩ := exists_scaled_eq_shift (k := 1074) h (by norm_num)
  exact ⟨⟨rank, (hbound hrank).trans_lt (by norm_num)⟩, hrank⟩

/-- Integers of up to 53 bits are numbers. -/
theorem representable_ofInt {i : ℤ} (h : i.natAbs ≤ 2 ^ 53) : Representable i := by
  obtain ⟨rank, hrank⟩ := exists_scaled_eq h
  refine ⟨i < 0, rank, ?_⟩
  have hscaled (k : ℕ) (hk : scaled rank = i.natAbs * 2 ^ k) :
      signed (i < 0) (scaled rank) / 2 ^ k = i := by
    rw [hk, Nat.cast_mul, Nat.cast_pow, Nat.cast_ofNat, signed_mul_div _ _ (by positivity),
      signed_natAbs]
  rw [finiteValue_eq, hscaled 1074 hrank]

end CatalogRules.Binary64
