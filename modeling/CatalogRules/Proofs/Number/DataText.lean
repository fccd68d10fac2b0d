import CatalogRules.Proofs.Number.Numeral

/-!
Numbers in data form, the form of JSON documents. Such a text is a numeral in which a zero in front
stands alone, and it has a point or an exponent, so that it is never taken for an integer. Its
digits belong to a point of a decimal grid that rounds to the number. So whoever rounds the numeral
correctly gets the number back.
-/

namespace CatalogRules

namespace Decimal

open Text (digitsValue)

/-- A numeral as JSON has it, but not that of an integer. -/
structure DataNumeral where
  negative : Bool
  whole : List Char
  fraction : List Char
  power : Option ℤ
  run_whole : Run Char.isDigit whole
  /-- A zero in front stands alone. -/
  zero : ∀ cs, whole = '0' :: cs → cs = []
  isDigit_fraction : ∀ c ∈ fraction, c.isDigit = true
  /-- There is a point or an exponent. -/
  marked : fraction ≠ [] ∨ power ≠ none

def powerChars : Option ℤ → List Char
  | none => []
  | some e => 'e' :: (if e < 0 then '-' else '+') :: Nat.toDigits 10 e.natAbs

namespace DataNumeral

def chars (n : DataNumeral) : List Char :=
  signChars n.negative ++ (n.whole ++ (fractionChars n.fraction ++ powerChars n.power))

def decimal (n : DataNumeral) : Decimal :=
  ⟨n.negative, digitsValue (n.whole ++ n.fraction), n.power.getD 0 - n.fraction.length⟩

def parts (n : DataNumeral) : Parts where
  negative := n.negative
  digits := n.whole ++ n.fraction
  places := n.fraction.length
  power := n.power.map fun e => (decide (e < 0), Nat.toDigits 10 e.natAbs)

end DataNumeral

theorem sign_signChars (negative : Bool) : Sign (signChars negative) negative := by
  cases negative
  · exact .absent
  · exact .minus

theorem run_toDigits (n : ℕ) : Run Char.isDigit (Nat.toDigits 10 n) := by
  obtain ⟨d, ds, hdigits, -, -⟩ := Text.exists_toDigits_eq_cons n
  exact ⟨by simp [hdigits], fun c hc => Text.isDigit_of_mem_toDigits hc⟩

theorem power_powerChars (e : Option ℤ) :
    Power Char.isDigit (powerChars e)
      (e.map fun e => (decide (e < 0), Nat.toDigits 10 e.natAbs)) := by
  cases e with
  | none => exact .absent
  | some e =>
      by_cases hneg : e < 0
      · simp only [powerChars, if_pos hneg, Option.map_some, decide_eq_true hneg]
        exact .written (.inl rfl) .minus (run_toDigits _)
      · simp only [powerChars, if_neg hneg, Option.map_some, decide_eq_false hneg]
        exact .written (.inl rfl) .plus (run_toDigits _)

theorem mantissa_fractionChars {whole fraction : List Char} (hwhole : Run Char.isDigit whole)
    (hfraction : ∀ c ∈ fraction, c.isDigit = true) :
    Mantissa Char.isDigit (whole ++ fractionChars fraction) (whole ++ fraction)
      fraction.length := by
  cases fraction with
  | nil =>
      rw [fractionChars, List.isEmpty_nil, if_pos rfl, List.append_nil]
      exact .whole hwhole
  | cons d ds => exact .point hwhole hfraction

theorem DataNumeral.numeral_chars (n : DataNumeral) : Numeral Char.isDigit n.chars n.parts := by
  rw [chars, ← List.append_assoc n.whole]
  exact .mk (sign_signChars n.negative) (mantissa_fractionChars n.run_whole n.isDigit_fraction)
    (power_powerChars n.power)

theorem DataNumeral.decimal_parts (n : DataNumeral) : n.parts.decimal digitsValue = n.decimal := by
  have hpower : exponentOf digitsValue n.parts.power = n.power.getD 0 := by
    simp only [parts]
    cases n.power with
    | none => rfl
    | some e =>
        simp only [Option.map_some, exponentOf, Text.digitsValue_toDigits, decide_eq_true_eq,
          Option.getD_some]
        split <;> omega
  rw [Parts.decimal, hpower]
  rfl

variable {digits whole fraction : List Char} {exponent : ℤ} {x : Binary64} {d d' : Decimal}

theorem roundsTo_congr (hnegative : d.negative = d'.negative) (hvalue : d.value = d'.value) :
    d.RoundsTo x ↔ d'.RoundsTo x := by
  cases x <;> simp only [RoundsTo, hnegative, hvalue]

/-- The value of positional digits is that of the digits with their exponent. -/
theorem Positional.mul_zpow (h : Positional digits exponent whole fraction) :
    (digitsValue (whole ++ fraction) : ℚ) * 10 ^ (-fraction.length : ℤ) =
      digitsValue digits * 10 ^ exponent := by
  have hpow (k : ℕ) : ((pow10 k : ℕ) : ℚ) = 10 ^ (k : ℤ) := by
    rw [show pow10 k = 10 ^ k from rfl, Nat.cast_pow, Nat.cast_ofNat, zpow_natCast]
  have hexponent : (exponent.toNat : ℤ) + -(-exponent).toNat = exponent := by omega
  rw [h.value, h.length_fraction, Nat.cast_mul, hpow, mul_assoc, ← zpow_add₀ (by norm_num),
    hexponent]

/-- Without a zero in front of the digits there is at most one in front of the point. -/
theorem positional_zero (hlead : digits.head? ≠ some '0') (hne : digits ≠ []) (exponent : ℤ) :
    ∀ cs, (Binary64.positional digits exponent).1 = '0' :: cs → cs = [] := by
  intro cs hcs
  obtain ⟨d, ds, rfl⟩ := List.exists_cons_of_ne_nil hne
  simp only [List.head?_cons, ne_eq, Option.some.injEq] at hlead
  by_cases hexponent : 0 ≤ exponent
  · simp only [Binary64.positional, if_pos hexponent, List.cons_append] at hcs
    exact absurd (List.cons.inj hcs).1 hlead
  · simp only [Binary64.positional, if_neg hexponent, List.splitAt_eq] at hcs
    generalize (-exponent).toNat = places at hcs
    by_cases hplaces : places < (d :: ds).length
    · -- All zeros stand behind the first digit.
      have hnone : places + 1 - (d :: ds).length = 0 := by omega
      obtain ⟨k, hk⟩ : ∃ k, (d :: ds).length - places = k + 1 :=
        ⟨(d :: ds).length - places - 1, by omega⟩
      rw [hnone, List.replicate_zero, List.nil_append, hk, List.take_succ_cons] at hcs
      exact absurd (List.cons.inj hcs).1 hlead
    · -- There is one digit in front of the point.
      have hlength := congrArg List.length hcs
      simp only [List.length_take, List.length_append, List.length_replicate,
        List.length_cons] at hlength hplaces
      exact List.eq_nil_of_length_eq_zero (by omega)

/-- The text is a numeral of documents with the sign and the value of a decimal. Its power of ten,
if it has one, is that of the leading digit. -/
def DataTextOf (cs : List Char) (d : Decimal) : Prop :=
  ∃ n : DataNumeral, n.chars = cs ∧ n.decimal.negative = d.negative ∧ n.decimal.value = d.value ∧
    ∀ e ∈ n.power, d.exponent ≤ e ∧ (10 : ℚ) ^ e ≤ |d.value|

theorem value_eq_of_mul_zpow {negative : Bool} {m n : ℕ} {e k : ℤ}
    (h : (m : ℚ) * 10 ^ e = n * 10 ^ k) :
    (⟨negative, m, e⟩ : Decimal).value = (⟨negative, n, k⟩ : Decimal).value := by
  rw [value, value, h]

theorem dataTextOf_writePositional (negative : Bool) (hdigits : Run Char.isDigit digits)
    (hlead : digits.head? ≠ some '0') (exponent : ℤ) :
    DataTextOf (signChars negative ++ Binary64.writePositional true digits exponent)
      ⟨negative, digitsValue digits, exponent⟩ := by
  have hpositional := positional_positional hdigits.1 hdigits.2 exponent
  have hzero := positional_zero hlead hdigits.1 exponent
  unfold Binary64.writePositional
  obtain ⟨⟨whole, fraction⟩, hpair⟩ : ∃ pair, Binary64.positional digits exponent = pair := ⟨_, rfl⟩
  rw [hpair] at hpositional hzero ⊢
  obtain ⟨hwhole, hfraction⟩ := List.forall_mem_append.1 hpositional.isDigit
  have hvalue := hpositional.mul_zpow
  cases fraction with
  | nil =>
      refine ⟨⟨negative, whole, ['0'], none, ⟨hpositional.whole_ne_nil, hwhole⟩, hzero, by simp,
        .inl (by simp)⟩, by simp [DataNumeral.chars, fractionChars, powerChars], rfl, ?_, by simp⟩
      apply value_eq_of_mul_zpow
      have hten : digitsValue (whole ++ ['0']) = digitsValue whole * 10 :=
        Text.digitsValue_append_zeros whole 1
      rw [← hvalue, hten]
      simp
  | cons d ds =>
      refine ⟨⟨negative, whole, d :: ds, none, ⟨hpositional.whole_ne_nil, hwhole⟩, hzero, hfraction,
        .inl (by simp)⟩, by simp [DataNumeral.chars, fractionChars, powerChars], rfl, ?_, by simp⟩
      apply value_eq_of_mul_zpow
      simpa using hvalue

/-- A number without a zero in front is at least the power of ten of its first digit. -/
theorem ten_pow_le_digitsValue {c : Char} (hc : c.isDigit = true) (hlead : c ≠ '0')
    (ds : List Char) : 10 ^ ds.length ≤ digitsValue (c :: ds) := by
  have hpos : 1 ≤ digitsValue [c] := by
    obtain ⟨hlow, -⟩ := Text.toNat_of_isDigit hc
    have hne : c.toNat ≠ '0'.toNat := fun h => hlead (Char.toNat_inj.1 h)
    have hzero : '0'.toNat = 0x30 := rfl
    rw [digitsValue, Nat.ofDigitChars_cons, Nat.ofDigitChars_nil]
    omega
  rw [← List.singleton_append, digitsValue_append]
  calc
    10 ^ ds.length ≤ digitsValue [c] * 10 ^ ds.length := Nat.le_mul_of_pos_left _ hpos
    _ ≤ _ := Nat.le_add_right _ _

theorem dataTextOf_writeScientific (negative : Bool) (hdigits : Run Char.isDigit digits)
    (hlead : digits.head? ≠ some '0') (exponent : ℤ) :
    DataTextOf
      (signChars negative ++ Binary64.writeScientific digits (digits.length + exponent - 1))
      ⟨negative, digitsValue digits, exponent⟩ := by
  obtain ⟨d, ds, rfl⟩ := List.exists_cons_of_ne_nil hdigits.1
  obtain ⟨hd, hds⟩ := List.forall_mem_cons.1 hdigits.2
  have hmantissa : Binary64.writeScientific (d :: ds) ((d :: ds).length + exponent - 1) =
      [d] ++ (fractionChars ds ++ powerChars (some ((d :: ds).length + exponent - 1))) := by
    cases ds <;> rfl
  have hexponent : ((d :: ds).length + exponent - 1 : ℤ) - ds.length = exponent := by
    rw [List.length_cons]
    omega
  rw [hmantissa]
  refine ⟨⟨negative, [d], ds, some ((d :: ds).length + exponent - 1), ⟨by simp, by simpa using hd⟩,
    ?_, hds, .inr (by simp)⟩, rfl, rfl, ?_, ?_⟩
  · rintro cs hcs
    exact (List.cons.inj hcs).2.symm
  · simp only [DataNumeral.decimal, Option.getD_some, hexponent, List.cons_append, List.nil_append]
  · rintro e ⟨⟩
    have hfirst := ten_pow_le_digitsValue hd (by simpa using hlead) ds
    have hpower : ((d :: ds).length + exponent - 1 : ℤ) = ds.length + exponent := by
      rw [List.length_cons]
      omega
    rw [hpower, abs_value, zpow_add₀ (by norm_num), zpow_natCast]
    have hcoefficient : (10 : ℚ) ^ ds.length ≤ digitsValue (d :: ds) := by exact_mod_cast hfirst
    exact ⟨le_add_of_nonneg_left (Int.natCast_nonneg _),
      mul_le_mul_of_nonneg_right hcoefficient (by positivity)⟩

theorem dataTextOf_writeDigits (negative : Bool) (hdigits : Run Char.isDigit digits)
    (hlead : digits.head? ≠ some '0') (exponent : ℤ) :
    DataTextOf (signChars negative ++ Binary64.writeDigits Binary64.dataLayout digits exponent)
      ⟨negative, digitsValue digits, exponent⟩ := by
  simp only [Binary64.writeDigits, Binary64.dataLayout]
  split
  · exact dataTextOf_writePositional negative hdigits hlead exponent
  · exact dataTextOf_writeScientific negative hdigits hlead exponent

theorem dataTextOf_zero (negative : Bool) :
    DataTextOf (signChars negative ++ ['0', '.', '0']) ⟨negative, 0, 0⟩ := by
  refine ⟨⟨negative, ['0'], ['0'], none, by simp [Run], by simp, by simp, .inl (by simp)⟩,
    rfl, rfl, ?_, by simp⟩
  apply value_eq_of_mul_zpow
  simp [digitsValue, Nat.ofDigitChars]

end Decimal

namespace Binary64

open Decimal (DataNumeral DataTextOf signChars)

variable {rank : Fin rankCount} {g : Grid}

theorem Grid.roundsTo (negative : Bool) (h : g.rank = rank) :
    (⟨negative, g.coefficient, g.step - 1074⟩ : Decimal).RoundsTo (finite negative rank) := by
  have hgrid := nearestRank_grid g
  rw [h] at hgrid
  rw [← Decimal.toBinary64_eq_iff, Decimal.toBinary64_eq_nearest, nearest]
  simp only [Decimal.num, Decimal.den]
  rw [hgrid, ofRank_val]

theorem Grid.coefficient_ne_zero (h : g.rank ≠ 0) : g.coefficient ≠ 0 := by
  intro hzero
  apply h
  rw [Grid.rank, hzero, Nat.zero_mul]
  exact nearestRank_eq_zero (pow5_pos 1074) (pow5_pos 1074)

theorem exists_dataTextOf (negative : Bool) (rank : Fin rankCount) :
    ∃ d : Decimal, DataTextOf (signChars negative ++ writeMagnitude dataLayout rank) d ∧
      d.RoundsTo (finite negative rank) ∧ -1074 ≤ d.exponent := by
  by_cases hzero : (rank : ℕ) = 0
  · refine ⟨⟨negative, 0, 0⟩, ?_, ?_, by norm_num⟩
    · rw [hzero]
      exact Decimal.dataTextOf_zero negative
    · rw [← Decimal.toBinary64_eq_iff, ← ofRank_val, hzero]
      rfl
  · obtain ⟨g, hg⟩ : ∃ g, shortest dataLayout.tie rank = g := ⟨_, rfl⟩
    have hrank : g.rank = rank := hg ▸ rank_shortest dataLayout.tie rank
    have hcoefficient := Grid.coefficient_ne_zero (hrank ▸ hzero)
    refine ⟨_, ?_, g.roundsTo negative hrank, by simp⟩
    obtain ⟨d, ds, hdigits, -, hlead⟩ := Text.exists_toDigits_eq_cons g.coefficient
    have hwritten := Decimal.dataTextOf_writeDigits negative (Decimal.run_toDigits g.coefficient)
      (by simpa [hdigits] using hlead hcoefficient) (g.step - 1074)
    rw [Text.digitsValue_toDigits] at hwritten
    simpa only [writeMagnitude, if_neg hzero, hg] using hwritten

/-- The exponents are variables, so that no power is evaluated. -/
theorem le_ten_zpow_of_pow2_le {k n : ℕ} (h : pow2 (54 + k) ≤ pow10 n) :
    ((2 ^ 54 - 1) * 2 ^ k : ℚ) ≤ 10 ^ (n : ℤ) := by
  have hpow : 2 ^ (54 + k) ≤ 10 ^ n := h
  calc
    ((2 ^ 54 - 1) * 2 ^ k : ℚ) ≤ 2 ^ 54 * 2 ^ k :=
      mul_le_mul_of_nonneg_right (by norm_num) (by positivity)
    _ = 2 ^ (54 + k) := (pow_add _ _ _).symm
    _ ≤ 10 ^ n := by exact_mod_cast hpow
    _ = 10 ^ (n : ℤ) := (zpow_natCast _ _).symm

theorem lt_of_ten_zpow_lt_overflow {e : ℤ} (h : (10 : ℚ) ^ e < overflow) : e < 309 := by
  have hoverflow := le_ten_zpow_of_pow2_le (k := 970) (Decimal.pow2_le_pow10 11 1)
  exact (zpow_lt_zpow_iff_right₀ (by norm_num)).1 (h.trans_le hoverflow)

/-- The data form of a finite number is a numeral that is rounded to the number. Its power of ten
is small. -/
theorem exists_dataNumeral {x : Binary64} (h : x.isFinite = true) :
    ∃ n : DataNumeral, n.chars = x.write dataLayout ∧ n.decimal.RoundsTo x ∧
      ∀ e ∈ n.power, e.natAbs ≤ 1074 := by
  cases x with
  | nan => cases h
  | infinite negative => cases h
  | finite negative rank =>
      obtain ⟨d, ⟨n, hchars, hnegative, hvalue, hpower⟩, hrounds, hlow⟩ :=
        exists_dataTextOf negative rank
      rw [write_finite]
      refine ⟨n, hchars, (Decimal.roundsTo_congr hnegative hvalue).2 hrounds, fun e he => ?_⟩
      obtain ⟨hstep, hlead⟩ := hpower e he
      have hhigh := lt_of_ten_zpow_lt_overflow (hlead.trans_lt hrounds.2.1)
      omega

end Binary64

end CatalogRules
