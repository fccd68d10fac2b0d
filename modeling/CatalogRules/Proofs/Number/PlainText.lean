import CatalogRules.Number.Layout
import CatalogRules.Proofs.Number.Decimal
import CatalogRules.Proofs.Text.Digits

/-!
Numbers in plain form, read again. The digits of a number belong to a point of a decimal
grid that rounds to the number, and written positionally they are a literal with the value
of this point. So the plain text of a finite number stands for the number itself, and zero
keeps its sign.
-/

namespace CatalogRules

namespace Binary64

variable {tie : Tie} {rank value step : ℕ}

theorem rank_of_onGrid? {g : Grid} (h : onGrid? tie rank value step = some g) :
    g.rank = rank := by
  simp only [onGrid?, Bool.and_eq_true, decide_eq_true_eq] at h
  split_ifs at h with hlow hboth hhigh
  · cases h
    exact hboth.1
  · cases h
    exact hlow
  · cases h
    exact hhigh

/-- The finest grid has the number itself as a point. -/
theorem rank_firstGrid (tie : Tie) (rank step : ℕ) :
    (firstGrid tie rank (fineUnits rank) step).rank = rank := by
  induction step with
  | zero =>
      have hfinest (value : ℕ) : (⟨value, 0⟩ : Grid).rank = nearestRank value (pow5 1074) := by
        simp only [Grid.rank, pow10_zero, Nat.mul_one]
      rw [firstGrid, hfinest, fineUnits, nearestRank_scaled (pow5_pos 1074)]
  | succ step ih =>
      rw [firstGrid]
      cases hgrid : onGrid? tie rank (fineUnits rank) (step + 1) with
      | none => exact ih
      | some g => exact rank_of_onGrid? hgrid

theorem rank_shortest (tie : Tie) (rank : ℕ) : (shortest tie rank).rank = rank :=
  rank_firstGrid tie rank _

end Binary64

namespace Decimal

open Text (digitsValue)

variable {digits : List Char} {exponent : ℤ}

/-- The digits in front of and behind the point are the given ones with zeros on one side. -/
structure Positional (digits : List Char) (exponent : ℤ) (whole fraction : List Char) : Prop where
  whole_ne_nil : whole ≠ []
  isDigit : ∀ c ∈ whole ++ fraction, c.isDigit = true
  length_fraction : fraction.length = (-exponent).toNat
  value : digitsValue (whole ++ fraction) = digitsValue digits * pow10 exponent.toNat

theorem positional_positional (hne : digits ≠ []) (hdigits : ∀ c ∈ digits, c.isDigit = true)
    (exponent : ℤ) :
    Positional digits exponent (Binary64.positional digits exponent).1
      (Binary64.positional digits exponent).2 := by
  have hzeros (n : ℕ) : ∀ c ∈ List.replicate n '0', c.isDigit = true := fun c hc => by
    rw [List.eq_of_mem_replicate hc]
    rfl
  by_cases hexponent : 0 ≤ exponent
  · simp only [Binary64.positional, if_pos hexponent]
    refine ⟨by simp [hne], ?_, by simp; omega, ?_⟩
    · rw [List.append_nil]
      exact List.forall_mem_append.2 ⟨hdigits, hzeros _⟩
    · rw [List.append_nil, Text.digitsValue_append_zeros]
  · simp only [Binary64.positional, if_neg hexponent, List.splitAt_eq]
    -- There are zeros enough in front for a digit before the point.
    generalize hplaces : (-exponent).toNat = places
    have hpadded := Text.digitsValue_zeros_append (places + 1 - digits.length) digits
    have hall := List.forall_mem_append.2 ⟨hzeros (places + 1 - digits.length), hdigits⟩
    have hlength :
        places + 1 ≤ (List.replicate (places + 1 - digits.length) '0' ++ digits).length := by
      rw [List.length_append, List.length_replicate]
      omega
    generalize List.replicate (places + 1 - digits.length) '0' ++ digits = padded at *
    refine ⟨?_, ?_, ?_, ?_⟩
    · intro hnil
      have hwhole := congrArg List.length hnil
      rw [List.length_take, List.length_nil] at hwhole
      omega
    · rwa [List.take_append_drop]
    · rw [List.length_drop]
      omega
    · have hzero : exponent.toNat = 0 := by omega
      rw [List.take_append_drop, hpadded, hzero, pow10_zero, Nat.mul_one]

theorem takeSign_of_isDigit {d : Char} (h : d.isDigit = true) (ds : List Char) :
    takeSign (d :: ds) = (false, d :: ds) := by
  have hminus : d ≠ '-' := by rintro rfl; cases h
  have hplus : d ≠ '+' := by rintro rfl; cases h
  simp [takeSign, hminus, hplus]

def signChars (negative : Bool) : List Char := if negative then ['-'] else []

theorem takeSign_signChars (negative : Bool) {cs : List Char}
    (h : ∀ c ∈ cs.head?, c.isDigit = true) (hne : cs ≠ []) :
    takeSign (signChars negative ++ cs) = (negative, cs) := by
  cases negative with
  | true => rfl
  | false =>
      obtain ⟨d, ds, rfl⟩ := List.exists_cons_of_ne_nil hne
      exact takeSign_of_isDigit (h d rfl) ds

def fractionChars (fraction : List Char) : List Char :=
  if fraction.isEmpty then [] else '.' :: fraction

theorem writePositional_eq (digits : List Char) (exponent : ℤ) :
    Binary64.writePositional false digits exponent =
      (Binary64.positional digits exponent).1 ++
        fractionChars (Binary64.positional digits exponent).2 := by
  simp only [Binary64.writePositional, fractionChars]
  split <;> rfl

theorem takeFraction_fractionChars {fraction : List Char}
    (h : ∀ c ∈ fraction, c.isDigit = true) :
    takeFraction (fractionChars fraction) = (fraction, []) := by
  have hend : ∀ c ∈ ([] : List Char).head?, c.isDigit = false := by simp
  have hspan := Text.span_isDigit_append h hend
  rw [List.append_nil] at hspan
  cases fraction with
  | nil => rfl
  | cons c cs => exact hspan

theorem read?_writePositional (negative : Bool) (hne : digits ≠ [])
    (hdigits : ∀ c ∈ digits, c.isDigit = true) (exponent : ℤ) :
    read? (signChars negative ++ Binary64.writePositional false digits exponent) =
      some ⟨negative, digitsValue digits * pow10 exponent.toNat, -((-exponent).toNat : ℤ)⟩ := by
  obtain ⟨hwhole, hall, hlength, hvalue⟩ := positional_positional hne hdigits exponent
  rw [writePositional_eq]
  generalize (Binary64.positional digits exponent).1 = whole at *
  generalize (Binary64.positional digits exponent).2 = fraction at *
  obtain ⟨hwholeDigits, hfractionDigits⟩ := List.forall_mem_append.1 hall
  have hhead : ∀ c ∈ (whole ++ fractionChars fraction).head?, c.isDigit = true := by
    rw [List.head?_append_of_ne_nil _ hwhole]
    exact fun c hc => hwholeDigits c (List.mem_of_mem_head? hc)
  have hend : ∀ c ∈ (fractionChars fraction).head?, c.isDigit = false := by
    cases fraction <;> simp [fractionChars]
  have hempty : whole.isEmpty = false := List.isEmpty_eq_false_iff.2 hwhole
  simp only [read?, takeSign_signChars negative hhead (by simp [hwhole]),
    Text.span_isDigit_append hwholeDigits hend, takeFraction_fractionChars hfractionDigits,
    hempty, hvalue, hlength, readExponent?_nil, Bool.false_and, Option.bind_eq_bind,
    Option.bind_some]
  simp

end Decimal

namespace Binary64

/-- The same quotient in units of `2^-k` and in units of `10^-k`. -/
theorem grid_quotient (coefficient step k : ℕ) :
    coefficient * pow10 (step - k : ℤ).toNat * pow2 k * pow5 k =
      coefficient * pow10 step * pow10 (-(step - k : ℤ)).toNat := by
  have hexponents : (step - k : ℤ).toNat + k = step + (-(step - k : ℤ)).toNat := by omega
  rw [Nat.mul_assoc _ (pow2 k), ← pow10_eq, Nat.mul_assoc, ← pow10_add, hexponents, pow10_add,
    Nat.mul_assoc]

theorem nearestRank_grid (g : Grid) :
    nearestRank (g.coefficient * pow10 (g.step - 1074 : ℤ).toNat * pow2 1074)
      (pow10 (-(g.step - 1074 : ℤ)).toNat) = g.rank :=
  nearestRank_congr (pow10_pos _) (pow5_pos 1074) (grid_quotient g.coefficient g.step 1074)

/-- The plain form of a magnitude is positional, and its digits round to the rank. -/
theorem exists_writeMagnitude_eq (rank : ℕ) :
    ∃ digits exponent, writeMagnitude plainLayout rank = writePositional false digits exponent ∧
      digits ≠ [] ∧ (∀ c ∈ digits, c.isDigit = true) ∧
      nearestRank (Text.digitsValue digits * pow10 exponent.toNat * pow2 1074)
        (pow10 (-exponent).toNat) = rank := by
  by_cases hzero : rank = 0
  · subst hzero
    have hvalue : Text.digitsValue ['0'] = 0 := rfl
    refine ⟨['0'], 0, rfl, by simp, by simp, ?_⟩
    rw [hvalue, Nat.zero_mul, Nat.zero_mul]
    exact nearestRank_eq_zero (pow10_pos _) (pow10_pos _)
  · obtain ⟨g, hg⟩ : ∃ g, shortest plainLayout.tie rank = g := ⟨_, rfl⟩
    obtain ⟨d, ds, hdigits, -, -⟩ := Text.exists_toDigits_eq_cons g.coefficient
    refine ⟨Nat.toDigits 10 g.coefficient, g.step - 1074, ?_, by simp [hdigits],
      fun c hc => Text.isDigit_of_mem_toDigits hc, ?_⟩
    · simp only [writeMagnitude, if_neg hzero, hg]
      rfl
    · rw [Text.digitsValue_toDigits, nearestRank_grid, ← hg, rank_shortest]

theorem write_finite (layout : Layout) (negative : Bool) (rank : Fin rankCount) :
    (finite negative rank).write layout =
      Decimal.signChars negative ++ writeMagnitude layout rank := by
  rw [write, Decimal.signChars]

theorem ofRank_val (negative : Bool) (rank : Fin rankCount) :
    ofRank negative rank = finite negative rank := by
  rw [ofRank, dif_pos rank.isLt]

/-- The plain text of a finite number has digits in front of the point, a point only where digits
follow, and no exponent. -/
theorem exists_plainText_eq {x : Binary64} (h : x.isFinite = true) :
    ∃ negative whole fraction, whole ≠ [] ∧ (∀ c ∈ whole ++ fraction, c.isDigit = true) ∧
      x.plainText.toList =
        Decimal.signChars negative ++ (whole ++ Decimal.fractionChars fraction) := by
  cases x with
  | nan => cases h
  | infinite negative => cases h
  | finite negative rank =>
      obtain ⟨digits, exponent, hwrite, hne, hdigits, -⟩ := exists_writeMagnitude_eq rank
      obtain ⟨hwhole, hall, -, -⟩ := Decimal.positional_positional hne hdigits exponent
      refine ⟨negative, _, _, hwhole, hall, ?_⟩
      rw [plainText, String.toList_ofList, write_finite, hwrite, Decimal.writePositional_eq]

/-- The plain text of a finite number is a literal for the number. -/
theorem ofLiteral?_write {x : Binary64} (h : x.isFinite = true) :
    ofLiteral? (x.write plainLayout) = some x := by
  cases x with
  | nan => cases h
  | infinite negative => cases h
  | finite negative rank =>
      obtain ⟨digits, exponent, hwrite, hne, hdigits, hrank⟩ := exists_writeMagnitude_eq rank
      have hread := Decimal.read?_writePositional negative hne hdigits exponent
      rw [← hwrite, ← write_finite] at hread
      have hplaces : (-((-exponent).toNat : ℤ)).toNat = 0 := by omega
      have hvalue : (⟨negative, Text.digitsValue digits * pow10 exponent.toNat,
          -((-exponent).toNat : ℤ)⟩ : Decimal).toBinary64 = finite negative rank := by
        rw [Decimal.toBinary64_eq_nearest, nearest, Decimal.num, Decimal.den, hplaces, pow10_zero,
          Nat.mul_one, neg_neg, Int.toNat_natCast, hrank, ofRank_val]
      rw [ofLiteral?, hread, Option.bind_eq_bind, Option.bind_some, hvalue, if_pos h]

end Binary64

end CatalogRules
