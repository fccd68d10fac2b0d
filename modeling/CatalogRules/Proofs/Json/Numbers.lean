import CatalogRules.Proofs.Json.Reading
import CatalogRules.Proofs.Number.DataText
import CatalogRules.Proofs.Number.Stepwise

/-!
Numbers of documents, read again. The reader takes the text of a number apart into the digits it was
written with, and makes a number of them in steps. That need not be the nearest one; but where it
is, the number is read back as it was written, and with few digits and a small power of ten it is.
-/

namespace CatalogRules.Json

open Binary64 (dataLayout stepped)
open Decimal (DataNumeral Numeral fractionChars powerChars signChars)
open Text (digitsValue)

variable {rest : List Char}

theorem readFraction_chars {fraction : List Char} (hdigits : ∀ c ∈ fraction, c.isDigit = true)
    (hrest : ∀ c ∈ rest.head?, c.isDigit = false ∧ c ≠ '.') :
    readFraction (fractionChars fraction ++ rest) = .ok (fraction, rest) := by
  cases fraction with
  | nil => exact readFraction_of_head fun c hc => (hrest c hc).2
  | cons d ds =>
      have hspan := Text.span_isDigit_append hdigits fun c hc => (hrest c hc).1
      rw [List.cons_append] at hspan
      simp only [fractionChars, List.isEmpty_cons, Bool.false_eq_true, if_false, List.cons_append,
        readFraction, hspan]

theorem readExponent_chars (power : Option ℤ) (hrest : EndsNumber rest) :
    readExponent (powerChars power ++ rest) = .ok (power, rest) := by
  cases power with
  | none => exact readExponent_of_endsNumber hrest
  | some e =>
      have hspan := Text.span_isDigit_toDigits e.natAbs fun c hc => (hrest c hc).1
      have hne : (Nat.toDigits 10 e.natAbs).isEmpty = false :=
        List.isEmpty_eq_false_iff.2 (Decimal.run_toDigits e.natAbs).1
      have hsign : Decimal.takeSign ((if e < 0 then '-' else '+') ::
          (Nat.toDigits 10 e.natAbs ++ rest)) =
          (decide (e < 0), Nat.toDigits 10 e.natAbs ++ rest) := by
        by_cases hneg : e < 0 <;> simp [hneg, Decimal.takeSign]
      have hvalue : (if decide (e < 0) = true then -(e.natAbs : ℤ) else e.natAbs) = e := by
        simp only [decide_eq_true_eq]
        split <;> omega
      simp only [powerChars, List.cons_append, readExponent, true_or, if_true, hsign, hspan, hne,
        Text.digitsValue_toDigits, hvalue, Bool.false_eq_true, if_false]

theorem head_powerChars_append (power : Option ℤ) (hrest : EndsNumber rest) :
    ∀ c ∈ (powerChars power ++ rest).head?, c.isDigit = false ∧ c ≠ '.' := by
  cases power with
  | none => exact fun c hc => ⟨(hrest c hc).1, (hrest c hc).2.1⟩
  | some e =>
      intro c hc
      obtain rfl : 'e' = c := Option.some.inj hc
      decide

theorem head_fractionChars_append (fraction : List Char) (power : Option ℤ)
    (hrest : EndsNumber rest) :
    ∀ c ∈ (fractionChars fraction ++ (powerChars power ++ rest)).head?, c.isDigit = false := by
  cases fraction with
  | nil => exact fun c hc => (head_powerChars_append power hrest c hc).1
  | cons d ds =>
      intro c hc
      obtain rfl : '.' = c := Option.some.inj hc
      decide

variable {n : DataNumeral}

def draftOf (n : DataNumeral) : Draft := numberDraft n.negative n.whole n.fraction n.power

theorem readNumber_chars (n : DataNumeral) (hrest : EndsNumber rest) :
    readNumber n.negative (n.whole ++ (fractionChars n.fraction ++ (powerChars n.power ++ rest))) =
      (draftOf n, some rest) := by
  have hwhole := readWhole_digits n.run_whole.1 n.run_whole.2 n.zero
    (head_fractionChars_append n.fraction n.power hrest)
  have hfraction := readFraction_chars n.isDigit_fraction (head_powerChars_append n.power hrest)
  have hpower := readExponent_chars n.power hrest
  simp [readNumber, hwhole, hfraction, hpower, bind, Except.bind, pure, Except.pure, draftOf]

theorem readValue_chars (n : DataNumeral) (fuel : ℕ) (hrest : EndsNumber rest) :
    readValue (fuel + 1) (n.chars ++ rest) = (draftOf n, some rest) := by
  have hread := readNumber_chars n hrest
  have hchars : n.chars ++ rest = signChars n.negative ++
      (n.whole ++ (fractionChars n.fraction ++ (powerChars n.power ++ rest))) := by
    simp only [DataNumeral.chars, List.append_assoc]
  rw [hchars]
  cases hnegative : n.negative with
  | true =>
      rw [hnegative] at hread
      exact (readValue_minus fuel _).trans hread
  | false =>
      obtain ⟨d, ds, hwhole⟩ := List.exists_cons_of_ne_nil n.run_whole.1
      have hd : d.isDigit = true := n.run_whole.2 d (by simp [hwhole])
      rw [hnegative, hwhole] at hread
      rw [hwhole]
      exact (readValue_of_isDigit (skipSpaces_of_isDigit hd _) hd fuel).trans hread

theorem readDocument_chars (n : DataNumeral) : readDocument n.chars = ⟨draftOf n, false⟩ := by
  have hend : EndsNumber [] := by simp [EndsNumber]
  have hread := readValue_chars n (2 * n.chars.length + 1) hend
  rw [List.append_nil] at hread
  simp [readDocument, hread, skipSpaces]

theorem decodeText_chars {α : Type} (decode : Decoder α) (n : DataNumeral) :
    decodeText decode (String.ofList n.chars) = decode (draftOf n) := by
  simp only [decodeText, String.toList_ofList, readDocument_chars]
  cases decode (draftOf n) <;> rfl

/-- A point or an exponent keeps a numeral from being an integer. -/
theorem draftOf_eq (n : DataNumeral) :
    draftOf n =
      if (stepped n.negative n.whole n.fraction (n.power.getD 0)).isFinite then
        .number (.float (stepped n.negative n.whole n.fraction (n.power.getD 0)))
      else .flawed .unusable := by
  have hmarked : ¬(n.fraction.isEmpty = true ∧ n.power.isNone = true) := by
    rw [List.isEmpty_iff, Option.isNone_iff_eq_none]
    exact fun h => n.marked.elim (· h.1) (· h.2)
  rw [draftOf, numberDraft, if_neg fun h => hmarked ⟨h.1, h.2.1⟩]

theorem draftOf_of_float {x : Binary64} (h : Decode.float (draftOf n) = .ok x) :
    draftOf n = .number (.float x) := by
  rw [draftOf_eq] at h ⊢
  split at h
  · rename_i hfinite
    rw [Except.ok.inj h] at hfinite ⊢
    rw [if_pos hfinite]
  · cases h

/-- The numeral is read as the number that its decimal is rounded to. -/
def ReadsNearest (cs : List Char) : Prop :=
  ∀ parts, Numeral Char.isDigit cs parts → ∃ x, (parts.decimal digitsValue).RoundsTo x ∧
    decodeText Decode.float (String.ofList cs) = .ok x

theorem readsNearest_chars_iff :
    ReadsNearest n.chars ↔ ∃ x, n.decimal.RoundsTo x ∧ draftOf n = .number (.float x) := by
  have hdecode {x : Binary64} : decodeText Decode.float (String.ofList n.chars) = .ok x ↔
      draftOf n = .number (.float x) := by
    rw [decodeText_chars]
    exact ⟨draftOf_of_float, fun h => by rw [h]; rfl⟩
  simp only [ReadsNearest, hdecode]
  constructor
  · intro h
    simpa only [DataNumeral.decimal_parts] using h n.parts n.numeral_chars
  · intro h parts hparts
    rwa [hparts.unique n.numeral_chars, DataNumeral.decimal_parts]

/-- A finite number is read back as it was written just where its text is rounded correctly. -/
theorem readsBack_float_iff {x : Binary64} (hfinite : x.isFinite = true) :
    (Number.float x).ReadsBack ↔ ReadsNearest (x.write dataLayout) := by
  obtain ⟨n, hchars, hrounds, -⟩ := Binary64.exists_dataNumeral hfinite
  rw [← hchars, readsNearest_chars_iff]
  constructor
  · intro h
    have hend : EndsNumber [] := by simp [EndsNumber]
    have hread := h 0 [] hend
    rw [Number.write, ← hchars, readValue_chars n 0 hend] at hread
    exact ⟨x, hrounds, (Prod.mk.inj hread).1⟩
  · rintro ⟨y, hy, hdraft⟩ fuel rest hrest
    obtain rfl := hy.eq hrounds
    rw [Number.write, ← hchars, readValue_chars n fuel hrest, hdraft]

/-- Few digits, and a small power of ten. -/
structure IsShort (n : DataNumeral) : Prop where
  digits : digitsValue (n.whole ++ n.fraction) ≤ 2 ^ 53
  low : -22 ≤ n.decimal.exponent
  high : n.decimal.exponent ≤ 22

theorem IsShort.isFinite (h : IsShort n) : n.decimal.toBinary64.isFinite = true := by
  have hdigits : (n.decimal.coefficient : ℚ) ≤ 2 ^ 53 := by exact_mod_cast h.digits
  have hpower : (10 : ℚ) ^ n.decimal.exponent ≤ 10 ^ (22 : ℤ) :=
    zpow_le_zpow_right₀ (by norm_num) h.high
  have hbelow (k : ℕ) : (2 ^ 53 : ℚ) * 10 ^ (22 : ℤ) < (2 ^ 54 - 1) * 2 ^ (100 + k) := by
    calc
      (2 ^ 53 : ℚ) * 10 ^ (22 : ℤ) < (2 ^ 54 - 1) * 2 ^ 100 := by norm_num
      _ ≤ (2 ^ 54 - 1) * 2 ^ (100 + k) := by
        exact mul_le_mul_of_nonneg_left (pow_le_pow_right₀ one_le_two (Nat.le_add_right 100 k))
          (by norm_num)
  have hvalue : |n.decimal.value| < Binary64.overflow := by
    rw [Decimal.abs_value]
    exact (mul_le_mul hdigits hpower (by positivity) (by norm_num)).trans_lt (hbelow 870)
  have hrounds := n.decimal.roundsTo_toBinary64
  cases hx : n.decimal.toBinary64 with
  | finite negative rank => rfl
  | nan => simp [hx, Decimal.RoundsTo] at hrounds
  | infinite negative =>
      rw [hx] at hrounds
      exact absurd hvalue (not_lt.2 hrounds.2)

/-- Few digits with a small power of ten are read as the nearest number. -/
theorem readsNearest_of_isShort (h : IsShort n) : ReadsNearest n.chars := by
  have hsteps : stepped n.negative n.whole n.fraction (n.power.getD 0) = n.decimal.toBinary64 :=
    Binary64.stepped_eq_toBinary64 n.negative h.digits h.low h.high
  rw [readsNearest_chars_iff]
  refine ⟨_, n.decimal.roundsTo_toBinary64, ?_⟩
  rw [draftOf_eq, hsteps, if_pos h.isFinite]

def smallNumeral : DataNumeral where
  negative := false
  whole := ['1']
  fraction := []
  power := some (-23)
  run_whole := by simp [Decimal.Run]
  zero := by simp
  isDigit_fraction := by simp
  marked := by simp

/-- With a power of ten that is not that small, the nearest number can be missed. -/
theorem not_readsNearest_smallNumeral : ¬ReadsNearest smallNumeral.chars := by
  rw [readsNearest_chars_iff]
  rintro ⟨x, hx, hdraft⟩
  have hread : Decode.float (draftOf smallNumeral) ≠ .ok smallNumeral.decimal.toBinary64 := by
    decide +kernel
  rw [hdraft, Decimal.toBinary64_eq_iff.2 hx] at hread
  exact hread rfl

end CatalogRules.Json
