import CatalogRules.Proofs.Rule.Literal
import CatalogRules.Proofs.Rule.LiteralPattern
import CatalogRules.Record.Basic

/-!
The value of a raw text by one grammar. A text in matching quotes is what stands between them,
the name of a boolean is that boolean in capitals and small letters, a numeral with a finite
number is this number, and every other text is itself. Numbers pass two gates, a pattern that
admits the digits of all scripts and a reader that admits words for what is not finite; together
they leave the numerals in the digits of ASCII.
-/

namespace CatalogRules

namespace Binary64

/-- What the reader of numbers makes of a text: a numeral has the nearest number, which may be
infinite, and there are words for what is not finite. -/
def ofText? (cs : List Char) : Option Binary64 :=
  match Decimal.read? cs with
  | some d => some d.toBinary64
  | none =>
    let (negative, word) := Decimal.takeSign cs
    let lower := Value.lowerAscii word
    if lower = "inf".toList ∨ lower = "infinity".toList then some (.infinite negative)
    else if lower = "nan".toList then some .nan
    else none

theorem filter_ofText?_of_not_read {cs : List Char} (h : Decimal.read? cs = none) :
    (ofText? cs).filter isFinite = none := by
  simp only [ofText?, h]
  split_ifs <;> rfl

/-- The number of a literal is what the reader makes of a text that the described pattern admits,
if it is finite. -/
theorem ofLiteral?_eq_gates {p : Pattern}
    (hp : (Pattern.Form.read Decimal.literalPatternText >>= Pattern.ofForm).toOption = some p)
    (s : String) :
    ofLiteral? s.toList =
      if p.occursIn s then (ofText? s.toList).filter isFinite else none := by
  rw [Decimal.read_literalPatternText] at hp
  obtain rfl := Option.some.inj hp
  cases hread : Decimal.read? s.toList with
  | none =>
      rw [filter_ofText?_of_not_read hread, ite_self, ofLiteral?, hread]
      rfl
  | some d =>
      rw [if_pos (Decimal.occursIn_of_read? hread), ofLiteral?, ofText?, hread]
      rfl

end Binary64

namespace Decimal

open Text (digitsValue)

variable {cs : List Char} {x : Binary64}

/-- A text is a numeral with a finite number, if the digits of its exponent are counted in some
way. -/
def Writes (count : List Char → ℕ) (cs : List Char) (x : Binary64) : Prop :=
  ∃ parts, Numeral Char.isDigit cs parts ∧ (parts.decimal count).RoundsTo x ∧ x.isFinite = true

theorem ofLiteral?_eq_some_iff :
    Binary64.ofLiteral? cs = some x ↔ Writes exponentValue cs x := by
  simp only [Binary64.ofLiteral?, Option.bind_eq_bind, Option.bind_eq_some_iff,
    Option.ite_none_right_eq_some, Option.some.injEq, read?_eq_some_iff]
  constructor
  · rintro ⟨d, ⟨parts, hparts, rfl⟩, hfinite, rfl⟩
    exact ⟨parts, hparts, roundsTo_toBinary64 _, hfinite⟩
  · rintro ⟨parts, hparts, hround, hfinite⟩
    rw [← toBinary64_eq_iff] at hround
    exact ⟨_, ⟨parts, hparts, rfl⟩, hround ▸ hfinite, hround⟩

/-- A text of ordinary length, or one without an exponent of more than ordinary size. -/
def Ordinary (cs : List Char) : Prop :=
  cs.length ≤ ordinaryLength ∨ ∀ parts negative ds, Numeral Char.isDigit cs parts →
    parts.power = some (negative, ds) → digitsValue ds < 10 * longExponent

/-- In an ordinary text the digits of an exponent may as well all be counted. -/
theorem writes_iff_of_ordinary (h : Ordinary cs) :
    Writes exponentValue cs x ↔ Writes digitsValue cs x := by
  refine exists_congr fun parts => and_congr_right fun hparts => and_congr_left fun _ => ?_
  rw [← toBinary64_eq_iff, ← toBinary64_eq_iff, toBinary64_exponentValue hparts]
  exact h.imp_right fun hsize negative ds => hsize parts negative ds hparts

end Decimal

namespace Value

open Decimal (Writes Ordinary exponentValue IsCounted)
open Text (digitsValue)

/-- A text between two of the same quotes. -/
def Quotes (raw inner : List Char) : Prop :=
  ∃ quote, (quote = '"' ∨ quote = '\'') ∧ raw = quote :: (inner ++ [quote])

/-- The name of a boolean in capitals or small letters of ASCII. -/
def Names (raw : List Char) (b : Bool) : Prop := lowerAscii raw = (booleanText b).toList

/-- The value of a raw text, if the digits of exponents are counted in some way. -/
inductive Coerces (count : List Char → ℕ) (raw : List Char) : Value → Prop
  | quoted {inner} (h : Quotes raw inner) : Coerces count raw (.text (String.ofList inner))
  | boolean {b} (hbare : ∀ inner, ¬Quotes raw inner) (h : Names raw b) :
      Coerces count raw (.boolean b)
  | number {x} (hbare : ∀ inner, ¬Quotes raw inner) (hname : ∀ b, ¬Names raw b)
      (h : Writes count raw x) : Coerces count raw (.number x)
  | text (hbare : ∀ inner, ¬Quotes raw inner) (hname : ∀ b, ¬Names raw b)
      (h : ∀ x, ¬Writes count raw x) : Coerces count raw (.text (String.ofList raw))

variable {raw : List Char} {v : Value}

theorem unquote?_eq_some_iff {inner : List Char} :
    unquote? raw = some inner ↔ Quotes raw inner := by
  constructor
  · intro h
    cases raw with
    | nil => cases h
    | cons quote rest =>
        rw [unquote?, Option.ite_none_right_eq_some, List.getLast?_eq_some_iff] at h
        obtain ⟨⟨hquote, front, rfl⟩, h⟩ := h
        rw [List.dropLast_concat, Option.some.injEq] at h
        exact ⟨quote, hquote, by rw [h]⟩
  · rintro ⟨quote, hquote, rfl⟩
    simp [unquote?, hquote]

theorem unquote?_eq_none_iff : unquote? raw = none ↔ ∀ inner, ¬Quotes raw inner := by
  simp only [Option.eq_none_iff_forall_ne_some, ne_eq, unquote?_eq_some_iff]

theorem ofLiteral?_eq_none_iff :
    Binary64.ofLiteral? raw = none ↔ ∀ x, ¬Writes exponentValue raw x := by
  simp only [Option.eq_none_iff_forall_ne_some, ne_eq, Decimal.ofLiteral?_eq_some_iff]

theorem names_iff {b : Bool} : Names raw b ↔
    lowerAscii raw = if b then ['t', 'r', 'u', 'e'] else ['f', 'a', 'l', 's', 'e'] := by
  cases b <;> rfl

theorem ofChars_of_names {b : Bool} (hbare : ∀ inner, ¬Quotes raw inner) (h : Names raw b) :
    ofChars raw = .boolean b := by
  rw [names_iff] at h
  rw [ofChars, unquote?_eq_none_iff.2 hbare]
  cases b <;> simp [h]

theorem ofChars_of_unnamed (hbare : ∀ inner, ¬Quotes raw inner) (hname : ∀ b, ¬Names raw b) :
    ofChars raw = (Binary64.ofLiteral? raw).elim (text (String.ofList raw)) number := by
  have htrue : lowerAscii raw ≠ ['t', 'r', 'u', 'e'] := fun h => hname true (names_iff.2 h)
  have hfalse : lowerAscii raw ≠ ['f', 'a', 'l', 's', 'e'] := fun h => hname false (names_iff.2 h)
  rw [ofChars, unquote?_eq_none_iff.2 hbare]
  dsimp only
  rw [if_neg htrue, if_neg hfalse]
  cases Binary64.ofLiteral? raw <;> rfl

theorem coerces_ofChars (raw : List Char) : Coerces exponentValue raw (ofChars raw) := by
  cases hunquote : unquote? raw with
  | some inner =>
      rw [ofChars, hunquote]
      exact .quoted (unquote?_eq_some_iff.1 hunquote)
  | none =>
      have hbare := unquote?_eq_none_iff.1 hunquote
      by_cases hname : ∃ b, Names raw b
      · obtain ⟨b, hb⟩ := hname
        rw [ofChars_of_names hbare hb]
        exact .boolean hbare hb
      · rw [not_exists] at hname
        rw [ofChars_of_unnamed hbare hname]
        cases hliteral : Binary64.ofLiteral? raw with
        | some x => exact .number hbare hname (Decimal.ofLiteral?_eq_some_iff.1 hliteral)
        | none => exact .text hbare hname (ofLiteral?_eq_none_iff.1 hliteral)

theorem Coerces.ofChars_eq (h : Coerces exponentValue raw v) : ofChars raw = v := by
  cases h with
  | quoted h => rw [ofChars, unquote?_eq_some_iff.2 h]
  | boolean hbare h => exact ofChars_of_names hbare h
  | number hbare hname h =>
      rw [ofChars_of_unnamed hbare hname, Decimal.ofLiteral?_eq_some_iff.2 h]
      rfl
  | text hbare hname h =>
      rw [ofChars_of_unnamed hbare hname, ofLiteral?_eq_none_iff.2 h]
      rfl

theorem ofChars_eq_iff : ofChars raw = v ↔ Coerces exponentValue raw v :=
  ⟨fun h => h ▸ coerces_ofChars raw, Coerces.ofChars_eq⟩

theorem Coerces.congr {count count' : List Char → ℕ}
    (hcount : ∀ x, Writes count raw x ↔ Writes count' raw x) (h : Coerces count raw v) :
    Coerces count' raw v := by
  cases h with
  | quoted h => exact .quoted h
  | boolean hbare h => exact .boolean hbare h
  | number hbare hname h => exact .number hbare hname ((hcount _).1 h)
  | text hbare hname h => exact .text hbare hname fun x hx => h x ((hcount x).2 hx)

theorem coerces_iff_of_ordinary (h : Ordinary raw) :
    Coerces exponentValue raw v ↔ Coerces digitsValue raw v :=
  ⟨Coerces.congr fun _ => Decimal.writes_iff_of_ordinary h,
    Coerces.congr fun _ => (Decimal.writes_iff_of_ordinary h).symm⟩

theorem ofChars_eq_number_iff {x : Binary64} :
    ofChars raw = .number x ↔ Binary64.ofLiteral? raw = some x := by
  constructor
  · intro h
    cases ofChars_eq_iff.1 h with
    | number hbare hname h => exact Decimal.ofLiteral?_eq_some_iff.2 h
  · exact ofChars_of_ofLiteral?

/-- Every raw text has the value that the grammar gives it, where the digits of an exponent are
counted up to the one with which it is long; in an ordinary text they may as well all be counted.
So a number is finite and has no other characters than those of numerals. It is what the pattern
and the reader leave together, and the number of a price is the value of its trimmed text. -/
theorem ofRaw_by_grammar (raw : String) :
    (∀ v, ofRaw raw = v ↔ Coerces exponentValue raw.toList v) ∧
    (∀ ds n, exponentValue ds = n ↔ IsCounted ds n) ∧
    (Ordinary raw.toList → ∀ v, ofRaw raw = v ↔ Coerces digitsValue raw.toList v) ∧
    (∀ x, ofRaw raw = .number x →
      x.isFinite = true ∧ ∀ c ∈ raw.toList, Decimal.isLiteralChar c = true) ∧
    Binary64.ofLiteral? raw.toList =
      (if Decimal.literalPattern.occursIn raw then
        (Binary64.ofText? raw.toList).filter Binary64.isFinite
      else none) ∧
    ∀ (r : Record) x, r.priceValue? = some x ↔ ofRaw (Text.trim r.price) = .number x := by
  refine ⟨fun v => ofChars_eq_iff, fun ds n => Decimal.exponentValue_eq_iff,
    fun h v => ofChars_eq_iff.trans (coerces_iff_of_ordinary h), fun x hx => ?_,
    Binary64.ofLiteral?_eq_gates Decimal.read_literalPatternText raw, fun r x => ?_⟩
  · have hliteral := ofChars_eq_number_iff.1 hx
    obtain ⟨d, hread⟩ := Binary64.exists_read?_of_ofLiteral? hliteral
    exact ⟨Binary64.isFinite_of_ofLiteral? hliteral, Decimal.all_of_read? hread⟩
  · rw [ofRaw, ofChars_eq_number_iff, Text.toList_trim]
    rfl

/-- A text of ordinary length has the value that it writes. -/
theorem ofRaw_signed_fraction :
    Ordinary "+.5e1".toList ∧ Coerces digitsValue "+.5e1".toList (.number (.ofInt 5)) := by
  have hordinary : Ordinary "+.5e1".toList := .inl (by decide)
  exact ⟨hordinary, ((ofRaw_by_grammar "+.5e1").2.2.1 hordinary _).1 (by decide +kernel)⟩

/-- A negative numeral with zeros and a five behind the point, and with an exponent. -/
def remoteFive (zeros : ℕ) (ds : List Char) : List Char :=
  '-' :: '.' :: (List.replicate zeros '0' ++ '5' :: 'e' :: ds)

theorem numeral_remoteFive (zeros : ℕ) {ds : List Char} (hds : Decimal.Run Char.isDigit ds) :
    ∃ parts, Decimal.Numeral Char.isDigit (remoteFive zeros ds) parts ∧
      ∀ count, parts.decimal count = ⟨true, 5, count ds - (zeros + 1)⟩ := by
  have hdigits : Decimal.Run Char.isDigit (List.replicate zeros '0' ++ ['5']) := by
    refine ⟨by simp, List.forall_mem_append.2 ⟨fun c hc => ?_, by simp⟩⟩
    rw [List.eq_of_mem_replicate hc]
    rfl
  have hparts := Decimal.Numeral.mk (.minus) (.fraction hdigits) (.written (.inl rfl) .absent hds)
  have hchars : remoteFive zeros ds =
      ['-'] ++ ('.' :: (List.replicate zeros '0' ++ ['5']) ++ 'e' :: ([] ++ ds)) := by
    simp [remoteFive]
  refine ⟨_, hchars ▸ hparts, fun count => ?_⟩
  simp only [Decimal.Parts.decimal, Text.digitsValue_zeros_append, List.length_append,
    List.length_replicate, Decimal.exponentOf]
  rfl

/-- Where the exponent as it is written makes up for the zeros, and as it is counted does not, the
value is zero and not the five that is written. -/
theorem ofChars_remoteFive (zeros : ℕ) {ds : List Char} (hds : Decimal.Run Char.isDigit ds)
    (hwritten : digitsValue ds = zeros + 1)
    (hcounted : Decimal.toBinary64 ⟨true, 5, exponentValue ds - (zeros + 1)⟩ = .ofRank true 0) :
    Coerces digitsValue (remoteFive zeros ds) (.number (.ofInt (-5))) ∧
      ofChars (remoteFive zeros ds) = .number (.ofRank true 0) := by
  obtain ⟨parts, hparts, hdecimal⟩ := numeral_remoteFive zeros hds
  have hfive : (parts.decimal digitsValue).toBinary64 = .ofInt (-5) := by
    have hvalue : (⟨true, 5, 0⟩ : Decimal) = ⟨(-5 : ℤ) < 0, (-5 : ℤ).natAbs, 0⟩ := rfl
    rw [hdecimal, hwritten, Nat.cast_succ, sub_self, hvalue, Decimal.toBinary64_of_exponent_zero]
  rw [Decimal.toBinary64_eq_iff] at hfive
  have hzero : (parts.decimal exponentValue).RoundsTo (.ofRank true 0) :=
    Decimal.toBinary64_eq_iff.1 ((congrArg _ (hdecimal exponentValue)).trans hcounted)
  have hvalue : ofChars (remoteFive zeros ds) = .number (.ofRank true 0) :=
    ofChars_of_ofLiteral? (Decimal.ofLiteral?_eq_some_iff.2 ⟨parts, hparts, hzero, rfl⟩)
  have hfinite : (Binary64.ofInt (-5)).isFinite = true := by decide +kernel
  generalize Binary64.ofInt (-5) = five at hfive hfinite ⊢
  refine ⟨?_, hvalue⟩
  cases ofChars_eq_iff.1 hvalue with
  | number hbare hname h => exact .number hbare hname ⟨parts, hparts, hfive, hfinite⟩

/-- Of the six digits of this exponent five are counted, so that not the five is the value. -/
theorem ofRaw_remoteFive :
    let raw := String.ofList (remoteFive 660000 ['6', '6', '0', '0', '0', '1'])
    Coerces digitsValue raw.toList (.number (.ofInt (-5))) ∧ ofRaw raw ≠ .number (.ofInt (-5)) := by
  have hds : Decimal.Run Char.isDigit ['6', '6', '0', '0', '0', '1'] := ⟨by simp, by simp⟩
  have hcounted : Decimal.toBinary64
      ⟨true, 5, exponentValue ['6', '6', '0', '0', '0', '1'] - (660000 + 1)⟩ = .ofRank true 0 := by
    decide +kernel
  obtain ⟨hfive, hzero⟩ := ofChars_remoteFive 660000 hds (by decide) hcounted
  dsimp only
  rw [ofRaw, String.toList_ofList, hzero]
  exact ⟨hfive, by decide +kernel⟩

end Value

end CatalogRules
