import CatalogRules.Proofs.Rule.Coercion

/-!
Rules on the price. The price of a record is a text and so is the literal of a rule, and each of
them is rounded to a number on its own before the two are compared. Rounding is monotone, so the
answer depends on the two values alone, whatever their spellings, and where one value is below the
other, the comparison is never the other way round.
-/

namespace CatalogRules

open Text (digitsValue trimChars)

namespace Decimal

open Binary64 (Extended IsNearest overflow)

/-- The text is a numeral with this value, which has a finite number, if the digits of the exponent
are counted in some way. -/
def Amounts (count : List Char → ℕ) (cs : List Char) (q : ℚ) : Prop :=
  ∃ parts, Numeral Char.isDigit cs parts ∧ (parts.decimal count).value = q ∧ |q| < overflow

/-- The text is a literal with this value. The digits of its exponent are counted as far as they
are read, and in an ordinary text all of them may as well be counted. -/
def Worth (cs : List Char) (q : ℚ) : Prop :=
  Amounts exponentValue cs q ∨ Ordinary cs ∧ Amounts digitsValue cs q

variable {cs : List Char} {d : Decimal} {q : ℚ}

theorem RoundsTo.exists_isNearest {x : Binary64} (h : d.RoundsTo x)
    (hfinite : |d.value| < overflow) :
    x.isFinite = true ∧ ∃ v, x.value? = some (Extended.ofRat v) ∧ IsNearest d.value v := by
  match x, h with
  | .infinite _, ⟨_, hle⟩ => exact absurd hfinite (not_lt.2 hle)
  | .finite _ _, ⟨_, _, hnearest⟩ => exact ⟨rfl, _, rfl, hnearest⟩

theorem Amounts.exists_writes {count : List Char → ℕ} (h : Amounts count cs q) :
    ∃ x v, Writes count cs x ∧ x.value? = some (Extended.ofRat v) ∧ IsNearest q v := by
  obtain ⟨parts, hparts, rfl, hfinite⟩ := h
  have hrounds := roundsTo_toBinary64 (parts.decimal count)
  obtain ⟨hx, v, hvalue, hnearest⟩ := hrounds.exists_isNearest hfinite
  exact ⟨_, v, ⟨parts, hparts, hrounds, hx⟩, hvalue, hnearest⟩

theorem lt_overflow (h : |q| ≤ 2 ^ 53) : |q| < overflow := by
  have hone : (1 : ℚ) ≤ 2 ^ 970 := one_le_pow₀ one_le_two
  calc |q| < 2 ^ 54 - 1 := h.trans_lt (by norm_num)
    _ ≤ overflow := le_mul_of_one_le_right (by norm_num) hone

theorem Worth.exists_ofLiteral? (h : Worth cs q) :
    ∃ x v, Binary64.ofLiteral? cs = some x ∧ x.value? = some (Extended.ofRat v) ∧
      IsNearest q v := by
  simp only [ofLiteral?_eq_some_iff]
  rcases h with h | ⟨hordinary, h⟩
  · exact h.exists_writes
  · obtain ⟨x, v, hwrites, hrest⟩ := h.exists_writes
    exact ⟨x, v, (writes_iff_of_ordinary hordinary).2 hwrites, hrest⟩

theorem amounts_of_read? (h : read? cs = some d) (hfinite : |d.value| < overflow) :
    Amounts exponentValue cs d.value := by
  obtain ⟨parts, hparts, rfl⟩ := exists_numeral h
  exact ⟨parts, hparts, rfl, hfinite⟩

end Decimal

theorem Record.priceValue?_of_ofLiteral? {r : Record} {x : Binary64}
    (h : Binary64.ofLiteral? r.price.toList = some x) : r.priceValue? = some x := by
  obtain ⟨d, hread⟩ := Binary64.exists_read?_of_ofLiteral? h
  rw [Record.priceValue?, (Decimal.word_of_read? hread).trimChars, h]

/-- A condition on the price that compiles is one residual with the number of the condition. -/
theorem Filter.ofResidual_of_compile {c : Condition} {f : Filter}
    (hfield : c.field = Field.price.name) (h : compile [c] = .ok f) :
    ∃ y, c.value = .number y ∧ f = .ofResidual ⟨.price, c.operator.comparison, y⟩ := by
  obtain ⟨first, rest, hfirst, hrest, rfl⟩ := compileFrom_cons_eq_ok_iff.1 h
  obtain rfl : empty = rest := Except.ok.inj hrest
  obtain ⟨field, hname, -, hcompiled⟩ := Condition.compile_eq_ok_iff.1 hfirst
  obtain rfl := Field.name_injective (hfield.symm.trans hname)
  cases hcompiled with
  | residual type value => exact ⟨_, value, append_empty _⟩
  | number type | text type => rcases type with type | type <;> cases type
  | contains type | notContains type | boolean type | date type | rawDate type => cases type

namespace Evaluation

open Binary64 (Extended IsNearest)
open Condition (Parts Word line)
open Decimal (Amounts Worth)

/-- The line is a condition on the price with an operator and a literal. -/
def PriceRule (rule : String) (op : Operator) (literal : List Char) : Prop :=
  ∃ left right, Parts (trimChars rule.toList) left op right ∧
    trimChars left = Field.price.name.toList ∧ trimChars right = literal

/-- The line compiles to one residual, and this is the answer of the residual on the record. -/
def Answers (rule : String) (r : Record) (answer : Bool) : Prop :=
  ∃ c residual, Condition.parse rule = .ok c ∧
    Filter.compile [c] = .ok (.ofResidual residual) ∧ satisfies r residual = .ok answer

variable {rule : String} {op : Operator} {literal : List Char} {r : Record}

theorem priceRule_line {literal : String} (h : Word literal.toList) (op : Operator) :
    PriceRule (line Field.price.name op literal) op literal.toList := by
  have hfits := (word_name .price).fits h op
  refine ⟨_, _, ?_, hfits.trimChars_left, hfits.trimChars_right⟩
  rw [Condition.toList_line, hfits.trimChars_lineChars]
  exact hfits.parts

theorem operator_mem_price (op : Operator) : op ∈ Field.price.operators := by
  cases op <;> decide

theorem PriceRule.answers_iff (h : PriceRule rule op literal) {x : Binary64}
    (hx : Binary64.ofLiteral? literal = some x) {answer : Bool} :
    Answers rule r answer ↔ satisfies r ⟨.price, op.comparison, x⟩ = .ok answer := by
  obtain ⟨left, right, hparts, hleft, hright⟩ := h
  have hparse := Condition.parse_eq_ok_iff.2 ⟨left, op, right, hparts, rfl⟩
  have hfield : (Condition.ofParts left op right).field = Field.price.name := by
    rw [Condition.ofParts, hleft, String.ofList_toList]
  have hvalue : (Condition.ofParts left op right).value = .number x := by
    rw [Condition.ofParts, hright, Value.ofChars_of_ofLiteral? hx]
  have hcompile : Filter.compile [Condition.ofParts left op right] =
      .ok (.ofResidual ⟨.price, op.comparison, x⟩) := by
    have hfirst := Condition.compile_of_compiled hfield (operator_mem_price op)
      (.residual rfl hvalue)
    rw [Filter.compile, Filter.compileFrom, hfirst]
    rfl
  constructor
  · rintro ⟨c, residual, hc, hresidual, hanswer⟩
    rw [hparse] at hc
    rw [← Except.ok.inj hc, hcompile] at hresidual
    obtain rfl : residual = ⟨.price, op.comparison, x⟩ := by
      simpa [Filter.ofResidual, eq_comm] using hresidual
    exact hanswer
  · exact fun hanswer => ⟨_, _, hparse, hcompile, hanswer⟩

theorem PriceRule.answers_iff_holds (h : PriceRule rule op literal) {x y : Binary64}
    (hx : Binary64.ofLiteral? literal = some x) (hy : r.priceValue? = some y) {answer : Bool} :
    Answers rule r answer ↔ answer = op.comparison.holds (y.compare? x) := by
  rw [h.answers_iff hx, eq_comm]
  simp only [satisfies, hy, Except.ok.injEq]

theorem PriceRule.exists_answer {p v : ℚ} (h : PriceRule rule op literal) (hv : Worth literal v)
    (hp : Worth (trimChars r.price.toList) p) :
    ∃ p' v', IsNearest p p' ∧ IsNearest v v' ∧
      ∀ answer, Answers rule r answer ↔ answer = decide (op.Relates p' v') := by
  obtain ⟨x, v', hx, hxvalue, hnearest⟩ := hv.exists_ofLiteral?
  obtain ⟨y, p', hy, hyvalue, hnearest'⟩ := hp.exists_ofLiteral?
  refine ⟨p', v', hnearest', hnearest, fun answer => ?_⟩
  have hholds : op.comparison.holds (y.compare? x) = decide (op.Relates p' v') := by
    rw [Bool.eq_iff_iff, Operator.holds_compare?_iff, hxvalue, hyvalue, decide_eq_true_iff]
    exact Operator.relates_strictMono Extended.ofRat_strictMono
  rw [h.answers_iff_holds hx hy, hholds]

/-- Whichever way the price of a record and the literal of a rule are spelled, the answer of the
residual depends on their values alone. Where the values are equal, exactly the operators that
admit equality hold, and where one is below the other, no operator holds that says the contrary
and none fails that admits it or equality. -/
theorem prices_answer_by_value {p v : ℚ} (h : PriceRule rule op literal) (hv : Worth literal v)
    (hp : Worth (trimChars r.price.toList) p) :
    ∃ answer, (∀ answer', Answers rule r answer' ↔ answer' = answer) ∧
      (∀ rule' literal' r', PriceRule rule' op literal' → Worth literal' v →
        Worth (trimChars r'.price.toList) p → Answers rule' r' answer) ∧
      (p = v → (answer = true ↔ op ∈ [.equal, .doubleEqual, .greaterOrEqual, .lessOrEqual])) ∧
      (p < v → (op = .lessOrEqual → answer = true) ∧ (op = .greater → answer = false)) ∧
      (v < p → (op = .greaterOrEqual → answer = true) ∧ (op = .less → answer = false)) := by
  obtain ⟨p', v', hp', hv', hanswer⟩ := h.exists_answer hv hp
  refine ⟨decide (op.Relates p' v'), hanswer, fun rule' literal' r' h₁ hv₁ hp₁ => ?_,
    fun heq => ?_, fun hlt => ?_, fun hlt => ?_⟩
  · obtain ⟨p₁, v₁, hp₁', hv₁', hanswer₁⟩ := h₁.exists_answer hv₁ hp₁
    rw [hanswer₁, hp'.eq hp₁', hv'.eq hv₁']
  · subst heq
    rw [hp'.eq hv', decide_eq_true_iff]
    cases op <;> simp [Operator.Relates]
  · have hle := hp'.mono hv' hlt.le
    constructor
    · rintro rfl
      exact decide_eq_true hle
    · rintro rfl
      exact decide_eq_false (not_lt.2 hle)
  · have hle := hv'.mono hp' hlt.le
    constructor
    · rintro rfl
      exact decide_eq_true hle
    · rintro rfl
      exact decide_eq_false (not_lt.2 hle)

/-- Ten is at least ten, though one is written with a sign and a point and the other with an
exponent. -/
theorem prices_answer_tens :
    PriceRule "price >= 1e1" .greaterOrEqual "1e1".toList ∧ Worth "1e1".toList 10 ∧
      Worth (trimChars " +10. ".toList) 10 ∧
      Answers "price >= 1e1" { id := 1, price := " +10. " } true := by
  have hliteral : Decimal.read? "1e1".toList = some ⟨false, 1, 1⟩ := rfl
  have hprice : Decimal.read? (trimChars " +10. ".toList) = some ⟨false, 10, 0⟩ := rfl
  have hrule := priceRule_line (Decimal.word_of_read? hliteral) .greaterOrEqual
  have hliteralValue : (⟨false, 1, 1⟩ : Decimal).value = 10 := by
    norm_num [Decimal.value, Binary64.signed]
  have hpriceValue : (⟨false, 10, 0⟩ : Decimal).value = 10 := by
    norm_num [Decimal.value, Binary64.signed]
  have hfinite : |(10 : ℚ)| < Binary64.overflow := Decimal.lt_overflow (by norm_num)
  have hv : Worth "1e1".toList 10 :=
    .inl (hliteralValue ▸ Decimal.amounts_of_read? hliteral (hliteralValue ▸ hfinite))
  have hp : Worth (trimChars " +10. ".toList) 10 :=
    .inl (hpriceValue ▸ Decimal.amounts_of_read? hprice (hpriceValue ▸ hfinite))
  obtain ⟨answer, hanswer, -, hequal, -⟩ :=
    prices_answer_by_value (r := { id := 1, price := " +10. " }) hrule hv hp
  exact ⟨hrule, hv, hp, (hanswer true).2 ((hequal rfl).2 (by decide)).symm⟩

/-- Where the exponent of a price as it is written makes up for the zeros, and as it is counted
does not, the price is not found equal to the five that it writes. -/
theorem answers_remoteFive (zeros : ℕ) {ds : List Char} (hds : Decimal.Run Char.isDigit ds)
    (hwritten : digitsValue ds = zeros + 1)
    (hcounted : Decimal.toBinary64 ⟨true, 5, Decimal.exponentValue ds - (zeros + 1)⟩ =
      .ofRank true 0)
    (hr : r.price.toList = Value.remoteFive zeros ds) :
    Amounts digitsValue (trimChars r.price.toList) (-5) ∧ Answers "price = -5" r false := by
  obtain ⟨parts, hparts, hdecimal⟩ := Value.numeral_remoteFive zeros hds
  obtain ⟨-, hzero⟩ := Value.ofChars_remoteFive zeros hds hwritten hcounted
  have hvalue : (parts.decimal digitsValue).value = -5 := by
    rw [hdecimal, hwritten, Nat.cast_succ, sub_self]
    norm_num [Decimal.value, Binary64.signed]
  have hliteral : Decimal.read? "-5".toList = some ⟨true, 5, 0⟩ := rfl
  have hrule : PriceRule "price = -5" .equal "-5".toList :=
    priceRule_line (Decimal.word_of_read? hliteral) .equal
  have hnumber : Binary64.ofLiteral? "-5".toList = some (.ofInt (-5)) := by decide +kernel
  rw [← hr, Value.ofChars_eq_number_iff] at hzero
  constructor
  · rw [hr, (Decimal.word_of_read? (Decimal.read?_of_numeral hparts)).trimChars]
    exact ⟨parts, hparts, hvalue, Decimal.lt_overflow (by norm_num)⟩
  · rw [hrule.answers_iff_holds hnumber (Record.priceValue?_of_ofLiteral? hzero)]
    decide +kernel

/-- Of the six digits of the exponent five are counted, and the price is not found equal to the
five that it writes. -/
theorem price_remoteFive_unequal :
    let price := String.ofList (Value.remoteFive 660000 ['6', '6', '0', '0', '0', '1'])
    PriceRule "price = -5" .equal "-5".toList ∧ Amounts digitsValue "-5".toList (-5) ∧
      Amounts digitsValue (trimChars price.toList) (-5) ∧
      Answers "price = -5" { id := 1, price } false := by
  have hds : Decimal.Run Char.isDigit ['6', '6', '0', '0', '0', '1'] := ⟨by simp, by simp⟩
  have hdigit : Decimal.Run Char.isDigit ['5'] := ⟨by simp, by simp⟩
  have hcounted : Decimal.toBinary64
      ⟨true, 5, Decimal.exponentValue ['6', '6', '0', '0', '0', '1'] - (660000 + 1)⟩ =
        .ofRank true 0 := rfl
  have hfive : (⟨true, 5, 0⟩ : Decimal).value = -5 := by norm_num [Decimal.value, Binary64.signed]
  have hliteral : Decimal.read? "-5".toList = some ⟨true, 5, 0⟩ := rfl
  exact ⟨priceRule_line (Decimal.word_of_read? hliteral) .equal,
    ⟨_, .mk .minus (.whole hdigit) .absent, hfive, Decimal.lt_overflow (by norm_num)⟩,
    answers_remoteFive 660000 (r := { id := 1, price := String.ofList _ }) hds (by decide)
      hcounted String.toList_ofList⟩

end Evaluation

end CatalogRules
