import CatalogRules.Proofs.Evaluation.Prices
import CatalogRules.Proofs.Number.DataText
import CatalogRules.Ingest.Mapping

/-!
Prices that a source gives as numbers. The text that keeps such a price is the number in data
form, with a point, an exponent or all its digits, and each of these shapes is a literal. So the
price of the record is the number nearest to the one that was given, and rules compare with it.
-/

namespace CatalogRules

namespace Decimal

open Text (digitsValue)

theorem DataNumeral.ordinary_chars (n : DataNumeral) (h : ∀ e ∈ n.power, e.natAbs ≤ 1074) :
    Ordinary n.chars := by
  refine .inr fun parts negative ds hparts hpower => ?_
  rw [hparts.unique n.numeral_chars, DataNumeral.parts, Option.map_eq_some_iff] at hpower
  obtain ⟨e, he, hsplit⟩ := hpower
  obtain ⟨-, rfl⟩ := Prod.mk.inj hsplit
  have hsmall := h e he
  rw [Text.digitsValue_toDigits, longExponent]
  omega

end Decimal

theorem Binary64.ofLiteral?_writeData {x : Binary64} (h : x.isFinite = true) :
    ofLiteral? (x.write dataLayout) = some x := by
  obtain ⟨n, hchars, hrounds, hpower⟩ := exists_dataNumeral h
  rw [← hchars, Decimal.ofLiteral?_eq_some_iff,
    Decimal.writes_iff_of_ordinary (n.ordinary_chars hpower)]
  exact ⟨n.parts, n.numeral_chars, n.decimal_parts ▸ hrounds, h⟩

namespace Json.Number

open Binary64 (Extended IsNearest)

/-- The number is an integer of 64 bits, with or without a sign, or it is finite. -/
def Plain : Number → Prop
  | .integer i => leastInteger ≤ i ∧ i ≤ greatestInteger
  | .float x => x.isFinite = true

def Nearest : Number → Binary64 → Prop
  | .integer i, x => ∃ v, x.value? = some (Extended.ofRat v) ∧ IsNearest i v
  | .float y, x => x = y

theorem exists_ofLiteral?_write {n : Number} (h : n.Plain) :
    ∃ x, Binary64.ofLiteral? n.write = some x ∧ n.Nearest x := by
  cases n with
  | float y => exact ⟨y, Binary64.ofLiteral?_writeData h, rfl⟩
  | integer i =>
      obtain ⟨hlow, hhigh⟩ := h
      have hsize : i.natAbs ≤ 2 ^ 64 := by
        simp only [leastInteger, greatestInteger] at hlow hhigh
        omega
      refine ⟨.ofInt i, ?_, Binary64.isNearest_ofInt hsize⟩
      rw [write, ← toList_toString_int, ofLiteral?_toString_int hsize]

end Json.Number

namespace Product

variable {p : Product} {n : Json.Number}

theorem exists_toRecord_of_number (h : p.price = .number n) :
    ∃ r, p.toRecord = .ok r ∧ r.price.toList = n.write := by
  have htext : p.priceText = .ok (Json.number n).compact := by rw [priceText, h]
  refine ⟨_, by rw [toRecord, htext], ?_⟩
  exact String.toList_ofList

/-- A product whose price is a number becomes a record whose price is the number nearest to it,
and every rule on the price that compiles compares this number with its own. -/
theorem numeric_price_kept (hprice : p.price = .number n) (hn : n.Plain) :
    ∃ r x, p.toRecord = .ok r ∧ r.priceValue? = some x ∧ n.Nearest x ∧
      ∀ (c : Condition) (f : Filter), c.field = Field.price.name → Filter.compile [c] = .ok f →
        ∃ y answer, c.value = .number y ∧ f = .ofResidual ⟨.price, c.operator.comparison, y⟩ ∧
          Evaluation.satisfies r ⟨.price, c.operator.comparison, y⟩ = .ok answer ∧
          (answer = true ↔ c.operator.RelatesOption x.value? y.value?) := by
  obtain ⟨r, hr, htext⟩ := exists_toRecord_of_number hprice
  obtain ⟨x, hliteral, hnearest⟩ := Json.Number.exists_ofLiteral?_write hn
  have hvalue : r.priceValue? = some x := Record.priceValue?_of_ofLiteral? (htext ▸ hliteral)
  refine ⟨r, x, hr, hvalue, hnearest, fun c f hfield hcompile => ?_⟩
  obtain ⟨y, hy, rfl⟩ := Filter.ofResidual_of_compile hfield hcompile
  refine ⟨y, _, hy, rfl, ?_, Operator.holds_compare?_iff⟩
  simp only [Evaluation.satisfies, hvalue]

/-- The price of zero with a sign keeps the sign. -/
theorem negative_zero_price_kept :
    let p : Product := { id := 1, price := .number (.float (.ofRank true 0)) }
    (Json.Number.float (.ofRank true 0)).Plain ∧
      ∃ r, p.toRecord = .ok r ∧ r.priceValue? = some (.ofRank true 0) := by
  have hplain : (Json.Number.float (.ofRank true 0)).Plain := by rfl
  obtain ⟨r, x, hr, hvalue, hnearest, -⟩ :=
    numeric_price_kept (p := { id := 1, price := .number (.float (.ofRank true 0)) }) rfl hplain
  obtain rfl : x = .ofRank true 0 := hnearest
  exact ⟨hplain, r, hr, hvalue⟩

end Product

end CatalogRules
