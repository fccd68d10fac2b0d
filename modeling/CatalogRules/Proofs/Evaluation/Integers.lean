import CatalogRules.Proofs.Evaluation.Conjunction
import CatalogRules.Proofs.Rule.Literal

/-!
Rules with an integer on the store in memory. The integer of a rule is rounded to a
number before the store compares it, and the store compares exactly; so a rule returns
the records whose field stands in the relation to the number nearest to the integer,
and it is exact for the integers that are numbers.
-/

namespace CatalogRules.Evaluation

open Binary64 (Extended IsNearest Representable)
open Log (Journal)

/-- The text is accepted, and on every store in memory it returns exactly the records with
the property. -/
def Returns (text : String) (p : Record → Prop) [DecidablePred p] : Prop :=
  ∀ (settings : Settings) (id : String) (j : Journal) (store : Store),
    memoryRecords? settings id j store text = some (store.records.filter fun r => p r)

theorem returns_of_accepted {text : String} {p : Record → Prop} [DecidablePred p]
    {rules : RuleSet} (h : RuleSet.ofText text = .ok rules)
    (hselects : ∀ r, rules.filter.Selects r ↔ p r) : Returns text p := by
  intro settings id j store
  simp only [memoryRecords?_of_accepted h, hselects]

theorem Returns.congr {text : String} {p q : Record → Prop} [DecidablePred p] [DecidablePred q]
    (h : Returns text p) (hpq : ∀ r, p r ↔ q r) : Returns text q := by
  intro settings id j store
  simp only [h settings id j store, hpq]

section

variable {i : ℤ} {x : ℚ} (hi : i.natAbs ≤ 2 ^ 64)
  (hx : (Binary64.ofInt i).value? = some (.ofRat x)) (op : Operator)

include hi hx

theorem returns_id :
    Returns (Condition.line "id" op (toString i)) fun r => op.Relates (r.id.toNat : ℚ) x := by
  obtain ⟨rules, hrules, hselects⟩ := RuleSet.exists_ofText_integer (f := .id) (.inr rfl) op hi
  refine returns_of_accepted hrules fun r => (hselects r).trans ?_
  simp only [Condition.HoldsOn, Value.number.injEq, exists_eq_left', hx, Extended.ofInt]
  exact Operator.relates_strictMono Extended.ofRat_strictMono

theorem returns_stockQuantity :
    Returns (Condition.line "stock_quantity" op (toString i)) fun r =>
      op.RelatesOption (r.stockQuantity.map fun q => (q.toInt : ℚ)) (some x) := by
  obtain ⟨rules, hrules, hselects⟩ :=
    RuleSet.exists_ofText_integer (f := .stockQuantity) (.inl rfl) op hi
  refine returns_of_accepted hrules fun r => (hselects r).trans ?_
  simp only [Condition.HoldsOn, Value.number.injEq, exists_eq_left', hx]
  rw [← Operator.relatesOption_strictMono Extended.ofRat_strictMono, Option.map_map]
  rfl

end

/-- Rules with an integer return the records whose id or quantity stands in the relation to
the number nearest to the integer. Integers that are numbers are compared as they are, and
up to `2 ^ 53` all of them are. A record without a quantity is only returned for `!=`. -/
theorem integer_rules :
    (∀ n : UInt64, ∃ x : ℚ, IsNearest n.toNat x ∧
      (∀ op, Returns (Condition.line "id" op (toString n)) fun r =>
        op.Relates (r.id.toNat : ℚ) x) ∧
      (n.toNat ≤ 2 ^ 53 → Representable n.toNat) ∧
      (Representable n.toNat → ∀ op, Returns (Condition.line "id" op (toString n)) fun r =>
        op.Relates r.id.toNat n.toNat)) ∧
    ∀ q : Int64, ∃ x : ℚ, IsNearest q.toInt x ∧
      (∀ op, Returns (Condition.line "stock_quantity" op (toString q)) fun r =>
        op.RelatesOption (r.stockQuantity.map fun s => (s.toInt : ℚ)) (some x)) ∧
      (q.toInt.natAbs ≤ 2 ^ 53 → Representable q.toInt) ∧
      (Representable q.toInt → ∀ op,
        Returns (Condition.line "stock_quantity" op (toString q)) fun r =>
          op.RelatesOption (r.stockQuantity.map Int64.toInt) (some q.toInt)) := by
  constructor
  · intro n
    have hn : (n.toNat : ℤ).natAbs ≤ 2 ^ 64 := n.toNat_lt.le
    obtain ⟨x, hx, hnearest⟩ := Binary64.isNearest_ofInt hn
    have hreturns := returns_id hn hx
    rw [Int.cast_natCast] at hnearest
    refine ⟨x, hnearest, hreturns, fun hsmall => Binary64.representable_ofInt (i := n.toNat) hsmall,
      fun hexact op => (hreturns op).congr fun r => ?_⟩
    rw [hnearest.eq_of_representable hexact]
    exact Operator.relates_strictMono Nat.strictMono_cast
  · intro q
    have hq : q.toInt.natAbs ≤ 2 ^ 64 := by
      have hlow := q.le_toInt
      have hhigh := q.toInt_lt
      omega
    obtain ⟨x, hx, hnearest⟩ := Binary64.isNearest_ofInt hq
    have hreturns := returns_stockQuantity hq hx
    refine ⟨x, hnearest, hreturns, fun hsmall => Binary64.representable_ofInt hsmall,
      fun hexact op => (hreturns op).congr fun r => ?_⟩
    have hcast : StrictMono fun s : ℤ => (s : ℚ) := Int.cast_strictMono
    rw [hnearest.eq_of_representable hexact, ← Operator.relatesOption_strictMono hcast,
      Option.map_map]
    rfl

/-- A small id is compared as it is, and so is a negative quantity. -/
theorem small_integers_exact :
    (42 : UInt64).toNat ≤ 2 ^ 53 ∧ (-3 : Int64).toInt.natAbs ≤ 2 ^ 53 ∧
      Returns (Condition.line "id" .less (toString (42 : UInt64))) (fun r =>
        Operator.less.Relates r.id.toNat 42) ∧
      Returns (Condition.line "stock_quantity" .notEqual (toString (-3 : Int64))) (fun r =>
        Operator.notEqual.RelatesOption (r.stockQuantity.map Int64.toInt) (some (-3))) := by
  have hid : (42 : UInt64).toNat ≤ 2 ^ 53 := by decide
  have hquantity : (-3 : Int64).toInt.natAbs ≤ 2 ^ 53 := by decide
  obtain ⟨hids, hquantities⟩ := integer_rules
  obtain ⟨-, -, -, hsmall, hexact⟩ := hids 42
  obtain ⟨-, -, -, hsmall', hexact'⟩ := hquantities (-3)
  exact ⟨hid, hquantity, hexact (hsmall hid) .less, hexact' (hsmall' hquantity) .notEqual⟩

/-- Two records with neighbouring ids; no number is equal to the second id. -/
def neighbours : List Record := [{ id := 9007199254740992 }, { id := 9007199254740993 }]

/-- The rule with the id of the second record returns the first one. -/
theorem neighbour_returned :
    (Store.ofRecords neighbours).records = neighbours ∧
    memoryRecords? ⟨.sequential, false, "0"⟩ "request" (.empty .error "") (.ofRecords neighbours)
        (Condition.line "id" .equal (toString (9007199254740993 : UInt64))) =
      some [{ id := 9007199254740992 }] ∧
    (neighbours.filter fun r => Operator.equal.Relates r.id.toNat 9007199254740993) =
      [{ id := 9007199254740993 }] := by
  refine ⟨?_, ?_, ?_⟩
  · decide +kernel
  · decide +kernel
  · decide +kernel

end CatalogRules.Evaluation
