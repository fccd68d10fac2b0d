import CatalogRules.Proofs.Number.Whole
import CatalogRules.Proofs.Rule.Comparison
import CatalogRules.Store.Matching

/-!
Clauses on the integers of a record. A record has an id of 64 bits and may have a quantity of
64 bits with a sign. Whichever of the two ways the store compares such an integer with a
number in, the answer is that for the integer and the exact value of the number.
-/

namespace CatalogRules

open Binary64 (Extended)

namespace Stored

variable {i : ℤ} {c : Comparison} {x : Binary64}

theorem compareInteger_eq (hi : i.natAbs ≤ 2 ^ 64) :
    compareInteger i c x = c.holds (x.compareInt? i) := by
  unfold compareInteger
  split
  · rename_i hwide
    have hwhole : x.isWhole = true := (Bool.and_eq_true_iff.1 hwide).1
    rw [Binary64.compareInt?_of_isWhole hwhole]
  · rename_i hwide
    rw [Binary64.compare?_ofInt hi (Bool.not_eq_true _ ▸ hwide)]

theorem compareInteger_iff (hi : i.natAbs ≤ 2 ^ 64) :
    compareInteger i c x = true ↔ c.RelatesOption (some (Extended.ofInt i)) x.value? := by
  rw [compareInteger_eq hi, Binary64.compareInt?_eq, ← Comparison.holds_bind_compare_iff]
  cases x.value? <;> rfl

end Stored

namespace Record

variable (r : Record) {c : Comparison} {x : Binary64}

theorem compare_id_iff :
    (r.stored .id).compare c (.number x) = true ↔
      c.RelatesOption (some (Extended.ofInt r.id.toNat)) x.value? := by
  have hid : (r.id.toNat : ℤ).natAbs ≤ 2 ^ 64 := r.id.toNat_lt.le
  exact Stored.compareInteger_iff hid

theorem compare_stockQuantity_iff :
    (r.stored .stockQuantity).compare c (.number x) = true ↔
      c.RelatesOption (r.stockQuantity.map fun q => Extended.ofInt q.toInt) x.value? := by
  rw [stored]
  cases r.stockQuantity with
  | none => simp [Stored.compare, Comparison.RelatesOption]
  | some q =>
      have hquantity : q.toInt.natAbs ≤ 2 ^ 64 := by
        have hlow := q.le_toInt
        have hhigh := q.toInt_lt
        omega
      exact Stored.compareInteger_iff hquantity

/-- The integers of a record are compared with the exact value of a number, however large or
small the number is and whether or not it has a fraction. The infinities are above and below
every integer, and what is not a number is only different from it, as is a quantity that the
record does not have. -/
theorem integers_compare_exactly (c : Comparison) (x : Binary64) :
    (r.satisfiesClause ⟨.id, .compare c (.number x)⟩ = true ↔
      c.RelatesOption (some (Extended.ofInt r.id.toNat)) x.value?) ∧
    (r.satisfiesClause ⟨.stockQuantity, .compare c (.number x)⟩ = true ↔
      c.RelatesOption (r.stockQuantity.map fun q => Extended.ofInt q.toInt) x.value?) :=
  ⟨r.compare_id_iff, r.compare_stockQuantity_iff⟩

/-- The id `2^53 + 1` is above the number `2^53` that it is rounded to. -/
example : Record.satisfiesClause { id := 9007199254740993 }
    ⟨.id, .compare .gt (.number (.finite false 0x4340000000000000))⟩ = true := by
  decide +kernel

end Record

end CatalogRules
