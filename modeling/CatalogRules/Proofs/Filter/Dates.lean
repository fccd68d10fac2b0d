import CatalogRules.Ingest.Mapping
import CatalogRules.Proofs.Filter.Meaning
import CatalogRules.Proofs.Time.Reading

/-!
Conditions on dates. The date of a product and the value of a condition are brought into
the same canonical text, and the store compares the texts. As these are in the order of
the instants, a condition selects the products by the time at which they were created,
however the two texts are written.
-/

namespace CatalogRules

namespace Product

variable {p : Product} {raw : String} {t : Instant}

theorem createdAt_of_toRecord {r : Record} (h : p.toRecord = .ok r) :
    r.createdAt = p.createdAt? := by
  unfold toRecord at h
  split at h
  · cases h
  · cases h
    rfl

theorem createdAt?_of_read?
    (hraw : (nonEmpty? p.dateCreated).or (nonEmpty? p.dateCreatedGmt) = some raw)
    (ht : Timestamp.read? raw = some t) : p.createdAt? = some t.text := by
  simp only [createdAt?, hraw, Timestamp.normalize?, ht, Option.map_some, Option.getD_some]

end Product

namespace Condition

variable {c : Condition} {t : Instant}

theorem compile_of_read? (hfield : c.field = "created_at")
    (ht : Timestamp.read? c.value.canonical = some t) :
    c.compile = .ok (.ofClause ⟨.createdAt, .compare c.operator.comparison (.text t.text)⟩) := by
  have hname : c.field = Field.createdAt.name := hfield
  have hop : c.operator ∈ Field.createdAt.operators := by cases c.operator <;> decide
  have hnormal : Timestamp.normalize? c.value.canonical = some t.text := by
    rw [Timestamp.normalize?, ht, Option.map_some]
  exact compile_of_compiled hname hop (.date rfl hnormal)

variable {p : Product} {r : Record} {raw : String} {a b : Instant}

/-- A product with a date of the years 0 to 9999 satisfies a compiled condition on a date of
these years exactly if the two dates, cut to milliseconds, stand in the relation that the
operator names. -/
theorem dates_select_chronologically (hrecord : p.toRecord = .ok r)
    (hraw : (Product.nonEmpty? p.dateCreated).or (Product.nonEmpty? p.dateCreatedGmt) = some raw)
    (ha : Timestamp.read? raw = some a) (hyear : a.year ∈ Set.Icc 0 9999)
    (hfield : c.field = "created_at") (hb : Timestamp.read? c.value.canonical = some b)
    (hyear' : b.year ∈ Set.Icc 0 9999) :
    ∃ clause, c.compile = .ok (.ofClause clause) ∧
      (r.satisfiesClause clause = true ↔ c.operator.Relates a.millis b.millis) := by
  refine ⟨_, compile_of_read? hfield hb, ?_⟩
  have hstored : r.stored .createdAt = .text a.text := by
    rw [Record.stored, Product.createdAt_of_toRecord hrecord, Product.createdAt?_of_read? hraw ha]
    rfl
  have hordered : Text.compareTexts a.text b.text = compare a.millis b.millis :=
    Instant.compareTexts_text (Timestamp.regular_of_read? ha) (Timestamp.regular_of_read? hb)
      hyear hyear'
  rw [Record.satisfiesClause, hstored, Record.satisfiesPredicate, Stored.compare, hordered]
  exact Operator.holds_compare_iff

/-- A product of which the date in GMT alone is known. It was created in a leap second. -/
def lateProduct : Product :=
  { id := 3, dateCreated := some "", dateCreatedGmt := some "2016-12-31T23:59:60.25Z" }

def lateRecord : Record := { id := 3, createdAt := some "2016-12-31T23:59:60.250Z" }

def beforeNewYear : Condition := ⟨"created_at", .less, .text "2017-01-01 01:00:00+01:00"⟩

/-- The leap second is before the new year, which an hour to the east has begun. -/
theorem lateProduct_selected :
    lateProduct.toRecord = .ok lateRecord ∧
      ∃ clause, beforeNewYear.compile = .ok (.ofClause clause) ∧
        lateRecord.satisfiesClause clause = true := by
  have hrecord : lateProduct.toRecord = .ok lateRecord := by decide +kernel
  have ha : Timestamp.read? "2016-12-31T23:59:60.25Z" = some ⟨1483228799, 1250000000⟩ := by
    decide +kernel
  have hb : Timestamp.read? beforeNewYear.value.canonical = some ⟨1483228800, 0⟩ := by
    decide +kernel
  obtain ⟨clause, hcompile, hiff⟩ := dates_select_chronologically hrecord rfl ha
    (by decide +kernel) rfl hb (by decide +kernel)
  have hbefore : Operator.less.Relates (Instant.millis ⟨1483228799, 1250000000⟩)
      (Instant.millis ⟨1483228800, 0⟩) := Prod.Lex.toLex_lt_toLex.2 (.inl (by decide))
  exact ⟨hrecord, clause, hcompile, hiff.2 hbefore⟩

end Condition

end CatalogRules
