import CatalogRules.Proofs.Ingest.Run
import Mathlib.Data.List.TakeWhile

/-!
What ingestion does to a store in memory. Only a price with a structure keeps a product
from being mapped, so the products before the first such price are put into the store, and
with it the run ends. Without one the summary tells how the store has grown, and another
run over the same products changes nothing.
-/

namespace CatalogRules

namespace Product

variable {p : Product}

def hasStructuredPrice (p : Product) : Bool :=
  match p.price with
  | .array _ | .object _ => true
  | _ => false

def structuredPriceError (p : Product) : IngestError :=
  .invalidProduct p.id ("price must be text or a number, got " ++ p.price.compact)

theorem toRecord_of_hasStructuredPrice (h : p.hasStructuredPrice = true) :
    p.toRecord = .error p.structuredPriceError := by
  unfold hasStructuredPrice at h
  split at h
  · rename_i items hprice
    simp only [toRecord, priceText, structuredPriceError, hprice]
  · rename_i members hprice
    simp only [toRecord, priceText, structuredPriceError, hprice]
  · cases h

theorem exists_toRecord_eq_ok (h : p.hasStructuredPrice = false) :
    ∃ r, p.toRecord = .ok r := by
  have htext : ∃ text, p.priceText = .ok text := by
    unfold hasStructuredPrice at h
    cases hprice : p.price with
    | array items => simp [hprice] at h
    | object members => simp [hprice] at h
    | _ => exact ⟨_, by rw [priceText, hprice]⟩
  obtain ⟨text, htext⟩ := htext
  exact ⟨_, by rw [toRecord, htext]⟩

end Product

namespace Ingest

open Product (hasStructuredPrice)

variable {products : List Product} {records : List Record}

theorem exists_mapped (h : ∀ p ∈ products, hasStructuredPrice p = false) :
    ∃ records, Mapped products records := by
  induction products with
  | nil => exact ⟨[], .nil⟩
  | cons p ps ih =>
      rw [List.forall_mem_cons] at h
      obtain ⟨r, hr⟩ := Product.exists_toRecord_eq_ok h.1
      obtain ⟨rs, hrs⟩ := ih h.2
      exact ⟨r :: rs, .cons hr hrs⟩

theorem exists_mapped_take (products : List Product) :
    ∃ records, Mapped (products.take (products.findIdx hasStructuredPrice)) records := by
  apply exists_mapped
  intro p hp
  obtain ⟨i, hi, rfl⟩ := List.mem_iff_getElem.1 hp
  rw [List.length_take] at hi
  rw [List.getElem_take]
  simpa using List.not_of_lt_findIdx (lt_of_lt_of_le hi (Nat.min_le_left _ _))

theorem Mapped.map_id (h : Mapped products records) :
    records.map Record.id = products.map Product.id := by
  induction h with
  | nil => rfl
  | cons hr _ ih => rw [List.map_cons, List.map_cons, ih, Product.id_toRecord hr]

def newIds (s : Store) (products : List Product) : Finset UInt64 :=
  (products.map Product.id).toFinset.filter fun i => (s.get? i).isNone

theorem Mapped.newIds_eq (h : Mapped products records) (s : Store) :
    newIds s products = (records.map Record.id).toFinset \ s.ids := by
  ext i
  rw [newIds, h.map_id, Finset.mem_filter, Finset.mem_sdiff, Store.mem_ids,
    Option.isNone_iff_eq_none, Option.not_isSome_iff_eq_none]

theorem card_newIds_le (s : Store) (products : List Product) :
    (newIds s products).card ≤ products.length :=
  calc
    (newIds s products).card ≤ (products.map Product.id).toFinset.card := Finset.card_filter_le _ _
    _ ≤ (products.map Product.id).length := List.toFinset_card_le _
    _ = products.length := List.length_map _

/-- Ingestion puts the records of the products before the first structured price into the
store, the last one for each id, and touches no other record. With such a price the run
fails with the product it belongs to. Without one every product counts, those ids that were
new to the store as inserted, and by these the store grows; the same run again changes
nothing and inserts nothing. -/
theorem ingest_outcome (s : Store) (products : List Product) :
    let k := products.findIdx hasStructuredPrice
    ∃ records s', Mapped (products.take k) records ∧
      (∀ i, s'.get? i = (Store.latest? i records).or (s.get? i)) ∧
      match products[k]? with
      | some p => ∀ j, ∃ j', (ingest products).run Store.backend j s =
          ⟨.ok (.error p.structuredPriceError), j', s'⟩
      | none =>
          let total := products.length
          let inserted := (newIds s products).card
          (∀ j, ∃ j', (ingest products).run Store.backend j s =
            ⟨.ok (.ok ⟨total, total, inserted, total - inserted⟩), j', s'⟩) ∧
          inserted ≤ total ∧ s'.size = s.size + inserted ∧
          ∀ j, ∃ j', (ingest products).run Store.backend j s' =
            ⟨.ok (.ok ⟨total, total, 0, total⟩), j', s'⟩ := by
  intro k
  obtain ⟨records, hmapped⟩ := exists_mapped_take products
  refine ⟨records, records.foldl Store.insert s, hmapped,
    fun i => Store.get?_foldl_insert s records i, ?_⟩
  split
  · rename_i p hp
    obtain ⟨hk, hget⟩ := List.getElem?_eq_some_iff.1 hp
    have hstructured : p.hasStructuredPrice = true := hget ▸ List.findIdx_getElem
    have hproducts : products.take k ++ p :: products.drop (k + 1) = products := by
      rw [← hget, ← List.drop_eq_getElem_cons hk, List.take_append_drop]
    intro j
    have hrun := run_ingest_of_rejected hmapped (Product.toRecord_of_hasStructuredPrice hstructured)
      (products.drop (k + 1)) j s
    rwa [hproducts] at hrun
  · rename_i hnone
    rw [List.getElem?_eq_none_iff] at hnone
    rw [List.take_of_length_le hnone] at hmapped
    have hlength : records.length = products.length := hmapped.length_eq.symm
    have hsummary := summaryOf_eq s records
    rw [← hmapped.newIds_eq, hlength] at hsummary
    have hpresent : ∀ r ∈ records, ((records.foldl Store.insert s).get? r.id).isSome = true :=
      fun r hr => Store.isSome_get?_foldl_insert s hr
    have hagain := summaryOf_of_present hpresent
    rw [hlength] at hagain
    refine ⟨fun j => ?_, card_newIds_le s products, ?_, fun j => ?_⟩
    · have hrun := run_ingest_of_mapped hmapped j s
      rwa [hsummary] at hrun
    · rw [Store.size_foldl_insert, hmapped.newIds_eq]
    · have hrun := run_ingest_of_mapped hmapped j (records.foldl Store.insert s)
      rwa [hagain, Store.foldl_insert_foldl_insert] at hrun

end Ingest

end CatalogRules
