import CatalogRules.Ingest.Ingest
import CatalogRules.Proofs.Evaluation.Program
import CatalogRules.Proofs.Store.Contents
import CatalogRules.Proofs.Traversal

/-!
Ingestion into a store in memory. Products that can be mapped are put into the store one
after the other, and each of them is counted once. A product that cannot be mapped ends
the run with its error, and the store keeps the records of the products before it.
-/

namespace CatalogRules.Ingest

open Log (Journal)

/-- Records for products, one for each. -/
def Mapped (products : List Product) (records : List Record) : Prop :=
  List.Forall₂ (fun p r => p.toRecord = .ok r) products records

theorem exists_mapped_or_rejected (products : List Product) :
    (∃ records, Mapped products records) ∨
    ∃ before p after records e,
      products = before ++ p :: after ∧ Mapped before records ∧ p.toRecord = .error e :=
  forall₂_or_firstError Product.toRecord products

theorem Mapped.exists_product {products : List Product} {records : List Record}
    (h : Mapped products records) {r : Record} (hr : r ∈ records) :
    ∃ p ∈ products, p.toRecord = .ok r := by
  induction h with
  | nil => cases hr
  | @cons p r' ps rs hp hrs ih =>
      rcases List.mem_cons.1 hr with rfl | hr
      · exact ⟨p, List.mem_cons_self, hp⟩
      · obtain ⟨q, hq, hqr⟩ := ih hr
        exact ⟨q, List.mem_cons_of_mem _ hq, hqr⟩

/-- The counts after records have been put into a store one after the other. -/
def countAll (s : Store) (counts : Counts) : List Record → Counts
  | [] => counts
  | r :: rs => countAll (s.insert r) (counts.add (s.upsert r).1) rs

/-- One upsert is counted as the store grows. -/
theorem inserted_add_upsert (counts : Counts) (s : Store) (r : Record) :
    (counts.add (s.upsert r).1).inserted + s.size = counts.inserted + (s.insert r).size := by
  rw [Store.size_insert, Store.upsert]
  split <;> simp only [Counts.add] <;> omega

theorem total_add (counts : Counts) (outcome : UpsertOutcome) :
    (counts.add outcome).inserted + (counts.add outcome).updated =
      counts.inserted + counts.updated + 1 := by
  cases outcome <;> (simp only [Counts.add]; omega)

theorem inserted_countAll (rs : List Record) (s : Store) (counts : Counts) :
    (countAll s counts rs).inserted + s.size =
      counts.inserted + (rs.foldl Store.insert s).size := by
  induction rs generalizing s counts with
  | nil => rfl
  | cons r rs ih =>
      have hstep := inserted_add_upsert counts s r
      have hrest := ih (s.insert r) (counts.add (s.upsert r).1)
      rw [countAll, List.foldl_cons]
      omega

theorem total_countAll (rs : List Record) (s : Store) (counts : Counts) :
    (countAll s counts rs).inserted + (countAll s counts rs).updated =
      counts.inserted + counts.updated + rs.length := by
  induction rs generalizing s counts with
  | nil => rfl
  | cons r rs ih =>
      have hstep := total_add counts (s.upsert r).1
      have hrest := ih (s.insert r) (counts.add (s.upsert r).1)
      rw [countAll, List.length_cons]
      omega

/-- The summary of putting records into a store. -/
def summaryOf (s : Store) (records : List Record) : IngestSummary :=
  let counts := countAll s .zero records
  ⟨records.length, counts.inserted + counts.updated, counts.inserted, counts.updated⟩

/-- The ids that are new to the store are inserted, and everything else is an update. -/
theorem summaryOf_eq (s : Store) (records : List Record) :
    let inserted := ((records.map Record.id).toFinset \ s.ids).card
    summaryOf s records =
      ⟨records.length, records.length, inserted, records.length - inserted⟩ := by
  intro inserted
  have hinserted := inserted_countAll records s .zero
  have htotal := total_countAll records s .zero
  have hgrown : (records.foldl Store.insert s).size = s.size + inserted :=
    s.size_foldl_insert records
  simp only [Counts.zero] at hinserted htotal
  simp only [summaryOf, Counts.zero, IngestSummary.mk.injEq, true_and]
  omega

theorem summaryOf_of_present {s : Store} {records : List Record}
    (h : ∀ r ∈ records, (s.get? r.id).isSome = true) :
    summaryOf s records = ⟨records.length, records.length, 0, records.length⟩ := by
  have hnone : (records.map Record.id).toFinset \ s.ids = ∅ := by
    rw [Finset.sdiff_eq_empty_iff_subset]
    intro i hi
    obtain ⟨r, hr, rfl⟩ := List.mem_map.1 (List.mem_toFinset.1 hi)
    exact Store.mem_ids.2 (h r hr)
  rw [summaryOf_eq, hnone, Finset.card_empty, Nat.sub_zero]

variable {products : List Product} {records : List Record}

/-- The products that can be mapped are saved, and the run goes on with the rest. -/
theorem run_saveAll_append (h : Mapped products records) (rest : List Product) (counts : Counts)
    (j : Journal) (s : Store) :
    (saveAll counts (products ++ rest)).run Store.backend j s =
      (saveAll (countAll s counts records) rest).run Store.backend j
        (records.foldl Store.insert s) := by
  induction h generalizing counts s with
  | nil => rfl
  | @cons p r ps rs hp hrs ih =>
      have hstep : (saveAll counts (p :: ps ++ rest)).run Store.backend j s =
          (saveAll (counts.add (s.upsert r).1) (ps ++ rest)).run Store.backend j (s.insert r) := by
        simp only [List.cons_append, saveAll, hp]
        rfl
      rw [hstep, ih]
      rfl

theorem run_ingest_of_mapped (h : Mapped products records) (j : Journal) (s : Store) :
    ∃ j', (ingest products).run Store.backend j s =
      ⟨.ok (.ok (summaryOf s records)), j', records.foldl Store.insert s⟩ := by
  have hsave := run_saveAll_append h [] .zero j s
  rw [List.append_nil, saveAll, Program.run_done] at hsave
  have hreport : ((logComplete (summaryOf s records)).bind fun _ =>
      .done (.ok (summaryOf s records)) : Program (Except IngestError IngestSummary)).Quiet
        (.ok (summaryOf s records)) :=
    ((Program.logs_emit _).andThen _).quiet
  obtain ⟨j', hj'⟩ := hreport Store Store.backend j (records.foldl Store.insert s)
  refine ⟨j', (Program.run_bind_of_run_eq hsave).trans ?_⟩
  rw [← hj', summaryOf, ← h.length_eq]
  rfl

theorem run_ingest_of_rejected (h : Mapped products records) {p : Product} {e : IngestError}
    (hp : p.toRecord = .error e) (after : List Product) (j : Journal) (s : Store) :
    ∃ j', (ingest (products ++ p :: after)).run Store.backend j s =
      ⟨.ok (.error e), j', records.foldl Store.insert s⟩ := by
  have hsave := run_saveAll_append h (p :: after) .zero j s
  have hstop (counts : Counts) : (saveAll counts (p :: after)).Quiet (.error e) := by
    simp only [saveAll, hp]
    exact ((Program.logs_emit _).andThen _).quiet
  obtain ⟨j', hj'⟩ := hstop (countAll s .zero records) Store Store.backend j
    (records.foldl Store.insert s)
  exact ⟨j', Program.run_bind_of_run_eq (hsave.trans hj')⟩

def Sourced (fs : Files) (path : String) (products : List Product) (records : List Record) :
    Prop :=
  ∃ text, fs.read path = .ok text ∧ Product.ofText text = .ok products ∧ Mapped products records

theorem run_ingestFile_of_sourced {fs : Files} {path : String}
    (h : Sourced fs path products records) (j : Journal) (s : Store) :
    ∃ j', (ingestFile fs path).run Store.backend j s =
      ⟨.ok (.ok (summaryOf s records)), j', records.foldl Store.insert s⟩ := by
  obtain ⟨text, hread, htext, hmapped⟩ := h
  simpa only [ingestFile, hread, ingestText, htext] using run_ingest_of_mapped hmapped j s

theorem exists_sourced_or_run_eq_error (fs : Files) (path : String) (j : Journal) (s : Store) :
    (∃ products records, Sourced fs path products records) ∨
    ∃ e j' s', (ingestFile fs path).run Store.backend j s = ⟨.ok (.error e), j', s'⟩ := by
  unfold ingestFile Sourced
  cases hread : fs.read path with
  | error cause => exact .inr ⟨_, j, s, rfl⟩
  | ok text =>
      simp only [ingestText]
      cases htext : Product.ofText text with
      | error fault => exact .inr ⟨_, j, s, rfl⟩
      | ok products =>
          rcases exists_mapped_or_rejected products with
            ⟨records, hmapped⟩ | ⟨before, p, after, records, e, rfl, hmapped, hp⟩
          · exact .inl ⟨products, records, text, rfl, htext, hmapped⟩
          · obtain ⟨j', hrun⟩ := run_ingest_of_rejected hmapped hp after j s
            exact .inr ⟨e, j', _, hrun⟩

end CatalogRules.Ingest
