import CatalogRules.Store.Document
import CatalogRules.Proofs.Record.RoundTrip
import CatalogRules.Proofs.Store.Contents
import CatalogRules.Proofs.Store.Files

/-!
Record files that a store has been saved to. The text of a store is read as the list of
its records; no id occurs twice in it, so the list makes the same store again.
-/

namespace CatalogRules.Store

variable {s : Store} {fs fs' : Files} {path : String}

theorem firstRepeated?_eq_none_iff {seen : List UInt64} {rs : List Record} :
    firstRepeated? seen rs = none ↔ (rs.map Record.id).Nodup ∧ ∀ r ∈ rs, r.id ∉ seen := by
  induction rs generalizing seen with
  | nil => simp [firstRepeated?]
  | cons r rs ih =>
      by_cases h : r.id ∈ seen
      · simp [firstRepeated?, h]
      · simp only [firstRepeated?, h, if_false, ih, List.map_cons, List.nodup_cons, List.mem_cons,
          not_or, List.mem_map]
        grind

theorem ofText_toText (s : Store) (path : String) : ofText path s.toText = .ok s := by
  have hrepeated : firstRepeated? [] s.records = none :=
    firstRepeated?_eq_none_iff.2 ⟨s.nodup_ids, fun _ _ => List.not_mem_nil⟩
  simp [ofText, toText, Record.decodeText_pretty, hrepeated, ofRecords_records]

theorem write_of_save (h : s.save fs path = .ok fs') : fs.write path s.toText = .ok fs' := by
  unfold save at h
  split at h
  · cases h
  · rename_i hwrite
    rw [hwrite, ← Except.ok.inj h]

theorem save_of_write (h : fs.write path s.toText = .ok fs') : s.save fs path = .ok fs' := by
  rw [save, h]

theorem load_of_read {text : String} (h : fs.read path = .ok text) :
    load fs path = ofText path text := by
  have hhas : fs.has path = true := by
    unfold Files.read at h
    unfold Files.has
    split at h <;> simp_all [Except.toBool]
  simp [load, hhas, h]

/-- No store is loaded from the file that is always empty. -/
theorem resolve_ne_null_of_load (h : load fs path = .ok s) :
    fs.resolve path ≠ .ok Files.null := by
  intro hnull
  have hread : fs.read path = .ok "" := Files.read_of_find? hnull rfl
  rw [load_of_read hread] at h
  cases h

/-- Nothing is lost by saving a store. Its text is read as the same store, whatever its
records hold. Where the files keep what is written to them, the store is loaded from its
file again, and to save it once more changes nothing. -/
theorem load_save (s : Store) (path : String) :
    ofText path s.toText = .ok s ∧
    ∀ fs fs', s.save fs path = .ok fs' → fs.resolve path ≠ .ok Files.null →
      fs'.read path = .ok s.toText ∧ load fs' path = .ok s ∧ s.save fs' path = .ok fs' := by
  refine ⟨s.ofText_toText path, fun fs fs' hsave hnull => ?_⟩
  have hwrite := write_of_save hsave
  have hread := Files.read_of_write hwrite hnull
  refine ⟨hread, ?_, save_of_write (Files.write_of_write hwrite)⟩
  rw [load_of_read hread, ofText_toText]

/-- A store with the greatest id and the least quantity, and with texts that are hard to
write. -/
def extremes : Store :=
  ofRecords [
    { id := 0xFFFFFFFFFFFFFFFF, title := "\"\\\n\x01", stockStatus := some "",
      stockQuantity := some Int64.minValue, tags := ["", "t"] },
    { id := 0 }]

theorem load_extremes :
    let fs' : Files := ⟨[(["records.json"], .file extremes.toText)]⟩
    extremes.save .empty "records.json" = .ok fs' ∧ load fs' "records.json" = .ok extremes := by
  intro fs'
  -- The name is found for any text, so the text is not computed here.
  have hwrite (text : String) :
      Files.empty.write "records.json" text = .ok ⟨[(["records.json"], .file text)]⟩ := rfl
  have hsave : extremes.save .empty "records.json" = .ok fs' := save_of_write (hwrite _)
  exact ⟨hsave, ((load_save extremes "records.json").2 .empty fs' hsave (by decide +kernel)).2.1⟩

end CatalogRules.Store
