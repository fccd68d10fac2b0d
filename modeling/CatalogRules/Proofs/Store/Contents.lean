import CatalogRules.Store.Basic
import Mathlib.Data.Finset.Card
import Mathlib.Data.List.Sort

/-!
What a store holds. A store is told by its lookups: under an id stands the record
with this id, or nothing. A record that is put into the store is found under its id,
and every other lookup stays as it was. So a store made of a list of records holds,
for each id, the last record of the list with this id.
-/

namespace CatalogRules.Store

variable {s t : Store} {r : Record} {i : UInt64}

theorem id_of_get? (h : s.get? i = some r) : r.id = i := by
  have hid := List.find?_some h
  simpa using hid

theorem get?_of_mem (h : r ∈ s.records) : s.get? r.id = some r := by
  obtain ⟨records, ascending⟩ := s
  simp only [get?]
  induction records with
  | nil => cases h
  | cons x xs ih =>
      obtain ⟨hx, hxs⟩ := List.pairwise_cons.1 ascending
      rcases List.mem_cons.1 h with rfl | h
      · simp
      · have hne : x.id ≠ r.id := UInt64.ne_of_lt (hx r h)
        rw [List.find?_cons_of_neg (by simpa using hne)]
        exact ih hxs h

theorem mem_records_iff : r ∈ s.records ↔ s.get? r.id = some r :=
  ⟨get?_of_mem, List.mem_of_find?_eq_some⟩

theorem nodup_ids (s : Store) : (s.records.map Record.id).Nodup := by
  rw [List.nodup_iff_pairwise_ne, List.pairwise_map]
  exact s.ascending.imp UInt64.ne_of_lt

theorem eq_of_get?_eq (h : ∀ i, s.get? i = t.get? i) : s = t := by
  have hmem (r : Record) : r ∈ s.records ↔ r ∈ t.records := by
    rw [mem_records_iff, mem_records_iff, h]
  have hirrefl : Std.Irrefl fun a b : Record => a.id < b.id := ⟨fun a => UInt64.lt_irrefl a.id⟩
  have hantisymm : Std.Antisymm fun a b : Record => a.id < b.id :=
    ⟨fun _ _ hab hba => absurd hba (UInt64.lt_asymm hab)⟩
  have hrecords := s.ascending.eq_of_mem_iff t.ascending hmem
  cases s
  cases t
  simpa using hrecords

theorem find?_place (r : Record) (rs : List Record) (i : UInt64) :
    (place r rs).find? (fun x => x.id == i) =
      if r.id = i then some r else rs.find? fun x => x.id == i := by
  induction rs with
  | nil =>
      by_cases h : r.id = i <;> simp [place, h]
  | cons x xs ih =>
      simp only [place]
      split
      · by_cases h : r.id = i <;> simp [h]
      · split
        · rename_i hlt
          have hne : x.id ≠ r.id := UInt64.ne_of_lt hlt
          by_cases h : x.id = i
          · subst h
            simp [hne.symm]
          · rw [List.find?_cons_of_neg (by simpa using h), ih,
              List.find?_cons_of_neg (by simpa using h)]
        · -- The record replaces the one with its id.
          rename_i hnot hnot'
          have heq : r.id = x.id :=
            UInt64.le_antisymm (UInt64.not_lt.1 hnot') (UInt64.not_lt.1 hnot)
          by_cases h : x.id = i <;> simp [heq, h]

@[simp] theorem get?_empty (i : UInt64) : empty.get? i = none := rfl

theorem get?_insert (s : Store) (r : Record) (i : UInt64) :
    (s.insert r).get? i = if r.id = i then some r else s.get? i :=
  find?_place r s.records i

/-- The last record with the id in a list. -/
def latest? (id : UInt64) (rs : List Record) : Option Record :=
  rs.reverse.find? fun r => r.id == id

theorem latest?_append (i : UInt64) (rs rs' : List Record) :
    latest? i (rs ++ rs') = (latest? i rs').or (latest? i rs) := by
  rw [latest?, List.reverse_append, List.find?_append]
  rfl

theorem latest?_singleton (i : UInt64) (r : Record) :
    latest? i [r] = if r.id = i then some r else none := by
  by_cases h : r.id = i <;> simp [latest?, h]

theorem isSome_latest?_iff {rs : List Record} :
    (latest? i rs).isSome = true ↔ i ∈ rs.map Record.id := by
  simp [latest?]

/-- Of several records with one id the last one counts. -/
theorem get?_foldl_insert (s : Store) (rs : List Record) (i : UInt64) :
    (rs.foldl insert s).get? i = (latest? i rs).or (s.get? i) := by
  induction rs generalizing s with
  | nil => rfl
  | cons r rs ih =>
      have hcons : latest? i (r :: rs) = (latest? i rs).or (latest? i [r]) :=
        latest?_append i [r] rs
      rw [List.foldl_cons, ih, get?_insert, hcons, latest?_singleton]
      cases latest? i rs with
      | some x => rfl
      | none => split <;> rfl

theorem isSome_get?_foldl_insert (s : Store) {rs : List Record} (h : r ∈ rs) :
    ((rs.foldl insert s).get? r.id).isSome = true := by
  have hlatest : (latest? r.id rs).isSome = true := isSome_latest?_iff.2 (List.mem_map_of_mem h)
  rw [get?_foldl_insert, Option.isSome_or, hlatest, Bool.true_or]

/-- Records that are put into a store twice leave it as they do at once. -/
theorem foldl_insert_foldl_insert (s : Store) (rs : List Record) :
    rs.foldl insert (rs.foldl insert s) = rs.foldl insert s := by
  refine eq_of_get?_eq fun i => ?_
  rw [get?_foldl_insert, get?_foldl_insert]
  cases latest? i rs <;> rfl

theorem get?_ofRecords (rs : List Record) (i : UInt64) :
    (ofRecords rs).get? i = latest? i rs := by
  rw [ofRecords, get?_foldl_insert, get?_empty, Option.or_none]

theorem ofRecords_append (rs rs' : List Record) :
    ofRecords (rs ++ rs') = rs'.foldl insert (ofRecords rs) := by
  simp only [ofRecords, List.foldl_append]

theorem ofRecords_records (s : Store) : ofRecords s.records = s := by
  refine eq_of_get?_eq fun i => ?_
  rw [get?_ofRecords]
  cases h : s.get? i with
  | none =>
      rw [← Option.not_isSome_iff_eq_none, isSome_latest?_iff]
      simpa [get?] using h
  | some r =>
      have hr : r ∈ s.records := List.mem_of_find?_eq_some h
      have hsome : (latest? i s.records).isSome = true :=
        isSome_latest?_iff.2 (List.mem_map.2 ⟨r, hr, id_of_get? h⟩)
      obtain ⟨x, hx⟩ := Option.isSome_iff_exists.1 hsome
      have hmem : x ∈ s.records := by simpa using List.mem_of_find?_eq_some hx
      have hid : x.id = i := by simpa using List.find?_some hx
      rw [hx, ← h, ← hid, get?_of_mem hmem]

def ids (s : Store) : Finset UInt64 := (s.records.map Record.id).toFinset

theorem mem_ids : i ∈ s.ids ↔ (s.get? i).isSome = true := by simp [ids, get?]

theorem card_ids (s : Store) : s.ids.card = s.size := by
  rw [ids, List.toFinset_card_of_nodup s.nodup_ids, List.length_map, size]

theorem ids_foldl_insert (s : Store) (rs : List Record) :
    (rs.foldl insert s).ids = (rs.map Record.id).toFinset ∪ s.ids := by
  ext i
  rw [mem_ids, get?_foldl_insert, Option.isSome_or, Bool.or_eq_true, isSome_latest?_iff,
    Finset.mem_union, List.mem_toFinset, mem_ids]

/-- The store grows by the ids that are new to it. -/
theorem size_foldl_insert (s : Store) (rs : List Record) :
    (rs.foldl insert s).size = s.size + ((rs.map Record.id).toFinset \ s.ids).card := by
  rw [← card_ids, ← card_ids, ids_foldl_insert, ← Finset.card_sdiff_add_card, Nat.add_comm]

theorem size_insert (s : Store) (r : Record) :
    (s.insert r).size = s.size + if (s.get? r.id).isSome then 0 else 1 := by
  have hsize : (s.insert r).size = s.size + ({r.id} \ s.ids).card := s.size_foldl_insert [r]
  rw [hsize]
  split
  · rename_i hpresent
    have hmem : {r.id} ⊆ s.ids := Finset.singleton_subset_iff.2 (mem_ids.2 hpresent)
    rw [Finset.sdiff_eq_empty_iff_subset.2 hmem, Finset.card_empty]
  · rename_i habsent
    have hnew : r.id ∉ s.ids := fun hmem => habsent (mem_ids.1 hmem)
    rw [Finset.sdiff_eq_self_of_disjoint (Finset.disjoint_singleton_left.2 hnew),
      Finset.card_singleton]

theorem size_ofRecords (rs : List Record) :
    (ofRecords rs).size = (rs.map Record.id).toFinset.card := by
  have hids : empty.ids = ∅ := rfl
  have hsize : empty.size = 0 := rfl
  rw [ofRecords, size_foldl_insert, hids, hsize, Finset.sdiff_empty, Nat.zero_add]

end CatalogRules.Store
