import CatalogRules.Proofs.Store.Document

/-!
Record files as they are loaded. A list of records goes into an empty store one record after
the other, and the first one that would replace another ends the loading with its id. So a list
without repeated ids makes the store that its records make in any order, and any other list
makes none.
-/

namespace CatalogRules.Store

variable {s : Store} {r : Record} {rs : List Record} {i : UInt64}

/-- Puts records into a store up to the first one that would replace another, whose id is
reported. -/
def addAll (s : Store) : List Record → Except UInt64 Store
  | [] => .ok s
  | r :: rs =>
    match s.upsert r with
    | (.inserted, s') => s'.addAll rs
    | (.updated, _) => .error r.id

theorem addAll_cons (s : Store) (r : Record) (rs : List Record) :
    s.addAll (r :: rs) = if r.id ∈ s.ids then .error r.id else (s.insert r).addAll rs := by
  rw [addAll, upsert]
  by_cases h : r.id ∈ s.ids
  · rw [if_pos h, if_pos (mem_ids.1 h)]
  · rw [if_neg h, if_neg fun hpresent => h (mem_ids.2 hpresent)]

theorem mem_ids_insert : i ∈ (s.insert r).ids ↔ r.id = i ∨ i ∈ s.ids := by
  rw [mem_ids, mem_ids, get?_insert]
  split <;> simp_all

theorem not_mem_ids_empty (i : UInt64) : i ∉ empty.ids := Finset.notMem_empty i

theorem addAll_append (hnodup : (rs.map Record.id).Nodup) (hnew : ∀ r ∈ rs, r.id ∉ s.ids)
    (more : List Record) : s.addAll (rs ++ more) = (rs.foldl insert s).addAll more := by
  induction rs generalizing s with
  | nil => rfl
  | cons r rs ih =>
      obtain ⟨hr, hrs⟩ := List.nodup_cons.1 hnodup
      obtain ⟨hrnew, hrsnew⟩ := List.forall_mem_cons.1 hnew
      rw [List.cons_append, addAll_cons, if_neg hrnew, List.foldl_cons]
      refine ih hrs fun x hx hmem => ?_
      rcases mem_ids_insert.1 hmem with heq | hmem
      · exact hr (List.mem_map.2 ⟨x, hx, heq.symm⟩)
      · exact hrsnew x hx hmem

/-- The id of the first record with an id that a record before it has. -/
def IsFirstRepeated (rs : List Record) (i : UInt64) : Prop :=
  ∃ front r back, rs = front ++ r :: back ∧ (front.map Record.id).Nodup ∧
    r.id ∈ front.map Record.id ∧ r.id = i

theorem nodup_or_exists_isFirstRepeated (rs : List Record) :
    (rs.map Record.id).Nodup ∨ ∃ i, IsFirstRepeated rs i := by
  induction rs using List.reverseRecOn with
  | nil => exact .inl .nil
  | append_singleton rs r ih =>
      rcases ih with hnodup | ⟨i, front, x, back, rfl, hfront, hx, hi⟩
      · by_cases hr : r.id ∈ rs.map Record.id
        · exact .inr ⟨r.id, rs, r, [], rfl, hnodup, hr, rfl⟩
        · left
          rw [List.map_append, List.map_singleton, ← List.concat_eq_append]
          exact hnodup.concat hr
      · exact .inr ⟨i, front, x, back ++ [r], by simp, hfront, hx, hi⟩

theorem addAll_of_nodup (h : (rs.map Record.id).Nodup) : empty.addAll rs = .ok (ofRecords rs) := by
  have hadd := addAll_append h (fun r _ => not_mem_ids_empty r.id) []
  rwa [List.append_nil] at hadd

theorem addAll_of_isFirstRepeated (h : IsFirstRepeated rs i) : empty.addAll rs = .error i := by
  obtain ⟨front, r, back, rfl, hfront, hr, rfl⟩ := h
  have hmem : r.id ∈ (front.foldl insert empty).ids := by
    rw [ids_foldl_insert, Finset.mem_union, List.mem_toFinset]
    exact .inl hr
  rw [addAll_append hfront fun x _ => not_mem_ids_empty x.id, addAll_cons, if_pos hmem]

theorem addAll_eq_error_iff : empty.addAll rs = .error i ↔ IsFirstRepeated rs i := by
  refine ⟨fun h => ?_, addAll_of_isFirstRepeated⟩
  rcases nodup_or_exists_isFirstRepeated rs with hnodup | ⟨j, hj⟩
  · cases (addAll_of_nodup hnodup).symm.trans h
  · cases (addAll_of_isFirstRepeated hj).symm.trans h
    exact hj

theorem exists_addAll_eq_ok_iff : (∃ s, empty.addAll rs = .ok s) ↔ (rs.map Record.id).Nodup := by
  refine ⟨fun ⟨s, hs⟩ => ?_, fun h => ⟨_, addAll_of_nodup h⟩⟩
  rcases nodup_or_exists_isFirstRepeated rs with hnodup | ⟨i, hi⟩
  · exact hnodup
  · cases (addAll_of_isFirstRepeated hi).symm.trans hs

theorem insert_insert_comm {x y : Record} (h : x.id ≠ y.id) (s : Store) :
    (s.insert x).insert y = (s.insert y).insert x := by
  refine eq_of_get?_eq fun i => ?_
  simp only [get?_insert]
  split
  · rename_i hy
    rw [if_neg fun hx => h (hx.trans hy.symm)]
  · rfl

theorem ofRecords_perm {order : List Record} (hperm : order.Perm rs)
    (hnodup : (rs.map Record.id).Nodup) : ofRecords order = ofRecords rs := by
  refine hperm.foldl_eq' (fun x hx y hy s => ?_) empty
  by_cases h : x.id = y.id
  · rw [List.inj_on_of_nodup_map hnodup (hperm.mem_iff.1 hx) (hperm.mem_iff.1 hy) h]
  · exact insert_insert_comm h s

/-- What is checked of the list is what putting its records into the store comes upon. -/
theorem addAll_eq_firstRepeated? {seen : List UInt64} (hseen : ∀ i, i ∈ seen ↔ i ∈ s.ids)
    (rs : List Record) :
    s.addAll rs =
      match firstRepeated? seen rs with
      | some i => .error i
      | none => .ok (rs.foldl insert s) := by
  induction rs generalizing s seen with
  | nil => rfl
  | cons r rs ih =>
      have hnext (i : UInt64) : i ∈ r.id :: seen ↔ i ∈ (s.insert r).ids := by
        rw [mem_ids_insert, List.mem_cons, hseen, eq_comm]
      rw [addAll_cons, firstRepeated?]
      by_cases h : r.id ∈ s.ids
      · rw [if_pos h, if_pos ((hseen r.id).2 h)]
      · rw [if_neg h, if_neg fun hmem => h ((hseen r.id).1 hmem), List.foldl_cons]
        exact ih hnext

theorem ofText_of_decodeText {path text : String}
    (h : Json.decodeText Record.decodeList text = .ok rs) :
    ofText path text = (empty.addAll rs).mapError (.duplicateId · path) := by
  have hseen (i : UInt64) : i ∈ [] ↔ i ∈ empty.ids := by simp [not_mem_ids_empty]
  rw [addAll_eq_firstRepeated? hseen, ofText, h]
  dsimp only
  cases firstRepeated? [] rs <;> rfl

theorem load_of_not_has {fs : Files} {path : String} (h : fs.has path = false) :
    load fs path = .ok empty := by
  rw [load, h]
  rfl

/-- A record file is refused exactly when an id occurs in it again. A file that is not there
makes an empty store, and a text that is no list of records makes none. A list of records goes
into the store one record after the other; when all ids are different, it makes the store that
upserting its records makes in any order, and otherwise the first id that has occurred before
is named. -/
theorem load_refuses_repeated_ids (fs : Files) (path : String) :
    (fs.has path = false → load fs path = .ok empty) ∧
    ∀ text, fs.read path = .ok text →
      (∀ fault, Json.decodeText Record.decodeList text = .error fault →
        load fs path = .error (.json path fault)) ∧
      ∀ records, Json.decodeText Record.decodeList text = .ok records →
        load fs path = (empty.addAll records).mapError (.duplicateId · path) ∧
        ((∃ s, load fs path = .ok s) ↔ (records.map Record.id).Nodup) ∧
        ((records.map Record.id).Nodup → load fs path = .ok (ofRecords records) ∧
          ∀ order : List Record, order.Perm records →
            order.foldl (fun s r => (s.upsert r).2) empty = ofRecords records) ∧
        (¬(records.map Record.id).Nodup →
          ∃ i, IsFirstRepeated records i ∧ load fs path = .error (.duplicateId i path)) ∧
        ∀ i, load fs path = .error (.duplicateId i path) ↔ IsFirstRepeated records i := by
  refine ⟨load_of_not_has, fun text hread => ⟨fun fault hfault => ?_, fun records hrecords => ?_⟩⟩
  · rw [load_of_read hread, ofText, hfault]
  have hload := (load_of_read hread).trans (ofText_of_decodeText hrecords)
  have hok (s : Store) : load fs path = .ok s ↔ empty.addAll records = .ok s := by
    rw [hload]
    cases empty.addAll records <;> simp [Except.mapError]
  have herror (i : UInt64) :
      load fs path = .error (.duplicateId i path) ↔ empty.addAll records = .error i := by
    rw [hload]
    cases empty.addAll records <;> simp [Except.mapError]
  refine ⟨hload, ?_, fun hnodup => ⟨?_, fun order hperm => ofRecords_perm hperm hnodup⟩,
    fun hrepeated => ?_, fun i => (herror i).trans addAll_eq_error_iff⟩
  · simp only [hok, exists_addAll_eq_ok_iff]
  · rw [hok, addAll_of_nodup hnodup]
  · obtain ⟨i, hi⟩ := (nodup_or_exists_isFirstRepeated records).resolve_left hrepeated
    exact ⟨i, hi, (herror i).2 (addAll_of_isFirstRepeated hi)⟩

/-- Two ids occur again in the text, the second one first. -/
def repeatedText : String :=
  "[\x7b\"id\":1\x7d,\x7b\"id\":2\x7d,\x7b\"id\":2\x7d,\x7b\"id\":1\x7d]"

/-- The id that is repeated first is named, wherever its first record stands. -/
theorem load_repeatedText :
    let records : List Record := [{ id := 1 }, { id := 2 }, { id := 2 }, { id := 1 }]
    let fs : Files := ⟨[(["records.json"], .file repeatedText)]⟩
    fs.read "records.json" = .ok repeatedText ∧
      Json.decodeText Record.decodeList repeatedText = .ok records ∧
      ¬(records.map Record.id).Nodup ∧
      load fs "records.json" = .error (.duplicateId 2 "records.json") := by
  intro records fs
  have hread : fs.read "records.json" = .ok repeatedText := by decide +kernel
  have hrecords : Json.decodeText Record.decodeList repeatedText = .ok records := by
    decide +kernel
  have hrepeated : IsFirstRepeated records 2 :=
    ⟨[{ id := 1 }, { id := 2 }], { id := 2 }, [{ id := 1 }], rfl, by decide, by decide, rfl⟩
  have hload := ((load_refuses_repeated_ids fs "records.json").2 _ hread).2 records hrecords
  exact ⟨hread, hrecords, by decide, (hload.2.2.2.2 2).2 hrepeated⟩

end CatalogRules.Store
