import CatalogRules.Record.Codec
import CatalogRules.Proofs.Json.Decoding
import CatalogRules.Proofs.Json.Reading
import Mathlib.Data.List.Nodup

/-!
Records through their JSON form. Whatever the texts of a record hold and however large
its integers are, the written record decodes to the record, and a written list of records
is read as this list.
-/

namespace CatalogRules.Record

open Json.Decode

theorem quantity_readsBack : (optional signed).ReadsBack quantityJson := by
  intro q
  have hwrite : quantityJson q = q.elim .null fun q => .ofInt q.toInt := by cases q <;> rfl
  rw [hwrite]
  exact optional_readsBack signed_readsBack (by simp [Json.ofInt]) q

def members (r : Record) : Fields :=
  [("id", .ofJson (.ofNat r.id.toNat)),
   ("title", .ofJson (.string r.title)),
   ("price", .ofJson (.string r.price)),
   ("stock_status", .ofJson (.ofText? r.stockStatus)),
   ("stock_quantity", .ofJson (quantityJson r.stockQuantity)),
   ("category", .ofJson (.ofText? r.category)),
   ("tags", .ofJson (.array (r.tags.map .string))),
   ("on_sale", .ofJson (.bool r.onSale)),
   ("created_at", .ofJson (.ofText? r.createdAt))]

variable {r : Record}

theorem ofJson_toJson (r : Record) :
    Json.Draft.ofJson r.toJson = .object (r.members.map fun m => (some m.1, m.2)) none := rfl

theorem nodup_members (r : Record) : (r.members.map Prod.fst).Nodup := by
  simp [members]

theorem forall₂_members (r : Record) :
    List.Forall₂ (fun f m => f.name = m.1 ∧ f.check m.2 = .ok ()) shape r.members :=
  .cons ⟨rfl, check_of_eq_ok (unsigned_readsBack r.id)⟩ <|
  .cons ⟨rfl, check_of_eq_ok (text_readsBack r.title)⟩ <|
  .cons ⟨rfl, check_of_eq_ok (text_readsBack r.price)⟩ <|
  .cons ⟨rfl, check_of_eq_ok (optional_text_readsBack r.stockStatus)⟩ <|
  .cons ⟨rfl, check_of_eq_ok (quantity_readsBack r.stockQuantity)⟩ <|
  .cons ⟨rfl, check_of_eq_ok (optional_text_readsBack r.category)⟩ <|
  .cons ⟨rfl, check_of_eq_ok (list_readsBack text_readsBack r.tags)⟩ <|
  .cons ⟨rfl, check_of_eq_ok (flag_readsBack r.onSale)⟩ <|
  .cons ⟨rfl, check_of_eq_ok (optional_text_readsBack r.createdAt)⟩ .nil

/-- A field that may be left out, since it has the value of the default. -/
def Omissible (m : String × Json.Draft) : Prop := m.1 ≠ "id" ∧ m ∈ members { id := 0 }

/-- The field is found, or it is left out where it may be. -/
def Shows (found : Fields) (m : String × Json.Draft) : Prop :=
  found.get? m.1 = some m.2 ∨ found.get? m.1 = none ∧ Omissible m

theorem Omissible.get? {m : String × Json.Draft} (h : Omissible m) :
    Fields.get? (members { id := 0 }) m.1 = some m.2 :=
  get?_eq_some_of_mem (nodup_members _) h.2

theorem decode_eq_ok_of_shows {d : Json.Draft} {found : Fields}
    (hfields : fields "a record" shape d = .ok found) (h : ∀ m ∈ r.members, Shows found m) :
    decode d = .ok r := by
  simp only [members, List.forall_mem_cons] at h
  obtain ⟨hid, htitle, hprice, hstatus, hquantity, hcategory, htags, honSale, hcreated, -⟩ := h
  have hdefault {name : String} {d d' : Json.Draft} (h : Shows found (name, d))
      (hd' : Fields.get? (members { id := 0 }) name = some d') :
      found.get? name = some d ∨ found.get? name = none ∧ d = d' := by
    refine h.imp_right fun ⟨hnone, homissible⟩ => ⟨hnone, ?_⟩
    exact Option.some.inj (homissible.get?.symm.trans hd')
  have hid := required_eq_ok unsigned_readsBack (hid.resolve_right fun h => h.2.1 rfl)
  have htitle := withDefault_eq_ok "" text_readsBack (hdefault htitle rfl)
  have hprice := withDefault_eq_ok "" text_readsBack (hdefault hprice rfl)
  have hstatus := withDefault_eq_ok none optional_text_readsBack (hdefault hstatus rfl)
  have hquantity := withDefault_eq_ok none quantity_readsBack (hdefault hquantity rfl)
  have hcategory := withDefault_eq_ok none optional_text_readsBack (hdefault hcategory rfl)
  have htags := withDefault_eq_ok [] (list_readsBack text_readsBack) (hdefault htags rfl)
  have honSale := withDefault_eq_ok false flag_readsBack (hdefault honSale rfl)
  have hcreated := withDefault_eq_ok none optional_text_readsBack (hdefault hcreated rfl)
  simp only [decode, hfields, hid, htitle, hprice, hstatus, hquantity, hcategory, htags, honSale,
    hcreated, bind, Except.bind, pure, Except.pure]

/-- Fields in any order show a record if only such are left out as may be. -/
theorem shows_of_perm {found kept : Fields} (hperm : found.Perm kept)
    (hkept : kept.Sublist r.members) (hleft : ∀ m ∈ r.members, m ∈ kept ∨ Omissible m) :
    ∀ m ∈ r.members, Shows found m := by
  intro m hm
  have hnames : (found.map Prod.fst).Nodup :=
    (hperm.map Prod.fst).nodup_iff.2 (r.nodup_members.sublist (hkept.map Prod.fst))
  by_cases hmem : m ∈ kept
  · exact .inl (get?_eq_some_of_mem hnames (hperm.symm.subset hmem))
  · refine .inr ⟨get?_eq_none_of_not_mem fun m' hm' heq => ?_, (hleft m hm).resolve_left hmem⟩
    have hkept' := hperm.subset hm'
    have hsame := List.inj_on_of_nodup_map r.nodup_members (hkept.subset hkept') hm heq
    exact hmem (hsame ▸ hkept')

theorem decode_readsBack : decode.ReadsBack toJson := by
  intro r
  have hms : r.members.Perm (r.members ++ []) := .of_eq (List.append_nil _).symm
  obtain ⟨found, hperm, hfields⟩ := exists_fields_object (forall₂_members r) r.nodup_members
    "a record" (.refl _) (by simp) hms
  rw [ofJson_toJson]
  exact decode_eq_ok_of_shows hfields (shows_of_perm hperm (.refl _) fun m hm => .inl hm)

theorem decodeList_readsBack : decodeList.ReadsBack listToJson :=
  list_readsBack decode_readsBack

theorem id_readsBack (n : UInt64) : (Json.Number.integer n.toNat).ReadsBack := by
  have hlt := n.toNat_lt
  apply Json.readsBack_integer
  · simp only [Json.leastInteger]
    omega
  · simp only [Json.greatestInteger]
    omega

theorem stockQuantity_readsBack (q : Int64) : (Json.Number.integer q.toInt).ReadsBack := by
  have hlow := q.le_toInt
  have hhigh := q.toInt_lt
  apply Json.readsBack_integer
  · simp only [Json.leastInteger]
    omega
  · simp only [Json.greatestInteger]
    omega

theorem numbers_toJson (r : Record) :
    r.toJson.numbers = .integer r.id.toNat :: (quantityJson r.stockQuantity).numbers := by
  have htext : ∀ o, (Json.ofText? o).numbers = [] := by
    rintro (_ | s) <;> rfl
  have htags : Json.numbersOfItems (r.tags.map .string) = [] := by
    simp [Json.numbersOfItems_eq_flatMap, Json.numbers]
  simp [toJson, Json.numbers, Json.numbersOfMembers, htext, htags, Json.ofNat]

theorem numbers_toJson_readBack {r : Record} {n : Json.Number} (h : n ∈ r.toJson.numbers) :
    n.ReadsBack := by
  rw [numbers_toJson, List.mem_cons] at h
  rcases h with rfl | h
  · exact id_readsBack r.id
  · cases hq : r.stockQuantity with
    | none => simp [hq, quantityJson, Json.numbers] at h
    | some q =>
        obtain rfl : n = .integer q.toInt := by
          simpa [hq, quantityJson, Json.numbers, Json.ofInt] using h
        exact stockQuantity_readsBack q

theorem numbers_listToJson_readBack {rs : List Record} {n : Json.Number}
    (h : n ∈ (listToJson rs).numbers) : n.ReadsBack := by
  simp only [listToJson, Json.numbers, Json.numbersOfItems_eq_flatMap, List.flatMap_map,
    List.mem_flatMap] at h
  obtain ⟨r, -, hn⟩ := h
  exact numbers_toJson_readBack hn

theorem decodeText_pretty (rs : List Record) :
    Json.decodeText decodeList (listToJson rs).pretty = .ok rs :=
  Json.decodeText_pretty (fun _ hn => numbers_listToJson_readBack hn) (decodeList_readsBack rs)

end CatalogRules.Record
