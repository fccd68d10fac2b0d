import CatalogRules.Proofs.Json.Objects
import CatalogRules.Proofs.Record.RoundTrip

/-!
The ways to spell a record. Its members may stand in any order, with unknown ones among them, or
its fields stand alone in their order; what has the value of the default may be left out. All of
this decodes to the record. An object that lacks the id, has a field twice or a null where none
may be is no record.
-/

namespace CatalogRules.Record

open Json (Draft Flaw ReadsAs ReadsAsMember arrayText decodeText memberText objectText
  readDocument readsAsMember_memberText)
open Json.Decode

variable {r : Record} {s : String}

/-- The text spells the record: it is one of the written forms, or the object of the fields in any
order with unknown members among them, or the array of the first fields, if only such fields are
left out as may be. -/
inductive Spells (r : Record) : String → Prop
  | written {form} (hform : form ∈ Json.forms) : Spells r (form r.toJson)
  | object {texts ms kept extra}
      (htexts : List.Forall₂ (fun text m => ReadsAsMember text.toList m) texts ms)
      (hms : ms.Perm (kept ++ extra)) (hkept : kept.Sublist r.members)
      (hleft : ∀ m ∈ r.members, m ∈ kept ∨ Omissible m)
      (hextra : ∀ m ∈ extra, m.1 ∉ shape.map Field.name ∧ m.2.pass = .ok ()) :
      Spells r (objectText texts)
  | array {texts count}
      (htexts : List.Forall₂ (fun text m => ReadsAs text.toList m.2) texts (r.members.take count))
      (hleft : ∀ m ∈ r.members.drop count, Omissible m) : Spells r (arrayText texts)

theorem decodeText_of_readsAs {d : Draft} (hread : ReadsAs s.toList d) (h : decode d = .ok r) :
    decodeText decode s = .ok r := by
  rw [Json.decodeText_eq_ok_iff, hread.readDocument]
  exact ⟨h, rfl⟩

theorem fields_array (r : Record) (count : ℕ) :
    fields "a record" shape (.array ((r.members.take count).map Prod.snd) none) =
      .ok (r.members.take count) := by
  have hitems := itemsOf_eq_ok (List.forall₂_take count (forall₂_members r)) (shape.drop count)
  rwa [List.take_append_drop] at hitems

theorem Spells.decodeText (h : Spells r s) : Json.decodeText decode s = .ok r := by
  cases h with
  | written hform =>
      exact Json.decodeText_form hform (fun n hn => numbers_toJson_readBack hn) (decode_readsBack r)
  | @object texts ms kept extra htexts hms hkept hleft hextra =>
      obtain ⟨found, hperm, hfields⟩ := exists_fields_object (forall₂_members r) r.nodup_members
        "a record" hkept hextra hms
      exact decodeText_of_readsAs (Json.readsAs_objectText htexts)
        (decode_eq_ok_of_shows hfields (shows_of_perm hperm hkept hleft))
  | @array texts count htexts hleft =>
      have hread := Json.readsAs_arrayText (List.forall₂_map_right_iff.2 htexts)
      refine decodeText_of_readsAs hread (decode_eq_ok_of_shows (fields_array r count) ?_)
      refine shows_of_perm (.refl _) (List.take_sublist count _) fun m hm => ?_
      rw [← List.take_append_drop count r.members, List.mem_append] at hm
      exact hm.imp_right (hleft m)

/-- The members of an object lack the id, have a field twice, or have a null in place of a text,
a list or a boolean. -/
inductive Faulty (ms : List (Option String × Draft)) : Prop
  | withoutId (h : ∀ m ∈ ms, m.1 ≠ some "id")
  | repeated {name before between behind} {d d' : Draft} (hname : name ∈ shape.map Field.name)
      (h : ms = before ++ (some name, d) :: (between ++ (some name, d') :: behind))
  | null {name} (hname : name ∈ ["title", "price", "tags", "on_sale"]) (h : (some name, .null) ∈ ms)

theorem exists_find?_of_mem {name : String} (h : name ∈ shape.map Field.name) :
    ∃ f, shape.find? (fun f => f.name == name) = some f := by
  rw [← Option.isSome_iff_exists, List.find?_isSome]
  obtain ⟨f, hf, rfl⟩ := List.mem_map.1 h
  exact ⟨f, hf, beq_self_eq_true _⟩

theorem Faulty.decode_ne_ok {ms : List (Option String × Draft)} (h : Faulty ms)
    (cut : Option Flaw) : decode (.object ms cut) ≠ .ok r := by
  intro hdecode
  cases hfields : fields "a record" shape (.object ms cut) with
  | error e => simp [decode, hfields, bind, Except.bind] at hdecode
  | ok found =>
      obtain ⟨-, rfl, hadmits, hnodup⟩ := fields_object_eq_ok_iff.1 hfields
      cases h with
      | withoutId h =>
          have hnone : (known shape ms).required "id" unsigned = .error (.missingField "id") := by
            rw [Fields.required, get?_eq_none_of_not_mem fun m hm heq => ?_]
            exact h _ (mem_of_mem_known hm) (congrArg some heq)
          simp [decode, hfields, hnone, bind, Except.bind] at hdecode
      | @repeated name before between behind d d' hname h =>
          obtain ⟨f, hfind⟩ := exists_find?_of_mem hname
          rw [h, known_append, known_cons_of_known hfind, known_append,
            known_cons_of_known hfind, List.map_append, List.map_cons] at hnodup
          exact (List.nodup_cons.1 (List.nodup_append.1 hnodup).2.1).1 (by simp)
      | @null name hname h =>
          have hadmits := hadmits _ h
          simp only [List.mem_cons, List.not_mem_nil, or_false] at hname
          rcases hname with rfl | rfl | rfl | rfl
          · cases (admits_iff_of_known (f := .of "title" text) rfl).1 hadmits
          · cases (admits_iff_of_known (f := .of "price" text) rfl).1 hadmits
          · cases (admits_iff_of_known (f := .of "tags" (list text)) rfl).1 hadmits
          · cases (admits_iff_of_known (f := .of "on_sale" flag) rfl).1 hadmits

/-- Every spelling of a record decodes to this record, and no object decodes that lacks the id, has
a field twice or has a null where none may be. Whatever text has a value may stand at an unknown
name. -/
theorem decode_spellings :
    (∀ (r : Record) (s : String), Spells r s → decodeText decode s = .ok r) ∧
      (∀ (s : String) ms cut, (readDocument s.toList).root = .object ms cut → Faulty ms →
        ∃ e, decodeText decode s = .error e) ∧
      ∀ (depth : ℕ) (text : String) (v : Json), decodeText (Draft.value depth) text = .ok v →
        ∃ d, ReadsAs text.toList d ∧ d.pass = .ok () := by
  refine ⟨fun r s h => h.decodeText, fun s ms cut hroot hfaulty => ?_,
    fun depth text v hvalue => ?_⟩
  · cases hdecode : decodeText decode s with
    | error e => exact ⟨e, rfl⟩
    | ok r =>
        have hok := (Json.decodeText_eq_ok_iff.1 hdecode).1
        rw [hroot] at hok
        exact absurd hok (hfaulty.decode_ne_ok cut)
  · obtain ⟨d, hread, hd⟩ := ReadsAs.of_value hvalue
    exact ⟨d, hread, d.pass_of_value hd⟩

/-- A mug behind an unknown member and without its defaults is the mug, and without the id it is
no record. -/
theorem decode_mug :
    decodeText decode "\x7b\"brand\":[null],\"title\":\"Mug\",\"id\":7\x7d" =
        .ok { id := 7, title := "Mug" } ∧
      ∃ e, decodeText decode "\x7b\"title\":\"Mug\"\x7d" = .error e := by
  have hobject : "\x7b\"brand\":[null],\"title\":\"Mug\",\"id\":7\x7d" =
      objectText [memberText "brand" (.array [.null]), memberText "title" (.string "Mug"),
        memberText "id" (.ofNat 7)] := rfl
  have hseven : ∀ n ∈ (Json.ofNat 7).numbers, n.ReadsBack := by
    simpa [Json.numbers, Json.ofNat] using id_readsBack 7
  have hmug : Spells { id := 7, title := "Mug" } (objectText [memberText "brand" (.array [.null]),
      memberText "title" (.string "Mug"), memberText "id" (.ofNat 7)]) := by
    have hperm (a b c : String × Draft) : [a, b, c].Perm ([c, b] ++ [a]) :=
      List.reverse_perm [c, b, a]
    refine .object
      (.cons (readsAsMember_memberText _ ?_) <| .cons (readsAsMember_memberText _ ?_) <|
        .cons (readsAsMember_memberText _ hseven) .nil)
      (hperm _ _ _) ?_ ?_ ?_
    · simp [Json.numbers, Json.numbersOfItems]
    · simp [Json.numbers]
    · exact List.take_sublist 2 (members { id := 7, title := "Mug" })
    · simp [members, Omissible]
    · simp [shape, Field.of, Draft.ofJson, Draft.ofItems, Draft.pass, Draft.passItems,
        Draft.passCut]
  have hbare : "\x7b\"title\":\"Mug\"\x7d" = (Json.object [("title", .string "Mug")]).compact := rfl
  have hroot : (readDocument (Json.object [("title", .string "Mug")]).compact.toList).root =
      .object [(some "title", .string "Mug")] none := by
    rw [Json.readDocument_compact (by simp [Json.numbers, Json.numbersOfMembers])]
    rfl
  rw [hobject, hbare]
  exact ⟨decode_spellings.1 _ _ hmug, decode_spellings.2.1 _ _ none hroot (.withoutId (by simp))⟩

end CatalogRules.Record
