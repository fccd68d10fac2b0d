import CatalogRules.Proofs.Json.Decoding
import CatalogRules.Proofs.Json.Prefix

/-!
Texts of arrays. A text that has a value has been read to its end, so several such texts between
brackets, with a comma between every two of them, are read one after the other: together they are
the text of an array of their drafts.
-/

namespace CatalogRules.Json

namespace Draft

variable {depth : ℕ} {v : Json} {cut : Option Flaw}

theorem not_flawed_of_value {d : Draft} (h : d.value depth = .ok v) (flaw : Flaw) :
    d ≠ .flawed flaw := by
  rintro rfl
  simp [value] at h

theorem value_array_eq_ok {ds : List Draft} (h : (array ds cut).value depth = .ok v) :
    cut = none ∧ ∃ depth' vs, depth = depth' + 1 ∧ valueItems depth' ds = .ok vs := by
  cases depth with
  | zero => simp [value] at h
  | succ depth =>
      cases hds : valueItems depth ds <;> cases cut <;>
        simp_all [value, checkCut, bind, Except.bind]

theorem value_object_eq_ok {ms : List (Option String × Draft)}
    (h : (object ms cut).value depth = .ok v) :
    cut = none ∧ ∃ depth' vs, depth = depth' + 1 ∧ valueMembers depth' ms = .ok vs := by
  cases depth with
  | zero => simp [value] at h
  | succ depth =>
      cases hms : valueMembers depth ms <;> cases cut <;>
        simp_all [value, checkCut, bind, Except.bind]

theorem valueItems_eq_items (depth : ℕ) (ds : List Draft) :
    valueItems depth ds = Decode.items (value depth) ds := by
  induction ds with
  | nil => rfl
  | cons d ds ih => simp only [valueItems, Decode.items, ih]

theorem valueItems_eq_ok_iff {ds : List Draft} {vs : List Json} :
    valueItems depth ds = .ok vs ↔ List.Forall₂ (fun d v => d.value depth = .ok v) ds vs := by
  rw [valueItems_eq_items, Decode.items_eq_ok_iff]

theorem valueMembers_cons_eq_ok {name : Option String} {d : Draft}
    {ms : List (Option String × Draft)} {vs : List (String × Json)}
    (h : valueMembers depth ((name, d) :: ms) = .ok vs) :
    (∃ v, d.value depth = .ok v) ∧ ∃ vs, valueMembers depth ms = .ok vs := by
  cases name with
  | none => simp [valueMembers] at h
  | some name =>
      cases hd : d.value depth <;> cases hms : valueMembers depth ms <;>
        simp_all [valueMembers, bind, Except.bind]

end Draft

theorem readString_of_stopped {s : Spelling} {cs : List Char} {result : Except Flaw String}
    (h : readString s cs = (result, none)) : ∃ flaw, result = .error flaw := by
  have hstop (s : Spelling) (d : Defect) : ∃ flaw, s.stop d = .error flaw := by
    cases s <;> exact ⟨_, rfl⟩
  fun_induction readString s cs
  case case2 => cases h
  case case3 ih | case6 ih | case10 ih => exact ih h
  all_goals exact (Prod.mk.inj h).1 ▸ hstop _ _

theorem readWord_of_stopped {draft d : Draft} {word cs : List Char}
    (h : readWord draft word cs = (d, none)) : ∃ flaw, d = .flawed flaw := by
  fun_induction readWord draft word cs
  case case1 => cases h
  case case3 ih => exact ih h
  all_goals exact ⟨_, (Prod.mk.inj h).1.symm⟩

theorem readNumber_of_stopped {negative : Bool} {d : Draft} {cs : List Char}
    (h : readNumber negative cs = (d, none)) : ∃ flaw, d = .flawed flaw := by
  unfold readNumber at h
  dsimp only at h
  split at h
  · cases h
  · exact ⟨_, (Prod.mk.inj h).1.symm⟩

/-- What is not read to its end with the given fuel has no value. -/
structure Completes (fuel : ℕ) : Prop where
  value {depth : ℕ} {cs : List Char} {d : Draft} {v : Json}
    (h : readValue fuel cs = (d, none)) : d.value depth ≠ .ok v
  items {depth : ℕ} {cs : List Char} {ds : List Draft} {vs : List Json}
    (h : readItems fuel cs = ((ds, none), none)) : Draft.valueItems depth ds ≠ .ok vs
  members {depth : ℕ} {cs : List Char} {ms : List (Option String × Draft)}
    {vs : List (String × Json)} (h : readMembers fuel cs = ((ms, none), none)) :
    Draft.valueMembers depth ms ≠ .ok vs

namespace Completes

variable {fuel depth : ℕ} {cs : List Char}

theorem value_succ (ih : Completes fuel) {d : Draft} {v : Json}
    (h : readValue (fuel + 1) cs = (d, none)) : d.value depth ≠ .ok v := by
  intro hv
  have hflawed := Draft.not_flawed_of_value hv
  rw [readValue] at h
  -- One case for each way in which a value can start.
  split at h
  · exact hflawed _ (Prod.mk.inj h).1.symm
  · rename_i cs' _
    rcases hstring : readString (.text []) cs' with ⟨s, after⟩
    simp only [hstring, Prod.mk.injEq] at h
    obtain ⟨rfl, rfl⟩ := h
    obtain ⟨flaw, rfl⟩ := readString_of_stopped hstring
    exact hflawed flaw rfl
  · rename_i cs' _
    split at h
    · obtain ⟨rfl, -⟩ := Prod.mk.inj h
      cases (Draft.value_array_eq_ok hv).1
    · cases h
    · rcases hitems : readItems fuel (skipSpaces cs') with ⟨⟨ds, cut⟩, after⟩
      simp only [hitems, Prod.mk.injEq] at h
      obtain ⟨rfl, rfl⟩ := h
      obtain ⟨rfl, depth', vs, rfl, hvs⟩ := Draft.value_array_eq_ok hv
      exact ih.items hitems hvs
  · rename_i cs' _
    split at h
    · obtain ⟨rfl, -⟩ := Prod.mk.inj h
      cases (Draft.value_object_eq_ok hv).1
    · cases h
    · rcases hmembers : readMembers fuel (skipSpaces cs') with ⟨⟨ms, cut⟩, after⟩
      simp only [hmembers, Prod.mk.injEq] at h
      obtain ⟨rfl, rfl⟩ := h
      obtain ⟨rfl, depth', vs, rfl, hvs⟩ := Draft.value_object_eq_ok hv
      exact ih.members hmembers hvs
  · obtain ⟨flaw, rfl⟩ := readNumber_of_stopped h
    exact hflawed flaw rfl
  iterate 3
    · obtain ⟨flaw, rfl⟩ := readWord_of_stopped h
      exact hflawed flaw rfl
  · split at h
    · obtain ⟨flaw, rfl⟩ := readNumber_of_stopped h
      exact hflawed flaw rfl
    · exact hflawed _ (Prod.mk.inj h).1.symm

theorem items_succ (ih : Completes fuel) {ds : List Draft} {vs : List Json}
    (h : readItems (fuel + 1) cs = ((ds, none), none)) : Draft.valueItems depth ds ≠ .ok vs := by
  intro hvs
  rw [Draft.valueItems_eq_ok_iff] at hvs
  rw [readItems] at h
  rcases hvalue : readValue fuel cs with ⟨item, _ | rest⟩
  · obtain ⟨⟨rfl, -⟩, -⟩ := by simpa [hvalue] using h
    obtain ⟨v, _, hv, -, -⟩ := List.forall₂_cons_left_iff.1 hvs
    exact ih.value hvalue hv
  simp only [hvalue] at h
  split at h
  · cases h
  · rename_i cs' _
    rcases hitems : readItems fuel cs' with ⟨⟨items, cut⟩, after⟩
    simp only [hitems, Prod.mk.injEq] at h
    obtain ⟨⟨rfl, rfl⟩, rfl⟩ := h
    obtain ⟨_, _, -, hvs', -⟩ := List.forall₂_cons_left_iff.1 hvs
    exact ih.items hitems (Draft.valueItems_eq_ok_iff.2 hvs')
  · cases h
  · cases h

theorem members_succ (ih : Completes fuel) {ms : List (Option String × Draft)}
    {vs : List (String × Json)} (h : readMembers (fuel + 1) cs = ((ms, none), none)) :
    Draft.valueMembers depth ms ≠ .ok vs := by
  intro hvs
  have hfirst {name : Option String} {flaw : Flaw} {ms' : List (Option String × Draft)} :
      ms ≠ (name, .flawed flaw) :: ms' := by
    rintro rfl
    obtain ⟨⟨v, hv⟩, -⟩ := Draft.valueMembers_cons_eq_ok hvs
    exact Draft.not_flawed_of_value hv flaw rfl
  rw [readMembers] at h
  split at h
  · cases h
  · rename_i cs' _
    rcases hname : readString (.text []) cs' with ⟨name, _ | colon⟩
    · simp [hname] at h
    simp only [hname] at h
    split at h
    · exact hfirst (Prod.mk.inj (Prod.mk.inj h).1).1.symm
    · rename_i after _
      rcases hvalue : readValue fuel after with ⟨value, _ | behind⟩
      · obtain ⟨⟨rfl, -⟩, -⟩ := by simpa [hvalue] using h
        obtain ⟨⟨v, hv⟩, -⟩ := Draft.valueMembers_cons_eq_ok hvs
        exact ih.value hvalue hv
      simp only [hvalue] at h
      split at h
      · cases h
      · rename_i cs'' _
        rcases hmembers : readMembers fuel cs'' with ⟨⟨members, cut⟩, last⟩
        simp only [hmembers, Prod.mk.injEq] at h
        obtain ⟨⟨rfl, rfl⟩, rfl⟩ := h
        obtain ⟨-, vs', hvs'⟩ := Draft.valueMembers_cons_eq_ok hvs
        exact ih.members hmembers hvs'
      · cases h
      · cases h
    · exact hfirst (Prod.mk.inj (Prod.mk.inj h).1).1.symm
  · cases h

end Completes

theorem completes (fuel : ℕ) : Completes fuel := by
  induction fuel with
  | zero =>
      refine ⟨fun h hv => ?_, fun h => ?_, fun h => ?_⟩
      · exact Draft.not_flawed_of_value hv _ (Prod.mk.inj h).1.symm
      · cases h
      · cases h
  | succ fuel ih => exact ⟨ih.value_succ, ih.items_succ, ih.members_succ⟩

/-- The text is read to its end as the draft, with nothing but spaces behind it. -/
def ReadsAs (cs : List Char) (d : Draft) : Prop :=
  ∃ rest, readValue (2 * cs.length + 2) cs = (d, some rest) ∧ skipSpaces rest = []

theorem decodeText_eq_ok_iff {α : Type} {decode : Decoder α} {s : String} {a : α} :
    decodeText decode s = .ok a ↔
      decode (readDocument s.toList).root = .ok a ∧ (readDocument s.toList).hasMore = false := by
  cases h : decode (readDocument s.toList).root with
  | error e => simp [decodeText, h, bind, Except.bind]
  | ok b =>
      cases hmore : (readDocument s.toList).hasMore <;>
        simp [decodeText, h, hmore, bind, Except.bind]

namespace ReadsAs

variable {cs more : List Char} {d : Draft} {fuel : ℕ}

theorem readDocument (h : ReadsAs cs d) : readDocument cs = ⟨d, false⟩ := by
  obtain ⟨rest, hread, hrest⟩ := h
  simp [Json.readDocument, hread, hrest]

theorem of_value {depth : ℕ} {v : Json} {s : String}
    (h : decodeText (Draft.value depth) s = .ok v) :
    ∃ d, ReadsAs s.toList d ∧ d.value depth = .ok v := by
  obtain ⟨hvalue, hmore⟩ := decodeText_eq_ok_iff.1 h
  unfold Json.readDocument at hvalue hmore
  rcases hread : readValue (2 * s.toList.length + 2) s.toList with ⟨d, _ | rest⟩
  · rw [hread] at hvalue
    exact absurd hvalue ((completes _).value hread)
  · rw [hread] at hvalue hmore
    exact ⟨d, ⟨rest, hread, by simpa using hmore⟩, hvalue⟩

theorem readValue_append (h : ReadsAs cs d) (hmore : EndsNumber more)
    (hfuel : 2 * cs.length + 2 ≤ fuel) :
    ∃ rest, readValue fuel (cs ++ more) = (d, some rest) ∧ skipSpaces rest = skipSpaces more := by
  obtain ⟨rest, hread, hrest⟩ := h
  exact ⟨rest ++ more, (extends_of_endsNumber hmore _).value hfuel hread,
    skipSpaces_append_of_nil hrest more⟩

end ReadsAs

def arrayText (texts : List String) : String := "[" ++ ",".intercalate texts ++ "]"

theorem toList_arrayText (texts : List String) :
    (arrayText texts).toList = '[' :: ([','].intercalate (texts.map String.toList) ++ [']']) := by
  simp [arrayText]

theorem readItems_intercalate {texts : List (List Char)} {ds : List Draft}
    (h : List.Forall₂ ReadsAs texts ds) (hne : texts ≠ []) (rest : List Char) {fuel : ℕ}
    (hfuel : 2 * ([','].intercalate texts).length + 2 < fuel) :
    readItems fuel ([','].intercalate texts ++ ']' :: rest) = ((ds, none), some rest) := by
  induction h generalizing fuel with
  | nil => contradiction
  | @cons text d texts ds htext h ih =>
      obtain ⟨fuel, rfl⟩ := Nat.exists_eq_succ_of_ne_zero (Nat.ne_zero_of_lt hfuel)
      cases h with
      | nil =>
          rw [List.intercalate_singleton] at hfuel ⊢
          have hend : EndsNumber (']' :: rest) :=
            endsNumber_cons (by decide) (by decide) (by decide) (by decide)
          have hitem : 2 * text.length + 2 ≤ fuel := by omega
          obtain ⟨behind, hread, hbehind⟩ := htext.readValue_append hend hitem
          exact readItems_last hread hbehind
      | @cons text' d' texts' ds' htext' h' =>
          rw [List.intercalate_cons_cons] at hfuel ⊢
          have hlength : ∀ more : List Char, (text ++ [','] ++ more).length =
              text.length + more.length + 1 := by simp; omega
          rw [hlength] at hfuel
          have hitem : 2 * text.length + 2 ≤ fuel := by omega
          obtain ⟨behind, hread, hbehind⟩ := htext.readValue_append (endsNumber_comma _) hitem
          rw [List.append_assoc, List.append_assoc]
          exact readItems_cons hread hbehind (ih (by simp) (by omega))

theorem readsAs_arrayText {texts : List String} {ds : List Draft}
    (h : List.Forall₂ (fun text d => ReadsAs text.toList d) texts ds) :
    ReadsAs (arrayText texts).toList (.array ds none) := by
  rw [toList_arrayText]
  refine ⟨[], ?_, rfl⟩
  cases h with
  | nil => rfl
  | cons htext h =>
      refine readValue_array (readItems_intercalate ?_ (by simp) [] ?_)
      · exact List.forall₂_map_left_iff.2 (.cons htext h)
      · simp
        omega

end CatalogRules.Json
