import CatalogRules.Proofs.Json.Arrays

/-!
Texts of objects. Like those of arrays they are put together from texts that are read to their
ends, one for the name and one for the value of each member. A structure takes from them what it
knows, whatever the order, and passes over the rest, which every value lets it do.
-/

namespace CatalogRules.Json

namespace Draft

mutual

/-- What has a value is passed over. -/
theorem pass_of_value : ∀ (d : Draft) {depth : ℕ} {v : Json}, d.value depth = .ok v →
    d.pass = .ok ()
  | .null, _, _, _ | .bool _, _, _, _ | .number _, _, _, _ | .string _, _, _, _ => rfl
  | .array ds _, _, _, h => by
      obtain ⟨rfl, _, _, -, hds⟩ := value_array_eq_ok h
      rw [pass, passItems_of_valueItems ds hds]
      rfl
  | .object ms _, _, _, h => by
      obtain ⟨rfl, _, _, -, hms⟩ := value_object_eq_ok h
      rw [pass, passMembers_of_valueMembers ms hms]
      rfl
  | .flawed flaw, _, _, h => absurd rfl (not_flawed_of_value h flaw)

theorem passItems_of_valueItems : ∀ (ds : List Draft) {depth : ℕ} {vs : List Json},
    valueItems depth ds = .ok vs → passItems ds = .ok ()
  | [], _, _, _ => rfl
  | d :: ds, _, _, h => by
      rw [valueItems_eq_ok_iff] at h
      obtain ⟨v, vs, hv, hvs, -⟩ := List.forall₂_cons_left_iff.1 h
      rw [passItems, pass_of_value d hv]
      exact passItems_of_valueItems ds (valueItems_eq_ok_iff.2 hvs)

theorem passMembers_of_valueMembers : ∀ (ms : List (Option String × Draft)) {depth : ℕ}
    {vs : List (String × Json)}, valueMembers depth ms = .ok vs → passMembers ms = .ok ()
  | [], _, _, _ => rfl
  | (_, d) :: ms, _, _, h => by
      obtain ⟨⟨v, hv⟩, vs, hvs⟩ := valueMembers_cons_eq_ok h
      rw [passMembers, pass_of_value d hv]
      exact passMembers_of_valueMembers ms hvs

end

end Draft

theorem readWord_ne_string {draft : Draft} {s : String} (h : draft ≠ .string s)
    (word cs : List Char) : (readWord draft word cs).1 ≠ .string s := by
  fun_induction readWord draft word cs <;> simp_all

theorem readNumber_ne_string (negative : Bool) (cs : List Char) (s : String) :
    (readNumber negative cs).1 ≠ .string s := by
  have hnumber (whole fraction : List Char) (exponent : Option ℤ) :
      numberDraft negative whole fraction exponent ≠ .string s := by
    unfold numberDraft
    dsimp only
    split_ifs <;> simp
  unfold readNumber
  dsimp only
  split
  · rename_i h
    simp only [bind, Except.bind, pure, Except.pure] at h
    split at h <;> try cases h
    split at h <;> try cases h
    split at h <;> cases h
    exact hnumber _ _ _
  · simp

theorem readString_of_readValue {fuel : ℕ} {cs rest : List Char} {s : String}
    (h : readValue (fuel + 1) cs = (.string s, some rest)) :
    ∃ cs', skipSpaces cs = '"' :: cs' ∧ readString (.text []) cs' = (.ok s, some rest) := by
  rw [readValue] at h
  -- One case for each way in which a value can start.
  split at h
  · cases h
  · rename_i cs' hopen
    refine ⟨cs', hopen, ?_⟩
    rcases hstring : readString (.text []) cs' with ⟨result, after⟩
    rw [hstring] at h
    obtain ⟨hs, rfl⟩ := Prod.mk.inj h
    cases result with
    | error flaw => cases hs
    | ok s' =>
        cases hs
        rfl
  iterate 2
    · split at h <;> cases h
  · exact absurd (congrArg Prod.fst h) (readNumber_ne_string _ _ _)
  iterate 3
    · exact absurd (congrArg Prod.fst h) (readWord_ne_string (by simp) _ _)
  · split at h
    · exact absurd (congrArg Prod.fst h) (readNumber_ne_string _ _ _)
    · cases h

/-- The text is that of a member: a name and a value with a colon between them. -/
def ReadsAsMember (cs : List Char) (m : String × Draft) : Prop :=
  ∃ name value, cs = name ++ ':' :: value ∧ ReadsAs name (.string m.1) ∧ ReadsAs value m.2

theorem readsAs_write {v : Json} (hn : ∀ n ∈ v.numbers, n.ReadsBack) :
    ReadsAs v.write (.ofJson v) := by
  have hend : EndsNumber [] := by simp [EndsNumber]
  have hread : readValue (2 * v.write.length + 2) (writeSpaced dense 0 v ++ []) =
      (.ofJson v, some []) :=
    readValue_writeSpaced 0 _ hend v hn (by rw [writeSpaced_dense]; omega)
  rw [writeSpaced_dense, List.append_nil] at hread
  exact ⟨[], hread, rfl⟩

def memberText (name : String) (v : Json) : String := String.ofList (quote name ++ ':' :: v.write)

theorem readsAsMember_memberText (name : String) {v : Json} (hn : ∀ n ∈ v.numbers, n.ReadsBack) :
    ReadsAsMember (memberText name v).toList (name, .ofJson v) := by
  refine ⟨quote name, v.write, String.toList_ofList, ?_, readsAs_write hn⟩
  exact readsAs_write (v := .string name) (by simp [numbers])

section

variable {cs more : List Char} {m : String × Draft} {fuel : ℕ}

theorem ReadsAsMember.steps (h : ReadsAsMember cs m) (hmore : EndsNumber more)
    (hfuel : 2 * cs.length + 2 ≤ fuel) :
    ∃ front colon behind rest, skipSpaces (cs ++ more) = skipSpaces ('"' :: front) ∧
      readString (.text []) front = (.ok m.1, some colon) ∧ skipSpaces colon = ':' :: behind ∧
      readValue fuel behind = (m.2, some rest) ∧ skipSpaces rest = skipSpaces more := by
  obtain ⟨name, value, rfl, ⟨behind, hname, hbehind⟩, hvalue⟩ := h
  obtain ⟨cs', hopen, hstring⟩ := readString_of_readValue hname
  have hlength : 2 * value.length + 2 ≤ fuel := by
    simp only [List.length_append, List.length_cons] at hfuel
    omega
  obtain ⟨rest, hread, hrest⟩ := hvalue.readValue_append hmore hlength
  refine ⟨cs' ++ (':' :: (value ++ more)), behind ++ (':' :: (value ++ more)), value ++ more, rest,
    ?_, readString_append hstring _, ?_, hread, hrest⟩
  · rw [List.append_assoc, skipSpaces_append_of_cons hopen, List.cons_append]
    rfl
  · rw [skipSpaces_append_of_nil hbehind]
    rfl

def objectText (texts : List String) : String := "\x7b" ++ ",".intercalate texts ++ "\x7d"

theorem toList_objectText (texts : List String) :
    (objectText texts).toList =
      '\x7b' :: ([','].intercalate (texts.map String.toList) ++ ['\x7d']) := by
  simp [objectText]

theorem readMembers_intercalate {texts : List (List Char)} {ms : List (String × Draft)}
    (h : List.Forall₂ ReadsAsMember texts ms) (hne : texts ≠ []) (rest : List Char) {fuel : ℕ}
    (hfuel : 2 * ([','].intercalate texts).length + 2 < fuel) :
    readMembers fuel ([','].intercalate texts ++ '\x7d' :: rest) =
      ((ms.map fun m => (some m.1, m.2), none), some rest) := by
  induction h generalizing fuel with
  | nil => contradiction
  | @cons text m texts ms htext h ih =>
      obtain ⟨fuel, rfl⟩ := Nat.exists_eq_succ_of_ne_zero (Nat.ne_zero_of_lt hfuel)
      cases h with
      | nil =>
          rw [List.intercalate_singleton] at hfuel ⊢
          have hend : EndsNumber ('\x7d' :: rest) :=
            endsNumber_cons (by decide) (by decide) (by decide) (by decide)
          have hmember : 2 * text.length + 2 ≤ fuel := by omega
          obtain ⟨front, colon, behind, after, hopen, hname, hcolon, hread, hafter⟩ :=
            htext.steps hend hmember
          rw [readMembers_congr hopen]
          exact readMembers_last hname hcolon hread hafter
      | @cons text' m' texts' ms' htext' h' =>
          rw [List.intercalate_cons_cons] at hfuel ⊢
          have hlength : ∀ more : List Char, (text ++ [','] ++ more).length =
              text.length + more.length + 1 := by simp; omega
          rw [hlength] at hfuel
          rw [List.append_assoc, List.append_assoc]
          have hmember : 2 * text.length + 2 ≤ fuel := by omega
          obtain ⟨front, colon, behind, after, hopen, hname, hcolon, hread, hafter⟩ :=
            htext.steps (endsNumber_comma _) hmember
          rw [List.singleton_append, readMembers_congr hopen]
          exact readMembers_cons hname hcolon hread hafter (ih (by simp) (by omega))

theorem readsAs_objectText {texts : List String} {ms : List (String × Draft)}
    (h : List.Forall₂ (fun text m => ReadsAsMember text.toList m) texts ms) :
    ReadsAs (objectText texts).toList (.object (ms.map fun m => (some m.1, m.2)) none) := by
  rw [toList_objectText]
  refine ⟨[], ?_, rfl⟩
  cases h with
  | nil => rfl
  | cons htext h =>
      refine readValue_object (readMembers_intercalate ?_ (by simp) [] ?_)
      · exact List.forall₂_map_left_iff.2 (.cons htext h)
      · simp
        omega

end

end CatalogRules.Json
