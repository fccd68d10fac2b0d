import CatalogRules.Proofs.Text.Lines
import Mathlib.Data.List.Basic

/-!
Texts that set out lines. The lines follow each other with ends of line between them, and blank
lines and blanks may stand around them. Every text sets out its rule lines, and no other list of
lines. So what holds of the rule lines of a text is shown along the ways of setting out lines.
-/

namespace CatalogRules.Text

/-- A text that can stand as a line: not empty, trimmed and without line feeds. -/
structure IsLine (line : String) : Prop where
  nonempty : line ≠ ""
  trimmed : trim line = line
  unbroken : '\n' ∉ line.toList

/-- Nothing but blanks; line feeds are blank, too. -/
def IsSpace (s : String) : Prop := ∀ c ∈ s.toList, isBlank c = true

instance : DecidablePred IsSpace := fun s =>
  decidable_of_iff (s.toList.all isBlank = true) List.all_eq_true

/-- How a text sets out lines. -/
inductive SetsOut : String → List String → Prop
  | space {s : String} (space : IsSpace s) : SetsOut s []
  | line {before line after : String} (before_space : IsSpace before) (isLine : IsLine line)
      (after_space : IsSpace after) : SetsOut (before ++ line ++ after) [line]
  | join {first second sep : String} {lines rest : List String} (sep_mem : sep ∈ ["\n", "\r\n"])
      (first_lines : SetsOut first lines) (second_lines : SetsOut second rest) :
      SetsOut (first ++ sep ++ second) (lines ++ rest)

def solid (s : String) : List Char := s.toList.filter fun c => !isBlank c

variable {text : String} {lines : List String}

theorem isSpace_of_sep {sep : String} (h : sep ∈ ["\n", "\r\n"]) : IsSpace sep := by
  simp only [List.mem_cons, List.not_mem_nil, or_false] at h
  rcases h with rfl | rfl
  · decide
  · decide

@[simp] theorem solid_append (s t : String) : solid (s ++ t) = solid s ++ solid t := by
  rw [solid, String.toList_append, List.filter_append]
  rfl

theorem IsSpace.solid {s : String} (h : IsSpace s) : solid s = [] := by
  rw [Text.solid, List.filter_eq_nil_iff]
  intro c hc
  simp [h c hc]

theorem ruleLineChars_blanks_append {blanks : List Char} (h : ∀ c ∈ blanks, isBlank c = true)
    (cs : List Char) : ruleLineChars (blanks ++ cs) = ruleLineChars cs := by
  induction blanks with
  | nil => rfl
  | cons c blanks ih =>
      rw [List.forall_mem_cons] at h
      rw [List.cons_append, ruleLineChars_cons_blank h.1, ih h.2]

theorem ruleLineChars_append_blanks {blanks : List Char} (h : ∀ c ∈ blanks, isBlank c = true)
    (cs : List Char) : ruleLineChars (cs ++ blanks) = ruleLineChars cs := by
  -- The text takes in the blanks behind it from the first one on.
  induction blanks generalizing cs with
  | nil => rw [List.append_nil]
  | cons c blanks ih =>
      rw [List.forall_mem_cons] at h
      rw [List.append_cons, ih h.2, ruleLineChars_concat_blank h.1]

theorem ruleLines_around {before after : String} (hbefore : IsSpace before)
    (hafter : IsSpace after) (s : String) : ruleLines (before ++ s ++ after) = ruleLines s := by
  rw [ruleLines, String.toList_append, String.toList_append, ruleLineChars_append_blanks hafter,
    ruleLineChars_blanks_append hbefore]
  rfl

theorem IsLine.ruleLines {line : String} (h : IsLine line) : ruleLines line = [line] := by
  refine ruleLines_eq_singleton h.unbroken ?_ ?_
  · rw [← toList_trim, h.trimmed]
  · rw [Ne, String.toList_eq_nil_iff]
    exact h.nonempty

theorem exists_around_trim (s : String) :
    ∃ before after, IsSpace before ∧ IsSpace after ∧ s = before ++ trim s ++ after := by
  have hfront : s.toList.takeWhile isBlank ++ dropBlanks s.toList = s.toList :=
    List.takeWhile_append_dropWhile
  have hback : (dropBlanks s.toList).reverse.takeWhile isBlank ++
      dropBlanks (dropBlanks s.toList).reverse = (dropBlanks s.toList).reverse :=
    List.takeWhile_append_dropWhile
  refine ⟨String.ofList (s.toList.takeWhile isBlank),
    String.ofList ((dropBlanks s.toList).reverse.takeWhile isBlank).reverse, ?_, ?_, ?_⟩
  · intro c hc
    rw [String.toList_ofList] at hc
    exact List.all_eq_true.1 List.all_takeWhile c hc
  · intro c hc
    rw [String.toList_ofList, List.mem_reverse] at hc
    exact List.all_eq_true.1 List.all_takeWhile c hc
  · apply String.toList_injective
    have hrest := congrArg List.reverse hback
    rw [List.reverse_append, List.reverse_reverse] at hrest
    rw [String.toList_append, String.toList_append, String.toList_ofList, String.toList_ofList,
      toList_trim, trimChars, List.append_assoc, hrest, hfront]

theorem SetsOut.isLine (h : SetsOut text lines) : ∀ line ∈ lines, IsLine line := by
  induction h with
  | space =>
      intro line hline
      cases hline
  | line _ isLine _ =>
      intro line hline
      rw [List.mem_singleton.1 hline]
      exact isLine
  | join _ _ _ first_ih second_ih =>
      intro line hline
      rcases List.mem_append.1 hline with hline | hline
      · exact first_ih line hline
      · exact second_ih line hline

theorem SetsOut.flatMap_solid (h : SetsOut text lines) : lines.flatMap solid = solid text := by
  induction h with
  | space space => rw [space.solid, List.flatMap_nil]
  | line before_space _ after_space =>
      simp [before_space.solid, after_space.solid]
  | join sep_mem _ _ first_ih second_ih =>
      simp [first_ih, second_ih, (isSpace_of_sep sep_mem).solid]

theorem SetsOut.ruleLines (h : SetsOut text lines) : ruleLines text = lines := by
  induction h with
  | space space => exact ruleLines_eq_nil_iff.2 ((trimChars_eq_nil_iff _).2 space)
  | line before_space isLine after_space =>
      rw [ruleLines_around before_space after_space, isLine.ruleLines]
  | join sep_mem _ _ first_ih second_ih =>
      rw [ruleLines_append sep_mem, first_ih, second_ih]

theorem exists_setsOut_of_unbroken (h : '\n' ∉ text.toList) : ∃ lines, SetsOut text lines := by
  by_cases hempty : trim text = ""
  · refine ⟨[], .space ((trimChars_eq_nil_iff _).1 ?_)⟩
    rw [← toList_trim, hempty]
    rfl
  · obtain ⟨before, after, hbefore, hafter, htext⟩ := exists_around_trim text
    refine ⟨[trim text], ?_⟩
    have hline : IsLine (trim text) := by
      refine ⟨hempty, ?_, ?_⟩
      · apply String.toList_injective
        rw [toList_trim, toList_trim, trimChars_trimChars]
      · rw [toList_trim]
        exact fun hmem => h ((trimChars_occurs text.toList).subset hmem)
    have hsetsOut := SetsOut.line hbefore hline hafter
    rwa [← htext] at hsetsOut

/-- A text with a line feed sets out what the parts on its two sides set out. -/
theorem exists_setsOut (text : String) : ∃ lines, SetsOut text lines := by
  -- Both sides are shorter than the text, and neither need be free of line feeds.
  induction hlength : text.toList.length using Nat.strongRecOn generalizing text with
  | _ n ih =>
      by_cases hbreak : '\n' ∈ text.toList
      · obtain ⟨first, second, hsplit⟩ := List.append_of_mem hbreak
        have htext : text = String.ofList first ++ "\n" ++ String.ofList second := by
          apply String.toList_injective
          simp [hsplit]
        rw [hsplit, List.length_append, List.length_cons] at hlength
        obtain ⟨lines, hfirst⟩ := ih first.length (by omega) (String.ofList first) (by simp)
        obtain ⟨rest, hsecond⟩ := ih second.length (by omega) (String.ofList second) (by simp)
        rw [htext]
        exact ⟨lines ++ rest, .join (by simp) hfirst hsecond⟩
      · exact exists_setsOut_of_unbroken hbreak

theorem setsOut_iff : SetsOut text lines ↔ ruleLines text = lines := by
  refine ⟨SetsOut.ruleLines, ?_⟩
  rintro rfl
  obtain ⟨lines, h⟩ := exists_setsOut text
  rwa [h.ruleLines]

theorem ruleLines_intercalate {sep : String} (hsep : sep ∈ ["\n", "\r\n"]) (texts : List String) :
    ruleLines (sep.intercalate texts) = texts.flatMap ruleLines := by
  induction texts with
  | nil => rw [String.intercalate_nil, List.flatMap_nil, (SetsOut.space (by decide)).ruleLines]
  | cons first texts ih =>
      cases texts with
      | nil => simp
      | cons second texts =>
          rw [String.intercalate_cons_cons, ruleLines_append hsep, ih]
          rfl

/-- Splitting takes a text to the lines it sets out. It respects ends of line, gives nothing but
lines, neither loses nor repeats nor moves what is not blank, and undoes every way of joining
lines. -/
theorem ruleLines_undoes_layout (text : String) (lines : List String) :
    (∀ sep ∈ ["\n", "\r\n"], ∀ a b : String,
      ruleLines (a ++ sep ++ b) = ruleLines a ++ ruleLines b) ∧
    (∀ line ∈ ruleLines text, IsLine line) ∧
    (ruleLines text).flatMap solid = solid text ∧
    (∀ sep ∈ ["\n", "\r\n"], (∀ line ∈ lines, IsLine line) →
      ruleLines (sep.intercalate lines) = lines) ∧
    (SetsOut text lines ↔ ruleLines text = lines) := by
  have hsetsOut : SetsOut text (ruleLines text) := setsOut_iff.2 rfl
  refine ⟨fun sep hsep a b => ruleLines_append hsep a b, hsetsOut.isLine, hsetsOut.flatMap_solid,
    fun sep hsep hlines => ?_, setsOut_iff⟩
  calc ruleLines (sep.intercalate lines)
      = lines.flatMap ruleLines := ruleLines_intercalate hsep lines
    _ = lines.flatMap fun line => [line] :=
        List.flatMap_congr fun line hline => (hlines line hline).ruleLines
    _ = lines := List.flatMap_singleton' lines

/-- A text with blanks of several kinds, a blank line and both ends of line. -/
theorem ruleLines_loose_layout :
    SetsOut "\u0085 price > 1 \r\n\t\n\u2003id = 2\r" ["price > 1", "id = 2"] ∧
      ruleLines "\u0085 price > 1 \r\n\t\n\u2003id = 2\r" = ["price > 1", "id = 2"] := by
  have hprice : SetsOut ("\u0085 " ++ "price > 1" ++ " ") ["price > 1"] :=
    .line (by decide) ⟨by decide, by decide, by decide⟩ (by decide)
  have hid : SetsOut ("\u2003" ++ "id = 2" ++ "\r") ["id = 2"] :=
    .line (by decide) ⟨by decide, by decide, by decide⟩ (by decide)
  have hblank : SetsOut "\t" [] := .space (by decide)
  have hfeed : "\n" ∈ ["\n", "\r\n"] := by decide
  have hreturn : "\r\n" ∈ ["\n", "\r\n"] := by decide
  have htext : SetsOut "\u0085 price > 1 \r\n\t\n\u2003id = 2\r" ["price > 1", "id = 2"] :=
    .join hfeed (.join hreturn hprice hblank) hid
  exact ⟨htext, (ruleLines_undoes_layout _ _).2.2.2.2.1 htext⟩

end CatalogRules.Text
