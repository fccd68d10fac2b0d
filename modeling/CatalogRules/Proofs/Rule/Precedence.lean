import CatalogRules.Proofs.Rule.Reading
import CatalogRules.Proofs.Traversal

/-!
The order of the checks on a rule text. Blank texts come first, whatever their size, then the
size of the whole, the number of lines, and last the lines themselves from the first on, each
by its length and then by its form. So every text is decided in one way, and the first check
that fails is the one that is reported.
-/

namespace CatalogRules.RuleSet

open Text (isBlank ruleLines)

structure LineReads (line : String) (c : Condition) : Prop where
  short : line.utf8ByteSize ≤ lineByteLimit
  parse : Condition.parse line = .ok c

/-- What is wrong with a line. One that is too long need not be a condition either. -/
inductive LineFault (line : String) : RuleSetError → Prop
  | tooLong (long : lineByteLimit < line.utf8ByteSize) :
      LineFault line (.limitExceeded "rule_line_length" line.utf8ByteSize lineByteLimit)
  | unparsed {cause : ParseError} (short : line.utf8ByteSize ≤ lineByteLimit)
      (parse : Condition.parse line = .error cause) : LineFault line (.parse cause)

variable {text line : String} {lines : List String} {c : Condition} {cs : List Condition}
  {e : RuleSetError} {result : Except RuleSetError (List Condition)}

theorem readLine_eq_ok_iff : readLine line = .ok c ↔ LineReads line c := by
  unfold readLine
  split
  · rename_i hlong
    simp only [reduceCtorEq, false_iff]
    exact fun h => absurd h.short (Nat.not_le.2 hlong)
  · rename_i hshort
    have hiff : LineReads line c ↔ Condition.parse line = .ok c :=
      ⟨LineReads.parse, fun h => ⟨Nat.not_lt.1 hshort, h⟩⟩
    rw [hiff]
    cases Condition.parse line <;> simp

theorem LineFault.readLine (h : LineFault line e) : RuleSet.readLine line = .error e := by
  cases h with
  | tooLong long => rw [RuleSet.readLine, if_pos long]
  | unparsed short parse => rw [RuleSet.readLine, if_neg (Nat.not_lt.2 short), parse]

theorem readLine_eq_error_iff : readLine line = .error e ↔ LineFault line e := by
  refine ⟨fun h => ?_, LineFault.readLine⟩
  unfold readLine at h
  split at h
  · rename_i hlong
    obtain rfl := Except.error.inj h
    exact .tooLong hlong
  · rename_i hshort
    cases hparse : Condition.parse line with
    | ok c => simp [hparse] at h
    | error cause =>
        rw [hparse] at h
        obtain rfl := Except.error.inj h
        exact .unparsed (Nat.not_lt.1 hshort) hparse

theorem readLines_eq_ok_iff_forall₂ :
    readLines lines = .ok cs ↔ List.Forall₂ LineReads lines cs := by
  rw [readLines_eq_ok_iff, ← List.forall₂_eq_eq_eq, List.forall₂_map_left_iff,
    List.forall₂_map_right_iff]
  simp only [readLine_eq_ok_iff]

theorem readLines_of_split {before after : List String} (hbefore : ∀ l ∈ before, ∃ c, LineReads l c)
    (hline : LineFault line e) : readLines (before ++ line :: after) = .error e := by
  induction before with
  | nil => simp [readLines, hline.readLine]
  | cons l before ih =>
      rw [List.forall_mem_cons] at hbefore
      obtain ⟨⟨c, hc⟩, hbefore⟩ := hbefore
      rw [List.cons_append, readLines, readLine_eq_ok_iff.2 hc]
      simp only [ih hbefore]

theorem exists_split_of_readLines (h : readLines lines = .error e) :
    ∃ before line after, lines = before ++ line :: after ∧ (∀ l ∈ before, ∃ c, LineReads l c) ∧
      LineFault line e := by
  rcases allOk_or_firstError readLine lines with
    hall | ⟨before, line, after, e', rfl, hbefore, hline⟩
  · obtain ⟨cs, hcs⟩ := exists_readLines_iff.2 hall
    rw [hcs] at h
    cases h
  · simp only [readLine_eq_ok_iff] at hbefore
    rw [readLine_eq_error_iff] at hline
    rw [readLines_of_split hbefore hline] at h
    obtain rfl := Except.error.inj h
    exact ⟨before, line, after, rfl, hbefore, hline⟩

/-- What a rule text comes to. Each check is made after those before it have passed. -/
inductive Decides (text : String) : Except RuleSetError (List Condition) → Prop
  | blank (blank : ∀ c ∈ text.toList, isBlank c = true) : Decides text (.error .empty)
  | tooLong (notBlank : ∃ c ∈ text.toList, isBlank c = false)
      (long : byteLimit < text.utf8ByteSize) :
      Decides text (.error (.limitExceeded "rule_text_bytes" text.utf8ByteSize byteLimit))
  | tooMany (notBlank : ∃ c ∈ text.toList, isBlank c = false)
      (short : text.utf8ByteSize ≤ byteLimit) (many : conditionLimit < (ruleLines text).length) :
      Decides text (.error (.limitExceeded "conditions" (ruleLines text).length conditionLimit))
  | faulty (notBlank : ∃ c ∈ text.toList, isBlank c = false) (fits : Fits text)
      {before after : List String} {line : String}
      (lines : ruleLines text = before ++ line :: after)
      (reads : ∀ l ∈ before, ∃ c, LineReads l c) {e : RuleSetError} (fault : LineFault line e) :
      Decides text (.error e)
  | conditions (notBlank : ∃ c ∈ text.toList, isBlank c = false) (fits : Fits text)
      {cs : List Condition} (reads : List.Forall₂ LineReads (ruleLines text) cs) :
      Decides text (.ok cs)

theorem ruleLines_eq_nil_iff_blank :
    ruleLines text = [] ↔ ∀ c ∈ text.toList, isBlank c = true := by
  rw [Text.ruleLines_eq_nil_iff, Text.trimChars_eq_nil_iff]

theorem exists_notBlank_iff :
    (∃ c ∈ text.toList, isBlank c = false) ↔ ruleLines text ≠ [] := by
  simp [ruleLines_eq_nil_iff_blank]

theorem read_of_blank (h : ruleLines text = []) : read text = .error .empty := by
  have hblank : (Text.trimChars text.toList).isEmpty = true :=
    List.isEmpty_iff.2 (Text.ruleLines_eq_nil_iff.1 h)
  rw [read, if_pos hblank]

theorem read_of_lines (h : ruleLines text ≠ []) :
    read text =
      if byteLimit < text.utf8ByteSize then
        .error (.limitExceeded "rule_text_bytes" text.utf8ByteSize byteLimit)
      else if conditionLimit < (ruleLines text).length then
        .error (.limitExceeded "conditions" (ruleLines text).length conditionLimit)
      else readLines (ruleLines text) := by
  have hblank : ¬(Text.trimChars text.toList).isEmpty = true := fun hempty =>
    h (Text.ruleLines_eq_nil_iff.2 (List.isEmpty_iff.1 hempty))
  have hlines : ¬(ruleLines text).isEmpty = true := fun hempty => h (List.isEmpty_iff.1 hempty)
  simp only [read, if_neg hblank, if_neg hlines]

theorem Fits.read (h : Fits text) (hlines : ruleLines text ≠ []) :
    RuleSet.read text = readLines (ruleLines text) := by
  rw [read_of_lines hlines, if_neg (Nat.not_lt.2 h.bytes), if_neg (Nat.not_lt.2 h.conditions)]

theorem Decides.read_eq (h : Decides text result) : read text = result := by
  cases h with
  | blank blank => exact read_of_blank (ruleLines_eq_nil_iff_blank.2 blank)
  | tooLong notBlank long => rw [read_of_lines (exists_notBlank_iff.1 notBlank), if_pos long]
  | tooMany notBlank short many =>
      rw [read_of_lines (exists_notBlank_iff.1 notBlank), if_neg (Nat.not_lt.2 short), if_pos many]
  | faulty notBlank fits lines reads fault =>
      rw [fits.read (exists_notBlank_iff.1 notBlank), lines, readLines_of_split reads fault]
  | conditions notBlank fits reads =>
      rw [fits.read (exists_notBlank_iff.1 notBlank), readLines_eq_ok_iff_forall₂.2 reads]

theorem decides_read (text : String) : Decides text (read text) := by
  by_cases hlines : ruleLines text = []
  · rw [read_of_blank hlines]
    exact .blank (ruleLines_eq_nil_iff_blank.1 hlines)
  have hnotBlank := exists_notBlank_iff.2 hlines
  by_cases hlong : byteLimit < text.utf8ByteSize
  · rw [read_of_lines hlines, if_pos hlong]
    exact .tooLong hnotBlank hlong
  by_cases hmany : conditionLimit < (ruleLines text).length
  · rw [read_of_lines hlines, if_neg hlong, if_pos hmany]
    exact .tooMany hnotBlank (Nat.not_lt.1 hlong) hmany
  have hfits : Fits text := ⟨Nat.not_lt.1 hlong, Nat.not_lt.1 hmany⟩
  rw [hfits.read hlines]
  cases hread : readLines (ruleLines text) with
  | ok cs => exact .conditions hnotBlank hfits (readLines_eq_ok_iff_forall₂.1 hread)
  | error e =>
      obtain ⟨before, line, after, hsplit, hreads, hfault⟩ := exists_split_of_readLines hread
      exact .faulty hnotBlank hfits hsplit hreads hfault

/-- What a rule text is read as is decided by the checks in their order, and the texts that are
empty rule sets are the blank ones, which are those without lines. -/
theorem read_by_precedence (text : String) :
    (∀ result, read text = result ↔ Decides text result) ∧
    (read text = .error .empty ↔ ∀ c ∈ text.toList, isBlank c = true) ∧
    (ruleLines text = [] ↔ ∀ c ∈ text.toList, isBlank c = true) := by
  refine ⟨fun result => ⟨?_, Decides.read_eq⟩, ⟨fun h => ?_, fun h => (Decides.blank h).read_eq⟩,
    ruleLines_eq_nil_iff_blank⟩
  · rintro rfl
    exact decides_read text
  · -- No fault of a line is that of an empty rule set.
    have hdecides := decides_read text
    rw [h] at hdecides
    cases hdecides with
    | blank blank => exact blank
    | faulty _ _ _ _ fault => cases fault

end CatalogRules.RuleSet
