import CatalogRules.Proofs.Filter.Selection
import CatalogRules.Proofs.Text.Lines
import CatalogRules.Rule.RuleSet

/-!
Which texts are rule sets and what they select. A text is accepted when it has a
rule line, fits the limits, and each of its lines is accepted on its own; and it
selects the records that each of its lines selects. So a rule set is its set of
lines: neither their order nor their repetition means anything.
-/

namespace CatalogRules.RuleSet

open Text (ruleLines)

variable {text : String} {lines : List String} {rules : RuleSet} {cs : List Condition}

theorem readLines_eq_ok_iff : readLines lines = .ok cs ↔ lines.map readLine = cs.map .ok := by
  induction lines generalizing cs with
  | nil => simp [readLines, eq_comm]
  | cons line lines ih =>
      rw [readLines]
      cases hline : readLine line with
      | error e => cases cs <;> simp [hline]
      | ok c =>
          cases hlines : readLines lines with
          | error e =>
              -- Lines that are all conditions would have been read.
              have hne : ∀ ds : List Condition, lines.map readLine ≠ ds.map .ok := by
                intro ds hds
                rw [ih.2 hds] at hlines
                cases hlines
              cases cs <;> simp [hline, hne]
          | ok ds =>
              rw [ih] at hlines
              cases cs with
              | nil => simp
              | cons d cs =>
                  have hinj : ds.map (@Except.ok RuleSetError Condition) = cs.map .ok ↔ ds = cs :=
                    List.map_inj_right fun _ _ => Except.ok.inj
                  simp [hline, hlines, hinj]

theorem mem_of_readLines (h : readLines lines = .ok cs) {c : Condition} :
    c ∈ cs ↔ ∃ line ∈ lines, readLine line = .ok c := by
  have hmap := readLines_eq_ok_iff.1 h
  have hmem : Except.ok c ∈ cs.map (@Except.ok RuleSetError Condition) ↔ c ∈ cs := by simp
  rw [← hmem, ← hmap, List.mem_map]

theorem exists_readLines_iff :
    (∃ cs, readLines lines = .ok cs) ↔ ∀ line ∈ lines, ∃ c, readLine line = .ok c := by
  induction lines with
  | nil => simp [readLines]
  | cons line lines ih =>
      rw [List.forall_mem_cons, ← ih, readLines]
      cases readLine line with
      | error e => simp
      | ok c => cases readLines lines <;> simp

structure Fits (text : String) : Prop where
  bytes : text.utf8ByteSize ≤ byteLimit
  conditions : (ruleLines text).length ≤ conditionLimit

/-- Blank texts are the texts without lines, so the two checks for them are one. -/
theorem read_eq_ok_iff :
    read text = .ok cs ↔
      ruleLines text ≠ [] ∧ Fits text ∧ readLines (ruleLines text) = .ok cs := by
  have hblank : (Text.trimChars text.toList).isEmpty = true ↔ ruleLines text = [] := by
    rw [List.isEmpty_iff, Text.ruleLines_eq_nil_iff]
  have hempty : (ruleLines text).isEmpty = true ↔ ruleLines text = [] := List.isEmpty_iff
  simp only [read, hblank, hempty]
  by_cases hlines : ruleLines text = []
  · simp [hlines]
  · -- The text is not blank, so from here on neither check for blank texts applies.
    rw [if_neg hlines]
    by_cases hbytes : byteLimit < text.utf8ByteSize
    · have hfits : ¬Fits text := fun h => absurd h.bytes (Nat.not_le.2 hbytes)
      simp [hbytes, hfits]
    · rw [if_neg hbytes, if_neg hlines]
      by_cases hcount : conditionLimit < (ruleLines text).length
      · have hfits : ¬Fits text := fun h => absurd h.conditions (Nat.not_le.2 hcount)
        rw [if_pos hcount]
        simp [hfits]
      · have hfits : Fits text := ⟨Nat.not_lt.1 hbytes, Nat.not_lt.1 hcount⟩
        rw [if_neg hcount]
        simp [hlines, hfits]

theorem length_le_of_read (h : read text = .ok cs) : cs.length ≤ conditionLimit := by
  obtain ⟨-, hfits, hlines⟩ := read_eq_ok_iff.1 h
  have hlength := congrArg List.length (readLines_eq_ok_iff.1 hlines)
  rw [List.length_map, List.length_map] at hlength
  exact hlength ▸ hfits.conditions

theorem ofConditions_eq_ok_iff :
    ofConditions cs = .ok rules ↔ rules.conditions = cs ∧ Filter.compile cs = .ok rules.filter := by
  unfold ofConditions
  cases Filter.compile cs with
  | error e => simp
  | ok filter =>
      obtain ⟨conditions, filter'⟩ := rules
      simp [eq_comm]

theorem ofText_eq_ok_iff :
    ofText text = .ok rules ↔
      read text = .ok rules.conditions ∧ Filter.compile rules.conditions = .ok rules.filter := by
  unfold ofText
  cases read text with
  | error e => simp
  | ok cs =>
      rw [Except.ok.injEq]
      constructor
      · intro h
        obtain ⟨rfl, hfilter⟩ := ofConditions_eq_ok_iff.1 h
        exact ⟨rfl, hfilter⟩
      · rintro ⟨rfl, hfilter⟩
        exact ofConditions_eq_ok_iff.2 ⟨rfl, hfilter⟩

def LineAccepted (line : String) : Prop :=
  ∃ c g, readLine line = .ok c ∧ c.compile = .ok g

/-- The line is a condition, and what it compiles to selects the record. -/
def LineSelects (line : String) (r : Record) : Prop :=
  ∃ c, readLine line = .ok c ∧ c.Selects r

/-- A text is accepted when each of its lines is. -/
theorem exists_ofText_iff :
    (∃ rules, ofText text = .ok rules) ↔
      ruleLines text ≠ [] ∧ Fits text ∧ ∀ line ∈ ruleLines text, LineAccepted line := by
  constructor
  · rintro ⟨rules, h⟩
    obtain ⟨hread, hcompile⟩ := ofText_eq_ok_iff.1 h
    obtain ⟨hne, hfits, hlines⟩ := read_eq_ok_iff.1 hread
    refine ⟨hne, hfits, fun line hline => ?_⟩
    obtain ⟨c, hc⟩ := exists_readLines_iff.1 ⟨_, hlines⟩ line hline
    have hmem : c ∈ rules.conditions := (mem_of_readLines hlines).2 ⟨line, hline, hc⟩
    obtain ⟨g, hg⟩ := Filter.compile_isOk_iff.1 ⟨_, hcompile⟩ c hmem
    exact ⟨c, g, hc, hg⟩
  · rintro ⟨hne, hfits, haccepted⟩
    obtain ⟨cs, hcs⟩ := exists_readLines_iff.2 fun line hline => by
      obtain ⟨c, -, hc, -⟩ := haccepted line hline
      exact ⟨c, hc⟩
    have hread := read_eq_ok_iff.2 ⟨hne, hfits, hcs⟩
    obtain ⟨f, hf⟩ := Filter.compile_isOk_iff.2 fun c (hc : c ∈ cs) => by
      obtain ⟨line, hline, hread⟩ := (mem_of_readLines hcs).1 hc
      obtain ⟨c', g, hc', hg⟩ := haccepted line hline
      rw [hread] at hc'
      obtain rfl := Except.ok.inj hc'
      exact ⟨g, hg⟩
    exact ⟨⟨cs, f⟩, ofText_eq_ok_iff.2 ⟨hread, hf⟩⟩

/-- Accepted rules select what each of their lines selects. -/
theorem selects_ofText (h : ofText text = .ok rules) (r : Record) :
    rules.filter.Selects r ↔ ∀ line ∈ ruleLines text, LineSelects line r := by
  obtain ⟨hread, hcompile⟩ := ofText_eq_ok_iff.1 h
  obtain ⟨-, -, hlines⟩ := read_eq_ok_iff.1 hread
  rw [Filter.selects_compile hcompile]
  constructor
  · intro hall line hline
    obtain ⟨c, hc⟩ := exists_readLines_iff.1 ⟨_, hlines⟩ line hline
    exact ⟨c, hc, hall c ((mem_of_readLines hlines).2 ⟨line, hline, hc⟩)⟩
  · intro hall c hc
    obtain ⟨line, hline, hread⟩ := (mem_of_readLines hlines).1 hc
    obtain ⟨c', hc', hselects⟩ := hall line hline
    rw [hread] at hc'
    obtain rfl := Except.ok.inj hc'
    exact hselects

end CatalogRules.RuleSet
