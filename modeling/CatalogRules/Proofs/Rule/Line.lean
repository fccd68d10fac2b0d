import CatalogRules.Proofs.Filter.Meaning
import CatalogRules.Proofs.Rule.Grammar
import CatalogRules.Proofs.Rule.Reading

/-!
Texts of one line. A field, an operator and a value with blanks around the operator are
read as the condition of the three, as long as no comparison character is in the field and
the token is not in the value. A text with this line alone selects the records of which
the condition holds.
-/

namespace CatalogRules

namespace Operator

def startChars : List Char := ['=', '<', '>', '!']

theorem exists_mem_comparisonChars (op : Operator) : ∃ c ∈ op.tokenChars, c ∈ comparisonChars := by
  cases op <;> exact ⟨_, List.getLast_mem (tokenChars_ne_nil _), by decide⟩

theorem mem_startChars_of_mem_comparisonChars {c : Char} (h : c ∈ comparisonChars) :
    c ∈ startChars := by
  simp only [comparisonChars, startChars, List.mem_cons] at *
  tauto

theorem blank_not_mem_tokenChars (op : Operator) : ' ' ∉ op.tokenChars := by
  cases op <;> decide

/-- A token with a blank behind it is not the start of a longer one. -/
theorem heads_tokenChars_append_blank (op : Operator) (cs : List Char) :
    op.Heads (op.tokenChars ++ ' ' :: cs) := by
  refine ⟨List.prefix_append _ _, fun op' hstarts => ?_⟩
  obtain ⟨c, hop | hop⟩ := op.exists_tokenChars_eq
  · rw [hop] at hstarts
    rw [hop]
    exact length_tokenChars_le_one (by simp) hstarts
  · rw [hop]
    exact length_tokenChars_le_two op'

theorem not_occurs_of_forall {op : Operator} {cs : List Char}
    (h : ∀ c ∈ cs, c ∉ comparisonChars) : ¬op.tokenChars <:+: cs := by
  obtain ⟨c, hc, hcomparison⟩ := op.exists_mem_comparisonChars
  exact fun hoccurs => h c (hoccurs.mem hc) hcomparison

end Operator

namespace Condition

open Operator (startChars comparisonChars)
open Text (isBlank trimChars ruleLines)

theorem occurs_of_occurs_cons {token cs : List Char} {c : Char} (hne : token ≠ [])
    (hc : c ∉ token) (h : token <:+: c :: cs) : token <:+: cs := by
  rcases List.infix_cons_iff.1 h with hstarts | hoccurs
  · rcases List.prefix_cons_iff.1 hstarts with hnil | ⟨rest, rfl, -⟩
    · exact absurd hnil hne
    · exact absurd List.mem_cons_self hc
  · exact hoccurs

theorem occurs_of_occurs_concat {token cs : List Char} {c : Char} (hne : token ≠ [])
    (hc : c ∉ token) (h : token <:+: cs ++ [c]) : token <:+: cs := by
  rw [← List.reverse_infix] at h ⊢
  rw [List.reverse_append] at h
  exact occurs_of_occurs_cons (by simpa using hne) (by simpa using hc) h

def lineChars (field : List Char) (op : Operator) (value : List Char) : List Char :=
  field ++ ' ' :: (op.tokenChars ++ ' ' :: value)

/-- The operator can stand between the two: there is something on both sides, with no
blanks to trim, no token can start in the field, and the token is not in the value. -/
structure Fits (field : List Char) (op : Operator) (value : List Char) : Prop where
  field_ne_nil : field ≠ []
  trimChars_field : trimChars field = field
  plain : ∀ c ∈ field, c ∉ comparisonChars
  value_ne_nil : value ≠ []
  trimChars_value : trimChars value = value
  once : ¬op.tokenChars <:+: value

section

variable {field value : List Char} {op : Operator} (h : Fits field op value)

include h

theorem Fits.trimChars_lineChars :
    trimChars (lineChars field op value) = lineChars field op value := by
  have hline : lineChars field op value = (field ++ ' ' :: (op.tokenChars ++ [' '])) ++ value := by
    simp [lineChars]
  apply Text.trimChars_eq_self
  · intro c hc
    rw [lineChars, List.head?_append_of_ne_nil _ h.field_ne_nil, ← h.trimChars_field] at hc
    exact Text.isBlank_of_mem_head? hc
  · intro c hc
    rw [hline, List.getLast?_append_of_ne_nil _ h.value_ne_nil, ← h.trimChars_value] at hc
    exact Text.isBlank_of_mem_getLast? hc

theorem Fits.trimChars_left : trimChars (field ++ [' ']) = field := by
  rw [Text.trimChars_concat_blank (by decide), h.trimChars_field]

theorem Fits.trimChars_right : trimChars (' ' :: value) = value := by
  rw [Text.trimChars_cons_blank (by decide), h.trimChars_value]

theorem Fits.parts : Parts (lineChars field op value) (field ++ [' ']) op (' ' :: value) where
  line_eq := by simp [lineChars]
  plain := List.forall_mem_append.2 ⟨h.plain, List.forall_mem_singleton.2 (by decide)⟩
  apart := by simp
  heads := op.heads_tokenChars_append_blank value
  once hoccurs := h.once
    (occurs_of_occurs_cons (Operator.tokenChars_ne_nil op) op.blank_not_mem_tokenChars hoccurs)
  field := by
    rw [h.trimChars_left]
    exact h.field_ne_nil
  value := by
    rw [h.trimChars_right]
    exact h.value_ne_nil

end

/-- The trimmed sides of a cut fit around the operator again. -/
theorem Parts.fits {line left right : List Char} {op : Operator} (h : Parts line left op right) :
    Fits (trimChars left) op (trimChars right) where
  field_ne_nil := h.field
  trimChars_field := Text.trimChars_trimChars left
  plain c hc := h.plain c ((Text.trimChars_occurs left).mem hc)
  value_ne_nil := h.value
  trimChars_value := Text.trimChars_trimChars right
  once hoccurs := h.once (hoccurs.trans (Text.trimChars_occurs right))

def line (field : String) (op : Operator) (value : String) : String :=
  field ++ " " ++ op.token ++ " " ++ value

theorem toList_line {field : String} {op : Operator} {value : String} :
    (line field op value).toList = lineChars field.toList op value.toList := by
  simp [line, lineChars, Operator.tokenChars]

theorem parse_line {field : String} {op : Operator} {value : String}
    (h : Fits field.toList op value.toList) :
    parse (line field op value) = .ok ⟨field, op, Value.ofRaw value⟩ := by
  refine parse_eq_ok_iff.2 ⟨field.toList ++ [' '], op, ' ' :: value.toList, ?_, ?_⟩
  · rw [toList_line, h.trimChars_lineChars]
    exact h.parts
  · rw [ofParts, h.trimChars_left, h.trimChars_right, String.ofList_toList]
    rfl

/-- The characters are some, and none of them is blank or starts a token. -/
structure Word (cs : List Char) : Prop where
  nonempty : cs ≠ []
  dark : ∀ c ∈ cs, isBlank c = false
  plain : ∀ c ∈ cs, c ∉ startChars

theorem word_iff {cs : List Char} :
    Word cs ↔ cs ≠ [] ∧ (cs.all fun c => !isBlank c) = true ∧ cs.all (· ∉ startChars) = true := by
  simp only [List.all_eq_true, Bool.not_eq_true', decide_eq_true_eq]
  exact ⟨fun h => ⟨h.nonempty, h.dark, h.plain⟩, fun h => ⟨h.1, h.2.1, h.2.2⟩⟩

instance (cs : List Char) : Decidable (Word cs) := decidable_of_iff _ word_iff.symm

theorem Word.trimChars {cs : List Char} (h : Word cs) : trimChars cs = cs :=
  Text.trimChars_eq_self (fun c hc => h.dark c (List.mem_of_mem_head? hc))
    fun c hc => h.dark c (List.mem_of_mem_getLast? hc)

theorem Word.comparison {cs : List Char} (h : Word cs) : ∀ c ∈ cs, c ∉ comparisonChars :=
  fun c hc hcomparison => h.plain c hc (Operator.mem_startChars_of_mem_comparisonChars hcomparison)

theorem Word.fits {field value : List Char} (hfield : Word field) (hvalue : Word value)
    (op : Operator) : Fits field op value where
  field_ne_nil := hfield.nonempty
  trimChars_field := hfield.trimChars
  plain := hfield.comparison
  value_ne_nil := hvalue.nonempty
  trimChars_value := hvalue.trimChars
  once := Operator.not_occurs_of_forall hvalue.comparison

theorem newline_not_mem_lineChars {field value : List Char} (hfield : Word field)
    (hvalue : Word value) (op : Operator) : '\n' ∉ lineChars field op value := by
  have hnewline {cs : List Char} (h : Word cs) : '\n' ∉ cs := fun hmem =>
    absurd (h.dark _ hmem) (by decide)
  have htoken : '\n' ∉ op.tokenChars := by cases op <;> decide
  simp [lineChars, hnewline hfield, hnewline hvalue, htoken]

theorem ruleLines_line {field value : String} (hfield : Word field.toList)
    (hvalue : Word value.toList) (op : Operator) :
    ruleLines (line field op value) = [line field op value] := by
  apply Text.ruleLines_eq_singleton
  · rw [toList_line]
    exact newline_not_mem_lineChars hfield hvalue op
  · rw [toList_line, (hfield.fits hvalue op).trimChars_lineChars]
  · rw [toList_line]
    simp [lineChars]

end Condition

namespace RuleSet

open Text (ruleLines)

/-- A text of one line is accepted when the line is a condition that compiles, and selects
the records of which it holds. -/
theorem exists_ofText_of_line {text : String} {c : Condition} {g : Filter}
    (hline : ruleLines text = [text]) (hbytes : text.utf8ByteSize ≤ lineByteLimit)
    (hparse : Condition.parse text = .ok c) (hcompile : c.compile = .ok g) :
    ∃ rules, ofText text = .ok rules ∧ ∀ r, rules.filter.Selects r ↔ c.Holds r := by
  have hread : readLine text = .ok c := by
    rw [readLine, if_neg (Nat.not_lt.2 hbytes), hparse]
  have hfits : Fits text := ⟨hbytes.trans (by decide), by simp [hline, conditionLimit]⟩
  have haccepted : ∀ line ∈ ruleLines text, LineAccepted line := by
    rw [hline, List.forall_mem_singleton]
    exact ⟨c, g, hread, hcompile⟩
  obtain ⟨rules, hrules⟩ := exists_ofText_iff.2 ⟨by simp [hline], hfits, haccepted⟩
  refine ⟨rules, hrules, fun r => ?_⟩
  rw [selects_ofText hrules, hline, List.forall_mem_singleton,
    ← Condition.selects_iff_holds hcompile, LineSelects]
  simp [hread]

end RuleSet

end CatalogRules
