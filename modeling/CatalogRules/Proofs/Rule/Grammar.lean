import CatalogRules.Proofs.Rule.Token

/-!
The grammar of condition lines. A line is a condition when its first operator occurs once
and something that is not blank stands on both sides of it. There is one way to cut a line
like that, and every other line is refused for one reason.
-/

namespace CatalogRules.Condition

open Operator (comparisonChars)
open Text (trimChars)

structure Plain (line : List Char) : Prop where
  nonempty : line ≠ []
  plain : ∀ c ∈ line, c ∉ comparisonChars

/-- The line is cut at its first operator, whose token does not occur again. -/
structure Cut (line left : List Char) (op : Operator) (right : List Char) : Prop
    extends FirstOperator line left op right where
  once : ¬op.tokenChars <:+: right

structure Parts (line left : List Char) (op : Operator) (right : List Char) : Prop
    extends Cut line left op right where
  field : trimChars left ≠ []
  value : trimChars right ≠ []

def ofParts (left : List Char) (op : Operator) (right : List Char) : Condition :=
  ⟨String.ofList (trimChars left), op, Value.ofChars (trimChars right)⟩

inductive Reads (line : List Char) : Except ParseError Condition → Prop
  | blank : line = [] → Reads line (.error (.malformed (String.ofList line) .blank))
  | noOperator : Plain line → Reads line (.error (.noOperator (String.ofList line)))
  | repeatedOperator {left right : List Char} {op : Operator} {count : ℕ} :
      FirstOperator line left op right → op.tokenChars <:+: right →
      IsGreatest {n | HasOccurrences op.tokenChars line n} count →
      Reads line (.error (.malformed (String.ofList line) (.repeatedOperator op count)))
  | missingField {left right : List Char} {op : Operator} :
      Cut line left op right → trimChars left = [] →
      Reads line (.error (.malformed (String.ofList line) .missingField))
  | missingValue {left right : List Char} {op : Operator} :
      Cut line left op right → trimChars left ≠ [] → trimChars right = [] →
      Reads line (.error (.malformed (String.ofList line) .missingValue))
  | condition {left right : List Char} {op : Operator} :
      Parts line left op right → Reads line (.ok (ofParts left op right))

section

variable {line left right : List Char} {op : Operator}

theorem FirstOperator.ne_nil (h : FirstOperator line left op right) : line ≠ [] := by
  simp [h.line_eq, Operator.tokenChars_ne_nil]

theorem ofTrimmed_of_plain (h : Plain line) :
    ofTrimmed line = .error (.noOperator (String.ofList line)) := by
  have hempty : line.isEmpty = false := List.isEmpty_eq_false_iff.2 h.nonempty
  simp [ofTrimmed, hempty, Operator.first?_eq_none_iff.2 h.plain]

theorem ofTrimmed_of_repeated (h : FirstOperator line left op right)
    (hagain : op.tokenChars <:+: right) :
    ofTrimmed line = .error (.malformed (String.ofList line)
      (.repeatedOperator op ((splitOnToken op.tokenChars 0 line).length - 1))) := by
  have hempty : line.isEmpty = false := List.isEmpty_eq_false_iff.2 h.ne_nil
  have htwo := two_le_length_splitOnToken (Operator.tokenChars_ne_nil op) hagain
  obtain ⟨p, q, pieces, hright⟩ : ∃ p q pieces,
      splitOnToken op.tokenChars 0 right = p :: q :: pieces := by
    match splitOnToken op.tokenChars 0 right, htwo with
    | p :: q :: pieces, _ => exact ⟨p, q, pieces, rfl⟩
  simp [ofTrimmed, hempty, h.first?_eq, h.splitOnToken_eq, hright]

theorem ofTrimmed_of_cut (h : Cut line left op right) :
    ofTrimmed line =
      if trimChars left = [] then .error (.malformed (String.ofList line) .missingField)
      else if trimChars right = [] then .error (.malformed (String.ofList line) .missingValue)
      else .ok (ofParts left op right) := by
  have hempty : line.isEmpty = false := List.isEmpty_eq_false_iff.2 h.ne_nil
  simp [ofTrimmed, hempty, h.first?_eq, h.splitOnToken_eq, splitOnToken_of_not_occurs h.once,
    ofParts]

/-- A line has no operator, or the token of its first one occurs again, or it is cut at it. -/
theorem plain_or_repeated_or_cut (line : List Char) :
    (∀ c ∈ line, c ∉ comparisonChars) ∨ ∃ left op right,
      (FirstOperator line left op right ∧ op.tokenChars <:+: right) ∨ Cut line left op right := by
  cases hfirst : Operator.first? line with
  | none => exact .inl (Operator.first?_eq_none_iff.1 hfirst)
  | some op =>
      obtain ⟨left, right, h⟩ := exists_firstOperator hfirst
      refine .inr ⟨left, op, right, ?_⟩
      by_cases hagain : op.tokenChars <:+: right
      · exact .inl ⟨h, hagain⟩
      · exact .inr ⟨h, hagain⟩

theorem reads_ofTrimmed (line : List Char) : Reads line (ofTrimmed line) := by
  by_cases hnil : line = []
  · subst hnil
    exact .blank rfl
  rcases plain_or_repeated_or_cut line with hplain | ⟨left, op, right, ⟨h, hagain⟩ | h⟩
  · rw [ofTrimmed_of_plain ⟨hnil, hplain⟩]
    exact .noOperator ⟨hnil, hplain⟩
  · rw [ofTrimmed_of_repeated h hagain]
    exact .repeatedOperator h hagain (isGreatest_occurrences (Operator.tokenChars_ne_nil op) line)
  · rw [ofTrimmed_of_cut h]
    split_ifs with hfield hvalue
    · exact .missingField h hfield
    · exact .missingValue h hfield hvalue
    · exact .condition ⟨h, hfield, hvalue⟩

theorem Reads.eq_ofTrimmed {result : Except ParseError Condition} (h : Reads line result) :
    result = ofTrimmed line := by
  cases h with
  | blank hnil => simp [hnil, ofTrimmed]
  | noOperator hplain => rw [ofTrimmed_of_plain hplain]
  | @repeatedOperator _ _ op _ hfirst hagain hcount =>
      rw [ofTrimmed_of_repeated hfirst hagain,
        hcount.unique (isGreatest_occurrences (Operator.tokenChars_ne_nil op) line)]
  | missingField hcut hfield => rw [ofTrimmed_of_cut hcut, if_pos hfield]
  | missingValue hcut hfield hvalue => rw [ofTrimmed_of_cut hcut, if_neg hfield, if_pos hvalue]
  | condition h => rw [ofTrimmed_of_cut h.toCut, if_neg h.field, if_neg h.value]

theorem FirstOperator.two_le_count (h : FirstOperator line left op right)
    (hagain : op.tokenChars <:+: right) {count : ℕ}
    (hcount : IsGreatest {n | HasOccurrences op.tokenChars line n} count) : 2 ≤ count := by
  obtain ⟨middle, after, rfl⟩ := hagain
  refine hcount.2 ⟨[left, middle, after], rfl, ?_⟩
  simp [h.line_eq, List.intercalate_cons_cons]

end

variable {line shown : String}

theorem parse_eq_iff {result : Except ParseError Condition} :
    parse line = result ↔ Reads (trimChars line.toList) result := by
  constructor
  · rintro rfl
    exact reads_ofTrimmed _
  · exact fun h => h.eq_ofTrimmed.symm

theorem parse_eq_noOperator_iff :
    parse line = .error (.noOperator shown) ↔
      shown = String.ofList (trimChars line.toList) ∧ Plain (trimChars line.toList) := by
  rw [parse_eq_iff]
  constructor
  · intro h
    cases h with
    | noOperator hplain => exact ⟨rfl, hplain⟩
  · rintro ⟨rfl, hplain⟩
    exact .noOperator hplain

theorem parse_eq_ok_iff {c : Condition} :
    parse line = .ok c ↔
      ∃ left op right, Parts (trimChars line.toList) left op right ∧ c = ofParts left op right := by
  rw [parse_eq_iff]
  constructor
  · intro h
    cases h with
    | condition hparts => exact ⟨_, _, _, hparts, rfl⟩
  · rintro ⟨left, op, right, hparts, rfl⟩
    exact .condition hparts

theorem exists_parse_eq_malformed_iff :
    (∃ reason, parse line = .error (.malformed shown reason)) ↔
      shown = String.ofList (trimChars line.toList) ∧ ¬Plain (trimChars line.toList) ∧
        ¬∃ left op right, Parts (trimChars line.toList) left op right := by
  constructor
  · rintro ⟨reason, h⟩
    refine ⟨?_, fun hplain => ?_, ?_⟩
    · cases parse_eq_iff.1 h <;> rfl
    · rw [parse_eq_noOperator_iff.2 ⟨rfl, hplain⟩] at h
      cases h
    · rintro ⟨left, op, right, hparts⟩
      rw [parse_eq_ok_iff.2 ⟨left, op, right, hparts, rfl⟩] at h
      cases h
  · rintro ⟨rfl, hplain, hparts⟩
    cases hresult : parse line with
    | ok c =>
        obtain ⟨left, op, right, h, -⟩ := parse_eq_ok_iff.1 hresult
        exact absurd ⟨left, op, right, h⟩ hparts
    | error e =>
        cases e with
        | noOperator shown => exact absurd (parse_eq_noOperator_iff.1 hresult).2 hplain
        | malformed shown reason =>
            obtain rfl : shown = String.ofList (trimChars line.toList) := by
              cases parse_eq_iff.1 hresult <;> rfl
            exact ⟨reason, rfl⟩

theorem parse_eq_repeated_iff {op : Operator} {count : ℕ} :
    parse line = .error (.malformed shown (.repeatedOperator op count)) ↔
      shown = String.ofList (trimChars line.toList) ∧
        (∃ left right, FirstOperator (trimChars line.toList) left op right ∧
          op.tokenChars <:+: right) ∧
        IsGreatest {n | HasOccurrences op.tokenChars (trimChars line.toList) n} count ∧
        2 ≤ count := by
  rw [parse_eq_iff]
  constructor
  · intro h
    cases h with
    | repeatedOperator hfirst hagain hcount =>
        exact ⟨rfl, ⟨_, _, hfirst, hagain⟩, hcount, hfirst.two_le_count hagain hcount⟩
  · rintro ⟨rfl, ⟨left, right, hfirst, hagain⟩, hcount, -⟩
    exact .repeatedOperator hfirst hagain hcount

/-- A line is a condition exactly if it can be cut in two at its first operator, with a
token that does not occur again and something that is not blank on both sides. It can be
cut like that in one way at most, and the condition is made of the parts of the cut. A
line without comparison characters has no operator, and every other line is malformed; a
token that occurs again is counted as often as it occurs without overlap. -/
theorem parse_by_grammar (line : String) :
    let t := trimChars line.toList
    (∀ shown, parse line = .error (.noOperator shown) ↔ shown = String.ofList t ∧ Plain t) ∧
    (∀ c, parse line = .ok c ↔
      ∃ left op right, Parts t left op right ∧ c = ofParts left op right) ∧
    {parts : List Char × Operator × List Char |
      Parts t parts.1 parts.2.1 parts.2.2}.Subsingleton ∧
    (∀ left op right, FirstOperator t left op right ↔
      t = left ++ (op.tokenChars ++ right) ∧ op.Heads (op.tokenChars ++ right) ∧
        ∀ place < left.length, ∀ op' : Operator, ¬op'.tokenChars <+: t.drop place) ∧
    (∀ shown, (∃ reason, parse line = .error (.malformed shown reason)) ↔
      shown = String.ofList t ∧ ¬Plain t ∧ ¬∃ left op right, Parts t left op right) ∧
    ∀ shown op count, parse line = .error (.malformed shown (.repeatedOperator op count)) ↔
      shown = String.ofList t ∧
        (∃ left right, FirstOperator t left op right ∧ op.tokenChars <:+: right) ∧
        IsGreatest {n | HasOccurrences op.tokenChars t n} count ∧ 2 ≤ count := by
  refine ⟨fun shown => parse_eq_noOperator_iff, fun c => parse_eq_ok_iff, ?_,
    fun left op right => firstOperator_iff, fun shown => exists_parse_eq_malformed_iff,
    fun shown op count => parse_eq_repeated_iff⟩
  rintro ⟨left, op, right⟩ h ⟨left', op', right'⟩ h'
  obtain ⟨rfl, rfl, rfl⟩ := h.toFirstOperator.unique h'.toFirstOperator
  rfl

/-- Occurrences that overlap are one: the second of three signs is not an operator. -/
example : parse "id === 7" = .ok ⟨"id", .doubleEqual, .text "= 7"⟩ := by decide +kernel

end CatalogRules.Condition
