import CatalogRules.Proofs.Rule.Literal

/-!
Conditions as they are shown. The value of a raw text is shown as a text with this value,
in which the token of the operator is no more than it was in the raw text. So a condition
that was read from a line is shown as a line from which it is read again.
-/

namespace CatalogRules

namespace Value

theorem occurs_of_unquote? {raw cs : List Char} (h : unquote? raw = some cs) : cs <:+: raw := by
  cases raw with
  | nil => cases h
  | cons quote rest =>
      rw [unquote?, Option.ite_none_right_eq_some] at h
      obtain ⟨-, ⟨⟩⟩ := h
      exact (List.dropLast_prefix rest).isInfix.trans (List.suffix_cons quote rest).isInfix

theorem ofChars_cases (raw : List Char) :
    (∃ b, ofChars raw = .boolean b) ∨
      (∃ x : Binary64, x.isFinite = true ∧ ofChars raw = .number x) ∨
      ∃ cs, cs <:+: raw ∧ ofChars raw = .text (String.ofList cs) := by
  unfold ofChars
  split
  · rename_i inner hinner
    exact .inr (.inr ⟨inner, occurs_of_unquote? hinner, rfl⟩)
  · split_ifs
    · exact .inl ⟨true, rfl⟩
    · exact .inl ⟨false, rfl⟩
    · split
      · rename_i x hx
        exact .inr (.inl ⟨x, Binary64.isFinite_of_ofLiteral? hx, rfl⟩)
      · exact .inr (.inr ⟨raw, List.infix_rfl, rfl⟩)

theorem ofRaw_display_boolean (b : Bool) : ofRaw (boolean b).display = .boolean b := by
  cases b <;> decide +kernel

theorem ofRaw_display_number {x : Binary64} (h : x.isFinite = true) :
    ofRaw (number x).display = .number x := by
  rw [ofRaw, display, Binary64.plainText, String.toList_ofList]
  exact ofChars_of_ofLiteral? (Binary64.ofLiteral?_write h)

/-- Numbers and booleans are compared by a text that is read as them. -/
theorem ofRaw_canonical {v : Value} (htext : v.asText? = none)
    (hfinite : ∀ x, v = .number x → x.isFinite = true) : ofRaw v.canonical = v := by
  cases v with
  | boolean b => exact ofRaw_display_boolean b
  | number x => exact ofRaw_display_number (hfinite x rfl)
  | text s => cases htext

example : (ofRaw "2e1").canonical = "20" := by decide +kernel

theorem toList_display_text (s : String) :
    (text s).display.toList = '"' :: (s.toList ++ ['"']) := by
  simp [display]

theorem ofRaw_display_text (s : String) : ofRaw (text s).display = .text s := by
  have hunquote : unquote? ('"' :: (s.toList ++ ['"'])) = some s.toList := by simp [unquote?]
  rw [ofRaw, toList_display_text, ofChars, hunquote]
  exact congrArg text String.ofList_toList

theorem ofRaw_display (raw : List Char) : ofRaw (ofChars raw).display = ofChars raw := by
  rcases ofChars_cases raw with ⟨b, h⟩ | ⟨x, hx, h⟩ | ⟨cs, -, h⟩ <;> rw [h]
  · exact ofRaw_display_boolean b
  · exact ofRaw_display_number hx
  · exact ofRaw_display_text _

end Value

namespace Condition

open Text (trimChars)

variable {field raw : List Char} {op : Operator}

theorem Fits.of_word (h : Fits field op raw) {value : List Char} (hvalue : Word value) :
    Fits field op value :=
  { h with
    value_ne_nil := hvalue.nonempty
    trimChars_value := hvalue.trimChars
    once := Operator.not_occurs_of_forall hvalue.comparison }

/-- Quotes neither hide blanks at the ends nor make up a token. -/
theorem Fits.quoted (h : Fits field op raw) {cs : List Char} (hcs : cs <:+: raw) :
    Fits field op ('"' :: (cs ++ ['"'])) := by
  have hdark : Text.isBlank '"' = false := by decide
  have hquote : '"' ∉ op.tokenChars := by cases op <;> decide
  have hne := Operator.tokenChars_ne_nil op
  refine { h with value_ne_nil := List.cons_ne_nil _ _, trimChars_value := ?_, once := ?_ }
  · apply Text.trimChars_eq_self
    · simp [hdark]
    · rw [← List.cons_append, List.getLast?_concat]
      simp [hdark]
  · intro hoccurs
    have hinner := occurs_of_occurs_concat hne hquote (occurs_of_occurs_cons hne hquote hoccurs)
    exact h.once (hinner.trans hcs)

theorem Fits.display (h : Fits field op raw) :
    Fits field op (Value.ofChars raw).display.toList := by
  rcases Value.ofChars_cases raw with ⟨b, hvalue⟩ | ⟨x, hx, hvalue⟩ | ⟨cs, hcs, hvalue⟩ <;>
    rw [hvalue]
  · exact h.of_word (by cases b <;> decide +kernel)
  · obtain ⟨d, hread⟩ := Binary64.exists_read?_of_ofLiteral? (Binary64.ofLiteral?_write hx)
    rw [Value.display, Binary64.plainText, String.toList_ofList]
    exact h.of_word (Decimal.word_of_read? hread)
  · rw [Value.toList_display_text, String.toList_ofList]
    exact h.quoted hcs

/-- A condition that was read is shown as a line from which it is read again: the same
field, the same spelling of the operator, and a value of the same type. -/
theorem parse_display {line : String} {c : Condition} (h : parse line = .ok c) :
    parse c.display = .ok c := by
  obtain ⟨left, op, right, hparts, rfl⟩ := parse_eq_ok_iff.1 h
  have hfits : Fits (String.ofList (trimChars left)).toList op
      (Value.ofChars (trimChars right)).display.toList := by
    rw [String.toList_ofList]
    exact hparts.fits.display
  have hline := parse_line hfits
  rw [Value.ofRaw_display] at hline
  exact hline

/-- Neither the mark in the field nor the sign of zero is lost. -/
theorem parse_display_negative_zero :
    parse "note! >= -.0e7" = .ok ⟨"note!", .greaterOrEqual, .number (.finite true 0)⟩ ∧
      parse (⟨"note!", .greaterOrEqual, .number (.finite true 0)⟩ : Condition).display =
        .ok ⟨"note!", .greaterOrEqual, .number (.finite true 0)⟩ := by
  have hread :
      parse "note! >= -.0e7" = .ok ⟨"note!", .greaterOrEqual, .number (.finite true 0)⟩ := by
    decide +kernel
  exact ⟨hread, parse_display hread⟩

end Condition

end CatalogRules
