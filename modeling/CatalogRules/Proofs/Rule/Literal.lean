import CatalogRules.Proofs.Number.PlainText
import CatalogRules.Proofs.Rule.Line

/-!
Literals as the values of conditions. A literal with a finite number is a word, and its
value is the number. An integer in decimal digits is a literal, and the number it stands
for is the one nearest to the integer; so a line with a numeric field and an integer is a
rule text.
-/

namespace CatalogRules

namespace Decimal

def isLiteralChar (c : Char) : Bool := c.isDigit || c ∈ ['+', '-', '.', 'e', 'E']

theorem isLiteralChar_of_isDigit {c : Char} (h : c.isDigit = true) : isLiteralChar c = true := by
  simp [isLiteralChar, h]

theorem isLiteralChar_cases {c : Char} (h : isLiteralChar c = true) :
    c.isDigit = true ∨ c ∈ ['+', '-', '.', 'e', 'E'] := by
  simpa [isLiteralChar] using h

variable {cs : List Char}

theorem all_of_takeSign (h : ∀ c ∈ (takeSign cs).2, isLiteralChar c = true) :
    ∀ c ∈ cs, isLiteralChar c = true := by
  unfold takeSign at h
  split at h
  · exact List.forall_mem_cons.2 ⟨rfl, h⟩
  · exact List.forall_mem_cons.2 ⟨rfl, h⟩
  · exact h

theorem all_of_span (h : ∀ c ∈ (cs.span Char.isDigit).2, isLiteralChar c = true) :
    ∀ c ∈ cs, isLiteralChar c = true := by
  rw [List.span_eq_takeWhile_dropWhile] at h
  rw [← List.takeWhile_append_dropWhile (p := Char.isDigit) (l := cs), List.forall_mem_append]
  exact ⟨fun c hc => isLiteralChar_of_isDigit (List.mem_takeWhile_imp hc), h⟩

theorem all_of_takeFraction (h : ∀ c ∈ (takeFraction cs).2, isLiteralChar c = true) :
    ∀ c ∈ cs, isLiteralChar c = true := by
  unfold takeFraction at h
  split at h
  · exact List.forall_mem_cons.2 ⟨rfl, all_of_span h⟩
  · exact h

theorem all_of_readExponent? {exponent : ℤ} (h : readExponent? cs = some exponent) :
    ∀ c ∈ cs, isLiteralChar c = true := by
  cases cs with
  | nil => simp
  | cons c cs =>
      simp only [readExponent?, Option.ite_none_right_eq_some, Option.ite_none_left_eq_some,
        Bool.or_eq_true, Bool.not_eq_true', not_or, Bool.not_eq_false, List.all_eq_true] at h
      obtain ⟨hc, hdigits, -⟩ := h
      refine List.forall_mem_cons.2 ⟨?_, all_of_takeSign fun d hd =>
        isLiteralChar_of_isDigit (hdigits.2 d hd)⟩
      rcases hc with rfl | rfl <;> rfl

theorem all_of_read? {d : Decimal} (h : read? cs = some d) :
    ∀ c ∈ cs, isLiteralChar c = true := by
  simp only [read?, Option.bind_eq_bind, Option.ite_none_left_eq_some,
    Option.bind_eq_some_iff] at h
  obtain ⟨-, exponent, hexponent, -⟩ := h
  exact all_of_takeSign (all_of_span (all_of_takeFraction (all_of_readExponent? hexponent)))

theorem isBlank_of_isLiteralChar {c : Char} (h : isLiteralChar c = true) :
    Text.isBlank c = false := by
  rcases isLiteralChar_cases h with hdigit | hmem
  · have hc := Text.toNat_of_isDigit hdigit
    simp only [Text.isBlank, Bool.or_eq_false_iff, Bool.and_eq_false_iff,
      decide_eq_false_iff_not, beq_eq_false_iff_ne, ne_eq]
    omega
  · simp only [List.mem_cons, List.not_mem_nil, or_false] at hmem
    rcases hmem with rfl | rfl | rfl | rfl | rfl <;> decide

theorem not_mem_startChars_of_isLiteralChar {c : Char} (h : isLiteralChar c = true) :
    c ∉ Operator.startChars := by
  simp only [Operator.startChars, List.mem_cons, List.not_mem_nil, or_false]
  rintro (rfl | rfl | rfl | rfl) <;> cases h

theorem word_of_read? {d : Decimal} (h : read? cs = some d) : Condition.Word cs where
  nonempty := by
    rintro rfl
    cases h
  dark c hc := isBlank_of_isLiteralChar (all_of_read? h c hc)
  plain c hc := not_mem_startChars_of_isLiteralChar (all_of_read? h c hc)

end Decimal

open Binary64 (ofInt ofLiteral?)

theorem Binary64.exists_read?_of_ofLiteral? {cs : List Char} {x : Binary64}
    (h : ofLiteral? cs = some x) : ∃ d, Decimal.read? cs = some d := by
  rw [ofLiteral?, Option.bind_eq_bind, Option.bind_eq_some_iff] at h
  obtain ⟨d, hread, -⟩ := h
  exact ⟨d, hread⟩

theorem Binary64.isFinite_of_ofLiteral? {cs : List Char} {x : Binary64}
    (h : ofLiteral? cs = some x) : x.isFinite = true := by
  rw [ofLiteral?, Option.bind_eq_bind, Option.bind_eq_some_iff] at h
  obtain ⟨d, -, hvalue⟩ := h
  rw [Option.ite_none_right_eq_some] at hvalue
  obtain ⟨hfinite, hx⟩ := hvalue
  exact Option.some.inj hx ▸ hfinite

namespace Value

theorem toLower_of_isDigit {c : Char} (h : c.isDigit = true) : c.toLower = c := by
  simp only [Char.isDigit, Bool.and_eq_true, decide_eq_true_eq] at h
  have hupper : ¬(c.val ≥ 'A'.val ∧ c.val ≤ 'Z'.val) := by
    intro hc
    exact absurd (UInt32.le_trans hc.1 h.2) (by decide)
  rw [Char.toLower, dif_neg hupper]

/-- The name of a boolean does not start like a literal. -/
theorem toLower_of_isLiteralChar {c : Char} (h : Decimal.isLiteralChar c = true) :
    c.toLower ≠ 't' ∧ c.toLower ≠ 'f' := by
  rcases Decimal.isLiteralChar_cases h with hdigit | hmem
  · rw [toLower_of_isDigit hdigit]
    constructor <;> rintro rfl <;> cases hdigit
  · simp only [List.mem_cons, List.not_mem_nil, or_false] at hmem
    rcases hmem with rfl | rfl | rfl | rfl | rfl <;> decide

/-- A literal is neither in quotes nor the name of a boolean, so its value is a number. -/
theorem ofChars_of_ofLiteral? {cs : List Char} {x : Binary64} (h : ofLiteral? cs = some x) :
    ofChars cs = .number x := by
  obtain ⟨d, hread⟩ := Binary64.exists_read?_of_ofLiteral? h
  obtain ⟨c, rest, hcs⟩ := List.exists_cons_of_ne_nil (Decimal.word_of_read? hread).nonempty
  have hc : Decimal.isLiteralChar c = true :=
    Decimal.all_of_read? hread c (hcs ▸ List.mem_cons_self)
  have hquote : unquote? cs = none := by
    have hne : ¬(c = '"' ∨ c = '\'') := by rintro (rfl | rfl) <;> cases hc
    rw [hcs, unquote?, if_neg fun h => hne h.1]
  have hlower (d : Char) (ds : List Char) (hd : c.toLower ≠ d) : lowerAscii cs ≠ d :: ds := by
    rw [hcs, lowerAscii, List.map_cons, ne_eq, List.cons.injEq, not_and]
    exact fun heq => absurd heq hd
  obtain ⟨ht, hf⟩ := toLower_of_isLiteralChar hc
  simp only [ofChars, hquote, if_neg (hlower 't' _ ht), if_neg (hlower 'f' _ hf), h]

end Value

theorem toList_toString_int (i : ℤ) :
    (toString i).toList = (if i < 0 then ['-'] else []) ++ Nat.toDigits 10 i.natAbs := by
  cases i with
  | ofNat n =>
      have hnonneg : ¬Int.ofNat n < 0 := by simp
      rw [if_neg hnonneg]
      exact Nat.toList_repr
  | negSucc n =>
      rw [if_pos (Int.negSucc_lt_zero n)]
      change ("-" ++ Nat.repr (n + 1)).toList = _
      rw [String.toList_append, Nat.toList_repr]
      rfl

namespace Decimal

theorem read?_toString_int (i : ℤ) :
    read? (toString i).toList = some ⟨i < 0, i.natAbs, 0⟩ := by
  obtain ⟨d, ds, hdigits, hd, -⟩ := Text.exists_toDigits_eq_cons i.natAbs
  have hsign : takeSign (toString i).toList = (decide (i < 0), Nat.toDigits 10 i.natAbs) := by
    rw [toList_toString_int]
    split
    · rename_i hneg
      simp [takeSign, hneg]
    · rename_i hnonneg
      rw [List.nil_append, hdigits, takeSign_of_isDigit hd]
      simp [hnonneg]
  have hspan : (Nat.toDigits 10 i.natAbs).span Char.isDigit = (Nat.toDigits 10 i.natAbs, []) := by
    have happend := @Text.span_isDigit_toDigits [] i.natAbs (by simp)
    rwa [List.append_nil] at happend
  have hvalue : Text.digitsValue (Nat.toDigits 10 i.natAbs ++ []) = i.natAbs := by
    rw [List.append_nil, Text.digitsValue_toDigits]
  have hnonempty : (Nat.toDigits 10 i.natAbs).isEmpty = false := by rw [hdigits]; rfl
  simp only [read?, hsign, hspan, takeFraction, hnonempty, hvalue, readExponent?_nil]
  rfl

theorem toBinary64_of_exponent_zero (i : ℤ) : toBinary64 ⟨i < 0, i.natAbs, 0⟩ = .ofInt i := by
  rw [toBinary64_eq_nearest, num, den, Int.neg_zero, Int.toNat_zero, pow10_zero, Nat.mul_one,
    Binary64.ofInt]

end Decimal

variable {i : ℤ}

theorem ofLiteral?_toString_int (h : i.natAbs ≤ 2 ^ 64) :
    ofLiteral? (toString i).toList = some (ofInt i) := by
  have hfinite : (ofInt i).isFinite = true := by rw [Binary64.ofInt_eq_finite h]; rfl
  rw [ofLiteral?, Decimal.read?_toString_int]
  simp only [Option.bind_eq_bind, Option.bind_some, Decimal.toBinary64_of_exponent_zero, hfinite,
    if_true]

theorem Value.ofRaw_toString_int (h : i.natAbs ≤ 2 ^ 64) :
    ofRaw (toString i) = .number (ofInt i) :=
  ofChars_of_ofLiteral? (ofLiteral?_toString_int h)

theorem word_toString_int (i : ℤ) : Condition.Word (toString i).toList :=
  Decimal.word_of_read? (Decimal.read?_toString_int i)

theorem word_name (f : Field) : Condition.Word f.name.toList := by
  cases f <;> decide +kernel

theorem utf8ByteSize_le (s : String) : s.utf8ByteSize ≤ 4 * s.toList.length := by
  have hchars (cs : List Char) : String.utf8Len cs ≤ 4 * cs.length := by
    induction cs with
    | nil => rfl
    | cons c cs ih =>
        have hc := c.utf8Size_le_four
        rw [String.utf8Len_cons, List.length_cons]
        omega
  have hlist := hchars s.toList
  rwa [← String.utf8ByteSize_ofList, String.ofList_toList] at hlist

theorem length_toString_int (h : i.natAbs ≤ 2 ^ 64) : (toString i).toList.length ≤ 21 := by
  have hdigits : (Nat.toDigits 10 i.natAbs).length ≤ 20 :=
    (Nat.length_toDigits_le_iff (by decide) (by decide)).2 (by omega)
  rw [toList_toString_int, List.length_append]
  split <;> simp <;> omega

theorem utf8ByteSize_integerLine (f : Field) (op : Operator) (h : i.natAbs ≤ 2 ^ 64) :
    (Condition.line f.name op (toString i)).utf8ByteSize ≤ RuleSet.lineByteLimit := by
  have hsize := utf8ByteSize_le (Condition.line f.name op (toString i))
  have hname : f.name.toList.length ≤ 14 := by cases f <;> decide +kernel
  have htoken : op.tokenChars.length ≤ 2 := by cases op <;> decide
  have hinteger := length_toString_int h
  rw [Condition.toList_line, Condition.lineChars] at hsize
  simp only [List.length_append, List.length_cons] at hsize
  simp only [RuleSet.lineByteLimit]
  omega

namespace RuleSet

/-- A numeric field, an operator and an integer make a rule text, which selects the records
of which the condition on the number nearest to the integer holds. -/
theorem exists_ofText_integer {f : Field} (hf : f.type = .integer ∨ f.type = .number)
    (op : Operator) (h : i.natAbs ≤ 2 ^ 64) :
    ∃ rules, ofText (Condition.line f.name op (toString i)) = .ok rules ∧
      ∀ r, rules.filter.Selects r ↔ (⟨f.name, op, .number (ofInt i)⟩ : Condition).HoldsOn r f := by
  have hparse := Condition.parse_line ((word_name f).fits (word_toString_int i) op)
  rw [Value.ofRaw_toString_int h] at hparse
  have hop : op ∈ f.operators := by
    rcases hf with hf | hf <;> cases op <;> simp [Field.operators, hf, Field.rangeOperators]
  have hcompile := Condition.compile_of_compiled (c := ⟨f.name, op, .number (ofInt i)⟩) rfl hop
    (.number hf rfl)
  obtain ⟨rules, hrules, hselects⟩ := exists_ofText_of_line
    (Condition.ruleLines_line (word_name f) (word_toString_int i) op)
    (utf8ByteSize_integerLine f op h) hparse hcompile
  refine ⟨rules, hrules, fun r => (hselects r).trans ?_⟩
  constructor
  · rintro ⟨f', hname, hholds⟩
    rwa [Field.name_injective hname]
  · exact fun hholds => ⟨f, rfl, hholds⟩

end RuleSet

end CatalogRules
