import CatalogRules.Pattern.Sequence
import CatalogRules.Pattern.Meaning
import CatalogRules.Proofs.Number.Numeral
import CatalogRules.Proofs.Pattern.Occurrence

/-!
The pattern of decimal literals. It occurs in exactly the texts that are numerals from their
first to their last character. Its digits are those of all scripts, so that it admits more than
the numerals of ASCII, which are the ones with a number.
-/

namespace CatalogRules

namespace Category

/-- The table of categories begins with the characters of ASCII up to the digits. What follows
does not matter, so the rest of the table is not read. -/
theorem exists_runs : ∃ rest, runs =
    [(control, 32), (spaceSeparator, 1), (otherPunctuation, 3), (currencySymbol, 1),
      (otherPunctuation, 3), (opening, 1), (closing, 1), (otherPunctuation, 1), (mathSymbol, 1),
      (otherPunctuation, 1), (dash, 1), (otherPunctuation, 2), (decimalNumber, 10)] ++ rest := by
  obtain ⟨row, rows, htable, signs, hrow⟩ : ∃ row rows, table = row :: rows ∧
      "Z32WR3TR3NORSRMR2I10R".toList <+: row.toList := ⟨_, _, rfl, by decide⟩
  rw [runs, Runs.read, htable, List.flatMap_cons, ← hrow, List.foldr_append, List.foldr_append]
  generalize List.foldr (Runs.Partial.addSign 1) _ signs = s
  exact ⟨_, rfl⟩

theorem ofChar_of_isDigit {c : Char} (h : c.isDigit = true) : ofChar c = decimalNumber := by
  have hc := Text.toNat_of_isDigit h
  obtain ⟨rest, hruns⟩ := exists_runs
  rw [ofChar, hruns]
  generalize c.toNat = n at hc
  obtain ⟨n, rfl⟩ := Nat.exists_eq_add_of_le hc.1
  have hn : n < 10 := by omega
  interval_cases n <;> rfl

end Category

namespace Pattern

variable {p q : Pattern} {before after : Option Char} {cs : List Char} {s : CharSet}

theorem fits_optional :
    (times p 0 (some 1)).Fits before cs after ↔ cs = [] ∨ p.Fits before cs after := by
  constructor
  · rintro ⟨n, -, hn, h⟩
    have hn := hn 1 rfl
    interval_cases n
    · exact .inl h
    · obtain ⟨front, back, rfl, hfront, rfl⟩ := h
      rw [List.append_nil]
      exact .inr hfront
  · rintro (rfl | h)
    · exact ⟨0, by simp, by simp, rfl⟩
    · exact ⟨1, by simp, by simp, cs, [], (List.append_nil cs).symm, h, rfl⟩

theorem repeated_char (n : ℕ) : (char s).Fits.Repeated n before cs after ↔
    cs.length = n ∧ ∀ c ∈ cs, s.contains c = true := by
  induction n generalizing before cs with
  | zero =>
      rw [List.length_eq_zero_iff]
      constructor
      · rintro rfl
        exact ⟨rfl, by simp⟩
      · exact And.left
  | succ n ih =>
      constructor
      · rintro ⟨front, back, rfl, ⟨c, rfl, hc⟩, hback⟩
        obtain ⟨rfl, hall⟩ := ih.1 hback
        exact ⟨rfl, List.forall_mem_cons.2 ⟨hc, hall⟩⟩
      · rintro ⟨hlength, hall⟩
        obtain ⟨c, cs, rfl⟩ := List.exists_cons_of_length_eq_add_one hlength
        obtain ⟨hc, hall⟩ := List.forall_mem_cons.1 hall
        exact ⟨[c], cs, rfl, ⟨c, rfl, hc⟩, ih.2 ⟨Nat.succ.inj hlength, hall⟩⟩

theorem fits_chars (least : ℕ) : (times (char s) least none).Fits before cs after ↔
    least ≤ cs.length ∧ ∀ c ∈ cs, s.contains c = true := by
  constructor
  · rintro ⟨n, hn, -, h⟩
    obtain ⟨rfl, hall⟩ := (repeated_char n).1 h
    exact ⟨hn, hall⟩
  · rintro ⟨hlength, hall⟩
    exact ⟨cs.length, hlength, by simp, (repeated_char _).2 ⟨rfl, hall⟩⟩

theorem contains_ofList (cs : List Char) (c : Char) :
    (CharSet.ofList cs).contains c = decide (c ∈ cs) := by
  induction cs with
  | nil => exact CharSet.contains_none c
  | cons d cs ih =>
      rw [CharSet.ofList, CharSet.oneOf] at ih ⊢
      rw [List.map_cons, List.foldr_cons, CharSet.contains, ih, CharSet.contains_one]
      simp [eq_comm]

theorem fits_one (c : Char) : (char (.one c)).Fits before cs after ↔ cs = [c] := by
  simp only [Fits, CharSet.contains_one, decide_eq_true_eq]
  constructor
  · rintro ⟨d, rfl, rfl⟩
    rfl
  · rintro rfl
    exact ⟨c, rfl, rfl⟩

theorem fits_ofList (ds : List Char) :
    (char (.ofList ds)).Fits before cs after ↔ ∃ c ∈ ds, cs = [c] := by
  simp only [Fits, contains_ofList, decide_eq_true_eq, and_comm]

end Pattern

namespace Decimal

open Pattern (Fits)

variable {before after : Option Char} {cs : List Char}

def isScriptDigit (c : Char) : Bool := CharSet.digit.contains c

def signPattern : Pattern := .times (.char (.ofList ['+', '-'])) 0 (some 1)

def digitsPattern : Pattern := .times (.char .digit) 1 none

def pointPattern : Pattern := .char (.one '.')

def mantissaPattern : Pattern :=
  .choice
    (.seq digitsPattern (.times (.seq pointPattern (.times (.char .digit) 0 none)) 0 (some 1)))
    (.seq pointPattern digitsPattern)

def powerPattern : Pattern :=
  .times (.seq (.char (.ofList ['e', 'E'])) (.seq signPattern digitsPattern)) 0 (some 1)

def literalPattern : Pattern :=
  .seq (.place .textStart)
    (.seq signPattern (.seq mantissaPattern (.seq powerPattern (.place .textEnd))))

/-- The text that describes the pattern. -/
def literalPatternText : String := "^[+-]?(?:\\d+(?:\\.\\d*)?|\\.\\d+)(?:[eE][+-]?\\d+)?$"

theorem read_literalPatternText :
    (Pattern.Form.read literalPatternText >>= Pattern.ofForm).toOption = some literalPattern := by
  decide +kernel

theorem fits_signPattern : signPattern.Fits before cs after ↔ ∃ negative, Sign cs negative := by
  rw [signPattern, Pattern.fits_optional, Pattern.fits_ofList]
  constructor
  · rintro (rfl | ⟨c, hc, rfl⟩)
    · exact ⟨false, .absent⟩
    · simp only [List.mem_cons, List.not_mem_nil, or_false] at hc
      rcases hc with rfl | rfl
      · exact ⟨false, .plus⟩
      · exact ⟨true, .minus⟩
  · rintro ⟨negative, h⟩
    cases h with
    | absent => exact .inl rfl
    | plus => exact .inr ⟨'+', by simp, rfl⟩
    | minus => exact .inr ⟨'-', by simp, rfl⟩

theorem fits_digitsPattern : digitsPattern.Fits before cs after ↔ Run isScriptDigit cs := by
  rw [digitsPattern, Pattern.fits_chars, Run, Nat.succ_le_iff, List.length_pos_iff]
  rfl

theorem fits_mantissaPattern : mantissaPattern.Fits before cs after ↔
    ∃ digits places, Mantissa isScriptDigit cs digits places := by
  constructor
  · rintro (⟨ws, back, rfl, hws, hback⟩ | ⟨front, fs, rfl, hfront, hfs⟩)
    · rw [fits_digitsPattern] at hws
      rcases Pattern.fits_optional.1 hback with rfl | ⟨point, fs, rfl, hpoint, hfs⟩
      · rw [List.append_nil]
        exact ⟨_, _, .whole hws⟩
      · obtain rfl := (Pattern.fits_one '.').1 hpoint
        exact ⟨_, _, .point hws ((Pattern.fits_chars 0).1 hfs).2⟩
    · obtain rfl := (Pattern.fits_one '.').1 hfront
      exact ⟨_, _, .fraction (fits_digitsPattern.1 hfs)⟩
  · rintro ⟨digits, places, h⟩
    cases h with
    | whole h =>
        exact .inl ⟨cs, [], (List.append_nil cs).symm, fits_digitsPattern.2 h,
          Pattern.fits_optional.2 (.inl rfl)⟩
    | @point ws fs hws hfs =>
        exact .inl ⟨ws, '.' :: fs, rfl, fits_digitsPattern.2 hws,
          Pattern.fits_optional.2 (.inr ⟨['.'], fs, rfl, (Pattern.fits_one '.').2 rfl,
            (Pattern.fits_chars 0).2 ⟨Nat.zero_le _, hfs⟩⟩)⟩
    | fraction h =>
        exact .inr ⟨['.'], digits, rfl, (Pattern.fits_one '.').2 rfl, fits_digitsPattern.2 h⟩

theorem fits_powerPattern : powerPattern.Fits before cs after ↔
    ∃ power, Power isScriptDigit cs power := by
  rw [powerPattern, Pattern.fits_optional]
  constructor
  · rintro (rfl | ⟨mark, back, rfl, hmark, ss, ds, rfl, hss, hds⟩)
    · exact ⟨none, .absent⟩
    · obtain ⟨c, hc, rfl⟩ := (Pattern.fits_ofList _).1 hmark
      obtain ⟨negative, hss⟩ := fits_signPattern.1 hss
      have hpower : Power isScriptDigit (c :: (ss ++ ds)) (some (negative, ds)) :=
        .written (by simpa using hc) hss (fits_digitsPattern.1 hds)
      exact ⟨_, hpower⟩
  · rintro ⟨power, h⟩
    cases h with
    | absent => exact .inl rfl
    | @written c ss ds negative hc hss hds =>
        exact .inr ⟨[c], ss ++ ds, rfl, (Pattern.fits_ofList _).2 ⟨c, by simpa using hc, rfl⟩,
          ss, ds, rfl, fits_signPattern.2 ⟨negative, hss⟩, fits_digitsPattern.2 hds⟩

/-- The pattern fits a whole text or no part of it. -/
theorem fits_literalPattern : literalPattern.Fits before cs after ↔
    before = none ∧ after = none ∧ ∃ parts, Numeral isScriptDigit cs parts := by
  constructor
  · rintro ⟨_, _, rfl, ⟨rfl, hstart⟩, ss, _, rfl, hss, ms, _, rfl, hms, ps, _, rfl, hps, rfl, hstop⟩
    obtain ⟨negative, hss⟩ := fits_signPattern.1 hss
    obtain ⟨digits, places, hms⟩ := fits_mantissaPattern.1 hms
    obtain ⟨power, hps⟩ := fits_powerPattern.1 hps
    have hparts := Numeral.mk hss hms hps
    rw [List.append_nil]
    exact ⟨Option.isNone_iff_eq_none.1 hstart, Option.isNone_iff_eq_none.1 hstop, _, hparts⟩
  · rintro ⟨rfl, rfl, parts, h⟩
    obtain @⟨ss, ms, ps, negative, digits, places, power, hss, hms, hps⟩ := h
    exact ⟨[], _, rfl, ⟨rfl, rfl⟩, ss, _, rfl, fits_signPattern.2 ⟨negative, hss⟩, ms, ps, rfl,
      fits_mantissaPattern.2 ⟨digits, places, hms⟩, ps, [], (List.append_nil ps).symm,
      fits_powerPattern.2 ⟨power, hps⟩, rfl, rfl⟩

/-- The pattern occurs in the texts of numerals in the digits of all scripts. -/
theorem occursIn_literalPattern (s : String) : literalPattern.occursIn s = true ↔
    ∃ parts, Numeral isScriptDigit s.toList parts := by
  rw [Pattern.occursIn_iff (by decide)]
  constructor
  · rintro ⟨skipped, rest, hs, front, back, rfl, h⟩
    obtain ⟨hbefore, hafter, parts, hparts⟩ := fits_literalPattern.1 h
    rw [Option.or_none, List.getLast?_eq_none_iff] at hbefore
    rw [List.head?_eq_none_iff] at hafter
    rw [hs, hbefore, hafter, List.nil_append, List.append_nil]
    exact ⟨parts, hparts⟩
  · rintro ⟨parts, h⟩
    exact ⟨[], s.toList, rfl, s.toList, [], (List.append_nil _).symm,
      fits_literalPattern.2 ⟨rfl, rfl, parts, h⟩⟩

theorem isScriptDigit_of_isDigit {c : Char} (h : c.isDigit = true) : isScriptDigit c = true := by
  simp [isScriptDigit, CharSet.digit, CharSet.contains, Category.ofChar_of_isDigit h]

theorem Run.mono {kind kind' : Char → Bool} (hkind : ∀ c, kind c = true → kind' c = true)
    (h : Run kind cs) : Run kind' cs := ⟨h.1, fun c hc => hkind c (h.2 c hc)⟩

theorem Numeral.mono {kind kind' : Char → Bool} (hkind : ∀ c, kind c = true → kind' c = true)
    {parts : Parts} (h : Numeral kind cs parts) : Numeral kind' cs parts := by
  obtain ⟨hss, hms, hps⟩ := h
  refine .mk hss ?_ ?_
  · cases hms with
    | whole h => exact .whole (h.mono hkind)
    | point hws hfs => exact .point (hws.mono hkind) fun c hc => hkind c (hfs c hc)
    | fraction h => exact .fraction (h.mono hkind)
  · cases hps with
    | absent => exact .absent
    | written hmark hss hds => exact .written hmark hss (hds.mono hkind)

theorem occursIn_of_read? {s : String} {d : Decimal} (h : read? s.toList = some d) :
    literalPattern.occursIn s = true := by
  obtain ⟨parts, hparts, -⟩ := exists_numeral h
  exact (occursIn_literalPattern s).2 ⟨parts, hparts.mono fun c hc => isScriptDigit_of_isDigit hc⟩

end Decimal

end CatalogRules
