import CatalogRules.Proofs.Number.PlainText
import CatalogRules.Proofs.Number.Rounding
import CatalogRules.Proofs.Text.FixedWidth

/-!
The grammar of numerals: an optional sign, digits with an optional point and further digits
behind it, or a point and digits, and at the end an optional exponent with an optional sign. The
texts of this grammar in the digits of ASCII are the ones that are read, and what is read has the
written sign, digits and exponent. Only an exponent of six digits or more may be counted less than
written, which does not show in a text of ordinary length.
-/

namespace CatalogRules.Decimal

open Text (digitsValue)

/-- At least one character of a kind, and no other. -/
def Run (kind : Char → Bool) (cs : List Char) : Prop := cs ≠ [] ∧ ∀ c ∈ cs, kind c = true

inductive Sign : List Char → Bool → Prop
  | absent : Sign [] false
  | plus : Sign ['+'] false
  | minus : Sign ['-'] true

/-- A text without sign and exponent, its digits, and how many of them stand behind the point. -/
inductive Mantissa (kind : Char → Bool) : List Char → List Char → ℕ → Prop
  | whole {ds} (h : Run kind ds) : Mantissa kind ds ds 0
  | point {ws fs} (hws : Run kind ws) (hfs : ∀ c ∈ fs, kind c = true) :
      Mantissa kind (ws ++ '.' :: fs) (ws ++ fs) fs.length
  | fraction {fs} (h : Run kind fs) : Mantissa kind ('.' :: fs) fs fs.length

inductive Power (kind : Char → Bool) : List Char → Option (Bool × List Char) → Prop
  | absent : Power kind [] none
  | written {mark ss ds negative} (hmark : mark = 'e' ∨ mark = 'E') (hss : Sign ss negative)
      (hds : Run kind ds) : Power kind (mark :: (ss ++ ds)) (some (negative, ds))

structure Parts where
  negative : Bool
  digits : List Char
  /-- How many of the digits stand behind the point. -/
  places : ℕ
  power : Option (Bool × List Char)

/-- The texts of numerals in digits of a kind, with their parts. -/
inductive Numeral (kind : Char → Bool) : List Char → Parts → Prop
  | mk {ss ms ps negative digits places power} (hss : Sign ss negative)
      (hms : Mantissa kind ms digits places) (hps : Power kind ps power) :
      Numeral kind (ss ++ (ms ++ ps)) ⟨negative, digits, places, power⟩

/-- The exponent that is written, if its digits are counted in some way. -/
def exponentOf (count : List Char → ℕ) : Option (Bool × List Char) → ℤ
  | none => 0
  | some (negative, ds) => if negative then -count ds else count ds

def Parts.decimal (count : List Char → ℕ) (p : Parts) : Decimal :=
  ⟨p.negative, digitsValue p.digits, exponentOf count p.power - p.places⟩

variable {cs ss ms ps ds : List Char} {negative : Bool} {power : Option (Bool × List Char)}
  {parts : Parts} {d : Decimal}

theorem exists_sign (cs : List Char) :
    ∃ ss negative rest, cs = ss ++ rest ∧ Sign ss negative ∧ takeSign cs = (negative, rest) := by
  unfold takeSign
  split
  · exact ⟨['-'], true, _, rfl, .minus, rfl⟩
  · exact ⟨['+'], false, _, rfl, .plus, rfl⟩
  · exact ⟨[], false, _, rfl, .absent, rfl⟩

theorem takeSign_append (h : Sign ss negative) (hcs : ∀ c ∈ cs.head?, c ≠ '-' ∧ c ≠ '+') :
    takeSign (ss ++ cs) = (negative, cs) := by
  cases h with
  | plus => rfl
  | minus => rfl
  | absent =>
      cases cs with
      | nil => rfl
      | cons c cs =>
          obtain ⟨hminus, hplus⟩ := hcs c rfl
          simp [takeSign, hminus, hplus]

theorem takeSign_digits (h : Sign ss negative) (hds : Run Char.isDigit ds) (rest : List Char) :
    takeSign (ss ++ (ds ++ rest)) = (negative, ds ++ rest) := by
  apply takeSign_append h
  intro c hc
  rw [List.head?_append_of_ne_nil _ hds.1] at hc
  have hdigit := hds.2 c (List.mem_of_mem_head? hc)
  constructor <;> rintro rfl <;> cases hdigit

theorem readExponent?_of_power (h : Power Char.isDigit cs power) :
    readExponent? cs = some (exponentOf exponentValue power) := by
  cases h with
  | absent => rfl
  | @written mark ss ds negative hmark hss hds =>
      have hsign := takeSign_digits hss hds []
      rw [List.append_nil] at hsign
      have hdigits : (ds.isEmpty || !ds.all Char.isDigit) = false := by
        rw [List.isEmpty_eq_false_iff.2 hds.1, List.all_eq_true.2 hds.2]
        rfl
      simp only [readExponent?, if_pos hmark, hsign, hdigits, Bool.false_eq_true, if_false,
        exponentOf]

theorem exists_power {exponent : ℤ} (h : readExponent? cs = some exponent) :
    ∃ power, Power Char.isDigit cs power ∧ exponentOf exponentValue power = exponent := by
  cases cs with
  | nil => exact ⟨none, .absent, Option.some.inj h⟩
  | cons mark cs =>
      obtain ⟨ss, negative, ds, rfl, hss, hsign⟩ := exists_sign cs
      simp only [readExponent?, hsign, Option.ite_none_right_eq_some,
        Option.ite_none_left_eq_some, Bool.or_eq_true, Bool.not_eq_true', not_or,
        Bool.not_eq_false, List.all_eq_true, Option.some.injEq] at h
      obtain ⟨hmark, ⟨hne, hdigits⟩, rfl⟩ := h
      exact ⟨_, .written hmark hss ⟨by simpa using hne, hdigits⟩, rfl⟩

/-- An exponent does not begin with a digit. -/
theorem Power.head {kind : Char → Bool} (h : Power kind cs power) :
    ∀ c ∈ cs.head?, c.isDigit = false := by
  cases h with
  | absent => simp
  | written hmark hss hds =>
      rintro c hc
      obtain rfl := Option.some.inj hc
      rcases hmark with rfl | rfl <;> decide

theorem read?_of_steps {rest rest' rest'' whole fraction : List Char}
    (hsign : takeSign cs = (negative, rest)) (hwhole : rest.span Char.isDigit = (whole, rest'))
    (hfraction : takeFraction rest' = (fraction, rest'')) (hne : whole ≠ [] ∨ fraction ≠ []) :
    read? cs = (readExponent? rest'').map fun exponent =>
      ⟨negative, digitsValue (whole ++ fraction), exponent - fraction.length⟩ := by
  have hsome : (whole.isEmpty && fraction.isEmpty) = false := by
    rw [Bool.and_eq_false_iff]
    exact hne.imp List.isEmpty_eq_false_iff.2 List.isEmpty_eq_false_iff.2
  simp only [read?, hsign, hwhole, hfraction, hsome, Bool.false_eq_true, if_false]
  cases readExponent? rest'' <;> rfl

theorem takeFraction_of_power (h : Power Char.isDigit cs power) : takeFraction cs = ([], cs) := by
  cases h with
  | absent => rfl
  | written hmark hss hds => rcases hmark with rfl | rfl <;> rfl

/-- A numeral is read up to its exponent in the steps that its parts stand for. -/
theorem Numeral.steps (h : Numeral Char.isDigit cs parts) :
    ∃ rest rest' whole fraction ps, takeSign cs = (parts.negative, rest) ∧
      rest.span Char.isDigit = (whole, rest') ∧ takeFraction rest' = (fraction, ps) ∧
      (whole ≠ [] ∨ fraction ≠ []) ∧ parts.digits = whole ++ fraction ∧
      parts.places = fraction.length ∧ Power Char.isDigit ps parts.power := by
  obtain @⟨ss, ms, ps, negative, digits, places, power, hss, hms, hps⟩ := h
  have hpoint (fs : List Char) (hfs : ∀ c ∈ fs, c.isDigit = true) :
      takeFraction ('.' :: (fs ++ ps)) = (fs, ps) :=
    Text.span_isDigit_append hfs hps.head
  cases hms with
  | whole hms =>
      exact ⟨ms ++ ps, ps, ms, [], ps, takeSign_digits hss hms ps,
        Text.span_isDigit_append hms.2 hps.head, takeFraction_of_power hps, .inl hms.1,
        (List.append_nil ms).symm, rfl, hps⟩
  | @point ws fs hws hfs =>
      have hdot : ∀ c ∈ ('.' :: (fs ++ ps)).head?, c.isDigit = false := by simp
      refine ⟨ws ++ '.' :: (fs ++ ps), '.' :: (fs ++ ps), ws, fs, ps, ?_,
        Text.span_isDigit_append hws.2 hdot, hpoint fs hfs, .inl hws.1, rfl, rfl, hps⟩
      rw [List.append_assoc ws, List.cons_append]
      exact takeSign_digits hss hws _
  | fraction hdigits =>
      exact ⟨'.' :: (digits ++ ps), '.' :: (digits ++ ps), [], digits, ps,
        takeSign_append hss (by simp), rfl, hpoint digits hdigits.2, .inr hdigits.1, rfl, rfl, hps⟩

theorem read?_of_numeral (h : Numeral Char.isDigit cs parts) :
    read? cs = some (parts.decimal exponentValue) := by
  obtain ⟨rest, rest', whole, fraction, ps, hsign, hwhole, hfraction, hne, hdigits, hplaces, hps⟩ :=
    h.steps
  rw [read?_of_steps hsign hwhole hfraction hne, readExponent?_of_power hps, Option.map_some,
    ← hdigits, ← hplaces]
  rfl

theorem Power.unique {power' : Option (Bool × List Char)} (h : Power Char.isDigit cs power)
    (h' : Power Char.isDigit cs power') : power = power' := by
  cases h with
  | absent =>
      cases h'
      rfl
  | @written mark ss ds negative hmark hss hds =>
      generalize hcs : mark :: (ss ++ ds) = cs at h'
      cases h' with
      | absent => cases hcs
      | @written mark' ss' ds' negative' hmark' hss' hds' =>
          have hsign := takeSign_digits hss hds []
          rw [List.append_nil, (List.cons.inj hcs).2] at hsign
          have hsign' := takeSign_digits hss' hds' []
          rw [List.append_nil, hsign] at hsign'
          obtain ⟨rfl, rfl⟩ := Prod.mk.inj hsign'
          rfl

theorem Numeral.unique {parts' : Parts} (h : Numeral Char.isDigit cs parts)
    (h' : Numeral Char.isDigit cs parts') : parts = parts' := by
  obtain ⟨rest, rest', whole, fraction, ps, hsign, hwhole, hfraction, -, hdigits, hplaces, hps⟩ :=
    h.steps
  obtain ⟨_, _, _, _, _, hsign', hwhole', hfraction', -, hdigits', hplaces', hps'⟩ := h'.steps
  obtain ⟨hnegative, rfl⟩ := Prod.mk.inj (hsign.symm.trans hsign')
  obtain ⟨rfl, rfl⟩ := Prod.mk.inj (hwhole.symm.trans hwhole')
  obtain ⟨rfl, rfl⟩ := Prod.mk.inj (hfraction.symm.trans hfraction')
  have hpower := hps.unique hps'
  cases parts
  cases parts'
  simp_all

theorem takeFraction_cases (cs : List Char) :
    takeFraction cs = ([], cs) ∨ ∃ fs rest, cs = '.' :: (fs ++ rest) ∧
      (∀ c ∈ fs, c.isDigit = true) ∧ takeFraction cs = (fs, rest) := by
  unfold takeFraction
  split
  · rw [List.span_eq_takeWhile_dropWhile]
    exact .inr ⟨_, _, by rw [List.takeWhile_append_dropWhile],
      fun c hc => List.mem_takeWhile_imp hc, rfl⟩
  · exact .inl rfl

theorem exists_numeral (h : read? cs = some d) :
    ∃ parts, Numeral Char.isDigit cs parts ∧ parts.decimal exponentValue = d := by
  obtain ⟨ss, negative, rest, rfl, hss, hsign⟩ := exists_sign cs
  obtain ⟨ws, behind, rfl, hws, hspan⟩ : ∃ ws behind, rest = ws ++ behind ∧
      (∀ c ∈ ws, c.isDigit = true) ∧ rest.span Char.isDigit = (ws, behind) :=
    ⟨_, _, List.takeWhile_append_dropWhile.symm, fun c hc => List.mem_takeWhile_imp hc,
      List.span_eq_takeWhile_dropWhile ..⟩
  simp only [read?, hsign, hspan, Option.bind_eq_bind, Option.ite_none_left_eq_some,
    Bool.and_eq_true, List.isEmpty_iff, Option.bind_eq_some_iff, Option.pure_def,
    Option.some.injEq] at h
  obtain ⟨hne, exponent, hexponent, rfl⟩ := h
  obtain ⟨power, hpower, rfl⟩ := exists_power hexponent
  rcases takeFraction_cases behind with hnone | ⟨fs, ps, rfl, hfs, hfraction⟩
  · simp only [hnone] at hne hpower ⊢
    have hms : Mantissa Char.isDigit ws ws 0 := .whole ⟨fun hempty => hne ⟨hempty, trivial⟩, hws⟩
    exact ⟨_, .mk hss hms hpower, by simp [Parts.decimal]⟩
  · simp only [hfraction] at hne hpower ⊢
    by_cases hempty : ws = []
    · subst hempty
      have hms : Mantissa Char.isDigit ('.' :: fs) fs fs.length :=
        .fraction ⟨fun hnil => hne ⟨rfl, hnil⟩, hfs⟩
      have hparts := Numeral.mk hss hms hpower
      exact ⟨_, hparts, rfl⟩
    · have hms : Mantissa Char.isDigit (ws ++ '.' :: fs) (ws ++ fs) fs.length :=
        .point ⟨hempty, hws⟩ hfs
      have hparts := Numeral.mk hss hms hpower
      rw [List.append_assoc ws] at hparts
      exact ⟨_, hparts, rfl⟩

/-- The texts of numerals are the ones that are read. -/
theorem read?_eq_some_iff : read? cs = some d ↔
    ∃ parts, Numeral Char.isDigit cs parts ∧ parts.decimal exponentValue = d := by
  constructor
  · exact exists_numeral
  · rintro ⟨parts, h, rfl⟩
    exact read?_of_numeral h

/-- The digits of an exponent are counted up to the one with which it is long. -/
def IsCounted (ds : List Char) (n : ℕ) : Prop :=
  ∃ front, front <+: ds ∧ digitsValue front = n ∧
    (∀ shorter, shorter <+: front → shorter ≠ front → digitsValue shorter < longExponent) ∧
    (front = ds ∨ longExponent ≤ n)

theorem digitsValue_append (front back : List Char) :
    digitsValue (front ++ back) = digitsValue front * 10 ^ back.length + digitsValue back := by
  rw [digitsValue, Nat.ofDigitChars_append, Nat.ofDigitChars_eq_ofDigitChars_zero, Nat.mul_comm]
  rfl

theorem exponentValue_concat (ds : List Char) (c : Char) :
    exponentValue (ds ++ [c]) =
      if exponentValue ds < longExponent then exponentValue ds * 10 + digitsValue [c]
      else exponentValue ds := by
  rw [exponentValue, List.foldl_append]
  rfl

theorem isCounted_exponentValue (ds : List Char) : IsCounted ds (exponentValue ds) := by
  induction ds using List.reverseRecOn with
  | nil =>
      exact ⟨[], List.prefix_rfl, rfl, fun _ h hne => absurd (List.prefix_nil.1 h) hne, .inl rfl⟩
  | append_singleton ds c ih =>
      obtain ⟨front, hfront, hvalue, hshorter, hback⟩ := ih
      rw [exponentValue_concat]
      split
      · rename_i hshort
        obtain rfl : front = ds := hback.resolve_right (not_le.2 hshort)
        refine ⟨front ++ [c], List.prefix_rfl, ?_, fun shorter hprefix hne => ?_, .inl rfl⟩
        · rw [digitsValue_append, hvalue]
          rfl
        · rcases List.prefix_concat_iff.1 hprefix with heq | hprefix
          · exact absurd heq hne
          · by_cases heq : shorter = front
            · rwa [heq, hvalue]
            · exact hshorter shorter hprefix heq
      · rename_i hlong
        exact ⟨front, hfront.trans (List.prefix_append ds [c]), hvalue, hshorter,
          .inr (not_lt.1 hlong)⟩

/-- Of two counts the one with less digits is not long, and so it is the count of all digits. -/
theorem IsCounted.eq {n m : ℕ} (hn : IsCounted ds n) (hm : IsCounted ds m) : n = m := by
  obtain ⟨front, hfront, rfl, hshorter, hall⟩ := hn
  obtain ⟨front', hfront', rfl, hshorter', hall'⟩ := hm
  by_contra hne
  rcases List.prefix_or_prefix_of_prefix hfront hfront' with h | h
  · have hshort := hshorter' front h (by rintro rfl; exact hne rfl)
    obtain rfl := hall.resolve_right (not_le.2 hshort)
    exact hne (by rw [h.eq_of_length_le hfront'.length_le])
  · have hshort := hshorter front' h (by rintro rfl; exact hne rfl)
    obtain rfl := hall'.resolve_right (not_le.2 hshort)
    exact hne (by rw [h.eq_of_length_le hfront.length_le])

theorem exponentValue_eq_iff {n : ℕ} : exponentValue ds = n ↔ IsCounted ds n :=
  ⟨fun h => h ▸ isCounted_exponentValue ds, fun h => (isCounted_exponentValue ds).eq h⟩

/-- An exponent is counted as it is written unless it has a digit more than a long one. -/
theorem exponentValue_cases (ds : List Char) :
    exponentValue ds = digitsValue ds ∨
      longExponent ≤ exponentValue ds ∧ 10 * longExponent ≤ digitsValue ds := by
  obtain ⟨front, ⟨back, rfl⟩, hvalue, -, hall⟩ := isCounted_exponentValue ds
  rw [← hvalue] at hall ⊢
  rcases hall with hall | hlong
  · exact .inl (congrArg digitsValue hall)
  · cases back with
    | nil => exact .inl (by rw [List.append_nil])
    | cons c back =>
        right
        refine ⟨hlong, ?_⟩
        have hpow : 10 ≤ 10 ^ (c :: back).length := Nat.le_self_pow (by simp) 10
        have hmul := Nat.mul_le_mul hlong hpow
        rw [digitsValue_append]
        omega

/-- A text that is not longer than this has too few digits to make up for a long exponent. -/
def ordinaryLength : ℕ := 65000

theorem Mantissa.length_le {digits : List Char} {places : ℕ}
    (h : Mantissa Char.isDigit ms digits places) :
    digits.length ≤ ms.length ∧ places ≤ ms.length ∧ ∀ c ∈ digits, c.isDigit = true := by
  cases h with
  | whole hms => exact ⟨le_rfl, Nat.zero_le _, hms.2⟩
  | point hws hfs =>
      refine ⟨?_, ?_, List.forall_mem_append.2 ⟨hws.2, hfs⟩⟩ <;>
        simp only [List.length_append, List.length_cons] <;> omega
  | fraction hdigits => exact ⟨by simp, by simp, hdigits.2⟩

theorem Numeral.length_le (h : Numeral Char.isDigit cs parts) :
    parts.digits.length ≤ cs.length ∧ parts.places ≤ cs.length ∧
      ∀ c ∈ parts.digits, c.isDigit = true := by
  cases h with
  | mk hss hms hps =>
      obtain ⟨hdigits, hplaces, hall⟩ := hms.length_le
      simp only [List.length_append]
      exact ⟨by omega, by omega, hall⟩

/-- With a long exponent a numeral of ordinary length stands for zero or is infinite. -/
theorem toBinary64_of_long {count : List Char → ℕ} (h : Numeral Char.isDigit cs parts)
    (hlength : cs.length ≤ ordinaryLength) (hpower : parts.power = some (negative, ds))
    (hlong : longExponent ≤ count ds) :
    (parts.decimal count).toBinary64 =
      if digitsValue parts.digits = 0 ∨ negative = true then .ofRank parts.negative 0
      else .infinite parts.negative := by
  obtain ⟨hdigits, hplaces, hall⟩ := h.length_le
  simp only [ordinaryLength, longExponent] at hlength hlong
  have hvalue : (parts.decimal count).coefficient = digitsValue parts.digits := rfl
  by_cases hzero : digitsValue parts.digits = 0
  · rw [if_pos (.inl hzero), toBinary64, hvalue, if_pos hzero]
    rfl
  · cases negative with
    | true =>
        have hcoefficient : (parts.decimal count).coefficient < 10 ^ parts.digits.length :=
          Text.digitsValue_lt hall
        rw [if_pos (.inr rfl), toBinary64_eq_nearest, Binary64.nearest,
          nearestRank_of_tiny hcoefficient]
        · rfl
        · simp only [Parts.decimal, hpower, exponentOf, if_true]
          omega
    | false =>
        have hexponent : greatestExponent < (parts.decimal count).exponent := by
          simp only [Parts.decimal, hpower, exponentOf, greatestExponent, Bool.false_eq_true,
            if_false]
          omega
        rw [if_neg (by simpa using hzero), toBinary64, hvalue, if_neg hzero, if_pos hexponent]
        rfl

/-- In a text of ordinary length, or with an exponent of ordinary size, it does not show how far
the digits of the exponent are counted. -/
theorem toBinary64_exponentValue (h : Numeral Char.isDigit cs parts)
    (hordinary : cs.length ≤ ordinaryLength ∨
      ∀ negative ds, parts.power = some (negative, ds) → digitsValue ds < 10 * longExponent) :
    (parts.decimal exponentValue).toBinary64 = (parts.decimal digitsValue).toBinary64 := by
  cases hpower : parts.power with
  | none => simp only [Parts.decimal, hpower, exponentOf]
  | some power =>
      obtain ⟨negative, ds⟩ := power
      rcases exponentValue_cases ds with heq | ⟨hlong, hlong'⟩
      · simp only [Parts.decimal, hpower, exponentOf, heq]
      · rcases hordinary with hlength | hsize
        · rw [toBinary64_of_long h hlength hpower hlong,
            toBinary64_of_long h hlength hpower (by omega)]
        · exact absurd (hsize negative ds hpower) (not_lt.2 hlong')

end CatalogRules.Decimal
