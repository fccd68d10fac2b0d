import CatalogRules.Proofs.Text.Lines
import CatalogRules.Proofs.Time.Reading

/-!
The canonical text of an instant. Where the year has four digits the text has the form
`YYYY-MM-DDTHH:MM:SS.sssZ`, and reading it gives the instant back, cut to milliseconds; so what
is in canonical form stays as it is. Other years are written with a sign, which is neither in
the form nor read again.
-/

namespace CatalogRules

/-! ### Fields of fixed width -/

namespace Text

theorem isBlank_of_isDigit {c : Char} (h : c.isDigit = true) : isBlank c = false := by
  have hc := toNat_of_isDigit h
  rw [← Bool.not_eq_true]
  simp only [isBlank, Bool.or_eq_true, Bool.and_eq_true, decide_eq_true_eq, beq_iff_eq]
  omega

theorem exactly_append {ds : List Char} (h : ∀ c ∈ ds, c.isDigit = true) (rest : List Char) :
    exactly ds.length (ds ++ rest) = some (digitsValue ds, rest) := by
  have hall : ds.all Char.isDigit = true := List.all_eq_true.2 h
  simp [exactly, hall]

theorem upTo_append {ds rest : List Char} {n : ℕ} (h : ∀ c ∈ ds, c.isDigit = true) (hne : ds ≠ [])
    (hlength : ds.length ≤ n) (hrest : ∀ c ∈ rest.head?, c.isDigit = false) :
    upTo n (ds ++ rest) = some (digitsValue ds, rest) := by
  have hafter (k : ℕ) : (rest.take k).takeWhile Char.isDigit = [] := by
    cases rest with
    | nil => simp
    | cons c cs =>
        have hc : c.isDigit = false := hrest c rfl
        cases k <;> simp [hc]
  have hdigits : ((ds ++ rest).take n).takeWhile Char.isDigit = ds := by
    rw [List.take_append, List.take_of_length_le hlength, List.takeWhile_append_of_pos h, hafter,
      List.append_nil]
  have hempty : ds.isEmpty = false := by
    rwa [List.isEmpty_eq_false_iff]
  simp [upTo, hdigits, hempty]

end Text

namespace Instant

open Text (exactly expect)

theorem exactly_padded {width n : ℕ} (hwidth : 0 < width) (h : n < 10 ^ width)
    (rest : List Char) : exactly width (padded width n ++ rest) = some (n, rest) := by
  have hdigits : ∀ c ∈ padded width n, c.isDigit = true := fun _ => isDigit_of_mem_padded
  have hread := Text.exactly_append hdigits rest
  rwa [length_padded hwidth h, digitsValue_padded] at hread

def cut (t : Instant) : Instant := ⟨t.seconds, t.nanos / 1000000 * 1000000⟩

variable {t : Instant}

/-- The fields of the text of an instant are no wider than their places in it. -/
structure FieldsFit (t : Instant) : Prop where
  month : t.date.month < 10 ^ 2
  day : t.date.day < 10 ^ 2
  hour : t.hour < 10 ^ 2
  minute : t.minute < 10 ^ 2
  second : t.second < 10 ^ 2
  millisecond : t.millisecond < 10 ^ 3

theorem Regular.fieldsFit (h : t.Regular) : t.FieldsFit where
  month := t.month_lt
  day := t.day_lt
  hour := t.hour_lt.trans (by decide)
  minute := t.minute_lt.trans (by decide)
  second := h.second_le.trans_lt (by decide)
  millisecond := t.millisecond_lt.trans_eq (by norm_num)

theorem natAbs_year_lt (hyear : t.year ∈ Set.Icc 0 9999) : t.year.natAbs < 10 ^ 4 := by
  obtain ⟨hlow, hhigh⟩ := hyear
  omega

/-! ### Reading the text -/

theorem fraction_padded {ms : ℕ} (h : ms < 10 ^ 3) :
    Timestamp.fraction ('.' :: (padded 3 ms ++ ['Z'])) = some (ms * 1000000, ['Z']) := by
  have hlength : (padded 3 ms).length = 3 := length_padded (by decide) h
  have hspan : (padded 3 ms ++ ['Z']).span Char.isDigit = (padded 3 ms, ['Z']) := by
    refine Text.span_isDigit_append (fun _ => isDigit_of_mem_padded) fun c hc => ?_
    obtain rfl : 'Z' = c := Option.some.inj hc
    rfl
  have hne : (padded 3 ms).isEmpty = false := by
    rw [List.isEmpty_eq_false_iff, ← List.length_pos_iff, hlength]
    decide
  have htake : (padded 3 ms).take 9 = padded 3 ms := List.take_of_length_le (by omega)
  have hnanos : Timestamp.nanosOfDigits (padded 3 ms) = ms * 1000000 := by
    rw [Timestamp.nanosOfDigits, htake, digitsValue_padded, hlength]
    norm_num [pow10]
  simp only [Timestamp.fraction, Text.stretch, hspan, hne, Bool.false_eq_true, if_false,
    Option.map_some, hnanos]

/-- The seconds of a day are its hours, minutes and seconds; a leap second counts with the
second before it. -/
theorem seconds_eq (t : Instant) :
    t.seconds = t.seconds / secondsPerDay * secondsPerDay + t.hour * 3600 + t.minute * 60 +
      (t.ofDay % 60 : ℕ) := by
  simp only [hour, minute, ofDay, secondsPerDay]
  omega

theorem date_isValid (hyear : t.year ∈ Set.Icc 0 9999) : t.date.isValid = true := by
  obtain ⟨hlow, hhigh⟩ := hyear
  obtain ⟨hmonth, hday⟩ := Date.inMonth_ofDayNumber (t.seconds / secondsPerDay)
  have hfirst : Date.firstYear ≤ t.date.year := le_trans (by decide) hlow
  have hlast : t.date.year ≤ Date.lastYear := le_trans hhigh (by decide)
  simp only [Date.isValid, Bool.and_eq_true, decide_eq_true_eq]
  exact ⟨⟨⟨⟨⟨hfirst, hlast⟩, hmonth.1⟩, hmonth.2⟩, hday.1⟩, hday.2⟩

/-- The fields of an instant are those of a civil time, which is the instant cut to
milliseconds. -/
theorem ofCivil?_fields (h : t.Regular) (hyear : t.year ∈ Set.Icc 0 9999) :
    ofCivil? t.date t.hour t.minute t.second (t.millisecond * 1000000) 0 = some t.cut := by
  have hday : t.date.dayNumber = t.seconds / secondsPerDay := Date.dayNumber_ofDayNumber _
  have hseconds := t.seconds_eq
  have hnanos := h.nanos_lt
  have hleap := h.leap
  have hsixty : t.ofDay % 60 = (t.seconds % 60).toNat := by
    simp only [ofDay, secondsPerDay]
    omega
  simp only [nanosPerSecond] at hnanos hleap
  rw [ofCivil?, if_pos ⟨date_isValid hyear, t.hour_lt, t.minute_lt, h.second_le⟩, hday]
  by_cases hlarge : 1000000000 ≤ t.nanos
  · have hlast := hleap hlarge
    have hsecond : t.second = 60 := by
      simp only [second, nanosPerSecond]
      omega
    have hcut : t.millisecond * 1000000 + nanosPerSecond = t.nanos / 1000000 * 1000000 := by
      simp only [millisecond, nanosPerSecond]
      omega
    rw [if_pos hsecond, hcut, cut]
    congr 2
    omega
  · have hsecond : t.second = t.ofDay % 60 := by
      simp only [second, nanosPerSecond]
      omega
    have hcut : t.millisecond * 1000000 = t.nanos / 1000000 * 1000000 := by
      simp only [millisecond, nanosPerSecond]
      omega
    rw [if_neg (by omega), hcut, hsecond, cut]
    congr 2
    omega

theorem readZoned?_write (h : t.Regular) (hyear : t.year ∈ Set.Icc 0 9999) :
    Timestamp.readZoned? t.write = some t.cut := by
  have hcast : (t.year.natAbs : ℤ) = t.date.year := Int.natAbs_of_nonneg hyear.1
  have hoffset : Timestamp.offset ['Z'] = some (0, []) := rfl
  obtain ⟨hmonth, hday, hhour, hminute, hsecond, hmillisecond⟩ := h.fieldsFit
  rw [write_eq hyear, Timestamp.readZoned?]
  simp only [exactly_padded (by decide) (natAbs_year_lt hyear), exactly_padded (by decide) hmonth,
    exactly_padded (by decide) hday, exactly_padded (by decide) hhour,
    exactly_padded (by decide) hminute, exactly_padded (by decide) hsecond,
    Text.expect_cons_self, fraction_padded hmillisecond, hoffset, Option.bind_eq_bind,
    Option.bind_some, bne_self_eq_false, Bool.false_and, Bool.false_eq_true, if_false,
    List.isEmpty_nil, if_true, hcast]
  exact ofCivil?_fields h hyear

theorem isDigit_of_mem_head? {width n : ℕ} (hwidth : 0 < width) {cs : List Char} {c : Char}
    (hc : c ∈ (padded width n ++ cs).head?) : c.isDigit = true := by
  have hne : padded width n ≠ [] := by
    rw [← List.length_pos_iff]
    exact hwidth.trans_le (padded_length_ge width n)
  rw [List.head?_append_of_ne_nil _ hne] at hc
  exact isDigit_of_mem_padded (List.mem_of_mem_head? hc)

theorem text_cut (t : Instant) : t.cut.text = t.text := by
  have hleap : t.nanos / 1000000 * 1000000 / nanosPerSecond = t.nanos / nanosPerSecond := by
    simp only [nanosPerSecond]
    omega
  have hmillis : t.nanos / 1000000 * 1000000 % nanosPerSecond / 1000000 =
      t.nanos % nanosPerSecond / 1000000 := by
    simp only [nanosPerSecond]
    omega
  simp only [text, write, cut, hleap, hmillis]

/-! ### The canonical form -/

/-- The canonical form, with a zero for every digit. -/
def canonicalForm : String := "0000-00-00T00:00:00.000Z"

def Fills (place c : Char) : Prop :=
  if place = '0' then c.isDigit = true else c = place

instance (place c : Char) : Decidable (Fills place c) :=
  inferInstanceAs (Decidable (if place = '0' then c.isDigit = true else c = place))

def IsCanonical (s : String) : Prop :=
  List.Forall₂ Fills canonicalForm.toList s.toList

instance (s : String) : Decidable (IsCanonical s) :=
  inferInstanceAs (Decidable (List.Forall₂ _ _ _))

theorem fills_digits {ds places cs : List Char} (hds : ∀ c ∈ ds, c.isDigit = true)
    (hrest : List.Forall₂ Fills places cs) :
    List.Forall₂ Fills (List.replicate ds.length '0' ++ places) (ds ++ cs) := by
  induction ds with
  | nil => exact hrest
  | cons d ds ih =>
      rw [List.forall_mem_cons] at hds
      exact .cons hds.1 (ih hds.2)

theorem fills_padded {width n : ℕ} (hwidth : 0 < width) (h : n < 10 ^ width)
    {places cs : List Char} (hrest : List.Forall₂ Fills places cs) :
    List.Forall₂ Fills (List.replicate width '0' ++ places) (padded width n ++ cs) := by
  have hdigits : ∀ c ∈ padded width n, c.isDigit = true := fun _ => isDigit_of_mem_padded
  have hfills := fills_digits hdigits hrest
  rwa [length_padded hwidth h] at hfills

theorem isCanonical_text (h : t.Regular) (hyear : t.year ∈ Set.Icc 0 9999) :
    IsCanonical t.text := by
  obtain ⟨hmonth, hday, hhour, hminute, hsecond, hmillisecond⟩ := h.fieldsFit
  have hdash : Fills '-' '-' := rfl
  have hcolon : Fills ':' ':' := rfl
  rw [IsCanonical, text, String.toList_ofList, write_eq hyear]
  refine fills_padded (by decide) (natAbs_year_lt hyear) (.cons hdash ?_)
  refine fills_padded (by decide) hmonth (.cons hdash ?_)
  refine fills_padded (by decide) hday (.cons rfl ?_)
  refine fills_padded (by decide) hhour (.cons hcolon ?_)
  refine fills_padded (by decide) hminute (.cons hcolon ?_)
  refine fills_padded (by decide) hsecond (.cons rfl ?_)
  exact fills_padded (by decide) hmillisecond (.cons rfl .nil)

/-! ### Years with a sign -/

/-- Hours, minutes, seconds and milliseconds as they stand in the text. -/
def writeTime (t : Instant) : List Char :=
  padded 2 t.hour ++ ':' :: (padded 2 t.minute ++ ':' :: (padded 2 t.second ++ '.' ::
    (padded 3 t.millisecond ++ ['Z'])))

theorem exists_write_eq_signed (hyear : t.year ∉ Set.Icc 0 9999) :
    ∃ sign, (sign = '-' ∨ sign = '+') ∧
      t.write = sign :: (padded 4 t.year.natAbs ++ '-' :: (padded 2 t.date.month ++ '-' ::
        (padded 2 t.date.day ++ 'T' :: t.writeTime))) := by
  rw [Set.mem_Icc, not_and_or, Int.not_le, Int.not_le] at hyear
  rcases hyear with hneg | hlarge
  · have hsigned : writeYear t.year = '-' :: padded 4 t.year.natAbs := by
      rw [writeYear, if_pos hneg]
    refine ⟨'-', .inl rfl, ?_⟩
    rw [← List.cons_append, ← hsigned]
    simp only [write, writeTime, List.append_assoc, List.cons_append]
    rfl
  · have hsigned : writeYear t.year = '+' :: padded 4 t.year.natAbs := by
      rw [writeYear, if_neg (by omega), if_neg (by omega)]
    refine ⟨'+', .inr rfl, ?_⟩
    rw [← List.cons_append, ← hsigned]
    simp only [write, writeTime, List.append_assoc, List.cons_append]
    rfl

theorem looseNumber_padded {n : ℕ} (h : n < 10 ^ 2) {c : Char} (hc : c.isDigit = false)
    (cs : List Char) : Timestamp.looseNumber (padded 2 n ++ c :: cs) = some (n, c :: cs) := by
  have hlength : (padded 2 n).length = 2 := length_padded (by decide) h
  have hblanks : Text.dropBlanks (padded 2 n ++ c :: cs) = padded 2 n ++ c :: cs :=
    Text.dropBlanks_eq_self fun _ hd =>
      Text.isBlank_of_isDigit (isDigit_of_mem_head? (by decide) hd)
  rw [Timestamp.looseNumber, hblanks, Text.upTo_append (fun _ => isDigit_of_mem_padded)
    (List.ne_nil_of_length_pos (by omega)) hlength.le (by simpa using hc), digitsValue_padded]

theorem exists_looseYear_signed {sign : Char} (hsign : sign = '-' ∨ sign = '+') (n : ℕ)
    (cs : List Char) :
    ∃ year, Timestamp.looseYear (sign :: (padded 4 n ++ '-' :: cs)) = some (year, '-' :: cs) := by
  have hread : Text.upTo (padded 4 n ++ '-' :: cs).length (padded 4 n ++ '-' :: cs) =
      some (n, '-' :: cs) := by
    rw [Text.upTo_append (fun _ => isDigit_of_mem_padded)
      (List.ne_nil_of_length_pos ((padded_length_ge 4 n).trans' (by decide)))
      (by simp) (by simp), digitsValue_padded]
  have hblanks : Text.dropBlanks (sign :: (padded 4 n ++ '-' :: cs)) =
      sign :: (padded 4 n ++ '-' :: cs) := by
    rcases hsign with rfl | rfl <;> rfl
  rw [Timestamp.looseYear, hblanks]
  rcases hsign with rfl | rfl
  · exact ⟨-n, by simp only [hread, Option.map_some]⟩
  · exact ⟨n, by simp only [hread, Option.map_some]⟩

theorem exists_looseDate_signed (hyear : t.year ∉ Set.Icc 0 9999) :
    ∃ date, Timestamp.looseDate t.write = some (date, 'T' :: t.writeTime) := by
  obtain ⟨sign, hsign, hwrite⟩ := exists_write_eq_signed hyear
  obtain ⟨year, hread⟩ := exists_looseYear_signed hsign t.year.natAbs
    (padded 2 t.date.month ++ '-' :: (padded 2 t.date.day ++ 'T' :: t.writeTime))
  have hmonth := looseNumber_padded t.month_lt (show '-'.isDigit = false from rfl)
  have hday := looseNumber_padded t.day_lt (show 'T'.isDigit = false from rfl)
  refine ⟨⟨year, t.date.month, t.date.day⟩, ?_⟩
  rw [hwrite, Timestamp.looseDate]
  simp only [hread, Option.bind_eq_bind, Option.bind_some, Text.expect_cons_self, hmonth, hday]
  rfl

theorem readZoned?_signed (hyear : t.year ∉ Set.Icc 0 9999) :
    Timestamp.readZoned? t.write = none := by
  obtain ⟨sign, hsign, hwrite⟩ := exists_write_eq_signed hyear
  have hexactly (cs : List Char) : exactly 4 (sign :: cs) = none := by
    rcases hsign with rfl | rfl <;> simp [exactly]
  rw [hwrite, Timestamp.readZoned?, hexactly]
  rfl

/-- The letter at the end belongs to no time of day. -/
theorem readLocal?_signed (h : t.Regular) (hyear : t.year ∉ Set.Icc 0 9999)
    (separator : Timestamp.Separator) (withSeconds : Bool) :
    Timestamp.readLocal? separator withSeconds t.write = none := by
  obtain ⟨date, hdate⟩ := exists_looseDate_signed hyear
  obtain ⟨-, -, hhour, hminute, hsecond, hmillisecond⟩ := h.fieldsFit
  have hletter (cs : List Char) : Timestamp.looseNumber ('T' :: cs) = none := by
    simp [Timestamp.looseNumber, Text.dropBlanks, Text.isBlank, Text.upTo]
  have hcolon : ':'.isDigit = false := rfl
  have hpoint : '.'.isDigit = false := rfl
  rw [Timestamp.readLocal?, hdate]
  cases separator with
  | blanks =>
      have hblanks : Text.dropBlanks ('T' :: t.writeTime) = 'T' :: t.writeTime := rfl
      simp only [Option.bind_eq_bind, Option.bind_some, Timestamp.Separator.skip, hblanks, hletter]
      rfl
  | letter =>
      have hstart : Timestamp.looseNumber t.writeTime = some (t.hour, ':' :: (padded 2 t.minute ++
          ':' :: (padded 2 t.second ++ '.' :: (padded 3 t.millisecond ++ ['Z'])))) :=
        looseNumber_padded hhour hcolon _
      simp only [Option.bind_eq_bind, Option.bind_some, Timestamp.Separator.skip,
        Text.expect_cons_self, hstart, looseNumber_padded hminute hcolon]
      cases withSeconds with
      | false => rfl
      | true =>
          simp only [Timestamp.looseSeconds, if_true, Text.expect_cons_self, Option.bind_eq_bind,
            Option.bind_some, looseNumber_padded hsecond hpoint, fraction_padded hmillisecond]
          rfl

theorem readDate?_signed (hyear : t.year ∉ Set.Icc 0 9999) :
    Timestamp.readDate? t.write = none := by
  obtain ⟨date, hdate⟩ := exists_looseDate_signed hyear
  rw [Timestamp.readDate?, hdate]
  rfl

theorem readTrimmed?_signed (h : t.Regular) (hyear : t.year ∉ Set.Icc 0 9999) :
    Timestamp.readTrimmed? t.write = none := by
  simp only [Timestamp.readTrimmed?, readZoned?_signed hyear, readLocal?_signed h hyear,
    readDate?_signed hyear]
  rfl

/-- The sign is none of the digits with which the form begins. -/
theorem not_isCanonical_text (hyear : t.year ∉ Set.Icc 0 9999) : ¬IsCanonical t.text := by
  obtain ⟨sign, hsign, hwrite⟩ := exists_write_eq_signed hyear
  rw [IsCanonical, text, String.toList_ofList, hwrite]
  intro hform
  obtain ⟨hfills, -⟩ := List.forall₂_cons.1 hform
  rcases hsign with rfl | rfl <;> cases hfills

/-! ### Canonical texts are read again -/

theorem trimChars_write (t : Instant) : Text.trimChars t.write = t.write := by
  apply Text.trimChars_eq_self
  · intro c hc
    by_cases hyear : t.year ∈ Set.Icc 0 9999
    · rw [write_eq hyear] at hc
      exact Text.isBlank_of_isDigit (isDigit_of_mem_head? (by decide) hc)
    · obtain ⟨sign, hsign, hwrite⟩ := exists_write_eq_signed hyear
      rw [hwrite] at hc
      obtain rfl : sign = c := Option.some.inj hc
      rcases hsign with rfl | rfl <;> rfl
  · intro c hc
    rw [write, List.getLast?_concat] at hc
    obtain rfl := Option.some.inj hc
    rfl

theorem read?_text (t : Instant) :
    Timestamp.read? t.text = Timestamp.readTrimmed? t.write := by
  rw [Timestamp.read?, text, String.toList_ofList, trimChars_write]

/-- The text of an instant in the years 0 to 9999 is read as the instant, cut to
milliseconds. -/
theorem read?_text_of_mem (h : t.Regular) (hyear : t.year ∈ Set.Icc 0 9999) :
    Timestamp.read? t.text = some t.cut := by
  rw [read?_text, Timestamp.readTrimmed?, readZoned?_write h hyear]
  rfl

end Instant

namespace Timestamp

/-- The normalized text of a timestamp has the canonical form exactly if the year in UTC is one
of 0 to 9999. Then the text is read as the instant of the timestamp, cut to milliseconds, and
stays as it is when it is normalized; otherwise it is no timestamp. -/
theorem normalize?_canonical {raw s : String} (h : normalize? raw = some s) :
    ∃ t, read? raw = some t ∧ (Instant.IsCanonical s ↔ t.year ∈ Set.Icc 0 9999) ∧
      (t.year ∈ Set.Icc 0 9999 →
        s.length = 24 ∧ read? s = some t.cut ∧ normalize? s = some s) ∧
      (t.year ∉ Set.Icc 0 9999 → normalize? s = none) := by
  obtain ⟨t, ht, rfl⟩ := Option.map_eq_some_iff.1 h
  have hregular := regular_of_read? ht
  refine ⟨t, ht, ⟨fun hform => ?_, Instant.isCanonical_text hregular⟩, fun hyear => ?_,
    fun hyear => ?_⟩
  · by_contra hyear
    exact Instant.not_isCanonical_text hyear hform
  · have hread := Instant.read?_text_of_mem hregular hyear
    refine ⟨(Instant.isCanonical_text hregular hyear).length_eq.symm, hread, ?_⟩
    rw [normalize?, hread, Option.map_some, Instant.text_cut]
  · rw [normalize?, Instant.read?_text, Instant.readTrimmed?_signed hregular hyear,
      Option.map_none]

/-- A leap second, written in the time of the west coast of America. -/
theorem normalize?_leap_second :
    normalize? "2016-12-31t15:59:60.1239-08:00" = some "2016-12-31T23:59:60.123Z" ∧
      Instant.IsCanonical "2016-12-31T23:59:60.123Z" ∧
      read? "2016-12-31T23:59:60.123Z" = some ⟨1483228799, 1123000000⟩ ∧
      normalize? "2016-12-31T23:59:60.123Z" = some "2016-12-31T23:59:60.123Z" := by
  have hnormal : normalize? "2016-12-31t15:59:60.1239-08:00" = some "2016-12-31T23:59:60.123Z" := by
    decide +kernel
  have hraw : read? "2016-12-31t15:59:60.1239-08:00" = some ⟨1483228799, 1123900000⟩ := by
    decide +kernel
  obtain ⟨t, ht, hform, hsame, -⟩ := normalize?_canonical hnormal
  rw [hraw] at ht
  obtain rfl := Option.some.inj ht
  have hyear : Instant.year ⟨1483228799, 1123900000⟩ ∈ Set.Icc 0 9999 := by decide +kernel
  obtain ⟨-, hread, hfixed⟩ := hsame hyear
  exact ⟨hnormal, hform.2 hyear, hread, hfixed⟩

/-- The first year with five digits is written with a sign, and no timestamp begins with one
and ends in a letter. -/
theorem normalize?_year_10000 :
    normalize? "+10000-01-01" = some "+10000-01-01T00:00:00.000Z" ∧
      ¬Instant.IsCanonical "+10000-01-01T00:00:00.000Z" ∧
      normalize? "+10000-01-01T00:00:00.000Z" = none := by
  decide +kernel

end Timestamp

end CatalogRules
