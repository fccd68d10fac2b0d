import CatalogRules.Proofs.Text.FixedWidth
import CatalogRules.Proofs.Time.Calendar

/-!
The order of instants. The canonical texts of instants in the years 0 to 9999 have fields
of fixed width, so they compare field by field, and the fields together compare as the
seconds and then the milliseconds. A leap second stays between the seconds around it, as
its milliseconds are counted on from those of the second before.
-/

namespace CatalogRules.Instant

open Text (compareChars)

/-- The nanoseconds are those of a second, or of the last second of a minute and a leap
second behind it. -/
structure Regular (t : Instant) : Prop where
  nanos_lt : t.nanos < 2 * nanosPerSecond
  leap : nanosPerSecond ≤ t.nanos → t.seconds % 60 = 59

def date (t : Instant) : Date := Date.ofDayNumber (t.seconds / secondsPerDay)

def year (t : Instant) : ℤ := t.date.year

/-- The instant cut to milliseconds: its second and the milliseconds in it, 1000 or more in a
leap second. -/
def millis (t : Instant) : ℤ ×ₗ ℕ := toLex (t.seconds, t.nanos / 1000000)

def ofDay (t : Instant) : ℕ := (t.seconds % secondsPerDay).toNat

def hour (t : Instant) : ℕ := t.ofDay / 3600

def minute (t : Instant) : ℕ := t.ofDay / 60 % 60

def second (t : Instant) : ℕ := t.ofDay % 60 + t.nanos / nanosPerSecond

def millisecond (t : Instant) : ℕ := t.nanos % nanosPerSecond / 1000000

theorem write_eq {t : Instant} (h : t.year ∈ Set.Icc 0 9999) :
    t.write = padded 4 t.year.natAbs ++ '-' :: (padded 2 t.date.month ++ '-' ::
      (padded 2 t.date.day ++ 'T' :: (padded 2 t.hour ++ ':' :: (padded 2 t.minute ++ ':' ::
        (padded 2 t.second ++ '.' :: (padded 3 t.millisecond ++ ['Z'])))))) := by
  have hyear : writeYear t.year = padded 4 t.year.natAbs := by
    rw [writeYear, if_neg (Int.not_lt.2 h.1), if_pos h.2]
  rw [← hyear]
  simp only [write, List.append_assoc, List.cons_append]
  rfl

theorem month_lt (t : Instant) : t.date.month < 100 := by
  have hmonth := (Date.inMonth_ofDayNumber (t.seconds / secondsPerDay)).month
  rw [date]
  omega

theorem day_lt (t : Instant) : t.date.day < 100 := by
  have hday := (Date.inMonth_ofDayNumber (t.seconds / secondsPerDay)).day
  have hle := Date.daysInMonth_le t.date.year t.date.month
  rw [date] at *
  omega

theorem ofDay_lt (t : Instant) : t.ofDay < 86400 := by
  simp only [ofDay, secondsPerDay]
  omega

theorem hour_lt (t : Instant) : t.hour < 24 := by
  have hday := t.ofDay_lt
  rw [hour]
  omega

theorem minute_lt (t : Instant) : t.minute < 60 := by
  rw [minute]
  omega

theorem Regular.second_le {t : Instant} (h : t.Regular) : t.second ≤ 60 := by
  have hnanos := h.nanos_lt
  simp only [nanosPerSecond] at hnanos
  simp only [second, nanosPerSecond]
  omega

theorem millisecond_lt (t : Instant) : t.millisecond < 1000 := by
  simp only [millisecond, nanosPerSecond]
  omega

theorem compare_natAbs {x y : ℤ} (hx : 0 ≤ x) (hy : 0 ≤ y) :
    compare x.natAbs y.natAbs = compare x y :=
  compare_congr (by omega) (by omega)

variable {a b : Instant}

theorem compareChars_write (ha : a.Regular) (hb : b.Regular) (hyear : a.year ∈ Set.Icc 0 9999)
    (hyear' : b.year ∈ Set.Icc 0 9999) :
    compareChars a.write b.write =
      (compare a.year b.year).then ((compare a.date.month b.date.month).then
        ((compare a.date.day b.date.day).then ((compare a.hour b.hour).then
          ((compare a.minute b.minute).then ((compare a.second b.second).then
            (compare a.millisecond b.millisecond)))))) := by
  have hfour {t : Instant} (h : t.year ∈ Set.Icc 0 9999) : t.year.natAbs < 10 ^ 4 := by
    obtain ⟨hlow, hhigh⟩ := h
    omega
  have hhour (t : Instant) : t.hour < 10 ^ 2 := t.hour_lt.trans (by decide)
  have hminute (t : Instant) : t.minute < 10 ^ 2 := t.minute_lt.trans (by decide)
  have hsecond {t : Instant} (h : t.Regular) : t.second < 10 ^ 2 := h.second_le.trans_lt (by decide)
  rw [write_eq hyear, write_eq hyear',
    compareChars_padded_append (by decide) (hfour hyear) (hfour hyear'),
    Text.compareChars_cons_self,
    compareChars_padded_append (by decide) a.month_lt b.month_lt, Text.compareChars_cons_self,
    compareChars_padded_append (by decide) a.day_lt b.day_lt, Text.compareChars_cons_self,
    compareChars_padded_append (by decide) (hhour a) (hhour b), Text.compareChars_cons_self,
    compareChars_padded_append (by decide) (hminute a) (hminute b), Text.compareChars_cons_self,
    compareChars_padded_append (by decide) (hsecond ha) (hsecond hb), Text.compareChars_cons_self,
    compareChars_padded_append (by decide) a.millisecond_lt b.millisecond_lt,
    Text.compareChars_self, Ordering.then_eq, compare_natAbs hyear.1 hyear'.1]

theorem compare_date (a b : Instant) :
    (compare a.year b.year).then ((compare a.date.month b.date.month).then
      (compare a.date.day b.date.day)) =
        compare (a.seconds / secondsPerDay) (b.seconds / secondsPerDay) :=
  Date.compare_ofDayNumber _ _

theorem compare_time (a b : Instant) :
    (compare a.hour b.hour).then (compare a.minute b.minute) =
      compare (a.ofDay / 60 : ℤ) (b.ofDay / 60) := by
  have hsplit (t : Instant) : (t.ofDay / 60 : ℤ) = ((60 * t.hour + t.minute : ℕ) : ℤ) := by
    simp only [hour, minute]
    omega
  rw [hsplit, hsplit, compare_natCast, compare_mul_add_nat a.minute_lt b.minute_lt]

theorem compare_minutes (a b : Instant) :
    (compare (a.seconds / secondsPerDay) (b.seconds / secondsPerDay)).then
      (compare (a.ofDay / 60 : ℤ) (b.ofDay / 60)) = compare (a.seconds / 60) (b.seconds / 60) := by
  have hsplit (t : Instant) :
      t.seconds / 60 = 1440 * (t.seconds / secondsPerDay) + t.ofDay / 60 := by
    simp only [ofDay, secondsPerDay]
    omega
  have hlt (t : Instant) : 0 ≤ (t.ofDay / 60 : ℤ) ∧ (t.ofDay / 60 : ℤ) < 1440 := by
    have hday := t.ofDay_lt
    omega
  rw [hsplit a, hsplit b, compare_mul_add (hlt a) (hlt b)]

/-- The milliseconds of a minute, which may have 61 seconds. -/
def inMinute (t : Instant) : ℕ := 1000 * t.second + t.millisecond

theorem compare_inMinute (a b : Instant) :
    (compare a.second b.second).then (compare a.millisecond b.millisecond) =
      compare (a.inMinute : ℤ) b.inMinute := by
  rw [compare_natCast, inMinute, inMinute, compare_mul_add_nat a.millisecond_lt b.millisecond_lt]

theorem inMinute_eq (t : Instant) :
    (t.inMinute : ℤ) = 1000 * (t.seconds % 60) + (t.nanos / 1000000 : ℕ) := by
  simp only [inMinute, second, millisecond, ofDay, secondsPerDay, nanosPerSecond]
  omega

/-- Minutes and the milliseconds in them compare as seconds and the milliseconds in those. -/
theorem compare_millis (ha : a.Regular) (hb : b.Regular) :
    (compare (a.seconds / 60) (b.seconds / 60)).then (compare (a.inMinute : ℤ) b.inMinute) =
      compare a.millis b.millis := by
  have hbounds {t : Instant} (h : t.Regular) : t.nanos / 1000000 < 2000 ∧
      (1000 ≤ t.nanos / 1000000 → t.seconds % 60 = 59) := by
    have hnanos := h.nanos_lt
    have hleap := h.leap
    simp only [nanosPerSecond] at hnanos hleap
    exact ⟨by omega, fun hlarge => hleap (by omega)⟩
  have hlt {t : Instant} (h : t.Regular) : 0 ≤ (t.inMinute : ℤ) ∧ (t.inMinute : ℤ) < 61000 := by
    have ht := hbounds h
    rw [inMinute_eq]
    omega
  have hmillis := hbounds ha
  have hmillis' := hbounds hb
  rw [← compare_mul_add (hlt ha) (hlt hb), inMinute_eq, inMinute_eq]
  generalize hm : a.nanos / 1000000 = m at *
  generalize hm' : b.nanos / 1000000 = m' at *
  apply compare_congr
  · rw [millis, millis, hm, hm', Prod.Lex.toLex_lt_toLex]
    omega
  · rw [millis, millis, hm, hm', toLex_inj, Prod.mk.injEq]
    omega

/-- The canonical texts of the years 0 to 9999 are in the order of the instants, cut to
milliseconds. -/
theorem compareTexts_text (ha : a.Regular) (hb : b.Regular) (hyear : a.year ∈ Set.Icc 0 9999)
    (hyear' : b.year ∈ Set.Icc 0 9999) :
    Text.compareTexts a.text b.text = compare a.millis b.millis := by
  rw [Text.compareTexts, text, text, String.toList_ofList, String.toList_ofList,
    compareChars_write ha hb hyear hyear', ← compare_millis ha hb, ← compare_inMinute,
    ← compare_minutes, ← compare_time, ← compare_date]
  simp only [Ordering.then_assoc]

end CatalogRules.Instant
