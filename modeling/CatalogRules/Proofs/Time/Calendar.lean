import CatalogRules.Proofs.Number.Comparison
import CatalogRules.Time.Calendar
import Mathlib

/-!
Dates of day numbers. Every day is a day of exactly one year that starts in March, and the
date of a day number is read off the two. So it is a day of a month in the calendar, it
has the day number again, and dates ascend with their day numbers.
-/

namespace CatalogRules.Date

/-- Day `d` of 400 years is day `r` of year `s` of the four years `q` of century `c`. All
are counted from zero, and day 365 is a leap day. -/
structure InEra (d c q s r : ℤ) : Prop where
  eq : d = 36524 * c + 1461 * q + 365 * s + r
  century : 0 ≤ c ∧ c ≤ 3
  four : 0 ≤ q ∧ q ≤ 24
  year : 0 ≤ s ∧ s ≤ 3
  day : 0 ≤ r ∧ (r ≤ 364 ∨ r = 365 ∧ s = 3 ∧ (q < 24 ∨ c = 3))

variable {d c q s r : ℤ}

theorem exists_inEra (hd : 0 ≤ d) (hlt : d < 146097) : ∃ c q s r, InEra d c q s r := by
  by_cases hlast : d = 146096
  · exact ⟨3, 24, 3, 365, by omega, by omega, by omega, by omega, by omega⟩
  by_cases hleap : d % 36524 % 1461 = 1460
  · exact ⟨d / 36524, d % 36524 / 1461, 3, 365,
      by omega, by omega, by omega, by omega, by omega⟩
  · exact ⟨d / 36524, d % 36524 / 1461, d % 36524 % 1461 / 365, d % 36524 % 1461 % 365,
      by omega, by omega, by omega, by omega, by omega⟩

/-- Without its leap days the era is made of years of 365 days. -/
theorem InEra.yearOfEra (h : InEra d c q s r) :
    (d - d / 1460 + d / 36524 - d / 146096) / 365 = 100 * c + 4 * q + s := by
  obtain ⟨eq, century, four, year, day⟩ := h
  have hera : d / 146096 = 0 ∨ d = 146096 := by omega
  have hcentury : d / 36524 = c ∨ d = 146096 := by omega
  -- As many days as leap days before it are missing to a multiple of 1460.
  have hfour : d / 1460 = 25 * c + q ∧ 24 * c + q + 365 * s + r < 1460 ∨
      d / 1460 = 25 * c + q + 1 ∧ 1460 ≤ 24 * c + q + 365 * s + r := by omega
  omega

theorem daysBeforeYear_eq {era : ℤ} (hc : 0 ≤ c ∧ c ≤ 3) (hq : 0 ≤ q ∧ q ≤ 24)
    (hs : 0 ≤ s ∧ s ≤ 3) :
    daysBeforeYear (100 * c + 4 * q + s + 400 * era) =
      36524 * c + 1461 * q + 365 * s + 146097 * era := by
  have hfour : (100 * c + 4 * q + s + 400 * era) / 4 = 25 * c + q + 100 * era := by omega
  have hcentury : (100 * c + 4 * q + s + 400 * era) / 100 = c + 4 * era := by omega
  have hera : (100 * c + 4 * q + s + 400 * era) / 400 = era := by omega
  rw [daysBeforeYear, hfour, hcentury, hera]
  ring

/-- The next year starts later. It may be the first of four years, a century or an era. -/
theorem InEra.lt_daysBeforeYear (h : InEra d c q s r) (era : ℤ) :
    d + 146097 * era < daysBeforeYear (100 * c + 4 * q + s + 400 * era + 1) := by
  obtain ⟨rfl, hc, hq, hs, hr⟩ := h
  have hnext {c' q' s' era' : ℤ} (hc' : 0 ≤ c' ∧ c' ≤ 3) (hq' : 0 ≤ q' ∧ q' ≤ 24)
      (hs' : 0 ≤ s' ∧ s' ≤ 3)
      (heq : 100 * c' + 4 * q' + s' + 400 * era' = 100 * c + 4 * q + s + 400 * era + 1) :
      daysBeforeYear (100 * c + 4 * q + s + 400 * era + 1) =
        36524 * c' + 1461 * q' + 365 * s' + 146097 * era' := by
    rw [← heq, daysBeforeYear_eq hc' hq' hs']
  by_cases hyear : s < 3
  · rw [@hnext c q (s + 1) era hc hq (by omega) (by omega)]
    omega
  by_cases hfour : q < 24
  · rw [@hnext c (q + 1) 0 era hc (by omega) (by omega) (by omega)]
    omega
  by_cases hcentury : c < 3
  · rw [@hnext (c + 1) 0 0 era (by omega) (by omega) (by omega) (by omega)]
    omega
  · rw [@hnext 0 0 0 (era + 1) (by omega) (by omega) (by omega) (by omega)]
    omega

/-- Day number `n` is the given day, counted from zero, of a year that starts in March. -/
structure IsDay (n year day : ℤ) : Prop where
  eq : n + epochShift = daysBeforeYear year + day
  nonneg : 0 ≤ day
  lt : daysBeforeYear year + day < daysBeforeYear (year + 1)

def monthOfDay (day : ℤ) : ℤ := (5 * day + 2) / 153

def ofMarch (year day : ℤ) : Date :=
  let month := monthOfDay day
  let dayOfMonth := day - daysBeforeMonth month + 1
  if month < 10 then ⟨year, (month + 3).toNat, dayOfMonth.toNat⟩
  else ⟨year + 1, (month - 9).toNat, dayOfMonth.toNat⟩

theorem exists_isDay (n : ℤ) :
    ∃ year day, IsDay n year day ∧ ofDayNumber n = ofMarch year day := by
  obtain ⟨era, d, hn, hd, hlt⟩ :
      ∃ era d, n + epochShift = d + 146097 * era ∧ 0 ≤ d ∧ d < 146097 :=
    ⟨(n + epochShift) / 146097, (n + epochShift) % 146097, by omega, by omega, by omega⟩
  have hera : (n + epochShift) / 146097 = era := by omega
  have hday : (n + epochShift) % 146097 = d := by omega
  obtain ⟨c, q, s, r, h⟩ := exists_inEra hd hlt
  have hstart := @daysBeforeYear_eq c q s era h.century h.four h.year
  have hnext := h.lt_daysBeforeYear era
  obtain ⟨heq, hc, hq, hs, hr⟩ := id h
  refine ⟨100 * c + 4 * q + s + 400 * era, r, ⟨by omega, hr.1, by omega⟩, ?_⟩
  have hfour : (100 * c + 4 * q + s) / 4 = 25 * c + q := by omega
  have hcentury : (100 * c + 4 * q + s) / 100 = c := by omega
  have hrest : d - (365 * (100 * c + 4 * q + s) + (25 * c + q) - c) = r := by omega
  simp only [ofDayNumber, hera, hday, h.yearOfEra, hfour, hcentury, hrest, Int.mul_comm era]
  rfl

/-- The year that starts in March ends with the February of the next one. -/
theorem daysBeforeYear_succ (year : ℤ) :
    daysBeforeYear (year + 1) =
      daysBeforeYear year + if isLeapYear (year + 1) then 366 else 365 := by
  simp only [daysBeforeYear, isLeapYear, Bool.and_eq_true, Bool.or_eq_true, bne_iff_ne,
    decide_eq_true_eq]
  split <;> omega

theorem daysBeforeYear_mono : Monotone daysBeforeYear := by
  intro year year' h
  simp only [daysBeforeYear]
  omega

variable {n n' year year' day day' : ℤ}

theorem IsDay.le (h : IsDay n year day) : day ≤ 365 := by
  have hlt := h.lt
  rw [daysBeforeYear_succ] at hlt
  split at hlt <;> omega

theorem IsDay.lt_cases (h : IsDay n year day) (h' : IsDay n' year' day') (hlt : n < n') :
    year < year' ∨ year = year' ∧ day < day' := by
  have heq := h.eq
  have heq' := h'.eq
  rcases lt_trichotomy year year' with hyear | rfl | hyear
  · exact .inl hyear
  · exact .inr ⟨rfl, by omega⟩
  · -- The later day cannot be in an earlier year.
    have hmono := daysBeforeYear_mono (Int.add_one_le_of_lt hyear)
    have hnext := h'.lt
    have hnonneg := h.nonneg
    omega

theorem monthOfDay_mem (hday : 0 ≤ day) (hle : day ≤ 365) :
    0 ≤ monthOfDay day ∧ monthOfDay day ≤ 11 := by
  rw [monthOfDay]
  omega

theorem daysBeforeMonth_monthOfDay (day : ℤ) :
    daysBeforeMonth (monthOfDay day) ≤ day ∧ day < daysBeforeMonth (monthOfDay day + 1) := by
  simp only [daysBeforeMonth, monthOfDay]
  omega

/-- The months from March to December are as long as the next one starts later. -/
theorem daysInMonth_of_lt {month : ℤ} (hmonth : 0 ≤ month) (hlt : month < 10) (year : ℤ) :
    (daysInMonth year (month + 3).toNat : ℤ) =
      daysBeforeMonth (month + 1) - daysBeforeMonth month := by
  interval_cases month <;> rfl

theorem daysInMonth_le (year : ℤ) (month : ℕ) : daysInMonth year month ≤ 31 := by
  unfold daysInMonth
  split_ifs <;> decide

structure InMonth (d : Date) : Prop where
  month : 1 ≤ d.month ∧ d.month ≤ 12
  day : 1 ≤ d.day ∧ d.day ≤ daysInMonth d.year d.month

theorem inMonth_ofMarch (h : IsDay n year day) : InMonth (ofMarch year day) := by
  have hlast := h.lt
  rw [daysBeforeYear_succ] at hlast
  have hmonth := monthOfDay_mem h.nonneg h.le
  have hday := daysBeforeMonth_monthOfDay day
  unfold ofMarch
  generalize monthOfDay day = month at *
  by_cases hspring : month < 10
  · have hlength := daysInMonth_of_lt hmonth.1 hspring year
    simp only [hspring, if_true]
    exact ⟨by dsimp only; omega, by dsimp only; omega⟩
  simp only [hspring, if_false]
  obtain rfl | rfl : month = 10 ∨ month = 11 := by omega
  · have hjanuary : 306 ≤ day ∧ day < 337 := hday
    refine ⟨by dsimp only; decide, ?_⟩
    change 1 ≤ (day - 306 + 1).toNat ∧ (day - 306 + 1).toNat ≤ 31
    omega
  · -- The end of the year is that of February.
    have hfebruary : 337 ≤ day ∧ day < 367 := hday
    refine ⟨by dsimp only; decide, ?_⟩
    change 1 ≤ (day - 337 + 1).toNat ∧
      (day - 337 + 1).toNat ≤ if isLeapYear (year + 1) then 29 else 28
    split_ifs at hlast ⊢ <;> omega

theorem dayNumber_ofMarch (hday : 0 ≤ day) (hle : day ≤ 365) :
    dayNumber (ofMarch year day) = daysBeforeYear year + day - epochShift := by
  have hmonth := monthOfDay_mem hday hle
  have hfirst := (daysBeforeMonth_monthOfDay day).1
  unfold ofMarch
  generalize monthOfDay day = month at *
  by_cases hspring : month < 10
  · have hlate : ¬(month + 3).toNat ≤ 2 := by omega
    have heq : (((month + 3).toNat : ℤ) - 3) = month := by omega
    simp only [hspring, if_true, dayNumber, hlate, if_false, heq]
    omega
  · -- January and February belong to the next year.
    have hearly : (month - 9).toNat ≤ 2 := by omega
    have heq : (((month - 9).toNat : ℤ) + 9) = month := by omega
    simp only [hspring, if_false, dayNumber, hearly, if_true, heq, Int.add_sub_cancel]
    omega

/-- The number of a day, if all months had 31 days. -/
def place (d : Date) : ℤ := 31 * (12 * d.year + (d.month - 1)) + (d.day - 1)

/-- The number of a day in a year, if all months from March on had 31 days. -/
def placeInYear (day : ℤ) : ℤ :=
  31 * monthOfDay day + (day - daysBeforeMonth (monthOfDay day))

theorem placeInYear_nonneg (h : 0 ≤ day) : 0 ≤ placeInYear day := by
  simp only [placeInYear, daysBeforeMonth, monthOfDay]
  omega

theorem placeInYear_lt (h : day ≤ 365) : placeInYear day < 372 := by
  simp only [placeInYear, daysBeforeMonth, monthOfDay]
  omega

theorem placeInYear_strictMono : StrictMono placeInYear := by
  refine strictMono_int_of_lt_succ fun day => ?_
  have hmonth : monthOfDay (day + 1) = monthOfDay day ∨
      monthOfDay (day + 1) = monthOfDay day + 1 := by
    simp only [monthOfDay]
    omega
  simp only [placeInYear, daysBeforeMonth]
  rcases hmonth with hmonth | hmonth <;> rw [hmonth] <;> omega

theorem place_ofMarch (hday : 0 ≤ day) (hle : day ≤ 365) :
    place (ofMarch year day) = 372 * year + 62 + placeInYear day := by
  have hmonth := monthOfDay_mem hday hle
  have hfirst := (daysBeforeMonth_monthOfDay day).1
  unfold ofMarch
  simp only [placeInYear]
  split <;> (simp only [place]; omega)

theorem inMonth_ofDayNumber (n : ℤ) : InMonth (ofDayNumber n) := by
  obtain ⟨year, day, h, hdate⟩ := exists_isDay n
  rw [hdate]
  exact inMonth_ofMarch h

/-- The date of a day number has this day number. -/
theorem dayNumber_ofDayNumber (n : ℤ) : dayNumber (ofDayNumber n) = n := by
  obtain ⟨year, day, h, hdate⟩ := exists_isDay n
  have heq := h.eq
  rw [hdate, dayNumber_ofMarch h.nonneg h.le]
  omega

theorem place_ofDayNumber_strictMono : StrictMono fun n => place (ofDayNumber n) := by
  intro n n' hlt
  obtain ⟨year, day, h, hdate⟩ := exists_isDay n
  obtain ⟨year', day', h', hdate'⟩ := exists_isDay n'
  simp only [hdate, hdate', place_ofMarch h.nonneg h.le, place_ofMarch h'.nonneg h'.le]
  rcases h.lt_cases h' hlt with hyear | ⟨rfl, hday⟩
  · have hbefore := placeInYear_lt h.le
    have hafter := placeInYear_nonneg h'.nonneg
    omega
  · have hplace := placeInYear_strictMono hday
    omega

theorem compare_ofDayNumber (n n' : ℤ) :
    (compare (ofDayNumber n).year (ofDayNumber n').year).then
      ((compare (ofDayNumber n).month (ofDayNumber n').month).then
        (compare (ofDayNumber n).day (ofDayNumber n').day)) = compare n n' := by
  have hplace := compare_strictMono place_ofDayNumber_strictMono n n'
  have hdate := inMonth_ofDayNumber n
  have hdate' := inMonth_ofDayNumber n'
  generalize ofDayNumber n = date at *
  generalize ofDayNumber n' = date' at *
  obtain ⟨hmonth, hday⟩ := hdate
  obtain ⟨hmonth', hday'⟩ := hdate'
  have hlength := daysInMonth_le date.year date.month
  have hlength' := daysInMonth_le date'.year date'.month
  have hmonths : compare date.month date'.month =
      compare (date.month - 1 : ℤ) (date'.month - 1) := compare_congr (by omega) (by omega)
  have hdays : compare date.day date'.day = compare (date.day - 1 : ℤ) (date'.day - 1) :=
    compare_congr (by omega) (by omega)
  rw [← hplace, place, place, compare_mul_add (by omega) (by omega),
    compare_mul_add (by omega) (by omega), Ordering.then_assoc, hmonths, hdays]

end CatalogRules.Date
