import CatalogRules.Time.Calendar

/-!
Instants, counted in seconds from 1970-01-01T00:00:00Z, and their canonical text
`YYYY-MM-DDTHH:MM:SS.sssZ`. A leap second is the second before it with 10^9
nanoseconds or more. Years outside 0 to 9999 are written with a sign.
-/

namespace CatalogRules

structure Instant where
  seconds : Int
  nanos : Nat
  deriving DecidableEq

namespace Instant

def secondsPerDay : Int := 86400

def nanosPerSecond : Nat := 1000000000

/-- The instant of a date and a time of day at an offset east of Greenwich. -/
def ofCivil? (date : Date) (hour minute second nanos : Nat) (offset : Int) : Option Instant :=
  if date.isValid ∧ hour < 24 ∧ minute < 60 ∧ second ≤ 60 then
    let start := date.dayNumber * secondsPerDay + hour * 3600 + minute * 60 - offset
    if second = 60 then some ⟨start + 59, nanos + nanosPerSecond⟩
    else some ⟨start + second, nanos⟩
  else none

def padded (width n : Nat) : List Char :=
  let digits := Nat.toDigits 10 n
  List.replicate (width - digits.length) '0' ++ digits

def writeYear (year : Int) : List Char :=
  if year < 0 then '-' :: padded 4 year.natAbs
  else if year ≤ 9999 then padded 4 year.natAbs
  else '+' :: padded 4 year.natAbs

def write (t : Instant) : List Char :=
  let date := Date.ofDayNumber (t.seconds / secondsPerDay)
  let ofDay := (t.seconds % secondsPerDay).toNat
  writeYear date.year ++ '-' :: padded 2 date.month ++ '-' :: padded 2 date.day ++
    'T' :: padded 2 (ofDay / 3600) ++ ':' :: padded 2 (ofDay / 60 % 60) ++
    ':' :: padded 2 (ofDay % 60 + t.nanos / nanosPerSecond) ++
    '.' :: padded 3 (t.nanos % nanosPerSecond / 1000000) ++ ['Z']

/-- The canonical text; milliseconds are cut off, not rounded. -/
def text (t : Instant) : String := String.ofList t.write

theorem padded_length_ge (width n : Nat) : width ≤ (padded width n).length := by
  simp only [padded, List.length_append, List.length_replicate]
  omega

end Instant

end CatalogRules
