import CatalogRules.Number.Power
import CatalogRules.Text.Blank
import CatalogRules.Text.Reader
import CatalogRules.Time.Instant

/-!
Timestamps as people and shops write them. After trimming, three forms are tried
in turn: a date and time with an offset from UTC in fixed columns, a date and
time without one, and a date alone; the last two are taken as UTC. In them
blanks may stand before each number, and a number may have fewer digits.
-/

namespace CatalogRules.Timestamp

open Text (Reader digitsValue expect exactly upTo stretch)

/-- Nanoseconds from the digits after a point; digits past the ninth count for
nothing. -/
def nanosOfDigits (digits : List Char) : Nat :=
  digitsValue (digits.take 9) * pow10 (9 - digits.length)

def fraction : Reader Nat
  | '.' :: cs =>
    (stretch Char.isDigit cs).map (fun (digits, rest) => (nanosOfDigits digits, rest))
  | cs => some (0, cs)

/-- `Z`, or a signed offset of hours and minutes, in seconds. -/
def offset : Reader Int
  | [] => none
  | c :: cs =>
    if c = 'Z' ∨ c = 'z' then some (0, cs)
    else if c = '+' ∨ c = '-' ∨ c = '\u2212' then do
      let (hours, cs) ← exactly 2 cs
      let cs ← expect ':' cs
      let (minutes, cs) ← exactly 2 cs
      if hours < 24 ∧ minutes < 60 then
        let seconds : Int := hours * 3600 + minutes * 60
        return (if c = '+' then seconds else -seconds, cs)
      else none
    else none

/-- The form with an offset. -/
def readZoned? (cs : List Char) : Option Instant := do
  let (year, cs) ← exactly 4 cs
  let cs ← expect '-' cs
  let (month, cs) ← exactly 2 cs
  let cs ← expect '-' cs
  let (day, cs) ← exactly 2 cs
  let separator :: cs := cs | none
  if separator != 'T' && separator != 't' && separator != ' ' then none else
  let (hour, cs) ← exactly 2 cs
  let cs ← expect ':' cs
  let (minute, cs) ← exactly 2 cs
  let cs ← expect ':' cs
  let (second, cs) ← exactly 2 cs
  let (nanos, cs) ← fraction cs
  let (east, cs) ← offset cs
  if cs.isEmpty then Instant.ofCivil? ⟨year, month, day⟩ hour minute second nanos east else none

/-- Up to four digits, or any number of digits after a sign. -/
def looseYear : Reader Int := fun cs =>
  match Text.dropBlanks cs with
  | '-' :: rest => (upTo rest.length rest).map (fun (n, cs) => (-(n : Int), cs))
  | '+' :: rest => (upTo rest.length rest).map (fun (n, cs) => ((n : Int), cs))
  | rest => (upTo 4 rest).map (fun (n, cs) => ((n : Int), cs))

def looseNumber : Reader Nat := fun cs => upTo 2 (Text.dropBlanks cs)

def looseDate : Reader Date := fun cs => do
  let (year, cs) ← looseYear cs
  let cs ← expect '-' cs
  let (month, cs) ← looseNumber cs
  let cs ← expect '-' cs
  let (day, cs) ← looseNumber cs
  return (⟨year, month, day⟩, cs)

/-- What stands between date and time: `T`, or any blanks. -/
inductive Separator where
  | letter
  | blanks
  deriving DecidableEq

def Separator.skip : Separator → List Char → Option (List Char)
  | letter, cs => expect 'T' cs
  | blanks, cs => some (Text.dropBlanks cs)

def looseSeconds (withSeconds : Bool) : Reader (Nat × Nat) := fun cs =>
  if withSeconds then do
    let cs ← expect ':' cs
    let (second, cs) ← looseNumber cs
    let (nanos, cs) ← fraction cs
    return ((second, nanos), cs)
  else some ((0, 0), cs)

/-- A form without an offset. -/
def readLocal? (separator : Separator) (withSeconds : Bool) (cs : List Char) :
    Option Instant := do
  let (date, cs) ← looseDate cs
  let cs ← separator.skip cs
  let (hour, cs) ← looseNumber cs
  let cs ← expect ':' cs
  let (minute, cs) ← looseNumber cs
  let ((second, nanos), cs) ← looseSeconds withSeconds cs
  if cs.isEmpty then Instant.ofCivil? date hour minute second nanos 0 else none

def readDate? (cs : List Char) : Option Instant := do
  let (date, cs) ← looseDate cs
  if cs.isEmpty then Instant.ofCivil? date 0 0 0 0 0 else none

def readTrimmed? (cs : List Char) : Option Instant :=
  readZoned? cs
    <|> readLocal? .letter true cs
    <|> readLocal? .blanks true cs
    <|> readLocal? .letter false cs
    <|> readLocal? .blanks false cs
    <|> readDate? cs

def read? (raw : String) : Option Instant :=
  readTrimmed? (Text.trimChars raw.toList)

def normalize? (raw : String) : Option String :=
  (read? raw).map Instant.text

end CatalogRules.Timestamp
