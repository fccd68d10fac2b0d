import CatalogRules.Number.Decimal
import CatalogRules.Time.Timestamp
import CatalogRules.Toml.Basic
import CatalogRules.Toml.Text

/-!
Numbers, dates and booleans in TOML. Dates and times have fixed columns and need
real days; integers have 64 bits; the digits of numbers may be parted by single
underscores. Of floats and dates only their form matters.
-/

namespace CatalogRules.Toml

open Text (Reader expect exactly)

def timeOfDay? (cs : List Char) : Option (List Char) := do
  let (hour, cs) ← exactly 2 cs
  let cs ← expect ':' cs
  let (minute, cs) ← exactly 2 cs
  let cs ← expect ':' cs
  let (second, cs) ← exactly 2 cs
  if hour < 24 ∧ minute < 60 ∧ second ≤ 60 then
    let (_, cs) ← Timestamp.fraction cs
    return cs
  else none

def calendarDay? (cs : List Char) : Option (List Char) := do
  let (year, cs) ← exactly 4 cs
  let cs ← expect '-' cs
  let (month, cs) ← exactly 2 cs
  let cs ← expect '-' cs
  let (day, cs) ← exactly 2 cs
  if (Date.mk year month day).isValid then return cs else none

def offset? : List Char → Option (List Char)
  | [] => none
  | c :: cs =>
    if c = 'Z' ∨ c = 'z' then some cs
    else if c = '+' ∨ c = '-' then do
      let (hours, cs) ← exactly 2 cs
      let cs ← expect ':' cs
      let (minutes, cs) ← exactly 2 cs
      if hours < 24 ∧ minutes < 60 then return cs else none
    else none

def timeAfterDay? : List Char → Option (List Char)
  | [] => none
  | c :: cs =>
    if c = 'T' ∨ c = 't' ∨ c = ' ' then do
      let cs ← timeOfDay? cs
      return (offset? cs).getD cs
    else none

def readDate : Reader Toml := fun cs =>
  match calendarDay? cs with
  | some cs => some (.date, (timeAfterDay? cs).getD cs)
  | none => (timeOfDay? cs).map (.date, ·)

/-- The digits after the first one; an underscore has a digit on both sides. -/
def moreDigits (kind : Char → Bool) : Reader (List Char)
  | [] => some ([], [])
  | ['_'] => none
  | '_' :: c :: cs =>
    if kind c then (moreDigits kind cs).map (fun (ds, rest) => (c :: ds, rest)) else none
  | c :: cs =>
    if kind c then (moreDigits kind cs).map (fun (ds, rest) => (c :: ds, rest))
    else some ([], c :: cs)

def someDigits (kind : Char → Bool) : Reader (List Char)
  | [] => none
  | c :: cs =>
    if kind c then (moreDigits kind cs).map (fun (ds, rest) => (c :: ds, rest)) else none

def wholeDigits : Reader (List Char)
  | '0' :: cs => some (['0'], cs)
  | cs => someDigits Char.isDigit cs

def leastInteger : Int := -0x8000000000000000

def greatestInteger : Int := 0x7FFFFFFFFFFFFFFF

def integerValue? (i : Int) : Option Toml :=
  if leastInteger ≤ i ∧ i ≤ greatestInteger then some (.integer i) else none

/-- An integer in another base than ten, after its two letters. -/
def readBased (base : Nat) : Reader Toml := fun cs => do
  let (digits, cs) ← someDigits (fun c => (Text.hexValue? c).any (· < base)) cs
  let n ← Text.numberInBase? base digits
  return (← integerValue? n, cs)

def readInteger : Reader Toml
  | '0' :: 'x' :: cs => readBased 16 cs
  | '0' :: 'o' :: cs => readBased 8 cs
  | '0' :: 'b' :: cs => readBased 2 cs
  | cs => do
    let (negative, cs) := Decimal.takeSign cs
    let (digits, cs) ← wholeDigits cs
    let n : Int := Text.digitsValue digits
    return (← integerValue? (if negative then -n else n), cs)

/-- The digits after a point; none if there is no point. -/
def fractionDigits : Reader (List Char)
  | '.' :: cs => someDigits Char.isDigit cs
  | cs => some ([], cs)

def exponentPart : Reader (Option Int)
  | [] => some (none, [])
  | c :: cs =>
    if c = 'e' ∨ c = 'E' then do
      let (negative, cs) := Decimal.takeSign cs
      let (digits, cs) ← someDigits Char.isDigit cs
      let n : Int := Decimal.exponentValue digits
      return (some (if negative then -n else n), cs)
    else some (none, c :: cs)

/-- A number with a fraction or an exponent. One above the greatest finite
number is refused, one below the least is not. -/
def readDecimal : Reader Toml := fun cs => do
  let (negative, cs) := Decimal.takeSign cs
  let (whole, cs) ← wholeDigits cs
  let (fraction, cs) ← fractionDigits cs
  let (exponent, cs) ← exponentPart cs
  if fraction.isEmpty && exponent.isNone then none
  else
    let d : Decimal := ⟨negative, Text.digitsValue (whole ++ fraction),
      exponent.getD 0 - fraction.length⟩
    if d.toBinary64 = .infinite false then none else return (.float, cs)

def readSpecial : Reader Toml := fun cs =>
  match (Decimal.takeSign cs).2 with
  | 'i' :: 'n' :: 'f' :: rest => some (.float, rest)
  | 'n' :: 'a' :: 'n' :: rest => some (.float, rest)
  | _ => none

def readBoolean : Reader Toml
  | 't' :: 'r' :: 'u' :: 'e' :: cs => some (.boolean true, cs)
  | 'f' :: 'a' :: 'l' :: 's' :: 'e' :: cs => some (.boolean false, cs)
  | _ => none

def readScalar : Reader Toml := fun cs =>
  (valueString cs).map (fun (s, rest) => (.string s, rest))
    <|> readBoolean cs
    <|> readDate cs
    <|> readDecimal cs
    <|> readSpecial cs
    <|> readInteger cs

end CatalogRules.Toml
