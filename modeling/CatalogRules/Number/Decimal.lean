import CatalogRules.Number.Binary64
import CatalogRules.Text.Digits

/-!
Decimal numerals `± coefficient * 10^exponent`, the literals of the rule
language and their correctly rounded binary64 numbers.

A literal is an optional sign, digits with an optional point and optional
digits after it (or a point and digits), and an optional exponent. All of it is
ASCII; `read?` gives nothing for any other text. An exponent with more than five
digits is cut, which only a numeral with as many zeros can show.
-/

namespace CatalogRules

structure Decimal where
  negative : Bool
  coefficient : Nat
  exponent : Int
  deriving DecidableEq

namespace Decimal

open Text (digitsValue)

/-- From this exponent on every number overflows. -/
def greatestExponent : Int := 310

/-- Below `10^leastMagnitude` every number is nearest to zero. -/
def leastMagnitude : Int := -400

/-- The nearest binary64 number. The two early cases only save work: their
numbers are beyond the largest finite one, or below half the least one. -/
def toBinary64 (d : Decimal) : Binary64 :=
  if d.coefficient = 0 then .ofRank d.negative 0
  else if greatestExponent < d.exponent then .infinite d.negative
  else if d.exponent + (d.coefficient.log2 + 1) < leastMagnitude then .ofRank d.negative 0
  else if 0 ≤ d.exponent then
    .nearest d.negative (d.coefficient * pow10 d.exponent.toNat * pow2 1074) 1
  else
    .nearest d.negative (d.coefficient * pow2 1074) (pow10 (-d.exponent).toNat)

def takeSign : List Char → Bool × List Char
  | '-' :: cs => (true, cs)
  | '+' :: cs => (false, cs)
  | cs => (false, cs)

/-- From this exponent on further digits of it count for nothing. -/
def longExponent : Nat := 0x10000

/-- The number that the digits of an exponent write, up to the digit with which
it is long. -/
def exponentValue (digits : List Char) : Nat :=
  digits.foldl (fun n c => if n < longExponent then n * 10 + digitsValue [c] else n) 0

def readExponent? : List Char → Option Int
  | [] => some 0
  | c :: cs =>
    if c = 'e' ∨ c = 'E' then
      let (negative, digits) := takeSign cs
      if digits.isEmpty || !digits.all Char.isDigit then none
      else some (if negative then -exponentValue digits else exponentValue digits)
    else none

def takeFraction : List Char → List Char × List Char
  | '.' :: cs => cs.span Char.isDigit
  | cs => ([], cs)

def read? (cs : List Char) : Option Decimal :=
  let (negative, cs) := takeSign cs
  let (whole, cs) := cs.span Char.isDigit
  let (fraction, cs) := takeFraction cs
  if whole.isEmpty && fraction.isEmpty then none
  else do
    let exponent ← readExponent? cs
    return ⟨negative, digitsValue (whole ++ fraction), exponent - fraction.length⟩

@[simp] theorem readExponent?_nil : readExponent? [] = some 0 := rfl

end Decimal

/-- The number a literal stands for; a literal beyond the finite numbers has
none. -/
def Binary64.ofLiteral? (cs : List Char) : Option Binary64 := do
  let d ← Decimal.read? cs
  let x := d.toBinary64
  if x.isFinite then some x else none

end CatalogRules
