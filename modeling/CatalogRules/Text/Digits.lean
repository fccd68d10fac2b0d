/-!
Digits, and the numbers they write in base ten or another base. Beyond nine the
digits are letters, in capitals or small.
-/

namespace CatalogRules.Text

def digitsValue (digits : List Char) : Nat :=
  Nat.ofDigitChars 10 digits 0

def hexValue? (c : Char) : Option Nat :=
  if c.isDigit then some (c.toNat - '0'.toNat)
  else if 'a' ≤ c ∧ c ≤ 'f' then some (c.toNat - 'a'.toNat + 10)
  else if 'A' ≤ c ∧ c ≤ 'F' then some (c.toNat - 'A'.toNat + 10)
  else none

/-- The number that digits of the given base write; digits beyond the base have
no number. -/
def numberInBase? (base : Nat) (digits : List Char) : Option Nat :=
  digits.foldlM (fun n c => do
    let d ← hexValue? c
    if d < base then return n * base + d else none) 0

end CatalogRules.Text
