import CatalogRules.Number.Binary64

/-!
Numbers as integers. A whole number of a magnitude below `2^127` is an integer of 128 bits;
the bound is the greatest such integer, rounded to a number.
-/

namespace CatalogRules.Binary64

def isWhole : Binary64 → Bool
  | finite _ rank => scaled rank % pow2 1074 == 0
  | _ => false

def magnitude : Binary64 → Binary64
  | nan => nan
  | infinite _ => infinite false
  | finite _ rank => finite false rank

/-- The integer that is left of a finite number without its fraction. -/
def truncate : Binary64 → Int
  | finite negative rank =>
    let n := scaled rank / pow2 1074
    if negative then -n else n
  | _ => 0

/-- The greatest integer of 128 bits as a number. -/
def wideBound : Binary64 := ofInt (pow2 127 - 1 : Nat)

/-- The number is an integer of 128 bits. -/
def isWideInteger (x : Binary64) : Bool :=
  x.isWhole && x.magnitude.compare? wideBound == some .lt

end CatalogRules.Binary64
