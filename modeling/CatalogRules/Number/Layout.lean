import CatalogRules.Number.Shortest

/-!
The two written forms of a number. The plain form is always positional and has
no point for a whole number. The data form keeps `.0` on whole numbers and turns
to scientific notation from `10^16` on and below `10^-5`.
-/

namespace CatalogRules.Binary64

/-- Digits in front of and behind the point: the value of `digits` read as an
integer, times `10^exponent`. -/
def positional (digits : List Char) (exponent : Int) : List Char × List Char :=
  if 0 ≤ exponent then (digits ++ List.replicate exponent.toNat '0', [])
  else
    let places := (-exponent).toNat
    let padded := List.replicate (places + 1 - digits.length) '0' ++ digits
    padded.splitAt (padded.length - places)

structure Layout where
  tie : Tie
  /-- Whole numbers end in `.0`. -/
  keepsPoint : Bool
  /-- The decimal exponents of the leading digit that are written positionally,
  if there is a limit: from the first up to but not including the second. -/
  positionalRange : Option (Int × Int)

/-- The form of numbers in conditions, filters and messages. -/
def plainLayout : Layout := ⟨.away, false, none⟩

/-- The form of numbers in JSON documents. -/
def dataLayout : Layout := ⟨.even, true, some (-5, 16)⟩

def writePositional (keepsPoint : Bool) (digits : List Char) (exponent : Int) : List Char :=
  let (whole, fraction) := positional digits exponent
  if fraction.isEmpty then whole ++ (if keepsPoint then ['.', '0'] else [])
  else whole ++ '.' :: fraction

def writeScientific (digits : List Char) (leading : Int) : List Char :=
  let mantissa := match digits with
    | [] => []
    | [d] => [d]
    | d :: ds => d :: '.' :: ds
  mantissa ++ 'e' :: (if leading < 0 then '-' else '+') :: Nat.toDigits 10 leading.natAbs

def writeDigits (layout : Layout) (digits : List Char) (exponent : Int) : List Char :=
  let leading := digits.length + exponent - 1
  match layout.positionalRange with
  | none => writePositional layout.keepsPoint digits exponent
  | some (low, high) =>
    if low ≤ leading ∧ leading < high then writePositional layout.keepsPoint digits exponent
    else writeScientific digits leading

def writeMagnitude (layout : Layout) (rank : Nat) : List Char :=
  if rank = 0 then writePositional layout.keepsPoint ['0'] 0
  else
    let grid := shortest layout.tie rank
    writeDigits layout (Nat.toDigits 10 grid.coefficient) (grid.step - 1074)

def write (layout : Layout) : Binary64 → List Char
  | nan => ['N', 'a', 'N']
  | infinite negative => (if negative then ['-'] else []) ++ ['i', 'n', 'f']
  | finite negative rank => (if negative then ['-'] else []) ++ writeMagnitude layout rank

def plainText (x : Binary64) : String := String.ofList (x.write plainLayout)

end CatalogRules.Binary64
