import CatalogRules.Number.Power

/-!
Binary64 numbers over exact integers. The non-negative finite numbers are
counted in ascending order: the number of rank `r` is `scaled r / 2^1074`, and
`r` is also its bit pattern. So the order of numbers is the order of their
ranks, and every comparison and rounding below is one of natural numbers.
-/

namespace CatalogRules

/-- How many finite numbers there are of one sign, zero included: 2047 binades of
`2^52` each, the two lowest with the same spacing. -/
abbrev Binary64.rankCount : Nat := 0x7FF0000000000000

inductive Binary64 where
  | nan
  | infinite (negative : Bool)
  | finite (negative : Bool) (rank : Fin Binary64.rankCount)
  deriving DecidableEq

namespace Binary64

/-- The exponent of the spacing at a rank, in units of `2^-1074`. -/
def spacingExponent (rank : Nat) : Nat := rank / pow2 52 - 1

/-- The number of a rank, in units of `2^-1074`. -/
def scaled (rank : Nat) : Nat :=
  (rank - spacingExponent rank * pow2 52) * pow2 (spacingExponent rank)

/-- The last rank whose number is at most `q` units. -/
def floorRank (q : Nat) : Nat :=
  (q.log2 - 52) * pow2 52 + q / pow2 (q.log2 - 52)

/-- The rank `low` or the one above it, for something below, above or in their
middle; the middle goes to the even rank. -/
def nearer (low : Nat) : Ordering → Nat
  | .lt => low
  | .gt => low + 1
  | .eq => if low % 2 = 0 then low else low + 1

/-- The rank nearest to `num / den` units; a tie goes to the even rank. -/
def nearestRank (num den : Nat) : Nat :=
  let low := floorRank (num / den)
  nearer low (compare (2 * num) ((scaled low + scaled (low + 1)) * den))

def ofRank (negative : Bool) (rank : Nat) : Binary64 :=
  if h : rank < rankCount then .finite negative ⟨rank, h⟩ else .infinite negative

def nearest (negative : Bool) (num den : Nat) : Binary64 :=
  ofRank negative (nearestRank num den)

def zero : Binary64 := .finite false ⟨0, by decide⟩

def ofInt (i : Int) : Binary64 :=
  nearest (i < 0) (i.natAbs * pow2 1074) 1

def isFinite : Binary64 → Bool
  | finite _ _ => true
  | _ => false

def signBit : Nat := 0x8000000000000000

/-- The bit pattern: one bit of sign, then the rank. -/
def bits : Binary64 → Nat
  | nan => 0x7FF8000000000000
  | infinite negative => (if negative then signBit else 0) + rankCount
  | finite negative rank => (if negative then signBit else 0) + rank

/-- The position in the order of numbers; both zeros stand at 0, and no
position belongs to what is not a number. -/
def place : Binary64 → Option Int
  | nan => none
  | infinite negative => some (if negative then -rankCount else rankCount)
  | finite negative rank => some (if negative then -rank else rank)

def compare? (x y : Binary64) : Option Ordering := do
  return compare (← x.place) (← y.place)

/-- The exact value of a finite number in units of `2^-1074`. -/
def units (negative : Bool) (rank : Nat) : Int :=
  if negative then -(scaled rank) else scaled rank

end Binary64

end CatalogRules
