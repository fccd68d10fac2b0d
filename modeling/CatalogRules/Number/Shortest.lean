import CatalogRules.Number.Binary64

/-!
The fewest decimal digits that read back. A finite number is compared with its
two neighbours on ever finer decimal grids; the first grid with a neighbour that
reads back as the number gives the digits, and of two such neighbours the nearer
one is taken. Everything is counted in units of `10^-1074`, in which each finite
number is whole, so the search ends at the finest grid at the latest.
-/

namespace CatalogRules.Binary64

/-- Which of two equally near digit strings is written. -/
inductive Tie where
  | even
  | away
  deriving DecidableEq

/-- `coefficient * 10^exponent`, counted in units of `10^-1074`. -/
structure Grid where
  coefficient : Nat
  step : Nat
  deriving DecidableEq

/-- The number of a rank in units of `10^-1074`. -/
def fineUnits (rank : Nat) : Nat := scaled rank * pow5 1074

/-- The rank that a point of a grid reads back as. -/
def Grid.rank (g : Grid) : Nat :=
  nearestRank (g.coefficient * pow10 g.step) (pow5 1074)

/-- The upper neighbour is written when it is nearer, and at a tie as `tie`
says. -/
def preferUpper (tie : Tie) (value coefficient step : Nat) : Bool :=
  match compare (2 * (value - coefficient * pow10 step)) (pow10 step) with
  | .lt => false
  | .gt => true
  | .eq => tie = .away || coefficient % 2 = 1

def onGrid? (tie : Tie) (rank value step : Nat) : Option Grid :=
  let low : Grid := ⟨value / pow10 step, step⟩
  let high : Grid := ⟨low.coefficient + 1, step⟩
  if low.rank = rank then
    if high.rank = rank && preferUpper tie value low.coefficient step then some high
    else some low
  else if high.rank = rank then some high
  else none

/-- The first grid with a hit, from the given step downwards. -/
def firstGrid (tie : Tie) (rank value : Nat) : Nat → Grid
  | 0 => ⟨value, 0⟩
  | step + 1 => (onGrid? tie rank value (step + 1)).getD (firstGrid tie rank value step)

/-- A step whose grid is too coarse for every number of that size. -/
def coarsestStep (value : Nat) : Nat := (value.log2 + 1) * 30103 / 100000 + 2

def shortest (tie : Tie) (rank : Nat) : Grid :=
  let value := fineUnits rank
  firstGrid tie rank value (coarsestStep value)

end CatalogRules.Binary64
