import CatalogRules.Number.Binary64
import CatalogRules.Text.Digits

/-!
Numbers read in steps. The digits of a numeral are counted as long as they fit
into 64 bits; the count is rounded to binary64, and then multiplied or divided by
a power of ten, which is rounded again. So a number need not be the nearest one:
it is when the count is below `2^53` and the power at most `10^22`, as then only
the last step rounds.

All of it is about the magnitudes of numbers, given by their ranks. From
`rankCount` on a rank stands for a number beyond the finite ones.
-/

namespace CatalogRules.Binary64

def rankOfNat (n : Nat) : Nat := nearestRank (n * pow2 1074) 1

def timesRank (a b : Nat) : Nat := nearestRank (scaled a * scaled b) (pow2 1074)

def dividedRank (a b : Nat) : Nat := nearestRank (scaled a * pow2 1074) (scaled b)

def greatestPower : Nat := 308

/-- Divides by the greatest power of ten a number of times. -/
def shrunkRank : Nat → Nat → Nat
  | 0, rank => rank
  | times + 1, rank =>
    if rank = 0 then 0
    else shrunkRank times (dividedRank rank (rankOfNat (pow10 greatestPower)))

/-- The rank of a count times `10^exponent`. A division by more than the greatest
power of ten is done by that power first, as often as it takes. -/
def steppedRank (count : Nat) (exponent : Int) : Nat :=
  if count = 0 then 0
  else if greatestPower < exponent then rankCount
  else if 0 ≤ exponent then timesRank (rankOfNat count) (rankOfNat (pow10 exponent.toNat))
  else
    let times := ((-exponent).toNat - 1) / greatestPower
    let power := (-exponent).toNat - times * greatestPower
    dividedRank (shrunkRank times (rankOfNat count)) (rankOfNat (pow10 power))

def greatestCount : Nat := 0xFFFFFFFFFFFFFFFF

/-- Counts digits on from `count` as long as the count fits, and gives how many
digits that are as well. -/
def countDigits (count : Nat) : List Char → Nat × Nat
  | [] => (count, 0)
  | c :: cs =>
    let next := count * 10 + Text.digitsValue [c]
    if next ≤ greatestCount then
      let (total, counted) := countDigits next cs
      (total, counted + 1)
    else (count, 0)

/-- The number that the digits in front of a point, those behind it and a power
of ten give. A digit in front that is not counted still moves the point. -/
def stepped (negative : Bool) (whole fraction : List Char) (exponent : Int) : Binary64 :=
  let (count, front) := countDigits 0 whole
  let (count, behind) := countDigits count fraction
  ofRank negative (steppedRank count (whole.length - front - behind + exponent))

@[simp] theorem steppedRank_zero (exponent : Int) : steppedRank 0 exponent = 0 := rfl

end CatalogRules.Binary64
