import CatalogRules.Pattern.CharSet

/-!
Sets of characters as stretches of code points, in ascending order and with gaps
between them, and the stretches of bytes that write them.
-/

namespace CatalogRules

/-- Numbers from the first up to and including the last. -/
abbrev Stretch := Nat × Nat

namespace Stretch

def tidy (ss : List Stretch) : List Stretch :=
  let sorted := ss.mergeSort (fun s t => s.1 < t.1 || (s.1 == t.1 && s.2 ≤ t.2))
  (sorted.foldl (fun done s =>
    match done with
    | [] => [s]
    | d :: ds => if s.1 ≤ d.2 + 1 then (d.1, max d.2 s.2) :: ds else s :: d :: ds) []).reverse

def lastCode : Nat := 0x10FFFF

/-- The code points from `start` on that are in none of the stretches. -/
def gaps (start : Nat) : List Stretch → List Stretch
  | [] => if start ≤ lastCode then [(start, lastCode)] else []
  | s :: ss => if start < s.1 then (start, s.1 - 1) :: gaps (s.2 + 1) ss else gaps (s.2 + 1) ss

def covers (n : Nat) (ss : List Stretch) : Bool := ss.any (fun s => s.1 ≤ n && n ≤ s.2)

end Stretch

namespace CharSet

open Stretch

def withAllCases (ss : List Stretch) : List Stretch :=
  let targets := (Case.foldings.filter (fun f => covers f.1 ss)).map (fun f => (f.2, f.2))
  let folded := tidy (ss ++ targets)
  let origins := (Case.foldings.filter (fun f => covers f.2 folded)).map (fun f => (f.1, f.1))
  tidy (folded ++ origins)

def withAsciiCases (ss : List Stretch) : List Stretch :=
  let letters := (List.range 26).flatMap fun i =>
    let pair := ['A'.toNat + i, 'a'.toNat + i]
    if pair.any (fun n => covers n ss) then pair else []
  tidy (ss ++ letters.map (fun n => (n, n)))

def stretches : CharSet → List Stretch
  | between first last => if first ≤ last then [(first.toNat, last.toNat)] else []
  | blank =>
    tidy (((List.range 0x3001).filter (fun n => Text.isBlank (Char.ofNat n))).map fun n => (n, n))
  | category cs => tidy (Category.runs.stretches (fun c => c ∈ cs) 0)
  | property p => p.runsOf.stretches id 0
  | script s => Script.runs.stretches (fun t => t = s) 0
  | usedBy s =>
    let own := gaps 0 (Script.runs.stretches (fun t => t = s) 0)
    let listed := Script.uses.map (fun u => (u.first, u.last))
    let uses := (Script.uses.filter (fun u => s ∈ u.scripts)).map (fun u => (u.first, u.last))
    tidy (gaps 0 (tidy (own ++ listed)) ++ uses)
  | presentIn a => tidy (Age.runs.stretches (fun b => b.any (fun b => b.place ≤ a.place)) 0)
  | division k => k.division.runs.stretches (fun m => m == [k.letter]) 0
  | other s => gaps 0 s.stretches
  | either s t => tidy (s.stretches ++ t.stretches)
  | both s t => gaps 0 (tidy (gaps 0 s.stretches ++ gaps 0 t.stretches))
  | caseless s => withAllCases s.stretches
  | asciiCaseless s => withAsciiCases s.stretches

end CharSet

namespace Stretch

/-- The last code points that one, two and three bytes write. -/
def widthLimits : List Nat := [0x7F, 0x7FF, 0xFFFF]

/-- Where a stretch has to be cut because a byte after the first does not go through
all its values: behind the block of its first code point, or in front of that of its
last one. -/
def cutByBlock? (start stop size : Nat) : Option Nat :=
  if start / size = stop / size then none
  else if start % size ≠ 0 then some (start / size * size + size - 1)
  else if stop % size ≠ size - 1 then some (stop / size * size - 1)
  else none

/-- Where a stretch has to be cut if no choice of a byte for each place writes it. -/
def cut? (start stop : Nat) : Option Nat :=
  (widthLimits.find? (fun n => start ≤ n && n < stop)).or <|
    if stop ≤ 0x7F then none
    else [64, 4096, 262144].findSome? (fun size => cutByBlock? start stop size)

def bytes (n : Nat) : List Nat :=
  if n ≤ 0x7F then [n]
  else if n ≤ 0x7FF then [0xC0 + n / 64, 0x80 + n % 64]
  else if n ≤ 0xFFFF then [0xE0 + n / 4096, 0x80 + n / 64 % 64, 0x80 + n % 64]
  else [0xF0 + n / 262144, 0x80 + n / 4096 % 64, 0x80 + n / 64 % 64, 0x80 + n % 64]

def encodings (start stop : Nat) : List (List Stretch) :=
  match cut? start stop with
  | none => [(bytes start).zip (bytes stop)]
  | some n =>
    if _h : start ≤ n ∧ n < stop then encodings start n ++ encodings (n + 1) stop else []
termination_by stop - start

def withoutSurrogates (s : Stretch) : List Stretch :=
  if s.1 < 0xE000 ∧ 0xD7FF < s.2 then
    [(s.1, 0xD7FF), (0xE000, s.2)].filter (fun t => t.1 ≤ t.2)
  else [s]

end Stretch

def CharSet.encodings (s : CharSet) : List (List Stretch) :=
  (s.stretches.flatMap Stretch.withoutSurrogates).flatMap fun t => Stretch.encodings t.1 t.2

end CatalogRules
