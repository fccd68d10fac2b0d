import CatalogRules.Pattern.Basic
import CatalogRules.Pattern.Stretches

/-!
How much room a pattern takes when it is laid out as a machine of states that read
bytes, once for each direction of reading. A repetition is laid out as often as it
may have to be read, so short texts can stand for large patterns; patterns that take
more room than there is are not used.
-/

namespace CatalogRules

inductive Direction where
  | forwards
  | backwards
  deriving DecidableEq

/-- The room of one state, without its ways on. -/
def stateRoom : Nat := 32

/-- The room of a way on for some bytes. -/
def byteWayRoom : Nat := 8

/-- The room of a way on without reading. -/
def wayRoom : Nat := 4

namespace CharSet

/-- Groups sequences that start alike, and leaves out what they start with. -/
def grouped : List (List Stretch) → List (Stretch × List (List Stretch))
  | [] => []
  | [] :: rest => grouped rest
  | (b :: bs) :: rest =>
    match grouped rest with
    | (c, group) :: groups =>
      if b = c then (b, bs :: group) :: groups else (b, [bs]) :: (c, group) :: groups
    | [] => [(b, [bs])]

/-- The states that tell what may follow, by what may follow; `depth` bounds the
length of the sequences. -/
def stateSuffixes : Nat → List (List Stretch) → List (List (List Stretch))
  | 0, _ => []
  | depth + 1, seqs =>
    let inner := (grouped seqs).flatMap fun (_, tails) =>
      if tails.all List.isEmpty then [] else stateSuffixes depth tails
    seqs :: inner

/-- States that tell the same are one. -/
def forwardRoom (seqs : List (List Stretch)) : Nat :=
  let states := (stateSuffixes 4 seqs).eraseDups
  stateRoom + states.foldl (fun n s => n + stateRoom + byteWayRoom * (grouped s).length) 0

def beginnings : Nat → List (List Stretch) → Nat
  | 0, _ => 0
  | depth + 1, seqs =>
    (grouped seqs).foldl (fun n g => n + 1 + beginnings depth g.2) 0

/-- Sequences share the states of their beginnings. -/
def backwardRoom (seqs : List (List Stretch)) : Nat :=
  2 * stateRoom + stateRoom * beginnings 4 seqs + wayRoom * seqs.length

/-- The room of a machine that reads one character of a set. -/
def room (d : Direction) (s : CharSet) : Nat :=
  match s.stretches with
  | [] => 2 * stateRoom
  | ss =>
    let bytesOf (n : Nat) := (Stretch.bytes n).length
    match ss with
    | [(first, last)] =>
      if first = last then stateRoom * bytesOf first else many ss
    | ss => many ss
where
  many (ss : List Stretch) : Nat :=
    if ss.all (fun t => t.2 ≤ 0x7F) then 2 * stateRoom + byteWayRoom * ss.length
    else match d with
      | .forwards => forwardRoom s.encodings
      | .backwards => backwardRoom s.encodings

end CharSet

namespace Pattern

def isBlank : Pattern → Bool
  | empty => true
  | char _ => false
  | place _ => true
  | seq p q => p.isBlank && q.isBlank
  | choice p q => p.isBlank && q.isBlank
  | times p _ most => most == some 0 || p.isBlank
  | part p => p.isBlank

/-- Whether a pattern may fit the empty text, wherever that is. -/
def mayFitEmpty : Pattern → Bool
  | empty => true
  | char _ => false
  | place _ => true
  | seq p q => p.mayFitEmpty && q.mayFitEmpty
  | choice p q => p.mayFitEmpty || q.mayFitEmpty
  | times p least _ => least == 0 || p.mayFitEmpty
  | part p => p.mayFitEmpty

/-- Whether a pattern is the empty one or is laid out like it. -/
def isNothing : Pattern → Bool
  | empty => true
  | times _ _ most => most == some 0
  | _ => false

/-- The alternatives of a choice as one set, if each of them is one character. -/
def asSet? : Pattern → Option CharSet
  | char s => some s
  | choice p q => do return .either (← p.asSet?) (← q.asSet?)
  | _ => none

def forkRoom : Nat := stateRoom + 2 * wayRoom

/-- The room of a repetition of something that takes `n`. -/
def timesRoom (n : Nat) (mayFitEmpty : Bool) (least : Nat) (most : Option Nat) : Nat :=
  match least, most with
  | 0, some 0 => stateRoom
  | 0, some 1 => forkRoom + n + stateRoom
  | 0, none => if mayFitEmpty then n + 2 * forkRoom + stateRoom else forkRoom + n
  | least, none => least * n + forkRoom
  | least, some most =>
    if most ≤ least then least * n
    else (if least = 0 then stateRoom else least * n) + stateRoom +
      (most - least) * (forkRoom + n)

/-- The room of a pattern that is not a set as a whole. -/
def room (d : Direction) : Pattern → Nat
  | empty => stateRoom
  | char s => s.room d
  | place _ => stateRoom
  | seq p q =>
    (if p.isNothing then 0 else room d p) + (if q.isNothing then 0 else room d q)
  | choice p q =>
    match asSet? (choice p q) with
    | some s => s.room d
    | none => 2 * stateRoom + alternative (room d p) p + alternative (room d q) q
  | times p least most =>
    if p.isBlank then
      timesRoom (room d p) true (min least 1) (some (most.elim 1 (min · 1)))
    else timesRoom (room d p) p.mayFitEmpty least most
  | part p =>
    match d with
    | .forwards => 2 * stateRoom + room d p
    | .backwards => room d p
where
  /-- Choices in a choice are laid out together. -/
  alternative (n : Nat) : Pattern → Nat
    | choice p q => if (asSet? (choice p q)).isSome then n + wayRoom else n - 2 * stateRoom
    | _ => n + wayRoom

def searchRoom (d : Direction) (p : Pattern) : Nat :=
  let before := 3 * stateRoom + byteWayRoom + 2 * wayRoom
  before + stateRoom + room d (part p)

def greatestRoom : Nat := 10485760

def isTooLarge (p : Pattern) : Bool :=
  [Direction.forwards, .backwards].any (fun d => greatestRoom < p.searchRoom d)

end Pattern

end CatalogRules
