import CatalogRules.Pattern.Fault
import CatalogRules.Text.Blank
import CatalogRules.Text.Digits

/-!
Readings of the text of a pattern: steps that take characters from its front, keep
count of the place, and end with a fault at the first problem. A flag in the text
says whether blanks and remarks count in the rest.
-/

namespace CatalogRules.Pattern

structure ReadState where
  rest : List Char
  /-- How many characters have been read. -/
  offset : Nat
  /-- Blanks and remarks do not count. -/
  spaced : Bool
  /-- The names of groups and where they stand. -/
  names : List (List Char × Span)

abbrev Reading (α : Type) := StateT ReadState (Except Fault) α

namespace Reading

def current : Reading (Option Char) := return (← get).rest.head?

def atEnd : Reading Bool := return (← get).rest.isEmpty

def isAt (c : Char) : Reading Bool := return (← get).rest.head? = some c

def startsWith (cs : List Char) : Reading Bool := return cs.isPrefixOf (← get).rest

def offset : Reading Nat := return (← get).offset

def spaced : Reading Bool := return (← get).spaced

def setSpaced (on : Bool) : Reading Unit := modify fun s => { s with spaced := on }

def skip (n : Nat) : Reading Unit :=
  modify fun s => { s with rest := s.rest.drop n, offset := s.offset + min n s.rest.length }

def skipOver (cs : List Char) : Reading Bool := do
  let found ← startsWith cs
  if found then skip cs.length
  return found

/-- How many blanks and characters of remarks a text starts with. -/
def spaceLength (inRemark : Bool) : List Char → Nat
  | [] => 0
  | c :: cs =>
    if inRemark then spaceLength (c != '\n') cs + 1
    else if Text.isBlank c then spaceLength false cs + 1
    else if c = '#' then spaceLength true cs + 1
    else 0

def skipSpace : Reading Unit := do
  let s ← get
  if s.spaced then skip (spaceLength false s.rest)

/-- Passes over a character and what does not count after it. -/
def next : Reading Unit := do
  skip 1
  skipSpace

def following : Reading (Option Char) := return (← get).rest.tail.head?

/-- The character after the current one, of those that count. -/
def followingCounted : Reading (Option Char) := do
  let s ← get
  let tail := s.rest.tail
  return (if s.spaced then tail.drop (spaceLength false tail) else tail).head?

def fail {α : Type} (p : Problem) (span : Span) : Reading α := throw ⟨p, span, none⟩

def here : Reading Span := return ⟨(← get).offset, (← get).offset + 1⟩

def point : Reading Span := return ⟨(← get).offset, (← get).offset⟩

def since (start : Nat) : Reading Span := return ⟨start, (← get).offset⟩

def failHere {α : Type} (p : Problem) : Reading α := do fail p (← here)

def failAtPoint {α : Type} (p : Problem) : Reading α := do fail p (← point)

def failSince {α : Type} (p : Problem) (start : Nat) : Reading α := do fail p (← since start)

def takeUpTo (kind : Char → Bool) : Nat → Reading (List Char)
  | 0 => return []
  | n + 1 => do
    match ← current with
    | none => return []
    | some c =>
      if kind c then
        next
        return c :: (← takeUpTo kind n)
      else return []

def takeAll (kind : Char → Bool) : Reading (List Char) := do
  takeUpTo kind (← get).rest.length

def greatestCount : Nat := 0xFFFFFFFF

def count : Reading (Except Fault Nat) := do
  let _ ← takeAll Text.isBlank
  let start ← offset
  let digits ← takeAll Char.isDigit
  let span ← since start
  let _ ← takeAll Text.isBlank
  let n := Text.digitsValue digits
  if digits.isEmpty then return .error ⟨.countMissing, span, none⟩
  else if greatestCount < n then return .error ⟨.countTooLarge, span, none⟩
  else return .ok n

def counts : Reading (Nat × Option Nat) := do
  let start ← offset
  next
  if ← atEnd then failSince .countUnclosed start
  let least ← count
  if ← atEnd then failSince .countUnclosed start
  let range : Nat × Option Nat ←
    if !(← isAt ',') then do
      let n ← least
      pure (n, some n)
    else do
      next
      if ← atEnd then failSince .countUnclosed start
      if ← isAt '\x7d' then
        let n ← least
        pure (n, none)
      else
        let n ← least
        let most ← count
        let m ← most
        pure (n, some m)
  if !(← isAt '\x7d') then failSince .countUnclosed start
  next
  if ← isAt '?' then skip 1
  if range.2.any (· < range.1) then failSince .countReversed start
  return range

end Reading

end CatalogRules.Pattern
