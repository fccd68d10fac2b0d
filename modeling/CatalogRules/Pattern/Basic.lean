import CatalogRules.Pattern.CharSet

/-!
Patterns of texts. Whether a pattern occurs in a text is found by going through
the text once: at each place there is a list of what may still follow, and the
next character turns it into the list for the place after. What an anchor says
about a place depends on the characters on both sides of it.
-/

namespace CatalogRules

inductive WordEdge where
  | boundary
  | inside
  | start
  | stop
  /-- No word ends or goes on here. -/
  | startHalf
  /-- No word starts or goes on here. -/
  | stopHalf
  deriving DecidableEq

inductive Anchor where
  | textStart
  | textEnd
  /-- With `returns` a carriage return ends a line as well. -/
  | lineStart (returns : Bool)
  | lineEnd (returns : Bool)
  | word (edge : WordEdge) (part : CharSet)
  deriving DecidableEq

namespace Anchor

def edgeHolds (before after : Bool) : WordEdge → Bool
  | .boundary => before != after
  | .inside => before == after
  | .start => !before && after
  | .stop => before && !after
  | .startHalf => !before
  | .stopHalf => !after

/-- Whether an anchor holds between two characters; a missing one is an end of
the text. -/
def holds (before after : Option Char) : Anchor → Bool
  | textStart => before.isNone
  | textEnd => after.isNone
  | lineStart false => before.isNone || before == some '\n'
  | lineEnd false => after.isNone || after == some '\n'
  | lineStart true =>
    before.isNone || before == some '\n' || (before == some '\r' && after != some '\n')
  | lineEnd true =>
    after.isNone || after == some '\r' || (after == some '\n' && before != some '\r')
  | word edge part => edgeHolds (before.any part.contains) (after.any part.contains) edge

end Anchor

inductive Pattern where
  | empty
  | char (s : CharSet)
  | place (a : Anchor)
  | seq (p q : Pattern)
  | choice (p q : Pattern)
  /-- At least `least` times, and at most `most` times if there is a limit. -/
  | times (p : Pattern) (least : Nat) (most : Option Nat)
  /-- A part that is kept track of by itself. -/
  | part (p : Pattern)
  deriving DecidableEq

namespace Pattern

/-- Whether a pattern fits the empty text at a place. -/
def fitsEmpty (before after : Option Char) : Pattern → Bool
  | empty => true
  | char _ => false
  | place a => a.holds before after
  | seq p q => p.fitsEmpty before after && q.fitsEmpty before after
  | choice p q => p.fitsEmpty before after || q.fitsEmpty before after
  | times p least _ => least == 0 || p.fitsEmpty before after
  | part p => p.fitsEmpty before after

def andThen (p q : Pattern) : Pattern :=
  if p = empty then q else if q = empty then p else seq p q

/-- What may follow a character that a pattern starts with. Repetitions that fit
the empty text at this place may all be spent on it. -/
def rests (before : Option Char) (c : Char) : Pattern → List Pattern
  | empty => []
  | char s => if s.contains c then [empty] else []
  | place _ => []
  | seq p q =>
    (p.rests before c).map (fun r => r.andThen q) ++
      if p.fitsEmpty before (some c) then q.rests before c else []
  | choice p q => p.rests before c ++ q.rests before c
  | times p least most =>
    if most = some 0 then []
    else
      let least := if p.fitsEmpty before (some c) then 0 else least - 1
      let most := most.map (fun n => n - 1)
      let more := if most = some 0 then empty else times p least most
      (p.rests before c).map (fun r => r.andThen more)
  | part p => p.rests before c

/-- Whether the pattern, or what is left of an occurrence that has started, fits
somewhere from here on. -/
def occursFrom (p : Pattern) (before : Option Char) (started : List Pattern) :
    List Char → Bool
  | [] => (p :: started).any (fun q => q.fitsEmpty before none)
  | c :: cs =>
    (p :: started).any (fun q => q.fitsEmpty before (some c)) ||
      occursFrom p (some c) ((p :: started).flatMap (fun q => q.rests before c)).eraseDups cs

def occursIn (p : Pattern) (s : String) : Bool := p.occursFrom none [] s.toList

end Pattern

end CatalogRules
