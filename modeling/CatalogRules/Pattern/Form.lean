import CatalogRules.Pattern.Basic
import CatalogRules.Pattern.Fault

/-!
The form of a pattern as its text gives it: what stands in it, where it stands, and
what is part of what. What letters, anchors and sets mean depends on flags, which are
part of the form.
-/

namespace CatalogRules.Pattern

inductive Flag where
  /-- Letters stand for those of the other case as well. -/
  | caseless
  /-- `^` and `$` mean lines, not the text. -/
  | byLine
  /-- The point means line feeds as well. -/
  | acrossLines
  /-- A carriage return ends a line as well. -/
  | returns
  /-- Sets and cases go beyond ASCII. -/
  | unicode
  /-- Blanks and remarks in the pattern do not count. -/
  | spaced
  /-- Repetitions take little first; whether a pattern occurs does not depend on it. -/
  | sparing
  deriving DecidableEq

/-- A flag that is set or taken back. -/
structure Change where
  flag : Flag
  on : Bool
  deriving DecidableEq

/-- A character that stands for itself; `asByte` if it was written by two
hexadecimal digits. -/
structure Literal where
  char : Char
  asByte : Bool
  span : Span
  deriving DecidableEq

inductive LetterSet where
  | digit
  | blank
  | wordPart
  deriving DecidableEq

inductive PropertyText where
  | alone (name : List Char)
  | valued (property value : List Char)
  deriving DecidableEq

inductive NamedSet where
  | letter (s : LetterSet) (negated : Bool)
  | property (p : PropertyText) (negated : Bool)
  deriving DecidableEq

inductive AnchorForm where
  | lineStart
  | lineEnd
  | textStart
  | textEnd
  | word (edge : WordEdge)
  deriving DecidableEq

inductive SetOperator where
  | both
  | without
  | apart
  deriving DecidableEq

inductive SetForm where
  | empty (span : Span)
  | literal (l : Literal)
  | range (first last : Literal)
  /-- A set such as `[:alpha:]`. -/
  | colon (s : CharSet) (negated : Bool) (span : Span)
  | named (s : NamedSet) (span : Span)
  | brackets (negated : Bool) (inner : SetForm) (span : Span)
  | union (parts : List SetForm) (span : Span)
  | combined (op : SetOperator) (left right : SetForm) (span : Span)

inductive Form where
  | empty (span : Span)
  | flags (changes : List Change) (span : Span)
  | literal (l : Literal)
  | point (span : Span)
  | named (s : NamedSet) (span : Span)
  | anchor (a : AnchorForm) (span : Span)
  | brackets (negated : Bool) (inner : SetForm) (span : Span)
  | times (p : Form) (least : Nat) (most : Option Nat) (span : Span)
  /-- A group, which may have flags of its own; others are numbered. -/
  | group (changes : List Change) (numbered : Bool) (p : Form) (span : Span)
  | choice (ps : List Form) (span : Span)
  | sequence (ps : List Form) (span : Span)

namespace SetForm

def span : SetForm → Span
  | empty span | colon _ _ span | named _ span | brackets _ _ span => span
  | union _ span | combined _ _ _ span => span
  | literal l => l.span
  | range first last => ⟨first.span.start, last.span.stop⟩

/-- One set of several; `place` is where they would stand if there were any. -/
def ofParts (spot : Span) : List SetForm → SetForm
  | [] => empty spot
  | [p] => p
  | p :: ps => union (p :: ps) ⟨p.span.start, (ps.getLast?.getD p).span.stop⟩

mutual

/-- The first part that is nested deeper than `limit`. -/
def tooDeep? (limit : Nat) : SetForm → Option Span
  | brackets _ inner span =>
    match limit with
    | 0 => some span
    | n + 1 => inner.tooDeep? n
  | union parts span =>
    match limit with
    | 0 => some span
    | n + 1 => tooDeepAmong? n parts
  | combined _ left right span =>
    match limit with
    | 0 => some span
    | n + 1 => (left.tooDeep? n).or (right.tooDeep? n)
  | _ => none

def tooDeepAmong? (limit : Nat) : List SetForm → Option Span
  | [] => none
  | p :: ps => (p.tooDeep? limit).or (tooDeepAmong? limit ps)

end

end SetForm

namespace Form

def span : Form → Span
  | empty span | flags _ span | point span | named _ span | anchor _ span => span
  | brackets _ _ span | times _ _ _ span | group _ _ _ span => span
  | choice _ span | sequence _ span => span
  | literal l => l.span

/-- A sequence, which is its item if it has one only. -/
def ofItems (span : Span) : List Form → Form
  | [] => empty span
  | [p] => p
  | ps => sequence ps span

def ofAlternatives (span : Span) : List Form → Form
  | [] => empty span
  | [p] => p
  | ps => choice ps span

mutual

def tooDeep? (limit : Nat) : Form → Option Span
  | brackets _ inner span =>
    match limit with
    | 0 => some span
    | n + 1 => inner.tooDeep? n
  | times p _ _ span =>
    match limit with
    | 0 => some span
    | n + 1 => p.tooDeep? n
  | group _ _ p span =>
    match limit with
    | 0 => some span
    | n + 1 => p.tooDeep? n
  | choice ps span =>
    match limit with
    | 0 => some span
    | n + 1 => tooDeepAmong? n ps
  | sequence ps span =>
    match limit with
    | 0 => some span
    | n + 1 => tooDeepAmong? n ps
  | _ => none

def tooDeepAmong? (limit : Nat) : List Form → Option Span
  | [] => none
  | p :: ps => (p.tooDeep? limit).or (tooDeepAmong? limit ps)

end

end Form

end CatalogRules.Pattern
