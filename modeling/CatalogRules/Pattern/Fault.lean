import CatalogRules.Text.Line

/-!
What is wrong with the text of a pattern, and where. The message shows the text
with marks under the characters in question. A text of several lines is shown with
the numbers of its lines; what goes over several lines is told in words.
-/

namespace CatalogRules.Pattern

/-- A stretch of a text: the characters from `start` up to but not including
`stop`. An empty stretch names the place itself. -/
structure Span where
  start : Nat
  stop : Nat
  deriving DecidableEq

inductive Problem where
  | escapeInSet
  | setRangeReversed
  | setRangeBound
  | setUnclosed
  | countTooLarge
  | countMissing
  | countReversed
  | countUnclosed
  | codeEmpty
  | codeNoCharacter
  | codeDigit
  | escapeUnfinished
  | escapeUnknown
  | flagDangling
  | flagTwice
  | flagNegatedTwice
  | flagsUnfinished
  | flagUnknown
  | nameTwice
  | nameEmpty
  | nameCharacter
  | nameUnclosed
  | groupUnclosed
  | groupUnopened
  | nothingToRepeat
  | edgeUnclosed
  | edgeUnknown
  | edgeUnfinished
  | categoryMalformed
  | propertyUnknown
  | propertyValueUnknown
  | backreference
  | lookAround
  | unicodeUnavailable
  | notText
  | nestedTooDeep
  deriving DecidableEq

/-- How deep groups, sets, repetitions, sequences and choices may be nested. -/
def deepestNesting : Nat := 250

def Problem.message : Problem → String
  | escapeInSet => "invalid escape sequence found in character class"
  | setRangeReversed => "invalid character class range, the start must be <= the end"
  | setRangeBound => "invalid range boundary, must be a literal"
  | setUnclosed => "unclosed character class"
  | countTooLarge => "decimal literal invalid"
  | countMissing => "repetition quantifier expects a valid decimal"
  | countReversed => "invalid repetition count range, the start must be <= the end"
  | countUnclosed => "unclosed counted repetition"
  | codeEmpty => "hexadecimal literal empty"
  | codeNoCharacter => "hexadecimal literal is not a Unicode scalar value"
  | codeDigit => "invalid hexadecimal digit"
  | escapeUnfinished => "incomplete escape sequence, reached end of pattern prematurely"
  | escapeUnknown => "unrecognized escape sequence"
  | flagDangling => "dangling flag negation operator"
  | flagTwice => "duplicate flag"
  | flagNegatedTwice => "flag negation operator repeated"
  | flagsUnfinished => "expected flag but got end of regex"
  | flagUnknown => "unrecognized flag"
  | nameTwice => "duplicate capture group name"
  | nameEmpty => "empty capture group name"
  | nameCharacter => "invalid capture group character"
  | nameUnclosed => "unclosed capture group name"
  | groupUnclosed => "unclosed group"
  | groupUnopened => "unopened group"
  | nothingToRepeat => "repetition operator missing expression"
  | edgeUnclosed =>
    "special word boundary assertion is either unclosed or contains an invalid character"
  | edgeUnknown =>
    "unrecognized special word boundary assertion, valid choices are: " ++
      "start, end, start-half or end-half"
  | edgeUnfinished =>
    "found either the beginning of a special word boundary or a bounded repetition on a \\b " ++
      "with an opening brace, but no closing brace"
  | categoryMalformed => "invalid Unicode character class"
  | propertyUnknown => "Unicode property not found"
  | propertyValueUnknown => "Unicode property value not found"
  | backreference => "backreferences are not supported"
  | lookAround => "look-around, including look-ahead and look-behind, is not supported"
  | unicodeUnavailable => "Unicode not allowed here"
  | notText => "pattern can match invalid UTF-8"
  | nestedTooDeep =>
    "exceed the maximum number of nested parentheses/brackets (" ++ toString deepestNesting ++ ")"

structure Fault where
  problem : Problem
  span : Span
  /-- Where the thing stands that the problem repeats. -/
  earlier : Option Span
  deriving DecidableEq

/-- A place in a text; lines and columns are counted from one. -/
structure Place where
  line : Nat
  column : Nat
  deriving DecidableEq

def placeAfter (n : Nat) (text : List Char) : Place :=
  let lines := Text.splitLines (text.take n)
  ⟨lines.length, (lines.getLast?.elim 0 List.length) + 1⟩

structure Area where
  start : Place
  stop : Place
  deriving DecidableEq

namespace Area

def ofSpan (text : List Char) (s : Span) : Area :=
  ⟨placeAfter s.start text, placeAfter s.stop text⟩

def isInLine (a : Area) : Bool := a.start.line == a.stop.line

/-- Marks under an area, on a line that has `written` characters already. -/
def marks (written : Nat) (a : Area) : List Char :=
  List.replicate (a.start.column - 1 - written) ' ' ++
    List.replicate (max 1 (a.stop.column - a.start.column)) '^'

def markLine (areas : List Area) : List Char :=
  areas.foldl (fun line a => line ++ a.marks line.length) []

def inWords (a : Area) : String :=
  "on line " ++ toString a.start.line ++ " (column " ++ toString a.start.column ++
    ") through line " ++ toString a.stop.line ++ " (column " ++
      toString (a.stop.column - 1) ++ ")"

end Area

namespace Fault

/-- What the message is about; what is repeated comes before what repeats it. -/
def areas (text : List Char) (f : Fault) : List Area :=
  (f.earlier.toList ++ [f.span]).map (Area.ofSpan text)

/-- The lines of a text, without the returns in front of line feeds; a line feed at
the end starts no line. -/
def shownLines (text : List Char) : List (List Char) :=
  let lines := Text.splitLines text
  let ended := lines.dropLast.map fun l => if l.getLast? = some '\r' then l.dropLast else l
  ended ++ (lines.getLast?.toList.filter (fun l => !l.isEmpty))

def shownLine (margin : String) (areas : List Area) (line : List Char) : String :=
  let marks := Area.markLine areas
  margin ++ String.ofList line ++ "\n" ++
    if areas.isEmpty then ""
    else String.ofList (List.replicate margin.length ' ') ++ String.ofList marks ++ "\n"

/-- The number of a line in front of it, as wide as the number of the last one. -/
def numberMargin (width n : Nat) : String :=
  let digits := toString n
  String.ofList (List.replicate (width - digits.length) ' ') ++ digits ++ ": "

def divider : String := String.ofList (List.replicate 79 '~') ++ "\n"

def shownNumbered (text : List Char) (areas : List Area) : String :=
  let width := (toString (Text.splitLines text).length).length
  String.join <| (shownLines text).zipIdx.map fun (line, i) =>
    shownLine (numberMargin width (i + 1))
      (areas.filter (fun a => a.isInLine && a.start.line == i + 1)) line

def message (text : String) (f : Fault) : String :=
  let cs := text.toList
  let areas := f.areas cs
  let long := areas.filter (fun a => !a.isInLine)
  "regex parse error:\n" ++
    (if '\n' ∈ cs then
      divider ++ shownNumbered cs areas ++ divider ++
        if long.isEmpty then "" else "\n".intercalate (long.map Area.inWords) ++ "\n"
    else shownLine "    " areas cs) ++
      "error: " ++ f.problem.message

end Fault

end CatalogRules.Pattern
