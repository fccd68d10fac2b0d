import CatalogRules.Pattern.Form
import CatalogRules.Pattern.Reading

/-!
Escapes: a backslash and what follows it stand for one character, for a set of
characters, or for an anchor.
-/

namespace CatalogRules.Pattern

inductive Atom where
  /-- One character; `asByte` if it was written by two hexadecimal digits. -/
  | literal (c : Char) (asByte : Bool)
  | set (s : NamedSet)
  | anchor (a : AnchorForm)

namespace Reading

def isHexDigit (c : Char) : Bool := (Text.hexValue? c).isSome

def characterOf? (digits : List Char) : Option Char := do
  let n ← Text.numberInBase? 16 digits
  if n.isValidChar then return Char.ofNat n else none

def codeDigits : Nat → Reading (List Char)
  | 0 => return []
  | n + 1 => do
    match ← current with
    | none => failAtPoint .escapeUnfinished
    | some c =>
      if !isHexDigit c then failHere .codeDigit
      next
      return c :: (← codeDigits n)

/-- The digits between braces, from the character after the opening one on. -/
def bracedDigits (brace : Nat) : Nat → Reading (List Char)
  | 0 => failSince .escapeUnfinished brace
  | n + 1 => do
    match ← current with
    | none => failSince .escapeUnfinished brace
    | some '\x7d' => return []
    | some c =>
      if !isHexDigit c then failHere .codeDigit
      next
      return c :: (← bracedDigits brace n)

def code (count : Nat) : Reading Atom := do
  next
  if ← atEnd then failAtPoint .escapeUnfinished
  let start ← offset
  if ← isAt '\x7b' then
    next
    let digits ← bracedDigits start ((← get).rest.length + 1)
    let span : Span := ⟨start + 1, ← offset⟩
    next
    if digits.isEmpty then failSince .codeEmpty start
    match characterOf? digits with
    | some c => return .literal c false
    | none => fail .codeNoCharacter span
  else
    let digits ← codeDigits count
    match characterOf? digits with
    | some c => return .literal c (count == 2)
    | none => failSince .codeNoCharacter start

/-- Cuts a text in front of and behind the first occurrence of some characters. -/
def cutAt? (sign : List Char) : List Char → Option (List Char × List Char)
  | [] => none
  | c :: cs =>
    if sign.isPrefixOf (c :: cs) then some ([], (c :: cs).drop sign.length)
    else (cutAt? sign cs).map (fun (front, rest) => (c :: front, rest))

/-- The signs that may stand between a property and its value; the first of them that
occurs at all is the one meant. -/
def valueSigns : List (List Char) := [['!', '='], [':'], ['=']]

def propertyText (text : List Char) : PropertyText :=
  match valueSigns.findSome? (fun sign => cutAt? sign text) with
  | some (property, value) => .valued property value
  | none => .alone text

def bracedName : Nat → Reading (List Char)
  | 0 => failAtPoint .escapeUnfinished
  | n + 1 => do
    match ← current with
    | none => failAtPoint .escapeUnfinished
    | some '\x7d' => return []
    | some c =>
      next
      return c :: (← bracedName n)

def property : Reading NamedSet := do
  let negated ← isAt 'P'
  next
  match ← current with
  | none => failAtPoint .escapeUnfinished
  | some '\x7b' =>
    next
    let name ← bracedName ((← get).rest.length + 1)
    skip 1
    return .property (propertyText name) negated
  | some '\\' => failHere .categoryMalformed
  | some c =>
    next
    return .property (.alone [c]) negated

def letterSet? : Char → Option NamedSet
  | 'd' => some (.letter .digit false)
  | 's' => some (.letter .blank false)
  | 'w' => some (.letter .wordPart false)
  | 'D' => some (.letter .digit true)
  | 'S' => some (.letter .blank true)
  | 'W' => some (.letter .wordPart true)
  | _ => none

def isEdgeChar (c : Char) : Bool := c.isAlpha || c == '-'

def edgeOf? : String → Option WordEdge
  | "start" => some .start
  | "end" => some .stop
  | "start-half" => some .startHalf
  | "end-half" => some .stopHalf
  | _ => none

/-- The edge that is named between braces after `\b`. Braces that do not start
with a letter belong to a repetition. -/
def namedEdge (start : Nat) : Reading WordEdge := do
  if !(← isAt '\x7b') then return .boundary
  let before ← get
  let brace ← offset
  next
  if ← atEnd then failSince .edgeUnfinished start
  if !((← current).any isEdgeChar) then
    set before
    return .boundary
  let nameStart ← offset
  let name ← takeAll isEdgeChar
  if !(← isAt '\x7d') then failSince .edgeUnclosed brace
  let span ← since nameStart
  skip 1
  match edgeOf? (String.ofList name) with
  | some e => return e
  | none => fail .edgeUnknown span

/-- The signs that are literal after a backslash: those of ASCII that are neither
letters nor digits, but for the two that mark the edges of words. -/
def isEscapable (c : Char) : Bool :=
  c.toNat < 0x80 && !c.isAlphanum && c != '<' && c != '>'

def controlOf? : Char → Option Char
  | 'a' => some '\x07'
  | 'f' => some '\x0c'
  | 't' => some '\t'
  | 'n' => some '\n'
  | 'r' => some '\r'
  | 'v' => some '\x0b'
  | _ => none

def shortEscape (start : Nat) (c : Char) : Reading Atom := do
  if isEscapable c then return .literal c false
  match controlOf? c, c with
  | some d, _ => return .literal d false
  | none, 'A' => return .anchor .textStart
  | none, 'z' => return .anchor .textEnd
  | none, 'b' => return .anchor (.word (← namedEdge start))
  | none, 'B' => return .anchor (.word .inside)
  | none, '<' => return .anchor (.word .start)
  | none, '>' => return .anchor (.word .stop)
  | none, _ => failSince .escapeUnknown start

def escape : Reading Atom := do
  let start ← offset
  skip 1
  match ← current with
  | none => failSince .escapeUnfinished start
  | some 'x' => code 2
  | some 'u' => code 4
  | some 'U' => code 8
  | some c =>
    if c.isDigit then fail .backreference ⟨start, (← here).stop⟩
    if c = 'p' ∨ c = 'P' then return .set (← property)
    skip 1
    match letterSet? c with
    | some s => return .set s
    | none => shortEscape start c

end Reading

end CatalogRules.Pattern
