import CatalogRules.Pattern.NamedSet

/-!
What the form of a pattern means. Flags say whether the case of letters counts,
whether anchors mean lines or the text, what the point leaves out, and whether sets
go beyond ASCII. Within ASCII a set that has other characters as well has no meaning.
-/

namespace CatalogRules.Pattern

structure Modes where
  caseless : Bool
  byLine : Bool
  acrossLines : Bool
  returns : Bool
  unicode : Bool
  deriving DecidableEq

namespace Modes

def initial : Modes := ⟨false, false, false, false, true⟩

def change (m : Modes) (c : Change) : Modes :=
  match c.flag with
  | .caseless => { m with caseless := c.on }
  | .byLine => { m with byLine := c.on }
  | .acrossLines => { m with acrossLines := c.on }
  | .returns => { m with returns := c.on }
  | .unicode => { m with unicode := c.on }
  | .spaced | .sparing => m

def changeAll (m : Modes) (changes : List Change) : Modes := changes.foldl change m

/-- A set with what counts the same if the case of letters does not count. -/
def inCase (m : Modes) (s : CharSet) : CharSet :=
  if m.caseless then if m.unicode then .caseless s else .asciiCaseless s else s

/-- The characters that are not in a set; within ASCII there is no such set. -/
def negate (m : Modes) (span : Span) (s : CharSet) : Except Fault CharSet :=
  if m.unicode then .ok (.other s) else .error ⟨.notText, span, none⟩

def negateIf (m : Modes) (negated : Bool) (span : Span) (s : CharSet) : Except Fault CharSet :=
  if negated then m.negate span s else .ok s

def wordPart (m : Modes) : CharSet := if m.unicode then .wordPart else .asciiWordPart

end Modes

namespace LetterSet

def characters (m : Modes) : LetterSet → CharSet
  | digit => if m.unicode then .digit else .asciiDigit
  | blank => if m.unicode then .blank else .asciiBlank
  | wordPart => m.wordPart

end LetterSet

namespace Literal

/-- Whether the literal is a byte that is no character of ASCII. -/
def isLoneByte (m : Modes) (l : Literal) : Bool :=
  !m.unicode && l.asByte && l.char.toNat > 0x7F

def character (m : Modes) (l : Literal) : Except Fault Char :=
  if l.isLoneByte m then .error ⟨.notText, l.span, none⟩ else .ok l.char

def member (m : Modes) (l : Literal) : Except Fault Char :=
  if l.isLoneByte m then .error ⟨.notText, l.span, none⟩
  else if !m.unicode && l.char.toNat > 0x7F then .error ⟨.unicodeUnavailable, l.span, none⟩
  else .ok l.char

end Literal

namespace NamedSet

def characters (m : Modes) (span : Span) : NamedSet → Except Fault CharSet
  | letter s negated => m.negateIf negated span (s.characters m)
  | property p negated =>
    if !m.unicode then .error ⟨.unicodeUnavailable, span, none⟩
    else
      match p.characters with
      | .ok s => m.negateIf negated span (m.inCase s)
      | .error problem => .error ⟨problem, span, none⟩

end NamedSet

namespace SetOperator

def apply : SetOperator → CharSet → CharSet → CharSet
  | both => .both
  | without => .without
  | apart => .apart

end SetOperator

namespace SetForm

mutual

def characters (m : Modes) : SetForm → Except Fault CharSet
  | empty _ => return .none
  | literal l => return .one (← l.member m)
  | range first last => return .between (← first.member m) (← last.member m)
  | colon s negated span => m.negateIf negated span (m.inCase s)
  | named s span => s.characters m span
  | brackets negated inner span => do
    m.negateIf negated span (m.inCase (← inner.characters m))
  | union parts _ => charactersOfAny m parts
  | combined op left right _ => do
    let l ← left.characters m
    let r ← right.characters m
    return op.apply (m.inCase l) (m.inCase r)

def charactersOfAny (m : Modes) : List SetForm → Except Fault CharSet
  | [] => return .none
  | p :: ps => do
    let s ← p.characters m
    return .either s (← charactersOfAny m ps)

end

end SetForm

namespace AnchorForm

def anchor (m : Modes) : AnchorForm → Anchor
  | lineStart => if m.byLine then .lineStart m.returns else .textStart
  | lineEnd => if m.byLine then .lineEnd m.returns else .textEnd
  | textStart => .textStart
  | textEnd => .textEnd
  | word edge => .word edge m.wordPart

end AnchorForm

def Modes.point (m : Modes) : CharSet :=
  if m.acrossLines then .any
  else if m.returns then .other (.ofList ['\r', '\n'])
  else .other (.one '\n')

namespace Form

/-- A meaning that depends on the modes and may change them for what follows. -/
abbrev Meaning (α : Type) := StateT Modes (Except Fault) α

mutual

def meaning : Form → Meaning Pattern
  | empty _ => return .empty
  | flags changes _ => do
    modify (fun m => m.changeAll changes)
    return .empty
  | literal l => do
    let m ← get
    return .char (m.inCase (.one (← l.character m)))
  | point span => do
    let m ← get
    if !m.unicode then throw ⟨.notText, span, none⟩
    return .char m.point
  | named s span => do
    return .char (← s.characters (← get) span)
  | anchor a _ => return .place (a.anchor (← get))
  | brackets negated inner span => do
    return .char (← (SetForm.brackets negated inner span).characters (← get))
  | times p least most _ => return .times (← p.meaning) least most
  | group changes numbered p _ => do
    let before ← get
    set (before.changeAll changes)
    let q ← p.meaning
    set before
    return if numbered then .part q else q
  | choice ps _ => meaningOfAny ps
  | sequence ps _ => meaningOfAll ps

def meaningOfAny : List Form → Meaning Pattern
  | [] => return .empty
  | [p] => p.meaning
  | p :: ps => do
    let q ← p.meaning
    return .choice q (← meaningOfAny ps)

def meaningOfAll : List Form → Meaning Pattern
  | [] => return .empty
  | p :: ps => do
    let q ← p.meaning
    return q.andThen (← meaningOfAll ps)

end

end Form

def ofForm (f : Form) : Except Fault Pattern := do
  let (p, _) ← f.meaning.run .initial
  return p

end CatalogRules.Pattern
