import CatalogRules.Json.Value
import CatalogRules.Number.Decimal
import CatalogRules.Number.Stepwise
import CatalogRules.Text.Digits

/-!
Reading JSON from left to right. A draft is the tree of a text as far as it could
be read. Where the text stops being JSON the draft ends in a flaw, so that a
decoder which walks the draft in order meets the first problem of the text first,
whether it is one of form or one of type.

A value that nobody asks for is passed over, and this is more lenient than
reading it: half a surrogate pair and a number too large for binary64 do no harm
in it.
-/

namespace CatalogRules.Json

/-- What is wrong with a text: it is not JSON, or it ends too early. -/
inductive Defect where
  | malformed
  | incomplete
  deriving DecidableEq

/-- A defect as it shows when the value is used and, if it is still one then,
when the value is passed over. -/
structure Flaw where
  used : Defect
  passed : Option Defect
  deriving DecidableEq

namespace Flaw

def stop (d : Defect) : Flaw := ⟨d, some d⟩

/-- Only users of the value mind. -/
def unusable : Flaw := ⟨.malformed, none⟩

end Flaw

inductive Draft where
  | null
  | bool (value : Bool)
  | number (value : Number)
  | string (value : String)
  /-- The items, and the flaw at which the list breaks off. -/
  | array (items : List Draft) (cut : Option Flaw)
  /-- The members, without a name where the name cannot be used, and the flaw at
  which the list breaks off. -/
  | object (members : List (Option String × Draft)) (cut : Option Flaw)
  | flawed (flaw : Flaw)

namespace Draft

mutual

def ofJson : Json → Draft
  | .null => null
  | .bool b => bool b
  | .number n => number n
  | .string s => string s
  | .array items => array (ofItems items) none
  | .object members => object (ofMembers members) none

def ofItems : List Json → List Draft
  | [] => []
  | v :: vs => ofJson v :: ofItems vs

def ofMembers : List (String × Json) → List (Option String × Draft)
  | [] => []
  | (name, v) :: ms => (some name, ofJson v) :: ofMembers ms

end

end Draft

/-- What a reader has made of the start of a text: a result, and the rest of the
text unless reading has stopped for good. -/
abbrev Reading (α : Type) := α × Option (List Char)

def isSpace (c : Char) : Bool := c == ' ' || c == '\t' || c == '\n' || c == '\r'

def skipSpaces (cs : List Char) : List Char := cs.dropWhile isSpace

def hexCode? (a b c d : Char) : Option Nat := Text.numberInBase? 16 [a, b, c, d]

def simpleEscape? : Char → Option Char
  | '"' => some '"'
  | '\\' => some '\\'
  | '/' => some '/'
  | 'b' => some '\x08'
  | 'f' => some '\x0c'
  | 'n' => some '\n'
  | 'r' => some '\r'
  | 't' => some '\t'
  | _ => none

def isHighSurrogate (n : Nat) : Bool := 0xD800 ≤ n && n ≤ 0xDBFF

def isLowSurrogate (n : Nat) : Bool := 0xDC00 ≤ n && n ≤ 0xDFFF

def joinSurrogates (high low : Nat) : Char :=
  Char.ofNat (0x10000 + (high - 0xD800) * 0x400 + (low - 0xDC00))

/-- The part of a string that has been read: its characters from the last to the
first with a high surrogate that waits for its partner, or nothing once the
string cannot be used. -/
inductive Spelling where
  | text (reversed : List Char)
  | halfway (reversed : List Char) (high : Nat)
  | unusable

namespace Spelling

def push (c : Char) : Spelling → Spelling
  | text reversed => text (c :: reversed)
  | _ => unusable

def pushCode (n : Nat) : Spelling → Spelling
  | text reversed =>
    if isHighSurrogate n then halfway reversed n
    else if isLowSurrogate n then unusable
    else text (Char.ofNat n :: reversed)
  | halfway reversed high =>
    if isLowSurrogate n then text (joinSurrogates high n :: reversed) else unusable
  | unusable => unusable

def finish : Spelling → Except Flaw String
  | text reversed => .ok (String.ofList reversed.reverse)
  | _ => .error .unusable

def stop (s : Spelling) (d : Defect) : Except Flaw String :=
  match s with
  | unusable => .error ⟨.malformed, some d⟩
  | _ => .error (.stop d)

end Spelling

def byteCount (cs : List Char) : Nat := cs.foldl (fun n c => n + c.utf8Size) 0

/-- The string whose opening quote has just been read. An escape by code point
needs four more bytes, whatever they are. -/
def readString (s : Spelling) : List Char → Reading (Except Flaw String)
  | [] => (s.stop .incomplete, none)
  | '"' :: cs => (s.finish, some cs)
  | '\\' :: 'u' :: a :: b :: c :: d :: cs =>
    match hexCode? a b c d with
    | some n => readString (s.pushCode n) cs
    | none => (s.stop .malformed, none)
  | '\\' :: 'u' :: cs =>
    (s.stop (if byteCount cs < 4 then .incomplete else .malformed), none)
  | '\\' :: c :: cs =>
    match simpleEscape? c with
    | some e => readString (s.push e) cs
    | none => (s.stop .malformed, none)
  | ['\\'] => (s.stop .incomplete, none)
  | c :: cs =>
    if c.toNat < 0x20 then (s.stop .malformed, none) else readString (s.push c) cs

/-- The flaw of a number that lacks a digit before `cs`: at the end of the text
a user would wait for it. -/
def missingDigit (cs : List Char) : Flaw :=
  if cs.isEmpty then ⟨.incomplete, some .malformed⟩ else .stop .malformed

def readWhole (cs : List Char) : Except Flaw (List Char × List Char) :=
  match cs with
  | '0' :: rest =>
    if rest.head?.any Char.isDigit then .error (.stop .malformed) else .ok (['0'], rest)
  | cs =>
    let (digits, rest) := cs.span Char.isDigit
    if digits.isEmpty then .error (missingDigit cs) else .ok (digits, rest)

def readFraction (cs : List Char) : Except Flaw (List Char × List Char) :=
  match cs with
  | '.' :: cs =>
    let (digits, rest) := cs.span Char.isDigit
    if digits.isEmpty then .error (missingDigit rest) else .ok (digits, rest)
  | cs => .ok ([], cs)

def readExponent (cs : List Char) : Except Flaw (Option Int × List Char) :=
  match cs with
  | [] => .ok (none, [])
  | c :: rest =>
    if c = 'e' ∨ c = 'E' then
      let (negative, cs) := Decimal.takeSign rest
      let (digits, rest) := cs.span Char.isDigit
      if digits.isEmpty then .error (missingDigit cs)
      else
        let n : Int := Text.digitsValue digits
        .ok (some (if negative then -n else n), rest)
    else .ok (none, c :: rest)

def leastInteger : Int := -0x8000000000000000

def greatestInteger : Int := 0xFFFFFFFFFFFFFFFF

/-- An integer of up to 64 bits stays one. Minus zero and every other number is
read in steps as a binary64 number, if it is not too large for one. -/
def numberDraft (negative : Bool) (whole fraction : List Char) (exponent : Option Int) :
    Draft :=
  let magnitude := Text.digitsValue whole
  let i : Int := if negative then -magnitude else magnitude
  if fraction.isEmpty ∧ exponent.isNone ∧ leastInteger ≤ i ∧ i ≤ greatestInteger ∧
      ¬ (negative ∧ magnitude = 0) then
    .number (.integer i)
  else
    let x := Binary64.stepped negative whole fraction (exponent.getD 0)
    if x.isFinite then .number (.float x) else .flawed .unusable

def readNumber (negative : Bool) (cs : List Char) : Reading Draft :=
  let result : Except Flaw (Draft × List Char) := do
    let (whole, cs) ← readWhole cs
    let (fraction, cs) ← readFraction cs
    let (exponent, cs) ← readExponent cs
    return (numberDraft negative whole fraction exponent, cs)
  match result with
  | .ok (draft, rest) => (draft, some rest)
  | .error flaw => (.flawed flaw, none)

def readWord (draft : Draft) : List Char → List Char → Reading Draft
  | [], cs => (draft, some cs)
  | _ :: _, [] => (.flawed (.stop .incomplete), none)
  | w :: ws, c :: cs =>
    if w = c then readWord draft ws cs else (.flawed (.stop .malformed), none)

def stringDraft : Except Flaw String → Draft
  | .ok s => .string s
  | .error flaw => .flawed flaw

def stoppedBy : Except Flaw String → Flaw
  | .ok _ => .stop .incomplete
  | .error flaw => flaw

mutual

/-- The value at the start of the characters. Each call for a part of it has one
less of `fuel`; two for each character and two more are enough. -/
def readValue : Nat → List Char → Reading Draft
  | 0, _ => (.flawed (.stop .malformed), none)
  | fuel + 1, cs =>
    match skipSpaces cs with
    | [] => (.flawed (.stop .incomplete), none)
    | '"' :: cs =>
      let (s, rest) := readString (.text []) cs
      (stringDraft s, rest)
    | '[' :: cs =>
      match skipSpaces cs with
      | [] => (.array [] (some (.stop .incomplete)), none)
      | ']' :: cs => (.array [] none, some cs)
      | cs =>
        let ((items, cut), rest) := readItems fuel cs
        (.array items cut, rest)
    | '\x7b' :: cs =>
      match skipSpaces cs with
      | [] => (.object [] (some (.stop .incomplete)), none)
      | '\x7d' :: cs => (.object [] none, some cs)
      | cs =>
        let ((members, cut), rest) := readMembers fuel cs
        (.object members cut, rest)
    | '-' :: cs => readNumber true cs
    | 'n' :: cs => readWord .null ['u', 'l', 'l'] cs
    | 't' :: cs => readWord (.bool true) ['r', 'u', 'e'] cs
    | 'f' :: cs => readWord (.bool false) ['a', 'l', 's', 'e'] cs
    | c :: cs =>
      if c.isDigit then readNumber false (c :: cs) else (.flawed (.stop .malformed), none)

def readItems : Nat → List Char → Reading (List Draft × Option Flaw)
  | 0, _ => (([], some (.stop .malformed)), none)
  | fuel + 1, cs =>
    match readValue fuel cs with
    | (item, none) => (([item], none), none)
    | (item, some rest) =>
      match skipSpaces rest with
      | ']' :: cs => (([item], none), some cs)
      | ',' :: cs =>
        let ((items, cut), rest) := readItems fuel cs
        ((item :: items, cut), rest)
      | [] => (([item], some (.stop .incomplete)), none)
      | _ => (([item], some (.stop .malformed)), none)

def readMembers : Nat → List Char → Reading (List (Option String × Draft) × Option Flaw)
  | 0, _ => (([], some (.stop .malformed)), none)
  | fuel + 1, cs =>
    match skipSpaces cs with
    | [] => (([], some (.stop .incomplete)), none)
    | '"' :: cs =>
      match readString (.text []) cs with
      | (name, none) => (([], some (stoppedBy name)), none)
      | (name, some rest) =>
        let name := name.toOption
        match skipSpaces rest with
        | [] => (([(name, .flawed (.stop .incomplete))], none), none)
        | ':' :: cs =>
          match readValue fuel cs with
          | (value, none) => (([(name, value)], none), none)
          | (value, some rest) =>
            match skipSpaces rest with
            | '\x7d' :: cs => (([(name, value)], none), some cs)
            | ',' :: cs =>
              let ((members, cut), rest) := readMembers fuel cs
              (((name, value) :: members, cut), rest)
            | [] => (([(name, value)], some (.stop .incomplete)), none)
            | _ => (([(name, value)], some (.stop .malformed)), none)
        | _ => (([(name, .flawed (.stop .malformed))], none), none)
    | _ => (([], some (.stop .malformed)), none)

end

/-- A whole text: its value, and whether anything but spaces follows it. -/
structure Document where
  root : Draft
  hasMore : Bool

def readDocument (cs : List Char) : Document :=
  match readValue (2 * cs.length + 2) cs with
  | (root, none) => ⟨root, false⟩
  | (root, some rest) => ⟨root, !(skipSpaces rest).isEmpty⟩

end CatalogRules.Json
