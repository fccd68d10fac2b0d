import CatalogRules.Json.Value

/-!
The two written forms of a JSON value: compact, without any blanks, and indented
by two spaces a level. Everything but quotes, backslashes and the characters
below U+0020 stands in a string as it is.
-/

namespace CatalogRules.Json

def Number.write : Number → List Char
  | integer i => (if i < 0 then ['-'] else []) ++ Nat.toDigits 10 i.natAbs
  | float x => x.write Binary64.dataLayout

def escape (c : Char) : List Char :=
  if c = '"' then ['\\', '"']
  else if c = '\\' then ['\\', '\\']
  else if c = '\n' then ['\\', 'n']
  else if c = '\r' then ['\\', 'r']
  else if c = '\t' then ['\\', 't']
  else if c = '\x08' then ['\\', 'b']
  else if c = '\x0c' then ['\\', 'f']
  else if c.toNat < 0x20 then
    ['\\', 'u', '0', '0', Nat.digitChar (c.toNat / 16), Nat.digitChar (c.toNat % 16)]
  else [c]

def quote (s : String) : List Char :=
  '"' :: s.toList.flatMap escape ++ ['"']

def writeBool (b : Bool) : List Char :=
  if b then ['t', 'r', 'u', 'e'] else ['f', 'a', 'l', 's', 'e']

mutual

def write : Json → List Char
  | null => ['n', 'u', 'l', 'l']
  | bool b => writeBool b
  | number n => n.write
  | string s => quote s
  | array items => '[' :: writeItems items ++ [']']
  | object members => '\x7b' :: writeMembers members ++ ['\x7d']

def writeItems : List Json → List Char
  | [] => []
  | [v] => write v
  | v :: w :: vs => write v ++ ',' :: writeItems (w :: vs)

def writeMembers : List (String × Json) → List Char
  | [] => []
  | [(name, v)] => quote name ++ ':' :: write v
  | (name, v) :: m :: ms => quote name ++ ':' :: write v ++ ',' :: writeMembers (m :: ms)

end

def newline (level : Nat) : List Char :=
  '\n' :: List.replicate (2 * level) ' '

mutual

/-- The indented form, started inside `level` containers. -/
def writeIndented (level : Nat) : Json → List Char
  | null => ['n', 'u', 'l', 'l']
  | bool b => writeBool b
  | number n => n.write
  | string s => quote s
  | array [] => ['[', ']']
  | array (v :: vs) =>
    '[' :: writeIndentedItems (level + 1) (v :: vs) ++ newline level ++ [']']
  | object [] => ['\x7b', '\x7d']
  | object (m :: ms) =>
    '\x7b' :: writeIndentedMembers (level + 1) (m :: ms) ++ newline level ++ ['\x7d']

def writeIndentedItems (level : Nat) : List Json → List Char
  | [] => []
  | [v] => newline level ++ writeIndented level v
  | v :: w :: vs =>
    newline level ++ writeIndented level v ++ ',' :: writeIndentedItems level (w :: vs)

def writeIndentedMembers (level : Nat) : List (String × Json) → List Char
  | [] => []
  | [(name, v)] => newline level ++ quote name ++ ':' :: ' ' :: writeIndented level v
  | (name, v) :: m :: ms =>
    newline level ++ quote name ++ ':' :: ' ' :: writeIndented level v ++
      ',' :: writeIndentedMembers level (m :: ms)

end

def compact (v : Json) : String := String.ofList v.write

def pretty (v : Json) : String := String.ofList (v.writeIndented 0)

end CatalogRules.Json
