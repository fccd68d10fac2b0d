import CatalogRules.Text.Reader

/-!
The lexical parts of a TOML document: blanks, line breaks and comments, strings
and keys.
-/

namespace CatalogRules.Toml

open Text (Reader expect stretch many)

def isBlank (c : Char) : Bool := c == ' ' || c == '\t'

def skipBlanks (cs : List Char) : List Char := cs.dropWhile isBlank

/-- The characters of a line: no controls but the tab. -/
def isPlain (c : Char) : Bool := c == '\t' || (0x20 ≤ c.toNat && c.toNat != 0x7F)

def newline? : List Char → Option (List Char)
  | '\n' :: cs => some cs
  | '\r' :: '\n' :: cs => some cs
  | _ => none

def skipComment : List Char → List Char
  | '#' :: cs => cs.dropWhile isPlain
  | cs => cs

/-- The rest of a line on which nothing more is said. -/
def lineEnd? (cs : List Char) : Option (List Char) :=
  match skipComment (skipBlanks cs) with
  | [] => some []
  | cs => newline? cs

/-- Blanks, line breaks and comments, as they may stand in an array. -/
def skipFiller (inComment : Bool) : List Char → List Char
  | '\n' :: cs => skipFiller false cs
  | '\r' :: '\n' :: cs => skipFiller false cs
  | '#' :: cs => skipFiller true cs
  | c :: cs =>
    if isBlank c || (inComment && isPlain c) then skipFiller inComment cs else c :: cs
  | [] => []

def codePoint (count : Nat) : Reader Char := fun cs => do
  let digits := cs.take count
  if digits.length < count then none
  else
    let n ← Text.numberInBase? 16 digits
    if n.isValidChar then return (Char.ofNat n, cs.drop count) else none

def escape : Reader Char
  | 'b' :: cs => some ('\x08', cs)
  | 't' :: cs => some ('\t', cs)
  | 'n' :: cs => some ('\n', cs)
  | 'f' :: cs => some ('\x0c', cs)
  | 'r' :: cs => some ('\r', cs)
  | '"' :: cs => some ('"', cs)
  | '\\' :: cs => some ('\\', cs)
  | 'u' :: cs => codePoint 4 cs
  | 'U' :: cs => codePoint 8 cs
  | _ => none

def isBasic (c : Char) : Bool := isPlain c && c != '"' && c != '\\'

def isLiteral (c : Char) : Bool := isPlain c && c != '\''

def basicPart : Reader (List Char)
  | '\\' :: cs => (escape cs).map (fun (c, rest) => ([c], rest))
  | cs => stretch isBasic cs

/-- What a backslash at the end of a line leaves out: the blanks and line breaks
up to the next character. -/
def foldedLines? (cs : List Char) : Option (List Char) := do
  let cs ← newline? (skipBlanks cs)
  let breaks := (many (fun cs => (newline? (skipBlanks cs)).map ((), ·)) cs).2
  return skipBlanks breaks

/-- One or two quotes inside a string of several lines. -/
def innerQuotes (quote : Char) : Reader (List Char) := fun cs =>
  let (quotes, rest) := cs.span (· == quote)
  if quotes.isEmpty || 2 < quotes.length then none else some (quotes, rest)

def lineBreak : Reader (List Char) := fun cs => (newline? cs).map (['\n'], ·)

def longBasicPart : Reader (List Char)
  | '\\' :: cs =>
    match foldedLines? cs with
    | some rest => some ([], rest)
    | none => basicPart ('\\' :: cs)
  | cs => lineBreak cs <|> innerQuotes '"' cs <|> stretch isBasic cs

def longLiteralPart : Reader (List Char) := fun cs =>
  lineBreak cs <|> innerQuotes '\'' cs <|> stretch isLiteral cs

/-- The end of a string of several lines: three quotes, before which one or two
more belong to the string. -/
def closingQuotes (quote : Char) : Reader (List Char) := fun cs =>
  let quotes := (cs.take 5).takeWhile (· == quote)
  if quotes.length < 3 then none else some (quotes.drop 3, cs.drop quotes.length)

/-- A string of several lines after its opening quotes; a line break right after
them does not count. -/
def longString (quote : Char) (part : Reader (List Char)) : Reader String := fun cs => do
  let cs := (newline? cs).getD cs
  let (parts, cs) := many part cs
  let (last, cs) ← closingQuotes quote cs
  return (String.ofList (parts.flatten ++ last), cs)

def shortString (quote : Char) (part : Reader (List Char)) : Reader String := fun cs => do
  let (parts, cs) := many part cs
  return (String.ofList parts.flatten, ← expect quote cs)

def keyString : Reader String
  | '"' :: cs => shortString '"' basicPart cs
  | '\'' :: cs => shortString '\'' (stretch isLiteral) cs
  | _ => none

def valueString : Reader String
  | '"' :: '"' :: '"' :: cs => longString '"' longBasicPart cs
  | '\'' :: '\'' :: '\'' :: cs => longString '\'' longLiteralPart cs
  | cs => keyString cs

/-- How deep keys, arrays and tables in braces may go. -/
def nestingLimit : Nat := 80

def isBare (c : Char) : Bool := c.isAlphanum || c == '-' || c == '_'

def bareKey : Reader String := fun cs =>
  (stretch isBare cs).map (fun (name, rest) => (String.ofList name, rest))

def keyName : Reader String := fun cs => do
  let cs := skipBlanks cs
  let (name, cs) ← keyString cs <|> bareKey cs
  return (name, skipBlanks cs)

def key : Reader (List String) := fun cs => do
  let (first, cs) ← keyName cs
  let (more, cs) := many (fun cs => do keyName (← expect '.' cs)) cs
  if more.length + 1 < nestingLimit then return (first :: more, cs) else none

end CatalogRules.Toml
