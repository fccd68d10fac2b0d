import CatalogRules.Toml.Scalar

/-!
TOML documents. Arrays and tables in braces are read to a limited depth; every
line of a document is a header, a definition or says nothing, and the lines
together have to obey the rules of definition.
-/

namespace CatalogRules.Toml

open Text (Reader expect many separated)

def assignment (value : Reader Toml) : Reader (List String × Toml) := fun cs => do
  let (names, cs) ← key cs
  let cs ← expect '=' cs
  let (v, cs) ← value (skipBlanks cs)
  return ((names, v), skipBlanks cs)

/-- An array after its opening bracket. A comma may follow the last item. -/
def readArray (value : Reader Toml) : Reader Toml := fun cs => do
  let item : Reader Toml := fun cs => do
    let (v, cs) ← value (skipFiller false cs)
    return (v, skipFiller false cs)
  let (items, cs) := separated item cs
  let cs := if items.isEmpty then cs else (expect ',' cs).getD cs
  return (.array items, ← expect ']' (skipFiller false cs))

/-- A table after its opening brace. It stands on one line. -/
def readInline (value : Reader Toml) : Reader Toml := fun cs => do
  let (assignments, cs) := separated (assignment value) cs
  let members ← ofAssignments? assignments
  return (.table .inline members, ← expect '\x7d' (skipBlanks cs))

/-- A value whose parts are read by `part`; without it the value may have none. -/
def readValueWith (part : Option (Reader Toml)) : Reader Toml
  | '[' :: cs => part.bind (fun part => readArray part cs)
  | '\x7b' :: cs => part.bind (fun part => readInline part cs)
  | cs => readScalar cs

/-- A value with at most `depth` arrays and tables inside each other. -/
def readValue : Nat → Reader Toml
  | 0 => readValueWith none
  | depth + 1 => readValueWith (some (readValue depth))

def headerPath (names : List String) : Option (List String × String) := do
  return (names.dropLast, ← names.getLast?)

def readStatement : Reader (Option Statement)
  | '[' :: '[' :: cs => do
    let (names, cs) ← key cs
    let cs ← expect ']' cs
    let cs ← expect ']' cs
    let (path, name) ← headerPath names
    return (some (.element path name), cs)
  | '[' :: cs => do
    let (names, cs) ← key cs
    let cs ← expect ']' cs
    let (path, name) ← headerPath names
    return (some (.table path name), cs)
  | cs =>
    if cs.head?.all (fun c => c == '#' || c == '\n' || c == '\r') then some (none, cs)
    else do
      let ((names, v), cs) ← assignment (readValue (nestingLimit - 1)) cs
      return (some (.assign names v), cs)

def readLine : Reader (Option Statement) := fun cs => do
  let (statement, cs) ← readStatement (skipBlanks cs)
  return (statement, ← lineEnd? cs)

def statements? (cs : List Char) : Option (List Statement) :=
  match many readLine cs with
  | (found, []) => some (found.filterMap id)
  | _ => none

/-- A mark of byte order in front of a document does not count. -/
def dropMark : List Char → List Char
  | '\uFEFF' :: cs => cs
  | cs => cs

def read? (text : String) : Option Members := do
  ofStatements? (← statements? (dropMark text.toList))

end CatalogRules.Toml
