import CatalogRules.Number.Decimal
import CatalogRules.Number.Layout

/-!
The value on the right-hand side of a condition. A raw text in matching quotes
is a text and is not looked at further; else `true` and `false` in any case are
booleans, a decimal literal with a finite value is a number, and the rest is
text.
-/

namespace CatalogRules

inductive Value where
  | boolean (value : Bool)
  | number (value : Binary64)
  | text (value : String)
  deriving DecidableEq

namespace Value

/-- What stands between matching quotes. -/
def unquote? : List Char → Option (List Char)
  | [] => none
  | quote :: cs =>
    if (quote = '"' ∨ quote = '\'') ∧ cs.getLast? = some quote then some cs.dropLast
    else none

def lowerAscii (cs : List Char) : List Char := cs.map Char.toLower

def ofChars (raw : List Char) : Value :=
  match unquote? raw with
  | some inner => .text (String.ofList inner)
  | none =>
    if lowerAscii raw = ['t', 'r', 'u', 'e'] then .boolean true
    else if lowerAscii raw = ['f', 'a', 'l', 's', 'e'] then .boolean false
    else match Binary64.ofLiteral? raw with
      | some x => .number x
      | none => .text (String.ofList raw)

def ofRaw (raw : String) : Value := ofChars raw.toList

def asNumber? : Value → Option Binary64
  | number x => some x
  | _ => none

def asBoolean? : Value → Option Bool
  | boolean b => some b
  | _ => none

def asText? : Value → Option String
  | text s => some s
  | _ => none

def booleanText (b : Bool) : String := if b then "true" else "false"

/-- The text that a text field compares with. -/
def canonical : Value → String
  | boolean b => booleanText b
  | number x => x.plainText
  | text s => s

/-- The value as a condition shows it: texts stand in double quotes. -/
def display : Value → String
  | boolean b => booleanText b
  | number x => x.plainText
  | text s => "\"" ++ s ++ "\""

def typeName : Value → String
  | boolean _ => "boolean"
  | number _ => "number"
  | text _ => "string"

@[simp] theorem canonical_true : (boolean true).canonical = "true" := rfl

@[simp] theorem canonical_false : (boolean false).canonical = "false" := rfl

@[simp] theorem canonical_number (x : Binary64) : (number x).canonical = x.plainText := rfl

@[simp] theorem canonical_text (s : String) : (text s).canonical = s := rfl

end Value

end CatalogRules
