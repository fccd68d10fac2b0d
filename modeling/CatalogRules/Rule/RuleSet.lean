import CatalogRules.Filter.Compile
import CatalogRules.Log.Journal
import CatalogRules.Text.Line

/-!
Rule sets: a text with one condition a line. The limits are checked before any
line is parsed, the first line that is too long or does not parse ends the
parsing, and the conditions are then compiled together.
-/

namespace CatalogRules

inductive RuleSetError where
  | empty
  | limitExceeded (limit : String) (actual maximum : Nat)
  | parse (cause : ParseError)
  | compile (cause : CompileError)
  deriving DecidableEq

namespace RuleSetError

def message : RuleSetError → String
  | empty => "At least one condition required"
  | limitExceeded limit actual maximum =>
    "Rule limit exceeded: " ++ limit ++ " is " ++ toString actual ++ ", maximum allowed is " ++
      toString maximum
  | parse cause => "Rule parsing failed: " ++ cause.message
  | compile cause => "Rule compilation failed: " ++ cause.message

def userMessage : RuleSetError → String
  | parse cause => cause.message
  | compile cause => cause.cause.message
  | e => e.message

def code : RuleSetError → String
  | empty => Code.emptyRuleSet
  | limitExceeded _ _ _ => Code.limitExceeded
  | parse cause => cause.code
  | compile cause => cause.code

end RuleSetError

structure RuleSet where
  conditions : List Condition
  filter : Filter
  deriving DecidableEq

namespace RuleSet

def byteLimit : Nat := 65536

def lineByteLimit : Nat := 1024

def conditionLimit : Nat := 256

def readLine (line : String) : Except RuleSetError Condition :=
  if lineByteLimit < line.utf8ByteSize then
    .error (.limitExceeded "rule_line_length" line.utf8ByteSize lineByteLimit)
  else match Condition.parse line with
    | .ok c => .ok c
    | .error e => .error (.parse e)

def readLines : List String → Except RuleSetError (List Condition)
  | [] => .ok []
  | line :: lines =>
    match readLine line with
    | .error e => .error e
    | .ok c =>
      match readLines lines with
      | .error e => .error e
      | .ok cs => .ok (c :: cs)

/-- The conditions of a rule text. A blank text of any size is empty, not too
long. -/
def read (text : String) : Except RuleSetError (List Condition) :=
  if (Text.trimChars text.toList).isEmpty then .error .empty
  else if byteLimit < text.utf8ByteSize then
    .error (.limitExceeded "rule_text_bytes" text.utf8ByteSize byteLimit)
  else
    let lines := Text.ruleLines text
    if lines.isEmpty then .error .empty
    else if conditionLimit < lines.length then
      .error (.limitExceeded "conditions" lines.length conditionLimit)
    else readLines lines

def ofConditions (conditions : List Condition) : Except RuleSetError RuleSet :=
  match Filter.compile conditions with
  | .ok filter => .ok ⟨conditions, filter⟩
  | .error e => .error (.compile e)

def ofText (text : String) : Except RuleSetError RuleSet :=
  match read text with
  | .error e => .error e
  | .ok conditions => ofConditions conditions

end RuleSet

end CatalogRules
