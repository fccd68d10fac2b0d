import CatalogRules.Log.Code
import CatalogRules.Rule.Operator
import CatalogRules.Rule.Value
import CatalogRules.Text.Blank

/-!
Conditions `field operator value`. The operator of a line is the one that starts
first; its token has to occur exactly once, with something that is not blank on
both sides.
-/

namespace CatalogRules

structure Condition where
  field : String
  operator : Operator
  value : Value
  deriving DecidableEq

def Condition.display (c : Condition) : String :=
  c.field ++ " " ++ c.operator.token ++ " " ++ c.value.display

/-- Why a line with an operator is no condition. -/
inductive Malformation where
  | blank
  | repeatedOperator (operator : Operator) (count : Nat)
  | missingField
  | missingValue
  deriving DecidableEq

def Malformation.message : Malformation → String
  | blank => "condition is blank"
  | repeatedOperator op count =>
    "expected exactly one '" ++ op.token ++ "' between field and value, found " ++ toString count
  | missingField => "field name is missing"
  | missingValue => "value is missing"

inductive ParseError where
  | noOperator (line : String)
  | malformed (line : String) (reason : Malformation)
  deriving DecidableEq

namespace ParseError

def line : ParseError → String
  | noOperator line => line
  | malformed line _ => line

def message : ParseError → String
  | noOperator line => "No operator found in condition '" ++ line ++ "'"
  | malformed line reason => "Malformed condition '" ++ line ++ "': " ++ reason.message

def code : ParseError → String
  | noOperator _ => Code.noOperator
  | malformed _ _ => Code.malformedCondition

end ParseError

namespace Condition

/-- The stretches between the occurrences of a token, found from the left and
not overlapping; `skip` characters of a token still have to be passed over. -/
def splitOnToken (token : List Char) : Nat → List Char → List (List Char)
  | _, [] => [[]]
  | skip + 1, _ :: cs => splitOnToken token skip cs
  | 0, c :: cs =>
    if token.isPrefixOf (c :: cs) then [] :: splitOnToken token (token.length - 1) cs
    else match splitOnToken token 0 cs with
      | [] => [[c]]
      | piece :: pieces => (c :: piece) :: pieces

def ofTrimmed (line : List Char) : Except ParseError Condition :=
  let shown := String.ofList line
  if line.isEmpty then .error (.malformed shown .blank)
  else match Operator.first? line with
    | none => .error (.noOperator shown)
    | some op =>
      match splitOnToken op.tokenChars 0 line with
      | [left, right] =>
        let field := Text.trimChars left
        let raw := Text.trimChars right
        if field.isEmpty then .error (.malformed shown .missingField)
        else if raw.isEmpty then .error (.malformed shown .missingValue)
        else .ok ⟨String.ofList field, op, Value.ofChars raw⟩
      | pieces => .error (.malformed shown (.repeatedOperator op (pieces.length - 1)))

def parse (line : String) : Except ParseError Condition :=
  ofTrimmed (Text.trimChars line.toList)

theorem splitOnToken_ne_nil (token : List Char) (skip : Nat) (cs : List Char) :
    splitOnToken token skip cs ≠ [] := by
  induction cs generalizing skip with
  | nil => cases skip <;> simp [splitOnToken]
  | cons c cs ih =>
    cases skip with
    | succ skip => simpa [splitOnToken] using ih skip
    | zero =>
      simp only [splitOnToken]
      split
      · simp
      · split <;> simp

end Condition

end CatalogRules
