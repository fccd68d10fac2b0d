import CatalogRules.Filter.Basic
import CatalogRules.Time.Timestamp

/-!
Compilation of conditions. Each condition becomes one clause or one residual, in
order; the first condition that the field table refuses, or whose value does not
fit its field, ends the compilation.
-/

namespace CatalogRules

structure CompileError where
  /-- Counted from one. -/
  position : Nat
  condition : Condition
  cause : PolicyError
  deriving DecidableEq

def CompileError.message (e : CompileError) : String :=
  "Condition " ++ toString e.position ++ " (" ++ e.condition.display ++ ") rejected: " ++
    e.cause.message

def CompileError.code (e : CompileError) : String := e.cause.code

namespace Condition

def requireNumber (f : Field) (c : Condition) : Except PolicyError Binary64 :=
  match c.value.asNumber? with
  | some x => .ok x
  | none => .error (.unsuitableValue f c.value)

/-- A date compares in its canonical form; another text only as it is. -/
def compileDate (f : Field) (c : Condition) : Except PolicyError Clause :=
  let raw := c.value.canonical
  match Timestamp.normalize? raw with
  | some normal => .ok ⟨f, .compare c.operator.comparison (.text normal)⟩
  | none =>
    if c.operator.isRange then .error (.unsuitableValue f c.value)
    else .ok ⟨f, .compare c.operator.comparison (.text raw)⟩

def compileSet (f : Field) (c : Condition) : Except PolicyError Clause :=
  match c.operator.comparison with
  | .eq => .ok ⟨f, .contains c.value.canonical⟩
  | .ne => .ok ⟨f, .notContains c.value.canonical⟩
  | _ => .error (.unsupportedOperator f.name c.operator)

def compileBoolean (f : Field) (c : Condition) : Except PolicyError Clause :=
  match c.value.asBoolean? with
  | some b => .ok ⟨f, .compare c.operator.comparison (.boolean b)⟩
  | none => .error (.unsuitableValue f c.value)

def compileClause (f : Field) (c : Condition) : Except PolicyError Clause :=
  match f.type with
  | .integer | .number | .textEncodedNumber => do
    let x ← requireNumber f c
    return ⟨f, .compare c.operator.comparison (.number x)⟩
  | .text | .enumeratedText =>
    .ok ⟨f, .compare c.operator.comparison (.text c.value.canonical)⟩
  | .textSet => compileSet f c
  | .boolean => compileBoolean f c
  | .date => compileDate f c

def compile (c : Condition) : Except PolicyError Filter := do
  let f ← Field.ofCondition c
  if f.isStoreTested then
    let clause ← compileClause f c
    return .ofClause clause
  else
    let x ← requireNumber f c
    return .ofResidual ⟨f, c.operator.comparison, x⟩

end Condition

namespace Filter

/-- Compiles conditions whose first one has the given position. -/
def compileFrom (position : Nat) : List Condition → Except CompileError Filter
  | [] => .ok .empty
  | c :: cs =>
    match c.compile with
    | .error cause => .error ⟨position, c, cause⟩
    | .ok first =>
      match compileFrom (position + 1) cs with
      | .error e => .error e
      | .ok rest => .ok (first ++ rest)

def compile (conditions : List Condition) : Except CompileError Filter :=
  compileFrom 1 conditions

end Filter

end CatalogRules
