import CatalogRules.Rule.Field

/-!
Compiled filters. A query is a conjunction of clauses that a record store tests;
residuals are comparisons of a number with a field that records keep as text,
and are tested on the records that the store returns.
-/

namespace CatalogRules

inductive Predicate where
  | compare (comparison : Comparison) (operand : Value)
  /-- The text is among the values of the field. -/
  | contains (text : String)
  | notContains (text : String)
  deriving DecidableEq

def Predicate.display : Predicate → String
  | compare c operand => c.symbol ++ " " ++ operand.display
  | contains text => "contains \"" ++ text ++ "\""
  | notContains text => "not contains \"" ++ text ++ "\""

structure Clause where
  field : Field
  predicate : Predicate
  deriving DecidableEq

def Clause.display (c : Clause) : String :=
  c.field.name ++ " " ++ c.predicate.display

/-- A conjunction of clauses; no clauses match every record. -/
structure Query where
  clauses : List Clause
  deriving DecidableEq

namespace Query

def matchAll : Query := ⟨[]⟩

def display (q : Query) : String :=
  if q.clauses.isEmpty then "<all>" else " AND ".intercalate (q.clauses.map Clause.display)

end Query

structure Residual where
  field : Field
  comparison : Comparison
  operand : Binary64
  deriving DecidableEq

namespace Residual

def display (r : Residual) : String :=
  r.field.name ++ " " ++ r.comparison.symbol ++ " " ++ r.operand.plainText

def displayAll (rs : List Residual) : String :=
  " AND ".intercalate (rs.map display)

end Residual

structure Filter where
  query : Query
  residuals : List Residual
  deriving DecidableEq

namespace Filter

def empty : Filter := ⟨⟨[]⟩, []⟩

/-- The conditions of the first filter, then those of the second. -/
instance : Append Filter where
  append f g := ⟨⟨f.query.clauses ++ g.query.clauses⟩, f.residuals ++ g.residuals⟩

theorem append_eq (f g : Filter) :
    f ++ g = ⟨⟨f.query.clauses ++ g.query.clauses⟩, f.residuals ++ g.residuals⟩ := rfl

def ofClause (c : Clause) : Filter := ⟨⟨[c]⟩, []⟩

def ofResidual (r : Residual) : Filter := ⟨⟨[]⟩, [r]⟩

def count (f : Filter) : Nat := f.query.clauses.length + f.residuals.length

@[simp] theorem clauses_append (f g : Filter) :
    (f ++ g).query.clauses = f.query.clauses ++ g.query.clauses := rfl

@[simp] theorem residuals_append (f g : Filter) :
    (f ++ g).residuals = f.residuals ++ g.residuals := rfl

@[simp] theorem count_append (f g : Filter) : (f ++ g).count = f.count + g.count := by
  simp only [count, clauses_append, residuals_append, List.length_append]
  omega

@[simp] theorem append_empty (f : Filter) : f ++ empty = f := by
  simp [append_eq, empty]

theorem append_assoc (f g h : Filter) : f ++ g ++ h = f ++ (g ++ h) := by
  simp [append_eq, List.append_assoc]

end Filter

end CatalogRules
