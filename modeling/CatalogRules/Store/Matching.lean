import CatalogRules.Filter.Basic
import CatalogRules.Number.Whole
import CatalogRules.Record.Basic
import CatalogRules.Text.Order

/-!
Clauses tested on one record. Equality with a list means membership; a field
that is absent is only different from everything; and values of different kinds
are different and not ordered.
-/

namespace CatalogRules

/-- A field as a record stores it. -/
inductive Stored where
  | absent
  | text (value : String)
  | integer (value : Int)
  | boolean (value : Bool)
  | list (values : List String)
  deriving DecidableEq

namespace Stored

def ofText? : Option String → Stored
  | some s => text s
  | none => absent

def kind : Stored → String
  | absent => "Null"
  | text _ => "Text"
  | integer _ => "Integer"
  | boolean _ => "Boolean"
  | list _ => "List"

def contains (value : String) : Stored → Bool
  | list values => values.contains value
  | text s => s == value
  | _ => false

/-- A comparison with a list: only equality and difference mean anything. -/
def compareList (values : List String) (c : Comparison) (value : String) : Bool :=
  match c with
  | .eq => values.contains value
  | .ne => !values.contains value
  | _ => false

/-- A comparison of an integer with a number. Only an integer of 128 bits is compared as it
is; with any other number the integer is compared after it has become a number itself. -/
def compareInteger (i : Int) (c : Comparison) (x : Binary64) : Bool :=
  if x.isWideInteger then c.holds (some (Ord.compare i x.truncate))
  else c.holds ((Binary64.ofInt i).compare? x)

def compare (stored : Stored) (c : Comparison) (operand : Value) : Bool :=
  match stored, operand with
  | absent, _ => c = .ne
  | text s, .text t => c.holds (some (Text.compareTexts s t))
  | integer i, .number x => compareInteger i c x
  | boolean a, .boolean b => c.holds (some (Ord.compare a b))
  | list values, .text t => compareList values c t
  | _, _ => c = .ne

end Stored

namespace Record

def stored (r : Record) : Field → Stored
  | .price => .text r.price
  | .stockStatus => .ofText? r.stockStatus
  | .stockQuantity =>
    match r.stockQuantity with
    | some q => .integer q.toInt
    | none => .absent
  | .category => .ofText? r.category
  | .tags => .list r.tags
  | .onSale => .boolean r.onSale
  | .createdAt => .ofText? r.createdAt
  | .title => .text r.title
  | .id => .integer r.id.toNat

def satisfiesPredicate (stored : Stored) : Predicate → Bool
  | .compare c operand => stored.compare c operand
  | .contains text => stored.contains text
  | .notContains text => !stored.contains text

def satisfiesClause (r : Record) (c : Clause) : Bool :=
  satisfiesPredicate (r.stored c.field) c.predicate

def satisfiesQuery (r : Record) (q : Query) : Bool :=
  q.clauses.all r.satisfiesClause

@[simp] theorem satisfiesQuery_matchAll (r : Record) : r.satisfiesQuery .matchAll = true := rfl

end Record

end CatalogRules
