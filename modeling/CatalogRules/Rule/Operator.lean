/-!
Operators as they are written in a condition, and the comparisons they stand
for. `=` and `==` are two spellings of one comparison; the spelling is kept so
that a condition can be shown as it was written.
-/

namespace CatalogRules

inductive Comparison where
  | eq | ne | gt | lt | ge | le
  deriving DecidableEq

namespace Comparison

def all : List Comparison := [.eq, .ne, .gt, .lt, .ge, .le]

def symbol : Comparison → String
  | eq => "="
  | ne => "!="
  | gt => ">"
  | lt => "<"
  | ge => ">="
  | le => "<="

def name : Comparison → String
  | eq => "eq"
  | ne => "ne"
  | gt => "gt"
  | lt => "lt"
  | ge => "ge"
  | le => "le"

/-- Whether the comparison holds of two values in the given order. Values that
cannot be ordered are only different. -/
def holds : Comparison → Option Ordering → Bool
  | eq, o => o == some .eq
  | ne, o => o != some .eq
  | gt, o => o == some .gt
  | lt, o => o == some .lt
  | ge, o => o == some .gt || o == some .eq
  | le, o => o == some .lt || o == some .eq

def ofName? (name : String) : Option Comparison :=
  all.find? (fun c => c.name == name)

theorem holds_none (c : Comparison) : c.holds none = decide (c = .ne) := by
  cases c <;> rfl

theorem holds_ne_iff (o : Option Ordering) : holds .ne o = !holds .eq o := by
  cases o with
  | none => rfl
  | some o => cases o <;> rfl

end Comparison

inductive Operator where
  | equal | doubleEqual | notEqual | greater | less | greaterOrEqual | lessOrEqual
  deriving DecidableEq

namespace Operator

/-- Every operator, the longer tokens first. -/
def all : List Operator :=
  [greaterOrEqual, lessOrEqual, notEqual, doubleEqual, equal, greater, less]

def token : Operator → String
  | equal => "="
  | doubleEqual => "=="
  | notEqual => "!="
  | greater => ">"
  | less => "<"
  | greaterOrEqual => ">="
  | lessOrEqual => "<="

def tokenChars (op : Operator) : List Char := op.token.toList

def ofToken? (token : String) : Option Operator :=
  all.find? (fun op => op.token == token)

def comparison : Operator → Comparison
  | equal | doubleEqual => .eq
  | notEqual => .ne
  | greater => .gt
  | less => .lt
  | greaterOrEqual => .ge
  | lessOrEqual => .le

def isEquality (op : Operator) : Bool :=
  op.comparison = .eq || op.comparison = .ne

def isRange (op : Operator) : Bool := !op.isEquality

def atStart? : List Char → Option Operator
  | '>' :: '=' :: _ => some greaterOrEqual
  | '<' :: '=' :: _ => some lessOrEqual
  | '!' :: '=' :: _ => some notEqual
  | '=' :: '=' :: _ => some doubleEqual
  | '=' :: _ => some equal
  | '>' :: _ => some greater
  | '<' :: _ => some less
  | _ => none

def first? : List Char → Option Operator
  | [] => none
  | c :: cs => (atStart? (c :: cs)).or (first? cs)

@[simp] theorem ofToken?_token (op : Operator) : ofToken? op.token = some op := by
  cases op <;> decide

theorem tokenChars_ne_nil (op : Operator) : op.tokenChars ≠ [] := by
  cases op <;> decide

end Operator

end CatalogRules
