import CatalogRules.Rule.Condition

/-!
The fields a condition may name. The table gives each field's type, the
operators it accepts and where it is tested: by the record store, or on the
records that the store returns.
-/

namespace CatalogRules

inductive Field where
  | price | stockStatus | stockQuantity | category | tags | onSale | createdAt | title | id
  deriving DecidableEq

namespace Field

def all : List Field :=
  [price, stockStatus, stockQuantity, category, tags, onSale, createdAt, title, id]

def name : Field → String
  | price => "price"
  | stockStatus => "stock_status"
  | stockQuantity => "stock_quantity"
  | category => "category"
  | tags => "tags"
  | onSale => "on_sale"
  | createdAt => "created_at"
  | title => "title"
  | id => "id"

def ofName? (name : String) : Option Field :=
  all.find? (fun f => f.name == name)

end Field

inductive FieldType where
  /-- A number that the records keep as text. -/
  | textEncodedNumber
  | integer
  | number
  | text
  | enumeratedText
  | textSet
  | boolean
  | date
  deriving DecidableEq

namespace FieldType

def name : FieldType → String
  | textEncodedNumber => "text_encoded_number"
  | integer => "integer"
  | number => "number"
  | text => "string"
  | enumeratedText => "enumerated_string"
  | textSet => "string_set"
  | boolean => "boolean"
  | date => "date"

def expectedValue : FieldType → String
  | textEncodedNumber | integer | number => "a number"
  | text | enumeratedText | textSet => "a string"
  | boolean => "true/false"
  | date => "a date"

def isNumeric : FieldType → Bool
  | textEncodedNumber | integer | number => true
  | _ => false

end FieldType

namespace Field

def type : Field → FieldType
  | price => .textEncodedNumber
  | stockStatus => .enumeratedText
  | stockQuantity => .integer
  | category => .text
  | tags => .textSet
  | onSale => .boolean
  | createdAt => .date
  | title => .text
  | id => .number

def rangeOperators : List Operator :=
  [.equal, .doubleEqual, .notEqual, .greater, .less, .greaterOrEqual, .lessOrEqual]

/-- The accepted operators. For dates a range needs a value that is a date as
well, which compilation checks. -/
def operators (f : Field) : List Operator :=
  match f.type with
  | .textEncodedNumber | .integer | .number | .date => rangeOperators
  | .text | .enumeratedText | .textSet => [.equal, .doubleEqual, .notEqual]
  | .boolean => [.equal, .doubleEqual]

/-- Whether the record store tests the field. Prices are kept as text, so they
are compared as numbers only after retrieval. -/
def isStoreTested (f : Field) : Bool := f.type != .textEncodedNumber

@[simp] theorem ofName?_name (f : Field) : ofName? f.name = some f := by
  cases f <;> decide

end Field

inductive PolicyError where
  | unknownField (field : String)
  | unsupportedOperator (field : String) (operator : Operator)
  | unsuitableValue (field : Field) (value : Value)
  deriving DecidableEq

namespace PolicyError

def field : PolicyError → String
  | unknownField field => field
  | unsupportedOperator field _ => field
  | unsuitableValue field _ => field.name

def message : PolicyError → String
  | unknownField field =>
    "Unsupported field \"" ++ field ++ "\". Allowed fields: " ++
      ", ".intercalate (Field.all.map Field.name)
  | unsupportedOperator field op =>
    "Operator " ++ op.token ++ " unsupported for field " ++ field
  | unsuitableValue field value =>
    "Invalid value " ++ value.display ++ " for field " ++ field.name ++ ": expected " ++
      field.type.expectedValue

def code : PolicyError → String
  | unknownField _ => Code.unknownField
  | unsupportedOperator _ _ => Code.unsupportedOperator
  | unsuitableValue _ _ => Code.unsuitableValue

end PolicyError

namespace Field

def lookup (name : String) : Except PolicyError Field :=
  match ofName? name with
  | some f => .ok f
  | none => .error (.unknownField name)

/-- The field of a condition, if the table has it and it accepts the operator. -/
def ofCondition (c : Condition) : Except PolicyError Field :=
  match lookup c.field with
  | .error e => .error e
  | .ok f =>
    if c.operator ∈ f.operators then .ok f
    else .error (.unsupportedOperator f.name c.operator)

end Field

end CatalogRules
