import CatalogRules.Json.Decode
import CatalogRules.Json.Printer
import CatalogRules.Rule.Field

/-!
Conditions in JSON. A value is written as the boolean, number or string that it
is, without a tag, and its kind is read off the JSON value.
-/

namespace CatalogRules

open Json (Decoder)

namespace Value

def toJson : Value → Json
  | boolean b => .bool b
  | number x => .ofFloat x
  | text s => .string s

def decode : Decoder Value
  | .bool b => .ok (.boolean b)
  | .number (.float x) => .ok (.number x)
  | .number (.integer i) => .ok (.number (.ofInt i))
  | .string s => .ok (.text s)
  | d => .error (d.refuse "a boolean, a number or a string")

end Value

def Operator.decode : Decoder Operator := Json.Decode.named Operator.ofToken? "an operator"

def Comparison.decode : Decoder Comparison :=
  Json.Decode.named Comparison.ofName? "a comparison"

def Field.decode : Decoder Field := Json.Decode.named Field.ofName? "a field"

namespace Condition

def toJson (c : Condition) : Json :=
  .object [
    ("field", .string c.field),
    ("operator", .string c.operator.token),
    ("value", c.value.toJson)]

def shape : List Json.Decode.Field :=
  [.of "field" Json.Decode.text, .of "operator" Operator.decode, .of "value" Value.decode]

def decode : Decoder Condition := fun d => do
  let found ← Json.Decode.fields "a condition" shape d
  return {
    field := ← found.required "field" Json.Decode.text
    operator := ← found.required "operator" Operator.decode
    value := ← found.required "value" Value.decode }

end Condition

end CatalogRules
