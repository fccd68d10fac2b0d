import CatalogRules.Filter.Basic
import CatalogRules.Rule.Codec

/-!
Filters in JSON. The member `kind` of a predicate says which other members it
has.
-/

namespace CatalogRules

open Json (Decoder Draft Fault)

namespace Predicate

def toJson : Predicate → Json
  | compare c operand => .object [
      ("kind", .string "compare"),
      ("comparison", .string c.name),
      ("value", operand.toJson)]
  | contains text => .object [("kind", .string "contains"), ("value", .string text)]
  | notContains text => .object [("kind", .string "not_contains"), ("value", .string text)]

inductive Kind where
  | compare
  | contains
  | notContains
  deriving DecidableEq

def Kind.ofName? : String → Option Kind
  | "compare" => some compare
  | "contains" => some contains
  | "not_contains" => some notContains
  | _ => none

def Kind.decode : Decoder Kind
  | .string s =>
    match ofName? s with
    | some k => .ok k
    | none => .error (.mistyped "a kind of predicate")
  | d => .error (d.refuse "a kind of predicate")

/-- The draft that stands in the place of the kind. -/
def kindDraft? : Draft → Option Draft
  | .object members _ => (members.find? (fun m => m.1 == some "kind")).map Prod.snd
  | .array (d :: _) _ => some d
  | _ => none

def kindField : Json.Decode.Field := .of "kind" Kind.decode

def textField : Json.Decode.Field := .of "value" Json.Decode.text

def comparison : Decoder Comparison :=
  Json.Decode.namedLoosely Comparison.ofName? "a comparison"

def Kind.shape : Kind → List Json.Decode.Field
  | compare => [kindField, .of "comparison" comparison, .of "value" Value.decode]
  | contains | notContains => [kindField, textField]

def decode : Decoder Predicate := fun d =>
  match kindDraft? d with
  | none =>
    match d with
    | .object _ _ | .array _ _ => .error (.missingField "kind")
    | d => .error (d.refuse "a predicate")
  | some kind => do
    let kind ← Kind.decode kind
    let found ← Json.Decode.fields "a predicate" kind.shape d
    match kind with
    | .compare =>
      return .compare (← found.required "comparison" comparison)
        (← found.required "value" Value.decode)
    | .contains => return .contains (← found.required "value" Json.Decode.text)
    | .notContains => return .notContains (← found.required "value" Json.Decode.text)

end Predicate

namespace Clause

def toJson (c : Clause) : Json :=
  .object [("field", .string c.field.name), ("predicate", c.predicate.toJson)]

def shape : List Json.Decode.Field :=
  [.of "field" Field.decode, .of "predicate" Predicate.decode]

def decode : Decoder Clause := fun d => do
  let found ← Json.Decode.fields "a clause" shape d
  return {
    field := ← found.required "field" Field.decode
    predicate := ← found.required "predicate" Predicate.decode }

end Clause

namespace Query

def toJson (q : Query) : Json :=
  .object [("clauses", .array (q.clauses.map Clause.toJson))]

def shape : List Json.Decode.Field := [.of "clauses" (Json.Decode.list Clause.decode)]

def decode : Decoder Query := fun d => do
  let found ← Json.Decode.fields "a query" shape d
  return { clauses := ← found.required "clauses" (Json.Decode.list Clause.decode) }

end Query

namespace Residual

def toJson (r : Residual) : Json :=
  .object [
    ("field", .string r.field.name),
    ("comparison", .string r.comparison.name),
    ("operand", .ofFloat r.operand)]

def shape : List Json.Decode.Field :=
  [.of "field" Field.decode, .of "comparison" Comparison.decode,
   .of "operand" Json.Decode.float]

def decode : Decoder Residual := fun d => do
  let found ← Json.Decode.fields "a residual" shape d
  return {
    field := ← found.required "field" Field.decode
    comparison := ← found.required "comparison" Comparison.decode
    operand := ← found.required "operand" Json.Decode.float }

end Residual

namespace Filter

def toJson (f : Filter) : Json :=
  .object [("store_query", f.query.toJson), ("residuals", .array (f.residuals.map Residual.toJson))]

def shape : List Json.Decode.Field :=
  [.of "store_query" Query.decode, .of "residuals" (Json.Decode.list Residual.decode)]

def decode : Decoder Filter := fun d => do
  let found ← Json.Decode.fields "a filter" shape d
  return {
    query := ← found.required "store_query" Query.decode
    residuals := ← found.required "residuals" (Json.Decode.list Residual.decode) }

end Filter

end CatalogRules
