import CatalogRules.Evaluation.Evaluate
import CatalogRules.Record.Codec

/-!
The envelope of an answer: its data and their number on success, a message on
failure. The status is not part of the written form.
-/

namespace CatalogRules

structure Envelope (α : Type) where
  success : Bool
  count : Option UInt64
  data : Option (List α)
  error : Option String
  status : Nat
  deriving DecidableEq

namespace Envelope

open Json (Decoder Draft)

def ofData {α : Type} (data : List α) : Envelope α :=
  ⟨true, some (UInt64.ofNat data.length), some data, none, 200⟩

def ofFailure {α : Type} (message : String) (status : Nat) : Envelope α :=
  ⟨false, none, none, some message, status⟩

def ofResult {α : Type} : Except EvaluationError (List α) → Envelope α
  | .ok data => ofData data
  | .error e => ofFailure e.userMessage e.status

def toJson {α : Type} (item : α → Json) (e : Envelope α) : Json :=
  .object (
    [("success", .bool e.success)] ++
    (match e.count with
      | some n => [("count", .ofNat n.toNat)]
      | none => []) ++
    (match e.data with
      | some data => [("data", .array (data.map item))]
      | none => []) ++
    (match e.error with
      | some message => [("error", .string message)]
      | none => []))

def shape {α : Type} (item : Decoder α) : List Json.Decode.Field :=
  [.of "success" Json.Decode.flag,
   .of "count" (Json.Decode.optional Json.Decode.unsigned),
   .of "data" (Json.Decode.optional (Json.Decode.list item)),
   .of "error" (Json.Decode.optional Json.Decode.text)]

def decode {α : Type} (item : Decoder α) : Decoder (Envelope α) := fun d => do
  let found ← Json.Decode.fields "an envelope" (shape item) d
  return {
    success := ← found.required "success" Json.Decode.flag
    count := ← found.withDefault "count" (Json.Decode.optional Json.Decode.unsigned) none
    data := ← found.withDefault "data" (Json.Decode.optional (Json.Decode.list item)) none
    error := ← found.withDefault "error" (Json.Decode.optional Json.Decode.text) none
    status := 0 }

/-- Items of any kind; two of the levels of a text are taken by the envelope and
its list. -/
def decodeAny : Decoder (Envelope Json) := decode (Draft.value (Json.depthLimit - 2))

end Envelope

end CatalogRules
