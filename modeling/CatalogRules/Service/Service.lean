import CatalogRules.Service.Envelope

/-!
The two requests that are answered with an envelope: the evaluation of a rule
text, and the listing of all records.
-/

namespace CatalogRules.Service

def evaluate (settings : Evaluation.Settings) (id text : String) :
    Program (Envelope Record) := do
  match ← Evaluation.evaluate settings id text with
  | .ok outcome => return .ofResult (.ok outcome.records)
  | .error e => return .ofResult (.error e)

def logUnlisted (e : StoreError) : Program Unit :=
  .emit (.error e.code "Failed to list records" [("error", e.message)])

def products : Program (Envelope Record) :=
  .find .matchAll fun answer =>
    match answer with
    | .ok records => .done (.ofData records)
    | .error e => do
      logUnlisted e
      return .ofFailure e.message 500

def envelopeJson (e : Envelope Record) : Json := e.toJson Record.toJson

end CatalogRules.Service
