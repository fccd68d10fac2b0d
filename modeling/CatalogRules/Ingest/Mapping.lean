import CatalogRules.Ingest.Product
import CatalogRules.Record.Basic
import CatalogRules.Store.Error
import CatalogRules.Time.Timestamp

/-!
Products as catalog records. A price is kept as text, whatever it was; only a
price with a structure has no text.
-/

namespace CatalogRules

inductive IngestError where
  | decode (cause : Json.Fault)
  | file (path : String) (cause : FileError)
  | invalidProduct (id : UInt64) (reason : String)
  | store (cause : StoreError)
  deriving DecidableEq

namespace IngestError

def message : IngestError → String
  | decode cause => "Failed to decode source products: " ++ cause.message
  | file path cause => "Failed to read source file '" ++ path ++ "': " ++ cause.message
  | invalidProduct id reason =>
    "Invalid source product " ++ toString id.toNat ++ ": " ++ reason
  | store cause => "Failed to save product: " ++ cause.message

def code : IngestError → String
  | decode _ | file _ _ => Code.undecodedSource
  | invalidProduct _ _ => Code.invalidProduct
  | store cause => cause.code

end IngestError

namespace Product

/-- The text of a price; a number or boolean is written as in JSON. -/
def priceText (p : Product) : Except IngestError String :=
  match p.price with
  | .null => .ok ""
  | .string s => .ok s
  | .number n => .ok (Json.number n).compact
  | .bool b => .ok (Json.bool b).compact
  | price => .error (.invalidProduct p.id
      ("price must be text or a number, got " ++ price.compact))

def nonEmpty? : Option String → Option String
  | some s => if s.isEmpty then none else some s
  | none => none

/-- The date of the shop, or else the one in GMT, in canonical form if it is a
timestamp. -/
def createdAt? (p : Product) : Option String :=
  match (nonEmpty? p.dateCreated).or (nonEmpty? p.dateCreatedGmt) with
  | none => none
  | some raw => some ((Timestamp.normalize? raw).getD raw)

def toRecord (p : Product) : Except IngestError Record :=
  match p.priceText with
  | .error e => .error e
  | .ok price => .ok {
      id := p.id
      title := p.name.getD ""
      price := price
      stockStatus := nonEmpty? p.stockStatus
      stockQuantity := p.stockQuantity
      category := p.categories.head?
      tags := p.tags
      onSale := p.onSale.getD false
      createdAt := p.createdAt? }

theorem id_toRecord {p : Product} {r : Record} (h : p.toRecord = .ok r) : r.id = p.id := by
  unfold toRecord at h
  split at h
  · cases h
  · cases h
    rfl

end Product

end CatalogRules
