import CatalogRules.Json.Decode
import CatalogRules.Json.Printer
import CatalogRules.Record.Basic

/-!
Records in JSON. A record is written with all of its fields; only the id has to
be there for it to be read.
-/

namespace CatalogRules.Record

open Json (Decoder Fault)

def quantityJson : Option Int64 → Json
  | some q => .ofInt q.toInt
  | none => .null

def toJson (r : Record) : Json :=
  .object [
    ("id", .ofNat r.id.toNat),
    ("title", .string r.title),
    ("price", .string r.price),
    ("stock_status", .ofText? r.stockStatus),
    ("stock_quantity", quantityJson r.stockQuantity),
    ("category", .ofText? r.category),
    ("tags", .array (r.tags.map .string)),
    ("on_sale", .bool r.onSale),
    ("created_at", .ofText? r.createdAt)]

def shape : List Json.Decode.Field :=
  [.of "id" Json.Decode.unsigned,
   .of "title" Json.Decode.text,
   .of "price" Json.Decode.text,
   .of "stock_status" (Json.Decode.optional Json.Decode.text),
   .of "stock_quantity" (Json.Decode.optional Json.Decode.signed),
   .of "category" (Json.Decode.optional Json.Decode.text),
   .of "tags" (Json.Decode.list Json.Decode.text),
   .of "on_sale" Json.Decode.flag,
   .of "created_at" (Json.Decode.optional Json.Decode.text)]

def decode : Decoder Record := fun d => do
  let found ← Json.Decode.fields "a record" shape d
  return {
    id := ← found.required "id" Json.Decode.unsigned
    title := ← found.withDefault "title" Json.Decode.text ""
    price := ← found.withDefault "price" Json.Decode.text ""
    stockStatus := ← found.withDefault "stock_status"
      (Json.Decode.optional Json.Decode.text) none
    stockQuantity := ← found.withDefault "stock_quantity"
      (Json.Decode.optional Json.Decode.signed) none
    category := ← found.withDefault "category" (Json.Decode.optional Json.Decode.text) none
    tags := ← found.withDefault "tags" (Json.Decode.list Json.Decode.text) []
    onSale := ← found.withDefault "on_sale" Json.Decode.flag false
    createdAt := ← found.withDefault "created_at"
      (Json.Decode.optional Json.Decode.text) none }

def compact (r : Record) : String := r.toJson.compact

def listToJson (rs : List Record) : Json := .array (rs.map toJson)

def decodeList : Decoder (List Record) := Json.Decode.list decode

end CatalogRules.Record
