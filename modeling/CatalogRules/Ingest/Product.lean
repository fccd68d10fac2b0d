import CatalogRules.Json.Decode
import CatalogRules.Json.Printer

/-!
Products as an online shop lists them. A source text holds either a list of
products or a list of pages, each of them a list of products.
-/

namespace CatalogRules

open Json (Decoder Draft Fault)

structure Product where
  id : UInt64
  name : Option String := none
  /-- Mostly a text, in some shops a number. -/
  price : Json := .null
  stockStatus : Option String := none
  stockQuantity : Option Int64 := none
  categories : List String := []
  tags : List String := []
  onSale : Option Bool := none
  dateCreated : Option String := none
  dateCreatedGmt : Option String := none

namespace Product

def decodeName : Decoder String := fun d => do
  let found ← Json.Decode.fields "an entry with a name" [.of "name" Json.Decode.text] d
  found.withDefault "name" Json.Decode.text ""

def decodeNames : Decoder (List String) := Json.Decode.list decodeName

def decodePrice : Decoder Json := Draft.value Json.depthLimit

def decodeText? : Decoder (Option String) := Json.Decode.optional Json.Decode.text

def shape : List Json.Decode.Field :=
  [.of "id" Json.Decode.unsigned,
   .of "name" decodeText?,
   .of "price" decodePrice,
   .of "stock_status" decodeText?,
   .of "stock_quantity" (Json.Decode.optional Json.Decode.signed),
   .of "categories" decodeNames,
   .of "tags" decodeNames,
   .of "on_sale" (Json.Decode.optional Json.Decode.flag),
   .of "date_created" decodeText?,
   .of "date_created_gmt" decodeText?]

def decode : Decoder Product := fun d => do
  let found ← Json.Decode.fields "a product" shape d
  return {
    id := ← found.required "id" Json.Decode.unsigned
    name := ← found.withDefault "name" decodeText? none
    price := ← found.withDefault "price" decodePrice .null
    stockStatus := ← found.withDefault "stock_status" decodeText? none
    stockQuantity := ← found.withDefault "stock_quantity"
      (Json.Decode.optional Json.Decode.signed) none
    categories := ← found.withDefault "categories" decodeNames []
    tags := ← found.withDefault "tags" decodeNames []
    onSale := ← found.withDefault "on_sale" (Json.Decode.optional Json.Decode.flag) none
    dateCreated := ← found.withDefault "date_created" decodeText? none
    dateCreatedGmt := ← found.withDefault "date_created_gmt" decodeText? none }

/-- A list of products, or else a list of pages. The whole value has to be JSON
within the depth limit before its shape is looked at. -/
def decodeListing : Decoder (List Product) := fun d => do
  let _ ← Draft.value Json.depthLimit d
  match Json.Decode.list decode d with
  | .ok products => return products
  | .error _ =>
    match Json.Decode.list (Json.Decode.list decode) d with
    | .ok pages => return pages.flatten
    | .error _ => .error (.mistyped "a list of products or of pages of them")

/-- The products of a source text, those of pages in the order of the pages. -/
def ofText (text : String) : Except Fault (List Product) :=
  Json.decodeText decodeListing text

end Product

end CatalogRules
