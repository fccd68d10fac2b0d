import CatalogRules.Number.Decimal
import CatalogRules.Text.Blank

/-!
Catalog records. The price is the text that the source catalog gave; it is a
number only when it is a decimal literal.
-/

namespace CatalogRules

structure Record where
  id : UInt64
  title : String := ""
  price : String := ""
  stockStatus : Option String := none
  stockQuantity : Option Int64 := none
  category : Option String := none
  tags : List String := []
  onSale : Bool := false
  createdAt : Option String := none
  deriving DecidableEq

def Record.priceValue? (r : Record) : Option Binary64 :=
  Binary64.ofLiteral? (Text.trimChars r.price.toList)

end CatalogRules
