import Storefront.Money.Cents

/-!
# Products

What is on sale. A product is known by its SKU.
-/

namespace Storefront

/-- A thing on sale. -/
structure Product where
  /-- The number under which it is kept in stock. -/
  sku : String
  title : String
  /-- What one unit costs. -/
  price : Cents
  /-- More about it; may be empty. -/
  description : String
  deriving DecidableEq

end Storefront
