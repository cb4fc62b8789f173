import Storefront.Shop.Basic
import Storefront.Shop.Layout

/-!
# Carts in the storage

A buyer without a cart document has an empty cart. Adding a product first looks it up in the catalog,
so that an unknown one leaves the storage alone.
-/

namespace Storefront.Shop

/-- The cart of a buyer. -/
def cart (user : UserId) : Operation Cart := do
  return (← readDocument Cart (cartKey user)).getD .empty

/-- Adds one unit of a product to the cart of a buyer; gives the product and the new cart. -/
def addToCart (shop : Shop) (now : Timestamp) (user : UserId) (sku : String) :
    Operation (Product × Cart) := do
  match shop.catalog.get? sku with
  | none => throw (.unknownProduct sku)
  | some product =>
    let old ← cart user
    let new := { old.add product with updated := now }
    writeDocument (cartKey user) new
    return (product, new)

end Storefront.Shop
