import Storefront.OrderId
import Storefront.Storage.Numbering
import Storefront.UserId

/-!
# Where documents are kept

The cart of a buyer lies under `carts/`, and the orders, numbered, in a folder of the buyer under
`orders/`.
-/

namespace Storefront.Shop

/-- The key of the cart of a buyer. -/
def cartKey (user : UserId) : String := "carts/" ++ user.text

/-- The folder with the orders of a buyer. -/
def ordersFolder (user : UserId) : String := "orders/" ++ user.text

/-- The names of orders. -/
def orderNumbering : Storage.Numbering := ⟨"order-", ".json"⟩

/-- The key of an order of a buyer. -/
def orderKey (user : UserId) (id : OrderId) : String :=
  ordersFolder user ++ "/" ++ orderNumbering.name id.toNat

end Storefront.Shop
