/-!
# Resources

What a request asks a shop for, as told by the first one or two segments of its path. Further segments
do not count, and an empty path asks for the front page.
-/

namespace Storefront.Shop

/-- What a request asks for. -/
inductive Resource where
  /-- The front page. -/
  | index
  /-- The page of a product. -/
  | product (sku : String)
  | cart
  /-- Another unit of a product in the cart. -/
  | addToCart (sku : String)
  /-- The cart as an order. -/
  | placeOrder
  /-- The orders so far. -/
  | orders
  /-- Nothing that the shop has. -/
  | notFound
  deriving DecidableEq

namespace Resource

/-- A resource that is about the SKU in the second segment, which must not be empty. -/
def ofSku (make : String → Resource) : List String → Resource
  | sku :: _ => if sku = "" then notFound else make sku
  | [] => notFound

/-- The resource that a path names. -/
def ofPath : List String → Resource
  | [] => index
  | "index" :: _ => index
  | "product" :: rest => ofSku product rest
  | "addtocart" :: rest => ofSku addToCart rest
  | "cart" :: _ => cart
  | "placeorder" :: _ => placeOrder
  | "orders" :: _ => orders
  | _ => notFound

/-- The name of the kind of a resource. -/
def name : Resource → String
  | index => "Index"
  | product _ => "Product"
  | cart => "Cart"
  | addToCart _ => "AddToCart"
  | placeOrder => "PlaceOrder"
  | orders => "Orders"
  | notFound => "NotFound"

/-- The SKU that a resource is about, if it is about one. -/
def sku? : Resource → Option String
  | product sku | addToCart sku => some sku
  | _ => none

end Resource

end Storefront.Shop
