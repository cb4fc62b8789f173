import Storefront.Shop.Orders
import Storefront.Shop.Resource
import Storefront.Shop.Template

/-!
# Pages

A request for a resource is answered with a page. The data of a page are JSON with sorted names and
carry every total that the page may show, so that a template computes nothing. An operation takes
place before its page is rendered, and a page that fails does not undo it.
-/

namespace Storefront.Shop

/-! ## The data of pages -/

/-- An amount as a number of dollars. -/
def dollarsData (c : Cents) : Json := .ofBinary64 c.dollars

/-- The data of the front page. -/
def indexData (shop : Shop) (user : UserId) : Json := .object
  [("products", Document.toJson shop.catalog.products), ("is_admin", .bool (shop.isOperator user))]

/-- The data of a cart. -/
def cartData (cart : Cart) : Json := .object
  [("cart", Document.toJson cart), ("total", dollarsData cart.total)]

/-- The data of a product that was added to a cart. -/
def addedData (product : Product) (cart : Cart) : Json := .object
  [("product", Document.toJson product), ("cart", cartData cart)]

/-- The data of an order: the order and its totals. -/
def orderFields (order : Order) : List (String × Json) :=
  [("order", Document.toJson order), ("item_total", dollarsData order.itemTotal),
    ("grand_total", dollarsData order.grandTotal),
    ("settlement_total", Document.toJson order.settlementTotal)]

/-- The data of the page that confirms an order. -/
def placedData (order : Order) (message : String) : Json :=
  .object (orderFields order ++ [("message", .string message)])

/-- The data of the page with the orders so far. -/
def ordersData (orders : List Order) : Json := .object
  [("orders", .array (orders.map fun order => .object (orderFields order)))]

/-! ## Requests -/

/-- The answer to a request. -/
inductive Reply where
  | page (body : String)
  /-- The shop has no such resource. -/
  | notFound
  deriving DecidableEq

namespace Reply

/-- Was there a page? -/
def isPage : Reply → Bool
  | page _ => true
  | notFound => false

/-- The text of the page. -/
def body : Reply → String
  | page text => text
  | notFound => ""

end Reply

/-- What is told to a buyer who places an empty cart. -/
def emptyCartText : String := "No items in order"

/-- Renders a page. -/
def renderPage (shop : Shop) (template : String) (data : Json) : Operation Reply :=
  match shop.render template data.sorted with
  | .ok body => return .page body
  | .error cause => throw (.page template cause)

/-- Answers a request for a resource. -/
def fetchResource (shop : Shop) (moment : Moment) (user : UserId) : Resource → Operation Reply
  | .index => renderPage shop Template.index (indexData shop user)
  | .product sku =>
    match shop.catalog.get? sku with
    | some product => renderPage shop Template.product (Document.toJson product)
    | none => return .notFound
  | .cart => do renderPage shop Template.cart (cartData (← cart user))
  | .addToCart sku => do
    let (product, cart) ← addToCart shop moment.now user sku
    renderPage shop Template.addToCart (addedData product cart)
  | .placeOrder => do
    match ← placeOrder shop moment user with
    | .emptyCart => return .page emptyCartText
    | .placed order message => renderPage shop Template.orderPlaced (placedData order message)
  | .orders => do renderPage shop Template.orders (ordersData (← orders user))
  | .notFound => return .notFound

/-- Answers a request for a path. -/
def fetch (shop : Shop) (moment : Moment) (user : UserId) (path : List String) : Operation Reply :=
  fetchResource shop moment user (.ofPath path)

end Storefront.Shop
