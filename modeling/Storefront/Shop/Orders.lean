import Storefront.Confirmation
import Storefront.Shop.Carts
import Storefront.Shop.Settlement

/-!
# Orders in the storage

Placing an order turns the cart of a buyer into a numbered document: the cart is loaded, the next
number is found, the payment is resolved, the order is written, the cart is deleted, and only then is
the order announced. A failure of the storage stops the operation where it stands.
-/

namespace Storefront.Shop

/-- What came of placing an order. -/
inductive Placement where
  /-- There was nothing in the cart, and nothing was written. -/
  | emptyCart
  | placed (order : Order) (message : String)
  deriving DecidableEq

/-- The id for the next order of a buyer, one more than the greatest number in the folder. -/
def nextOrderId (user : UserId) : Operation OrderId := do
  let keys ← onStorage (.list (ordersFolder user ++ "/" ++ orderNumbering.before))
  let last : OrderId := ⟨((orderNumbering.greatest? keys).getD 0).toUInt64⟩
  match last.next? with
  | .ok id => return id
  | .error cause => throw (.overflow cause)

/-- The order that a cart makes, before anything is known of its settlement. -/
def draft (shop : Shop) (moment : Moment) (user : UserId) (cart : Cart) (id : OrderId) : Order :=
  { Order.new user cart id shop.config.shipCharge moment.now with
    exchangeRate := moment.quote.rate? }

/-- Stores an order, removes the cart it was made from, and announces it. -/
def commit (order : Order) (message : String) : Operation Unit := do
  writeDocument (orderKey order.user order.id) order
  let _ ← onStorage (.delete (cartKey order.user))
  announce ⟨order, message⟩

/-- Makes the next order of a buyer from a cart, settles it and stores it. -/
def placeCart (shop : Shop) (moment : Moment) (user : UserId) (cart : Cart) :
    Operation Placement := do
  let id ← nextOrderId user
  let draft := shop.draft moment user cart id
  let resolution ← resolve moment shop.config.payType shop.config.account draft
  let order := resolution.apply draft
  let message := Confirmation.text order resolution
  commit order message
  return .placed order message

/-- Places the cart of a buyer as an order. -/
def placeOrder (shop : Shop) (moment : Moment) (user : UserId) : Operation Placement := do
  let cart ← cart user
  if cart.isEmpty then return .emptyCart else placeCart shop moment user cart

/-- The order under a key, unless it is absent or cannot be read. -/
def readableOrder (key : String) : Operation (Option Order) :=
  ExceptT.mk do
    match ← (readDocument Order key).run with
    | .ok order => return .ok order
    | .error _ => return .ok none

/-- The orders of a buyer by number. Documents that cannot be read are left out. -/
def orders (user : UserId) : Operation (List Order) := do
  let keys ← onStorage (.list (ordersFolder user ++ "/"))
  let found ← keys.mapM readableOrder
  return (found.filterMap id).mergeSort fun a b => a.id.toNat ≤ b.id.toNat

end Storefront.Shop
