import Storefront.Cart
import Storefront.ExchangeRate
import Storefront.OrderId
import Storefront.OrderStatus
import Storefront.PayType
import Storefront.UserId

/-!
# Orders

A cart that was placed, with its number, its charge for shipping and how it is to be settled. Totals
are computed and not stored. Shipping is charged only where something is to be paid for and the
charge is more than nothing.
-/

namespace Storefront

/-- A placed order. -/
structure Order where
  /-- Who placed it. -/
  user : UserId
  cart : Cart
  /-- Its number among the orders of that buyer. -/
  id : OrderId
  status : OrderStatus
  placedAt : Timestamp
  /-- The charge for shipping, if shipping is charged. -/
  shipCharge : Cents
  /-- Dollars for one coin when it was placed, if a rate was known. -/
  exchangeRate : Option Binary64
  /-- How it is to be settled. -/
  payType : PayType
  /-- The address or invoice to be paid. -/
  invoice : Option String
  deriving DecidableEq

namespace Order

/-- A new order, before anything is known of its settlement. -/
def new (user : UserId) (cart : Cart) (id : OrderId) (shipCharge : Cents) (placedAt : Timestamp) :
    Order :=
  ⟨user, cart, id, .placed, placedAt, shipCharge, none, .manual, none⟩

/-- What the items cost. -/
def itemTotal (order : Order) : Cents := order.cart.total

/-- Is shipping charged? -/
def chargesShipping (order : Order) : Bool :=
  order.shipCharge.isPositive && order.itemTotal.isPositive

/-- What the items and their shipping cost. -/
def grandTotal (order : Order) : Cents :=
  if order.chargesShipping then order.itemTotal + order.shipCharge else order.itemTotal

/-- The grand total in the settlement currency; nothing without a rate that is of use. -/
def settlementTotal (order : Order) : Atoms :=
  match order.exchangeRate with
  | some rate => ExchangeRate.convert rate order.grandTotal
  | none => .zero

end Order

end Storefront
