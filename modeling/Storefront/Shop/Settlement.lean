import Storefront.Payment.Resolution
import Storefront.Shop.Basic

/-!
# Settling an order

Finds out how a new order is to be paid. The checks come in a fixed order and the first one that fails
decides; a provider is asked only when all of them have passed, and its failure is a reason why the
order cannot be paid yet, not an error of the shop.
-/

namespace Storefront.Shop

/-- What is written on an invoice. -/
def memo (order : Order) : String := "Order " ++ order.id.text ++ " from " ++ order.user.text

/-- Asks the wallet for an address. -/
def resolveOnChain (moment : Moment) (account : String) (order : Order) : Operation Resolution :=
  if moment.hasWallet then do
    match ← askProvider (.address order.user account) with
    | .ok address => return .onChain address
    | .error e => return .unavailable (.addressFailed e.message)
  else return .unavailable (.addressFailed "no on-chain address provider is configured")

/-- Asks the node for an invoice. -/
def resolveLightning (moment : Moment) (order : Order) : Operation Resolution :=
  if moment.hasNode then
    match order.settlementTotal.toMilliAtoms? with
    | none => return .unavailable .amountOutOfRange
    | some milliAtoms => do
      match ← askProvider (.invoice milliAtoms (memo order)) with
      | .ok invoice => return .lightning invoice
      | .error e => return .unavailable (.invoiceFailed e.message)
  else return .unavailable .lightningNotConfigured

/-- Why no provider need be asked about an order, if that is so. -/
def obstacle? (moment : Moment) (order : Order) : Option Unavailable :=
  match moment.quote with
  | .unattached => some .noRateProvider
  | _ =>
    if (order.exchangeRate.map ExchangeRate.isUsable).getD false = false then some .invalidRate
    else if order.settlementTotal.isZero then some .zeroTotal
    else none

/-- How an order is to be paid. -/
def resolve (moment : Moment) (payType : PayType) (account : String) (order : Order) :
    Operation Resolution :=
  match obstacle? moment order with
  | some reason => return .unavailable reason
  | none =>
    match payType with
    | .onChain => resolveOnChain moment account order
    | .lightningNetwork => resolveLightning moment order
    | .manual => return .contact

end Storefront.Shop
