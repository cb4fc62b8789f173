import Storefront.Order

/-!
# Payment resolutions

How a new order is to be paid, or why nothing could be arranged. Only an address or an invoice changes
the order itself.
-/

namespace Storefront

/-- Why no payment could be arranged for an order. -/
inductive Unavailable where
  /-- The shop has no source of exchange rates. -/
  | noRateProvider
  /-- The order has no exchange rate that is of use. -/
  | invalidRate
  /-- The order settles for nothing. -/
  | zeroTotal
  /-- The order settles for more than an invoice can name. -/
  | amountOutOfRange
  /-- No address was to be had. -/
  | addressFailed (cause : String)
  /-- The shop has no Lightning node. -/
  | lightningNotConfigured
  /-- No invoice was to be had. -/
  | invoiceFailed (cause : String)
  deriving DecidableEq

/-- The text under which the reason is reported. -/
def Unavailable.message : Unavailable → String
  | .noRateProvider => "no exchange rate provider is configured"
  | .invalidRate => "the exchange rate is missing or not positive"
  | .zeroTotal => "the order has a zero settlement total"
  | .amountOutOfRange => "the settlement total is too large to invoice"
  | .addressFailed cause => "could not generate an on-chain address: " ++ cause
  | .lightningNotConfigured => "no Lightning invoice provider is configured"
  | .invoiceFailed cause => "could not generate a Lightning invoice: " ++ cause

/-- How a new order is to be paid. -/
inductive Resolution where
  /-- Nothing could be arranged. -/
  | unavailable (reason : Unavailable)
  /-- To an address on the chain. -/
  | onChain (address : String)
  /-- By a Lightning invoice. -/
  | lightning (invoice : String)
  /-- The buyer will be contacted. -/
  | contact
  deriving DecidableEq

namespace Resolution

/-- Could nothing be arranged? -/
def isUnavailable : Resolution → Bool
  | unavailable _ => true
  | _ => false

/-- The order with its pay type and what is to be paid. -/
def apply (order : Order) : Resolution → Order
  | onChain address => { order with payType := .onChain, invoice := some address }
  | lightning invoice => { order with payType := .lightningNetwork, invoice := some invoice }
  | unavailable _ | contact => order

end Resolution

end Storefront
