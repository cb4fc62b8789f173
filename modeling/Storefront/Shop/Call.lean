import Storefront.Order
import Storefront.Payment.Provider
import Storefront.Storage.Call

/-!
# What a shop calls

The calls that a shop makes on the outside while it works: on its storage, on its payment providers,
and on those who want to hear of new orders. Announcing an order has no answer and cannot fail.
-/

namespace Storefront

/-- What those who want to hear of new orders are told. -/
structure OrderPlaced where
  order : Order
  /-- The message to its buyer. -/
  message : String
  deriving DecidableEq

namespace Shop

/-- A call that a shop makes. -/
inductive Call where
  /-- On the storage. -/
  | storage (request : Storage.Call)
  /-- On a payment provider. -/
  | pay (request : PaymentRequest)
  /-- The announcement of a new order. -/
  | announce (event : OrderPlaced)

/-- What a call answers. -/
def Call.Answer : Call → Type
  | storage request => request.Answer
  | pay _ => Except ProviderError String
  | announce _ => Unit

/-- The outside of a shop as an interface. -/
abbrev interface : Interface := ⟨Call, Call.Answer⟩

end Shop

end Storefront
