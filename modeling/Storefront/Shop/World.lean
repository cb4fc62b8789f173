import Storefront.Channel
import Storefront.Shop.Basic
import Storefront.Storage.Backend

/-!
# The outside of a shop

A model of everything that a shop calls: a storage with faults and a record of its calls, payment
providers with a record of what they were asked for, and the channel of announcements. Operations are
run in it one after the other.
-/

namespace Storefront.Shop

/-- The outside of a shop. -/
structure World where
  storage : Storage.Recorded
  /-- What the payment providers answer. -/
  pay : PaymentRequest → Except ProviderError String
  /-- What the payment providers were asked for, the last request first. -/
  requests : List PaymentRequest
  /-- The channel of announcements. Every producer announces every order. -/
  channel : Channel OrderPlaced

namespace World

/-- The channel after every producer has offered an event. -/
def offerAll (channel : Channel OrderPlaced) (event : OrderPlaced) : Channel OrderPlaced :=
  (List.replicate channel.producers event).foldl Channel.offer channel

/-- Answers a call of a shop. -/
def answer : (c : Call) → StateM World c.Answer
  | .storage request => fun w =>
    let (a, storage) := (Storage.Recorded.answer request).run w.storage
    (a, { w with storage := storage })
  | .pay request => fun w => (w.pay request, { w with requests := request :: w.requests })
  | .announce event => fun w => ((), { w with channel := offerAll w.channel event })

/-- Runs an operation of a shop. -/
def run {α : Type} (operation : Operation α) (w : World) : Except ShopError α × World :=
  (Program.run answer operation.run).run w

end World

end Storefront.Shop
