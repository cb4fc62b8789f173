import Storefront.Proofs.Shop.Immutable

/-!
# When the numbers run out

Whatever names the documents in the folder of the orders of a buyer have, a cart with something in it is placed, or
a call on the storage fails. The one thing that stops it otherwise is a name that tells the greatest number of 64
bits: names with greater numbers are passed over, but this one counts, and no number is behind it. Placing an order
then breaks off where that number is sought, before anything is written.
-/

namespace Storefront.Shop

open Storage (Memory)

variable {mayFail : Storage.Call → Prop} {shop : Shop} {moment : Moment} {user : UserId} {m : Memory}
  {s s' : Scene} {trace : List (Exchange interface)}

/-- No number is behind the last one exactly when a name tells the greatest number of 64 bits. -/
theorem size_le_lastOrder_succ_iff :
    UInt64.size ≤ lastOrder m user + 1 ↔ UInt64.size - 1 ∈ orderNumbers m user := by
  constructor
  · intro hsize
    by_contra hmost
    exact absurd (lastOrder_succ_lt hmost) (Nat.not_lt.2 hsize)
  · intro hmost
    obtain ⟨key, hkey, hnumber⟩ := List.mem_filterMap.1 hmost
    rw [lastOrder_eq_max]
    have hle := Storage.Numbering.number?_le_greatest? hkey hnumber
    have hmax : UInt64.size - 1 ≤ (orderNumbers m user).max?.getD 0 := hle
    omega

/-- What may come of placing a cart with something in it. -/
inductive PlacedOrFailed (mayFail : Storage.Call → Prop) (m : Memory) (user : UserId)
    (trace : List (Exchange interface)) : Except ShopError Placement → Prop where
  /-- The order has the number behind the greatest one that a name tells. -/
  | placed {order : Order} {message : String} (failed : failures trace = [])
    (number : order.id.toNat = (orderNumbers m user).max?.getD 0 + 1) :
    PlacedOrFailed mayFail m user trace (.ok (.placed order message))
  /-- A call on the storage has failed, and its error is what is told. -/
  | failed {call : Storage.Call} {e : StorageError} (may : mayFail call) (failed : failures trace = [(call, e)]) :
    PlacedOrFailed mayFail m user trace (.error (.storage e))

theorem Placing.placedOrFailed {r : Except ShopError Placement} {cart : Cart}
    (h : Placing mayFail shop moment user s trace r s') (held : storedCart s.documents user = .ok cart)
    (filled : cart.isEmpty = false) :
    PlacedOrFailed mayFail s.documents user trace r ∨
      UInt64.size - 1 ∈ orderNumbers s.documents user ∧ failures trace = [] ∧ written trace = [] ∧
        r = .error (.overflow .add) ∧ s' = s := by
  cases h with
  | corrupt unreadable =>
    rw [held] at unreadable
    cases unreadable
  | emptyCart held' isEmpty =>
    cases Except.ok.inj (held.symm.trans held')
    rw [filled] at isEmpty
    cases isEmpty
  | unfetched may failed | unlisted may failed | unwritten _ may failed | undeleted _ may failed =>
    exact .inl (.failed may failed)
  | exhausted full failed wrote =>
    exact .inr ⟨size_le_lastOrder_succ_iff.1 full, failed, wrote, rfl, rfl⟩
  | placed next failed => exact .inl (.placed failed (lastOrder_eq_max _ _ ▸ next.number))

/-- An order that is placed has a number, so none of the names before it tells the greatest. -/
theorem Placing.not_mem_of_placed {order : Order} {message : String}
    (h : Placing mayFail shop moment user s trace (.ok (.placed order message)) s') :
    UInt64.size - 1 ∉ orderNumbers s.documents user := by
  cases h with
  | placed next =>
    intro hmost
    have hsize := size_le_lastOrder_succ_iff.2 hmost
    rw [← next.number] at hsize
    exact absurd order.id.toNat_lt (Nat.not_lt.2 hsize)

/-- Where nothing fails a cart with something in it breaks the operation off if there is no number left. -/
theorem Placing.breaksOff {r : Except ShopError Placement} {cart : Cart}
    (h : Placing (fun _ => False) shop moment user s trace r s')
    (held : storedCart s.documents user = .ok cart) (filled : cart.isEmpty = false)
    (hmost : UInt64.size - 1 ∈ orderNumbers s.documents user) : r = .error (.overflow .add) := by
  rcases h.placedOrFailed held filled with hends | ⟨-, -, -, hr, -⟩
  · cases hends with
    | placed => exact absurd hmost h.not_mem_of_placed
    | failed may => exact may.elim
  · exact hr

/-- Whatever is stored among the orders of a buyer and whatever fails, placing a cart with something in it comes to
an end. If no name tells the greatest number of 64 bits, then the order is placed under the number behind the
greatest one that a name tells, or a call on the storage fails and its error is returned. If some name tells it,
the order is never placed: unless a call fails first, adding one to this number breaks the operation off, and
everything is left as it was. -/
theorem placeOrder_total_unless_exhausted (shop : Shop) (s : Scene) (user : UserId) (cart : Cart)
    (held : storedCart s.documents user = .ok cart) (filled : cart.isEmpty = false)
    (mayFail : Storage.Call → Prop) (moment : Moment) :
    (∃ trace r s', Runs mayFail (placeOrder shop moment user) s trace r s') ∧
    ∀ trace r s', Runs mayFail (placeOrder shop moment user) s trace r s' →
      (UInt64.size - 1 ∉ orderNumbers s.documents user → PlacedOrFailed mayFail s.documents user trace r) ∧
      (UInt64.size - 1 ∈ orderNumbers s.documents user →
        (∃ call e, mayFail call ∧ failures trace = [(call, e)] ∧ r = .error (.storage e)) ∨
          failures trace = [] ∧ written trace = [] ∧ r = .error (.overflow .add) ∧ s' = s) := by
  refine ⟨exists_runs mayFail _ s, fun trace r s' hrun => ?_⟩
  have hplacing := runs_placeOrder hrun
  rcases hplacing.placedOrFailed held filled with hends | ⟨hmost, hstopped⟩
  · refine ⟨fun _ => hends, fun hmost => ?_⟩
    cases hends with
    | placed => exact absurd hmost hplacing.not_mem_of_placed
    | failed may failed => exact .inl ⟨_, _, may, failed, rfl⟩
  · exact ⟨fun hnot => absurd hmost hnot, fun _ => .inr hstopped⟩

/-- In the littered folder nothing is in the way of the eighth order. -/
theorem placeOrder_total_littered :
    ∃ cart, storedCart Sample.littered.documents Sample.buyer = .ok cart ∧ cart.isEmpty = false ∧
      UInt64.size - 1 ∉ orderNumbers Sample.littered.documents Sample.buyer ∧
      (∃ trace r s', Runs (fun _ => False) (placeOrder Sample.shop Sample.moment Sample.buyer) Sample.littered
        trace r s') ∧
      ∀ trace r s', Runs (fun _ => False) (placeOrder Sample.shop Sample.moment Sample.buyer) Sample.littered
        trace r s' → PlacedOrFailed (fun _ => False) Sample.littered.documents Sample.buyer trace r := by
  have held : storedCart Sample.littered.documents Sample.buyer = .ok Sample.cart.reread :=
    storedCart_put_cart _ _ _
  have hmost : UInt64.size - 1 ∉ orderNumbers Sample.littered.documents Sample.buyer := by
    rw [Sample.orderNumbers_littered]
    decide
  obtain ⟨hends, hruns⟩ := placeOrder_total_unless_exhausted Sample.shop Sample.littered Sample.buyer _ held
    (Cart.isEmpty_reread _) (fun _ => False) Sample.moment
  exact ⟨_, held, Cart.isEmpty_reread _, hmost, hends, fun trace r s' hrun => (hruns trace r s' hrun).1 hmost⟩

namespace Sample

/-- The scene with a cart and a document with the greatest number. -/
def exhausted : Scene where
  documents := (Memory.empty.put "orders/bob/order-18446744073709551615.json" ⟨#[]⟩).put (cartKey buyer)
    (Document.encode cart)
  channel := scene.channel

theorem orderNumbers_exhausted : orderNumbers exhausted.documents buyer = [18446744073709551615] := by
  decide +kernel

end Sample

/-- There a cart with something in it is neither placed nor is an error of the storage returned, though nothing
fails. -/
theorem placeOrder_stops_exhausted :
    (∃ cart, storedCart Sample.exhausted.documents Sample.buyer = .ok cart ∧ cart.isEmpty = false) ∧
      (∃ trace s', Runs (fun _ => False) (placeOrder Sample.shop Sample.moment Sample.buyer) Sample.exhausted
        trace (.error (.overflow .add)) s') ∧
      ∀ trace r s', Runs (fun _ => False) (placeOrder Sample.shop Sample.moment Sample.buyer) Sample.exhausted
        trace r s' → r = .error (.overflow .add) := by
  have held : storedCart Sample.exhausted.documents Sample.buyer = .ok Sample.cart.reread :=
    storedCart_put_cart _ _ _
  have hmost : UInt64.size - 1 ∈ orderNumbers Sample.exhausted.documents Sample.buyer := by
    rw [Sample.orderNumbers_exhausted]
    decide
  have hstops : ∀ trace r s', Runs (fun _ => False) (placeOrder Sample.shop Sample.moment Sample.buyer)
      Sample.exhausted trace r s' → r = .error (.overflow .add) := fun trace r s' hrun =>
    (runs_placeOrder hrun).breaksOff held (Cart.isEmpty_reread _) hmost
  obtain ⟨trace, r, s', hrun⟩ := exists_runs (fun _ => False)
    (placeOrder Sample.shop Sample.moment Sample.buyer) Sample.exhausted
  obtain rfl := hstops trace r s' hrun
  exact ⟨⟨_, held, Cart.isEmpty_reread _⟩, ⟨trace, s', hrun⟩, hstops⟩

end Storefront.Shop
