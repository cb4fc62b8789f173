import Storefront.Proofs.Document.Records
import Storefront.Proofs.Shop.Scene

/-!
# Documents that come back as they were

Whatever is written as a document can be read again, but an amount of dollars comes back as what is
nearest to it, and a rate that is not finite is lost. Neither happens to amounts up to 10^15 cents and
to finite rates: a cart that holds no others is read exactly as it was written, whatever characters its
texts are made of. So is such an order if the digits of its rate are read with correct rounding. If they
are not, the rate is what they are read as, and all else is exact.
-/

namespace Storefront

open Document

/-! ## Values that a document holds exactly -/

/-- The number of cents up to which no cent is lost on the way through a document. -/
def Cents.exactLimit : Nat := 1000000000000000

/-- An amount of which a document keeps every cent. -/
def Cents.IsExact (c : Cents) : Prop := c.toInt.natAbs ≤ exactLimit

/-- A cart whose prices are kept by a document. -/
def Cart.IsExact (cart : Cart) : Prop := ∀ item ∈ cart.items, item.product.price.IsExact

/-- An order of which a document keeps everything but, perhaps, the last bits of the rate. -/
structure Order.IsExact (order : Order) : Prop where
  cart : order.cart.IsExact
  charge : order.shipCharge.IsExact
  rate : ∀ rate, order.exchangeRate = some rate → rate.isFinite = true

instance (c : Cents) : Decidable c.IsExact := inferInstanceAs (Decidable (_ ≤ _))

instance (cart : Cart) : Decidable cart.IsExact :=
  inferInstanceAs (Decidable (∀ item ∈ cart.items, item.product.price.IsExact))

theorem CartItem.reread_eq {item : CartItem} (h : item.product.price.IsExact) : item.reread = item := by
  obtain ⟨⟨sku, title, price, description⟩, quantity⟩ := item
  have hprice : price.reread = price := Cents.reread_eq h
  simp only [reread, Product.reread, hprice]

theorem Cart.reread_eq {cart : Cart} (h : cart.IsExact) : cart.reread = cart := by
  obtain ⟨items, updated⟩ := cart
  have hitems : items.map CartItem.reread = items := by
    have hmap : items.map CartItem.reread = items.map id :=
      List.map_congr_left fun item hitem => CartItem.reread_eq (h item hitem)
    rw [hmap, List.map_id]
  simp only [reread, hitems]

/-- An order with its rate as the digits of the rate are read. -/
def Order.rateReread (order : Order) : Order :=
  { order with exchangeRate := order.exchangeRate.map Binary64.reread }

theorem Order.reread_eq {order : Order} (h : order.IsExact) : order.reread = order.rateReread := by
  obtain ⟨user, cart, id, status, placedAt, charge, rate, payType, invoice⟩ := order
  have hcart : cart.reread = cart := Cart.reread_eq h.cart
  have hcharge : charge.reread = charge := Cents.reread_eq h.charge
  have hrate : rate.filter Binary64.isFinite = rate := by
    cases rate with
    | none => rfl
    | some r =>
      have hr : r.isFinite = true := h.rate r rfl
      rw [Option.filter_some, if_pos hr]
  simp only [reread, rateReread, hcart, hcharge, hrate]

theorem Order.rateReread_eq {order : Order} (h : ∀ rate, order.exchangeRate = some rate → rate.ReadNearest) :
    order.rateReread = order := by
  obtain ⟨user, cart, id, status, placedAt, charge, rate, payType, invoice⟩ := order
  cases rate with
  | none => rfl
  | some r =>
    have hr : r.reread = r := (Binary64.reread_eq_iff r).2 (h r rfl)
    simp only [rateReread, Option.map_some, hr]

/-! ## Through the storage -/

namespace Shop

variable {α : Type} [Document α] {mayFail : Storage.Call → Prop} {key : String} {a b : α}
  {s s' : Scene} {trace : List (Exchange interface)}

/-- A value can be stored and fetched: whenever it was written under a key and is then read from there
without a failure, the reader gets this value. -/
def ComesBack (a : α) : Prop :=
  ∀ mayFail key s trace s' trace' r s'', Runs mayFail (writeDocument key a) s trace (.ok ()) s' →
    Runs mayFail (readDocument α key) s' trace' r s'' → failures trace' = [] → r = .ok (some a)

/-- Once a document is written, what its bytes hold is what is stored. -/
theorem stored?_of_runs_writeDocument (hdecode : decode (encode a) = .ok b)
    (h : Runs mayFail (writeDocument key a) s trace (.ok ()) s') :
    Storage.isKey key = true ∧ stored? α s'.documents key = .ok (some b) := by
  obtain ⟨answer, hkept, -, -, hanswer⟩ := runs_onStorage h
  have hok : answer = .ok () := Program.mapError_eq_ok_iff.1 hanswer.symm
  subst hok
  obtain ⟨hkey, hput⟩ := hkept.put_ok rfl
  refine ⟨hkey, ?_⟩
  rw [stored?, hput, Storage.Memory.get?_put_self]
  simp only [hdecode]

theorem comesBack_of_decode (hdecode : decode (encode a) = .ok a) : ComesBack a := by
  intro mayFail key s trace s' trace' r s'' hwrite hread hfail
  obtain ⟨hkey, hstored⟩ := stored?_of_runs_writeDocument hdecode hwrite
  obtain ⟨-, -, ⟨-, hr⟩ | ⟨e, -, hfailed, -⟩⟩ := runs_readDocument hkey hread
  · rw [hr, hstored]
    rfl
  · rw [hfail] at hfailed
    cases hfailed

end Shop

/-- Every cart whose prices lie within 10^15 cents is read from the bytes of its document as it was, and so it is
when these bytes are put into the storage and fetched from there. The same holds for every order with such a cart,
such a charge for shipping and no rate but a finite one, provided that the digits of the rate are read with correct
rounding. Without that nothing but the rate can differ. -/
theorem documents_round_trip :
    (∀ cart : Cart, cart.IsExact → decode (encode cart) = .ok cart ∧ Shop.ComesBack cart) ∧
      (∀ order : Order, order.IsExact → (∀ rate, order.exchangeRate = some rate → rate.ReadNearest) →
        decode (encode order) = .ok order ∧ Shop.ComesBack order) ∧
      ∀ order : Order, order.IsExact → decode (encode order) = .ok order.rateReread := by
  have horders : ∀ order : Order, order.IsExact → decode (encode order) = .ok order.rateReread := fun order h => by
    rw [Order.decode_encode, Order.reread_eq h]
  refine ⟨fun cart h => ?_, fun order h hrate => ?_, horders⟩
  · have hdecode : decode (encode cart) = .ok cart := by
      rw [Cart.decode_encode, Cart.reread_eq h]
    exact ⟨hdecode, Shop.comesBack_of_decode hdecode⟩
  · have hdecode : decode (encode order) = .ok order := by
      rw [horders order h, Order.rateReread_eq hrate]
    exact ⟨hdecode, Shop.comesBack_of_decode hdecode⟩

/-- A cart at the limit, whose texts hold quotes, backslashes, line breaks and control characters. -/
def Cart.atLimit : Cart where
  items :=
    [⟨⟨"\"\\\n", "Stra\u00dfe \u0001\u001f", ⟨1000000000000000⟩, "\\u0041\u2028📦"⟩, 4294967295⟩,
      ⟨⟨"", "", ⟨-1⟩, ""⟩, 0⟩]
  updated := ⟨2024, 2, 29, 23, 59, 60, 1, by decide, by decide⟩

/-- An order of that cart with the greatest number, priced at 65432.11. -/
def Order.atLimit : Order where
  user := ⟨"order-1.json", by decide⟩
  cart := .atLimit
  id := ⟨18446744073709551615⟩
  status := .cancelled
  placedAt := ⟨-1, 12, 31, 0, 0, 0, 120000, by decide, by decide⟩
  shipCharge := ⟨-1000000000000000⟩
  exchangeRate := some (.ofDecimal false 6543211 (-2))
  payType := .lightningNetwork
  invoice := some "\t\u007f\""

theorem documents_round_trip_at_limit :
    (Cart.atLimit.IsExact ∧ decode (encode Cart.atLimit) = .ok Cart.atLimit) ∧
      Order.atLimit.IsExact ∧ decode (encode Order.atLimit) = .ok Order.atLimit := by
  obtain ⟨hcarts, horders, -⟩ := documents_round_trip
  have hcart : Cart.atLimit.IsExact := by decide
  obtain ⟨hfinite, hnearest⟩ : (Binary64.ofDecimal false 6543211 (-2)).isFinite = true ∧
      (Binary64.ofDecimal false 6543211 (-2)).ReadNearest := by decide +kernel
  have horder : Order.atLimit.IsExact := by
    refine ⟨hcart, by decide, ?_⟩
    rintro rate hrate
    cases hrate
    exact hfinite
  have hrates : ∀ rate, Order.atLimit.exchangeRate = some rate → rate.ReadNearest := by
    rintro rate hrate
    cases hrate
    exact hnearest
  exact ⟨⟨hcart, (hcarts _ hcart).1⟩, horder, (horders _ horder hrates).1⟩

end Storefront
