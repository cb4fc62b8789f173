import Storefront.Proofs.Confirmation.Amounts
import Storefront.Proofs.Shop.Payments

/-!
# What buyers are told

A placement confirms its order with the message for this order and for how it is to be paid. The catalog refuses
no title, so a product whose title holds a line feed gives its buyers a line that no order has. Amounts are told
exactly, and while no total is cut at the greatest amount they add up.
-/

namespace Storefront.Shop

open Confirmation (LaidOut startsTotal)

/-- Every message to a buyer has the lines of its order and no others, but for texts that hold line feeds. -/
theorem confirmations_laidOut :
    (∀ order resolution, LaidOut order resolution (Confirmation.text order resolution)) ∧
    ∀ {σ : Type} {serve : Outside interface σ} {s s' : σ} {trace : List (Exchange interface)} {shop : Shop}
      {moment : Moment} {user : UserId} {order : Order} {message : String},
      Program.Runs serve (placeOrder shop moment user).run s trace (.ok (.placed order message)) s' →
        ∃ cart id resolution, order = resolution.apply (shop.draft moment user cart id) ∧
          message = Confirmation.text order resolution ∧ LaidOut order resolution message := by
  refine ⟨Confirmation.laidOut, fun run => ?_⟩
  obtain ⟨_, _, _, cart, id, resolution, _, _, _, -, -, -, horder, rfl, -⟩ := parts_of_placed run
  exact ⟨cart, id, resolution, horder, rfl, Confirmation.laidOut _ _⟩

/-- The first order of the sample shop. -/
theorem confirmations_laidOut_sample :
    ∃ trace order message s', Runs (fun _ => False) (placeOrder Sample.shop Sample.moment Sample.buyer)
        Sample.filled trace (.ok (.placed order message)) s' ∧
      ∃ cart id resolution, order = resolution.apply (Sample.shop.draft Sample.moment Sample.buyer cart id) ∧
        message = Confirmation.text order resolution ∧ LaidOut order resolution message := by
  obtain ⟨trace, order, message, s', run, -⟩ := Sample.exists_placement
  exact ⟨trace, order, message, s', run, confirmations_laidOut.2 run⟩

namespace Sample

/-- A product whose title goes on like the line of a total. -/
def forged : Product := ⟨"A", "Apple\nTotal amount: $0.00 USD", ⟨250⟩, ""⟩

/-- The sample shop with that product. -/
def forgedShop : Shop := { shop with catalog := Catalog.empty.insert forged (by decide) }

/-- The cart with one unit of it. -/
def forgedCart : Cart := ⟨[⟨forged, 1⟩], .epoch⟩

/-- The order that the cart makes. -/
def forgedOrder : Order := forgedShop.draft moment buyer forgedCart ⟨1⟩

/-- In that shop the product may be added and the cart placed. -/
theorem exists_forgedOrder :
    ∃ added adding placing s s', Runs (fun _ => False) (addToCart forgedShop .epoch buyer "A") scene adding
        (.ok added) s ∧
      Runs (fun _ => False) (placeOrder forgedShop moment buyer) s placing
        (.ok (.placed forgedOrder (Confirmation.text forgedOrder (.unavailable .noRateProvider)))) s' := by
  obtain ⟨adding, r, s, hadd⟩ := exists_runs (fun _ => False) (addToCart forgedShop .epoch buyer "A") scene
  have hproduct : forgedShop.catalog.get? "A" = some forged := rfl
  obtain ⟨new, hnew, -, -, rfl, rfl⟩ := (runs_addToCart hadd).succeeds hproduct rfl
  obtain rfl : new = forgedCart := hnew
  obtain ⟨placing, r, s', hplace⟩ := exists_runs (fun _ => False) (placeOrder forgedShop moment buyer)
    { scene with documents := scene.documents.put (cartKey buyer) (Document.encode forgedCart) }
  have held : storedCart (scene.documents.put (cartKey buyer) (Document.encode forgedCart)) buyer =
      .ok forgedCart.reread := storedCart_put_cart _ _ _
  have haccepted : Catalog.accepts forged = true := by decide
  have hreread : forgedCart.reread = forgedCart := Cart.reread_eq (Cart.isPriced_empty.add haccepted).isExact
  rw [hreread] at held
  have hlast : lastOrder (scene.documents.put (cartKey buyer) (Document.encode forgedCart)) buyer = 0 :=
    ((Books.start buyer).put_cart forgedCart).lastOrder_eq
  obtain ⟨order, message, -, -, -, rfl, -⟩ := (runs_placeOrder hplace).succeeds held rfl (by rw [hlast]; decide)
  obtain ⟨cart, id, _, resolution, _, _, held', number, resolves, rfl, rfl, -⟩ := resolves_of_placed hplace
  obtain rfl : cart = forgedCart := Except.ok.inj (held'.symm.trans held)
  obtain rfl : id = ⟨1⟩ := OrderId.ext_toNat (number.trans (by rw [hlast]; rfl))
  rw [resolve_unattached rfl] at resolves
  obtain ⟨-, hresolution, -⟩ := Program.runs_pure_iff.1 resolves
  cases hresolution
  exact ⟨_, adding, placing, _, s', hadd, hplace⟩

end Sample

/-- The catalog takes the product, and its buyer is told two totals, the first of which is none. -/
theorem forged_total_told :
    Catalog.ofProducts [Sample.forged] = .ok Sample.forgedShop.catalog ∧
      (∃ added adding placing message s s',
        Runs (fun _ => False) (addToCart Sample.forgedShop .epoch Sample.buyer "A") Sample.scene adding
          (.ok added) s ∧
        Runs (fun _ => False) (placeOrder Sample.forgedShop Sample.moment Sample.buyer) s placing
          (.ok (.placed Sample.forgedOrder message)) s' ∧
        (Text.lines message).filter startsTotal =
          ["Total amount: $0.00 USD - 1 units - $2.50/item - $2.50", "Total amount: $2.50 USD"]) := by
  refine ⟨rfl, ?_⟩
  obtain ⟨added, adding, placing, s, s', hadd, hplace⟩ := Sample.exists_forgedOrder
  exact ⟨added, adding, placing, _, s, s', hadd, hplace, by decide +kernel⟩

/-! ## Amounts -/

/-- Every amount is read back from its text, which shows cents with two places behind the point and atoms with the
places that they need; so no two amounts look the same, and a minus sign tells amounts below nothing. The amounts
in a confirmation add up unless a price is less than nothing or a total is cut. -/
theorem amounts_toldExactly :
    (∀ c : Cents, Denomination.base.Shows c.text c.toInt) ∧
    (∀ a : Atoms, Denomination.settlement.Shows a.text a.toInt) ∧
    Function.Injective Cents.text ∧ Function.Injective Atoms.text ∧
    (∀ (order : Order) (resolution : Resolution), NoneNegative order.cart.items →
      exactTotal order.cart.items + order.exactShipping ≤ Amount.greatest →
        Confirmation.AddsUp order (Confirmation.text order resolution)) ∧
    ∀ {σ : Type} {serve : Outside interface σ} {s s' : σ} {trace : List (Exchange interface)} {shop : Shop}
      {moment : Moment} {user : UserId} {order : Order} {message : String},
      Program.Runs serve (placeOrder shop moment user).run s trace (.ok (.placed order message)) s' →
        ∃ resolution, message = Confirmation.text order resolution := by
  refine ⟨Cents.shows_text, Atoms.shows_text, Cents.text_injective, Atoms.text_injective,
    fun order resolution h hfits => Confirmation.addsUp h hfits resolution, fun run => ?_⟩
  obtain ⟨_, _, _, _, _, resolution, _, _, _, -, -, -, -, rfl, -⟩ := parts_of_placed run
  exact ⟨resolution, rfl⟩

/-- Two mugs and a poster whose title goes over two lines, with a charge that brings their total to the greatest
amount; and the first order of the sample shop. -/
theorem amounts_toldExactly_at_greatest :
    (let mug : Product := ⟨"mug", "Mug", ⟨999⟩, ""⟩
     let poster : Product := ⟨"poster", "Poster\nof a mug", ⟨9223372036854773309⟩, ""⟩
     let order := Order.new ⟨"ann", by decide⟩ ⟨[⟨mug, 2⟩, ⟨poster, 1⟩], .epoch⟩ ⟨1⟩ ⟨500⟩ .epoch
     NoneNegative order.cart.items ∧ exactTotal order.cart.items + order.exactShipping = Amount.greatest ∧
       Confirmation.AddsUp order (Confirmation.text order .contact)) ∧
    ∃ trace order message s', Runs (fun _ => False) (placeOrder Sample.shop Sample.moment Sample.buyer)
        Sample.filled trace (.ok (.placed order message)) s' ∧
      ∃ resolution, message = Confirmation.text order resolution := by
  obtain ⟨-, -, -, -, hadds, hplaced⟩ := amounts_toldExactly
  obtain ⟨trace, order, message, s', run, -⟩ := Sample.exists_placement
  exact ⟨⟨by decide, by decide, hadds _ _ (by decide) (by decide)⟩, trace, order, message, s', run, hplaced run⟩

end Storefront.Shop
