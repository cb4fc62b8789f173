import Storefront.Proofs.Cart.Lines
import Storefront.Proofs.Shop.Payments

/-!
# Carts are taken as they are stored

A shop writes carts with one line for each SKU, at least one unit in each line and no price below nothing,
and it trusts that nobody else writes any. What it reads back is not checked again, so a cart that was put
into the storage in another way is used as it is. A shop does not make it worse, and an order settles for
less than nothing only where the stored lines already cost less than nothing.
-/

namespace Storefront

/-! ## One more unit -/

namespace Cart

/-- There is a unit in every line. -/
def Counted (cart : Cart) : Prop := ∀ item ∈ cart.items, 1 ≤ item.quantity.toNat

instance (cart : Cart) : Decidable cart.Counted :=
  inferInstanceAs (Decidable (∀ item ∈ cart.items, 1 ≤ item.quantity.toNat))

variable {cart : Cart} {product : Product} {items : List CartItem}

theorem skus_addUnit (product : Product) (items : List CartItem) :
    (addUnit product items).map (·.product.sku) =
      if product.sku ∈ items.map (·.product.sku) then items.map (·.product.sku)
      else items.map (·.product.sku) ++ [product.sku] := by
  induction items with
  | nil => rfl
  | cons item rest ih =>
    rw [addUnit]
    by_cases hsku : item.product.sku = product.sku
    · rw [if_pos hsku, if_pos (by rw [List.map_cons, hsku]; exact List.mem_cons_self)]
      rfl
    · rw [if_neg hsku, List.map_cons, ih, List.map_cons]
      by_cases hrest : product.sku ∈ rest.map (·.product.sku)
      · rw [if_pos hrest, if_pos (List.mem_cons_of_mem _ hrest)]
      · have hnone : product.sku ∉ item.product.sku :: rest.map (·.product.sku) := by
          rw [List.mem_cons, not_or]
          exact ⟨Ne.symm hsku, hrest⟩
        rw [if_neg hrest, if_neg hnone, List.cons_append]

/-- A SKU is added once. -/
theorem nodup_skus_add_iff : (cart.add product).skus.Nodup ↔ cart.skus.Nodup := by
  have hskus : (cart.add product).skus = _ := skus_addUnit product cart.items
  rw [hskus]
  split
  · rfl
  · next hnew =>
    rw [List.nodup_append_comm, List.singleton_append, List.nodup_cons]
    exact and_iff_right hnew

theorem Counted.add (h : cart.Counted) : (cart.add product).Counted := by
  have hitems : ∀ {items : List CartItem}, (∀ item ∈ items, 1 ≤ item.quantity.toNat) →
      ∀ item ∈ addUnit product items, 1 ≤ item.quantity.toNat := by
    intro items hcounted
    induction items with
    | nil =>
      intro item hitem
      rw [List.mem_singleton.1 hitem]
      exact Nat.le_refl 1
    | cons first rest ih =>
      obtain ⟨hfirst, hrest⟩ := List.forall_mem_cons.1 hcounted
      rw [addUnit]
      split
      · refine List.forall_mem_cons.2 ⟨?_, hrest⟩
        rw [CartItem.toNat_raise]
        exact Nat.le_min.2 ⟨Nat.le_add_left 1 _, by decide⟩
      · exact List.forall_mem_cons.2 ⟨hfirst, ih hrest⟩
  exact hitems h

theorem noneNegative_addUnit_iff (hprice : 0 ≤ product.price.toInt) :
    NoneNegative (addUnit product items) ↔ NoneNegative items := by
  induction items with
  | nil => exact iff_of_true (List.forall_mem_singleton.2 hprice) (List.forall_mem_nil _)
  | cons first rest ih =>
    rw [addUnit]
    split
    · rw [NoneNegative, NoneNegative, List.forall_mem_cons, List.forall_mem_cons]
    · rw [NoneNegative, NoneNegative, List.forall_mem_cons, List.forall_mem_cons]
      exact and_congr_right' ih

end Cart

namespace Shop

variable {σ : Type} {serve : Outside interface σ} {s s' : σ} {trace : List (Exchange interface)}
  {shop : Shop} {moment : Moment} {user : UserId} {held : Cart} {id : OrderId}

/-! ## What is asked for -/

/-- A provider is asked only about the order that is made of the cart that was read. -/
theorem asked_of_mem_payments {r : Except ShopError Placement} {request : PaymentRequest}
    {answer : Except ProviderError String}
    (run : Program.Runs serve (placeOrder shop moment user).run s trace r s')
    (hmem : (request, answer) ∈ payments trace) :
    ∃ first held id s₁, Program.Runs serve (cart user).run s first (.ok held) s₁ ∧
      asked? moment shop.config.payType shop.config.account (shop.draft moment user held id) =
        some request := by
  -- neither reading the cart nor numbering the order asks a provider
  have hread := fun {trace r s'} (read : Program.Runs serve (cart user).run s trace r s') =>
    payments_of_onStorage ((LookOnly.cart user).storageOnly.onStorage_of_mem read)
  have hnumber := fun {s trace r s'} (number : Program.Runs serve (nextOrderId user).run s trace r s') =>
    payments_of_onStorage ((LookOnly.nextOrderId user).storageOnly.onStorage_of_mem number)
  cases runs_placeOrder_parts run with
  | unread read | emptyCart read =>
    rw [hread read] at hmem
    cases hmem
  | unnumbered read _ number =>
    rw [payments_append, hread read, hnumber number] at hmem
    cases hmem
  | settled read _ number resolves commits =>
    rw [payments_append, payments_append, payments_append, hread read, hnumber number,
      (runs_commit_commits commits).payments_eq, List.append_nil] at hmem
    obtain ⟨_, -, hsettles⟩ := runs_resolve_settles resolves
    cases hsettles with
    | unasked => cases hmem
    | asked asked =>
      cases List.mem_singleton.1 hmem
      exact ⟨_, _, _, _, read, asked⟩

/-- An invoice is never for nothing. It is for less than that only if the items cost less than that. -/
theorem invoice_of_asked {amount : Int64} {text : String}
    (h : asked? moment shop.config.payType shop.config.account (shop.draft moment user held id) =
      some (.invoice amount text)) :
    amount.toInt ≠ 0 ∧ (0 ≤ held.total.toInt → 0 < amount.toInt) := by
  obtain ⟨hobstacle, hrequest⟩ := request_of_asked h
  obtain ⟨-, -, -, hzero⟩ := checked_of_obstacle? rfl hobstacle
  rcases hrequest with ⟨-, -, heq⟩ | ⟨-, -, _, hamount, heq⟩
  · cases heq
  · cases heq
    have hexact := Atoms.toInt_of_toMilliAtoms? hamount
    have hne := Order.toInt_settlementTotal_ne_zero hzero
    refine ⟨by omega, fun htotal => ?_⟩
    have hitems : 0 ≤ (shop.draft moment user held id).itemTotal.toInt := htotal
    have hpos := Order.toInt_settlementTotal_pos hitems hzero
    omega

/-! ## The whole -/

/-- What a shop makes of the cart that is stored, whatever it is. Adding a product leaves no SKU in two lines
unless there was one, no line without a unit unless there was one, and no price below nothing unless there
was one. An order has the cart as it is stored. An invoice is never asked for nothing, and it is asked
for more than nothing unless the stored lines together cost less than that, which takes a price below
nothing. -/
theorem no_worse_than_stored (shop : Shop) {s : Scene} {data : ByteArray}
    (hget : s.documents.get? (cartKey user) = some data) (hdecode : Document.decode data = .ok held) :
    (∀ mayFail now sku trace product new s',
      Runs mayFail (addToCart shop now user sku) s trace (.ok (product, new)) s' →
        (new.skus.Nodup ↔ held.skus.Nodup) ∧ (held.Counted → new.Counted) ∧
        (NoneNegative new.items ↔ NoneNegative held.items)) ∧
    (∀ mayFail moment trace order message s',
      Runs mayFail (placeOrder shop moment user) s trace (.ok (.placed order message)) s' →
        order.cart = held) ∧
    ∀ mayFail moment trace r s', Runs mayFail (placeOrder shop moment user) s trace r s' →
      ∀ amount text answer, (.invoice amount text, answer) ∈ payments trace →
        amount.toInt ≠ 0 ∧ (0 ≤ held.total.toInt → 0 < amount.toInt) ∧
        (NoneNegative held.items → 0 < amount.toInt) := by
  have hheld : storedCart s.documents user = .ok held := by
    rw [storedCart, stored?, hget]
    simp only [hdecode]
    rfl
  refine ⟨?_, ?_, ?_⟩
  · intro mayFail now sku trace product new s' run
    cases runs_addToCart run with
    | added known held' grown =>
      cases Except.ok.inj (held'.symm.trans hheld)
      have haccepted := (Catalog.get?_eq_some known).2
      simp only [Catalog.accepts, Bool.and_eq_true, decide_eq_true_eq] at haccepted
      subst grown
      exact ⟨Cart.nodup_skus_add_iff, Cart.Counted.add, Cart.noneNegative_addUnit_iff haccepted.1.2⟩
  · intro mayFail moment trace order message s' run
    cases runs_placeOrder run with
    | placed next => exact Except.ok.inj (next.held.symm.trans hheld)
  · intro mayFail moment trace r s' run amount text answer hmem
    obtain ⟨first, cart, id, s₁, read, asked⟩ := asked_of_mem_payments run hmem
    obtain ⟨-, -, ⟨-, hcart⟩ | ⟨_, -, -, he⟩⟩ := runs_cart read
    · rw [hheld] at hcart
      cases hcart
      obtain ⟨hne, hpos⟩ := invoice_of_asked asked
      exact ⟨hne, hpos, fun hprices => hpos (Cart.toInt_total_nonneg hprices)⟩
    · cases he

namespace Sample

/-- The scene in which a cart was put into the storage. -/
def planted (cart : Cart) : Scene :=
  { scene with documents := Storage.Memory.empty.put (cartKey buyer) (Document.encode cart) }

/-- The sample shop, where orders are paid by invoice. -/
def nodeShop : Shop := { Sample.shop with config := { ShopConfig.default with payType := .lightningNetwork } }

end Sample

/-- A good cart stays one, and an invoice for it is for more than nothing. -/
theorem no_worse_than_stored_sample :
    Document.decode (Document.encode Sample.cart) = .ok Sample.cart ∧
    (∀ mayFail now sku trace product new s', Runs mayFail (addToCart Sample.nodeShop now Sample.buyer sku)
      (Sample.planted Sample.cart) trace (.ok (product, new)) s' →
        new.skus.Nodup ∧ new.Counted ∧ NoneNegative new.items) ∧
    ∀ mayFail moment trace r s', Runs mayFail (placeOrder Sample.nodeShop moment Sample.buyer)
      (Sample.planted Sample.cart) trace r s' →
        ∀ amount text answer, (.invoice amount text, answer) ∈ payments trace → 0 < amount.toInt := by
  have hdecode : Document.decode (Document.encode Sample.cart) = .ok Sample.cart := by
    rw [Cart.decode_encode, Cart.reread_eq (by decide)]
  obtain ⟨hadd, -, hinvoice⟩ := no_worse_than_stored Sample.nodeShop (s := Sample.planted Sample.cart)
    (Storage.Memory.get?_put_self _ _ _) hdecode
  refine ⟨hdecode, fun mayFail now sku trace product new s' run => ?_, fun mayFail moment trace r s' run
    amount text answer hmem => ?_⟩
  · obtain ⟨hskus, hcounted, hprices⟩ := hadd mayFail now sku trace product new s' run
    exact ⟨hskus.2 (by decide), hcounted (by decide), hprices.2 (by decide)⟩
  · exact (hinvoice mayFail moment trace r s' run amount text answer hmem).2.2 (by decide)

/-! ## A cart that no shop has written -/

namespace Sample

/-- A cart with a line that has no unit, and with two lines of one SKU, of which the second pays back. -/
def crooked : Cart :=
  ⟨[⟨{ product with sku := "B" }, 0⟩, ⟨product, 1⟩, ⟨priced ⟨-250⟩, 3⟩], .epoch⟩

/-- A moment at which a coin costs twenty dollars and the node is there. -/
def linked : Moment := { Sample.moment with quote := .rate (Binary64.ofInt 20), hasNode := true }

/-- The first order that the cart makes. -/
def crookedDraft : Order := nodeShop.draft linked buyer crooked ⟨1⟩

theorem asked?_crooked :
    asked? linked .lightningNetwork "default" crookedDraft =
      some (.invoice (-25000000000) (memo crookedDraft)) := by
  have hobstacle : obstacle? linked crookedDraft = none := by decide +kernel
  have hamount : crookedDraft.settlementTotal.toMilliAtoms? = some (-25000000000) := by decide +kernel
  rw [asked?, hobstacle, hamount]
  rfl

theorem decode_crooked : Document.decode (Document.encode crooked) = .ok crooked := by
  rw [Cart.decode_encode, Cart.reread_eq (by decide)]

theorem storedCart_planted {cart : Cart} (hexact : cart.IsExact) :
    storedCart (planted cart).documents buyer = .ok cart := by
  rw [planted, storedCart_put_cart, Cart.reread_eq hexact]

theorem lastOrder_planted (cart : Cart) : lastOrder (planted cart).documents buyer = 0 :=
  ((Books.start buyer).put_cart cart).lastOrder_eq

end Sample

/-- A cart with a SKU in two lines, a line without a unit and a price below nothing is added to and ordered,
and an invoice of less than nothing is asked for. -/
theorem crooked_cart_ordered :
    ∃ (data : ByteArray) (held : Cart),
      (Sample.planted Sample.crooked).documents.get? (cartKey Sample.buyer) = some data ∧
      Document.decode data = .ok held ∧
      (∃ trace product new s', Runs (fun _ => False)
          (addToCart Sample.nodeShop Sample.linked.now Sample.buyer "A") (Sample.planted Sample.crooked)
          trace (.ok (product, new)) s' ∧
        ¬ new.skus.Nodup ∧ ¬ new.Counted ∧ ¬ NoneNegative new.items) ∧
      ∃ trace order message s' amount text answer, Runs (fun _ => False)
          (placeOrder Sample.nodeShop Sample.linked Sample.buyer) (Sample.planted Sample.crooked) trace
          (.ok (.placed order message)) s' ∧
        ¬ order.cart.skus.Nodup ∧ ¬ order.cart.Counted ∧ ¬ NoneNegative order.cart.items ∧
        (.invoice amount text, answer) ∈ payments trace ∧ amount.toInt < 0 := by
  have hheld : storedCart (Sample.planted Sample.crooked).documents Sample.buyer = .ok Sample.crooked :=
    Sample.storedCart_planted (by decide)
  refine ⟨_, _, Storage.Memory.get?_put_self _ _ _, Sample.decode_crooked, ?_, ?_⟩
  · obtain ⟨trace, r, s', run⟩ := exists_runs (fun _ => False)
      (addToCart Sample.nodeShop Sample.linked.now Sample.buyer "A") (Sample.planted Sample.crooked)
    obtain ⟨new, hnew, -, -, rfl, -⟩ := (runs_addToCart run).succeeds Sample.get?_product hheld
    refine ⟨trace, Sample.product, new, s', run, ?_⟩
    rw [hnew]
    decide
  · obtain ⟨trace, message, s', run, -⟩ := exists_paid hheld rfl
      ((Sample.lastOrder_planted _).symm ▸ rfl) Sample.asked?_crooked Sample.scene.channel "invoice"
    have hcart : (settledBy Sample.nodeShop.config.payType
        (Sample.nodeShop.draft Sample.linked Sample.buyer Sample.crooked ⟨1⟩) (.ok "invoice")).cart =
          Sample.crooked := rfl
    obtain ⟨cart, id, settling, resolution, held', number, hsettles, -, hsub⟩ := settles_of_placed run
    cases Except.ok.inj (held'.symm.trans hheld)
    obtain rfl : id = ⟨1⟩ := OrderId.ext_toNat (number.trans (by rw [Sample.lastOrder_planted]; rfl))
    cases hsettles with
    | unasked unasked => cases unasked.symm.trans Sample.asked?_crooked
    | asked asked answer =>
      cases Option.some.inj (asked.symm.trans Sample.asked?_crooked)
      refine ⟨trace, _, message, s', _, _, answer, run, ?_, ?_, ?_,
        List.mem_filterMap.2 ⟨_, hsub (List.mem_singleton_self _), rfl⟩, by decide⟩
      · rw [hcart]
        decide
      · rw [hcart]
        decide
      · rw [hcart]
        decide

end Shop

end Storefront
