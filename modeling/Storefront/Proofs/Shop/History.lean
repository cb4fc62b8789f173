import Storefront.Proofs.Shop.Books

/-!
# The history of a shop

A shop opens on an empty storage and is asked for one thing after the other, by whatever buyers, and any
call on its storage may fail. The books of every buyer are in order all along: the orders of a buyer are
numbered from one without a gap, and every unit that was ever added lies in the cart or in one order.
-/

namespace Storefront.Shop

open Storage (Memory)

/-- Any call on the storage may fail. -/
def anyFailure : Storage.Call → Prop := fun _ => True

/-- A request with all that came of it. -/
structure Entry where
  user : UserId
  moment : Moment
  request : Request
  /-- The calls that were made and how they were answered. -/
  trace : List (Exchange interface)
  result : Except ShopError Response
  after : Scene

/-- What was asked of a shop since it opened on an empty storage, the last request first, and the scene
to which this led. -/
inductive History (shop : Shop) : List Entry → Scene → Prop where
  /-- The shop has opened. -/
  | start (channel : Channel OrderPlaced) : History shop [] ⟨.empty, channel⟩
  /-- Something more was asked for. -/
  | next {past : List Entry} {s : Scene} {entry : Entry} (before : History shop past s)
    (run : Runs anyFailure (entry.request.perform shop entry.moment entry.user) s entry.trace
      entry.result entry.after) :
    History shop (entry :: past) entry.after

/-! ## What is counted -/

/-- How many orders of a buyer were written in the course of some calls. -/
def orderWrites (user : UserId) (trace : List (Exchange interface)) : Nat :=
  (written trace).countP fun document => Memory.shows (ordersListing user "") document.1

/-- How many orders of a buyer were ever written. -/
def allOrderWrites (user : UserId) (past : List Entry) : Nat :=
  (past.map fun entry => orderWrites user entry.trace).sum

/-- How many units of a SKU a buyer has ever added. -/
def additions (user : UserId) (sku : String) (past : List Entry) : Nat :=
  past.countP fun entry => entry.user = user ∧ entry.request.addedSku? entry.result = some sku

/-- The units of a SKU in the books of a buyer. -/
def balance (sku : String) (cart : Cart) (orders : List Order) : Nat :=
  cart.units sku + (orders.map (·.cart.units sku)).sum

/-- The deletion of the cart of a buyer has failed in the course of some calls. -/
def CartKept (user : UserId) (trace : List (Exchange interface)) : Prop :=
  ∃ cause, (.delete (cartKey user), cause) ∈ failures trace

variable {shop : Shop} {moment : Moment} {user other : UserId} {request : Request} {s s' : Scene}
  {trace : List (Exchange interface)} {r : Except ShopError Response} {past : List Entry}

theorem orderWrites_of_nil (hwritten : written trace = []) : orderWrites user trace = 0 := by
  rw [orderWrites, hwritten]
  rfl

theorem orderWrites_of_cart {data : ByteArray} (hwritten : written trace = [(cartKey other, data)]) :
    orderWrites user trace = 0 := by
  rw [orderWrites, hwritten, List.countP_eq_zero]
  intro document hdocument hshows
  rw [List.mem_singleton.1 hdocument] at hshows
  obtain ⟨name, hname, -⟩ := shows_ordersListing_iff.1 hshows
  exact cartKey_ne_ordersFolder_append _ _ _ hname

theorem orderWrites_of_order {id : OrderId} {data : ByteArray}
    (hwritten : written trace = [(orderKey other id, data)]) :
    orderWrites user trace = if other = user then 1 else 0 := by
  rw [orderWrites, hwritten, List.countP_singleton]
  have hshows : Memory.shows (ordersListing user "") (orderKey other id) = true ↔ other = user := by
    rw [shows_ordersListing_iff]
    constructor
    · rintro ⟨name, hname, -⟩
      exact (ordersFolder_append_inj hname).1
    · rintro rfl
      exact ⟨_, rfl, slash_not_mem_orderName _, List.nil_prefix⟩
  simp only [hshows]

/-! ## One request -/

/-- A request of another buyer writes no order of this one. -/
theorem Effect.orderWrites_of_ne (h : Effect shop moment other request s trace r s')
    (hne : other ≠ user) : orderWrites user trace = 0 := by
  cases h with
  | kept wrote => exact orderWrites_of_nil wrote
  | added _ _ _ wrote => exact orderWrites_of_cart wrote
  | undeleted _ _ wrote => rw [orderWrites_of_order wrote, if_neg hne]
  | placed _ wrote => rw [orderWrites_of_order wrote, if_neg hne]

variable {cart cart' : Cart} {orders orders' : List Order} {added : Option String}

/-- How one request carries on the books of the buyer who asks, where `added` is the SKU that it has
added. -/
inductive Turn (user : UserId) (trace : List (Exchange interface)) (cart : Cart) (orders : List Order)
    (added : Option String) : Cart → List Order → Prop where
  | kept (unadded : added = none) (unwritten : orderWrites user trace = 0) :
    Turn user trace cart orders added cart orders
  /-- There is one more unit in the cart. -/
  | added (product : Product) (now : Timestamp) (counted : added = some product.sku)
    (unwritten : orderWrites user trace = 0) :
    Turn user trace cart orders added ({ cart.add product with updated := now } : Cart).reread orders
  /-- The cart has become an order and is still there. -/
  | undeleted {order : Order} (same : order.cart = cart.reread)
    (filled : cart.isEmpty = false) (kept : CartKept user trace) (unadded : added = none)
    (written : orderWrites user trace = 1) :
    Turn user trace cart orders added cart (orders ++ [order])
  /-- The cart has become an order. -/
  | placed {order : Order} (same : order.cart = cart.reread)
    (filled : cart.isEmpty = false) (unadded : added = none)
    (written : orderWrites user trace = 1) :
    Turn user trace cart orders added .empty (orders ++ [order])

theorem Effect.turn (h : Effect shop moment user request s trace r s')
    (books : Books s.documents user cart orders) :
    ∃ cart' orders', Books s'.documents user cart' orders' ∧
      Turn user trace cart orders (request.addedSku? r) cart' orders' := by
  cases h with
  | kept wrote unadded => exact ⟨cart, orders, books, .kept unadded (orderWrites_of_nil wrote)⟩
  | @added sku product old new known held grown wrote counted =>
    cases Except.ok.inj (held.symm.trans books.held)
    subst grown
    refine ⟨_, orders, books.put_cart _, .added product moment.now ?_ (orderWrites_of_cart wrote)⟩
    rw [counted, (Catalog.get?_eq_some known).1]
  | @undeleted order message e next failed wrote unadded =>
    have hcart := Except.ok.inj (next.held.symm.trans books.held)
    refine ⟨cart, orders ++ [order.reread], books.put_order next, ?_⟩
    refine .undeleted ?_ (hcart ▸ next.filled) ⟨e, failed⟩ unadded ?_
    · rw [Order.cart_reread, hcart]
    · rw [orderWrites_of_order wrote, if_pos rfl]
  | @placed order message next wrote unadded =>
    have hcart := Except.ok.inj (next.held.symm.trans books.held)
    refine ⟨.empty, orders ++ [order.reread], (books.put_order next).erase_cart, ?_⟩
    refine .placed ?_ (hcart ▸ next.filled) unadded ?_
    · rw [Order.cart_reread, hcart]
    · rw [orderWrites_of_order wrote, if_pos rfl]

namespace Turn

variable (h : Turn user trace cart orders added cart' orders')
include h

theorem length_eq : orders'.length = orders.length + orderWrites user trace := by
  cases h with
  | kept _ unwritten | added _ _ _ unwritten => rw [unwritten, Nat.add_zero]
  | undeleted _ _ _ _ written | placed _ _ _ written =>
    rw [written, List.length_append, List.length_singleton]

/-- The units change by what is added, unless a line of the cart is full or a cart stays behind its
order. -/
theorem balance_eq (deleted : ¬ CartKept user trace) (hroom : cart'.HasRoom) (sku : String) :
    balance sku cart' orders' = balance sku cart orders + if added = some sku then 1 else 0 := by
  cases h with
  | kept unadded =>
    rw [unadded]
    rfl
  | added product now counted =>
    have hunits : (cart.add product).units sku = cart.units sku + if product.sku = sku then 1 else 0 :=
      Cart.units_add sku (Cart.hasRoom_reread.1 hroom)
    rw [balance, balance, Cart.units_reread, Cart.units_updated, hunits, counted]
    simp only [Option.some.injEq]
    omega
  | undeleted _ _ kept => exact absurd kept deleted
  | @placed order same _ unadded =>
    rw [balance, balance, unadded, List.map_append, List.sum_append, List.map_singleton,
      List.sum_singleton, same, Cart.units_reread, Cart.units_empty]
    simp only [reduceCtorEq, if_false]
    omega

end Turn

/-! ## The books all along -/

/-- The books of every buyer are in order, whatever was asked for and whatever has failed. -/
theorem History.books (h : History shop past s) (user : UserId) :
    ∃ cart orders, Books s.documents user cart orders ∧
      orders.length = allOrderWrites user past ∧
      ((∀ entry ∈ past, ¬ CartKept user entry.trace) →
        (∀ entry ∈ past, ∀ cart, storedCart entry.after.documents user = .ok cart → cart.HasRoom) →
        ∀ sku, balance sku cart orders = additions user sku past) := by
  induction h with
  | start channel => exact ⟨.empty, [], .start user, rfl, fun _ _ _ => rfl⟩
  | @next past s entry before run ih =>
    obtain ⟨cart, orders, hbooks, hlength, hbalance⟩ := ih
    have heffect := runs_perform run
    rw [allOrderWrites, List.map_cons, List.sum_cons, Nat.add_comm]
    by_cases huser : entry.user = user
    · subst huser
      obtain ⟨cart', orders', hbooks', hturn⟩ := heffect.turn hbooks
      refine ⟨cart', orders', hbooks', by rw [hturn.length_eq, hlength, allOrderWrites], ?_⟩
      intro hkept hroom sku
      have hbefore := hbalance (fun e he => hkept e (List.mem_cons_of_mem _ he))
        (fun e he => hroom e (List.mem_cons_of_mem _ he)) sku
      rw [hturn.balance_eq (hkept entry List.mem_cons_self)
        (hroom entry List.mem_cons_self cart' hbooks'.held) sku, hbefore, additions, additions,
        List.countP_cons]
      simp only [true_and, decide_eq_true_eq]
    · refine ⟨cart, orders, hbooks.congr (heffect.sameFor huser), ?_, ?_⟩
      · rw [heffect.orderWrites_of_ne huser, hlength, allOrderWrites]
        rfl
      · intro hkept hroom sku
        rw [hbalance (fun e he => hkept e (List.mem_cons_of_mem _ he))
          (fun e he => hroom e (List.mem_cons_of_mem _ he)) sku, additions, additions,
          List.countP_cons_of_neg]
        simp only [huser, false_and, decide_false, Bool.false_eq_true, not_false_eq_true]

theorem History.orderWrites_of_ne (h : History shop past s) :
    ∀ entry ∈ past, entry.user ≠ user → orderWrites user entry.trace = 0 := by
  induction h with
  | start channel => exact fun _ he => absurd he List.not_mem_nil
  | next before run ih =>
    intro e he hne
    rcases List.mem_cons.1 he with rfl | he
    · exact (runs_perform run).orderWrites_of_ne hne
    · exact ih e he hne

/-- In the sample shop the product may be added without a failure. -/
theorem Sample.exists_added :
    ∃ trace r, Runs (fun _ => False) ((Request.add "A").perform Sample.shop Sample.moment Sample.buyer)
        Sample.scene trace r Sample.filled ∧
      failures trace = [] ∧ written trace = [(cartKey Sample.buyer, Document.encode Sample.cart)] ∧
      (Request.add "A").addedSku? r = some "A" := by
  obtain ⟨trace, r, s, run⟩ := exists_runs (fun _ => False)
    ((Request.add "A").perform Sample.shop Sample.moment Sample.buyer) Sample.scene
  obtain ⟨r₀, hadd, houtcome⟩ := runs_addition rfl run
  obtain ⟨new, hnew, hfail, hwritten, hr, hs⟩ :=
    (runs_addToCart hadd).succeeds Sample.get?_product rfl
  have hnew : new = Sample.cart := hnew
  subst hnew
  have hs : s = Sample.filled := hs
  subst hs
  exact ⟨trace, r, run, hfail, hwritten, houtcome.2 ⟨_, hr⟩⟩

/-- In the sample shop the product may be added and the cart placed without a failure. -/
theorem Sample.exists_history :
    ∃ past s, History Sample.shop past s ∧ additions Sample.buyer "A" past = 1 ∧
      allOrderWrites Sample.buyer past = 1 ∧
      ∀ entry ∈ past, failures entry.trace = [] ∧
        ∀ cart, storedCart entry.after.documents Sample.buyer = .ok cart → cart.HasRoom := by
  obtain ⟨trace, r, run, hfail, hwritten, hadded⟩ := Sample.exists_added
  obtain ⟨trace', order, message, s', hplace, hfail', hwritten', hs'⟩ := Sample.exists_placement
  have run' : Runs (fun _ => False) (Request.place.perform Sample.shop Sample.moment Sample.buyer)
      Sample.filled trace' (.ok (.placement (.placed order message))) s' :=
    Program.runs_except_map_iff.2 ⟨_, rfl, hplace⟩
  have before : History Sample.shop
      [⟨Sample.buyer, Sample.moment, .add "A", trace, r, Sample.filled⟩] Sample.filled :=
    .next (.start _) (run.mono fun _ hno => hno.elim)
  have h : History Sample.shop
      [⟨Sample.buyer, Sample.moment, .place, trace', _, s'⟩,
        ⟨Sample.buyer, Sample.moment, .add "A", trace, r, Sample.filled⟩] s' :=
    .next before (run'.mono fun _ hno => hno.elim)
  refine ⟨_, _, h, ?_, ?_, ?_⟩
  · rw [additions, List.countP_cons, List.countP_singleton, hadded,
      Request.addedSku?_of_addition?_eq_none rfl]
    rfl
  · rw [allOrderWrites, List.map_cons, List.map_singleton, List.sum_cons, List.sum_singleton,
      orderWrites_of_order hwritten', orderWrites_of_cart hwritten]
    rfl
  · intro entry he
    rcases List.mem_cons.1 he with rfl | he
    · refine ⟨hfail', fun cart hcart => ?_⟩
      rw [hs', storedCart_erase_cart] at hcart
      cases hcart
      exact fun item hitem => absurd hitem List.not_mem_nil
    · cases List.mem_singleton.1 he
      refine ⟨hfail, fun cart hcart => ?_⟩
      cases Except.ok.inj (Sample.storedCart_filled.symm.trans hcart)
      rw [Cart.hasRoom_reread]
      intro item hitem
      cases List.mem_singleton.1 hitem
      decide

/-! ## Orders without a gap -/

/-- In every history, and after every step of it, the documents in the folder of the orders of a buyer
are those numbered from one to the number of orders that were written for this buyer. Each can be read
and tells its number, its buyer and a cart that is not empty. Placing the cart gives the next number if
it succeeds, and takes none if it fails anywhere but at the deletion of the cart. What other buyers do
writes no order here. -/
theorem orders_gapless (h : History shop past s) (user : UserId) :
    (∀ name, (s.documents.get? (ordersFolder user ++ "/" ++ name)).isSome = true ↔
      ∃ n, 1 ≤ n ∧ n ≤ allOrderWrites user past ∧ name = orderNumbering.name n) ∧
    (∀ n, 1 ≤ n → n ≤ allOrderWrites user past → ∃ order,
      stored? Order s.documents (ordersFolder user ++ "/" ++ orderNumbering.name n) =
        .ok (some order) ∧
      order.id.toNat = n ∧ order.user = user ∧ order.cart.isEmpty = false) ∧
    (∀ moment trace r s', Runs anyFailure (placeOrder shop moment user) s trace r s' →
      (∀ order message, r = .ok (.placed order message) →
        order.id.toNat = allOrderWrites user past + 1) ∧
      (∀ e, r = .error e → ¬ CartKept user trace → s' = s ∧ orderWrites user trace = 0)) ∧
    ∀ entry ∈ past, entry.user ≠ user → orderWrites user entry.trace = 0 := by
  obtain ⟨cart, orders, hbooks, hlength, -⟩ := h.books user
  rw [← hlength]
  have hname : ∀ {n}, 1 ≤ n → n ≤ orders.length → ∃ order ∈ orders, order.id.toNat = n :=
    fun h₁ h₂ => hbooks.exists_order_iff.2 ⟨h₁, h₂⟩
  refine ⟨fun name => ⟨fun hsome => ?_, ?_⟩, fun n h₁ h₂ => ?_, fun moment trace r s' hrun => ?_, ?_⟩
  · obtain ⟨order, ho, rfl⟩ := hbooks.complete name hsome
    obtain ⟨h₁, h₂⟩ := hbooks.exists_order_iff.1 ⟨order, ho, rfl⟩
    exact ⟨order.id.toNat, h₁, h₂, rfl⟩
  · rintro ⟨n, h₁, h₂, rfl⟩
    obtain ⟨order, ho, rfl⟩ := hname h₁ h₂
    exact isSome_get?_of_stored? (hbooks.stored order ho)
  · obtain ⟨order, ho, rfl⟩ := hname h₁ h₂
    exact ⟨order, hbooks.stored order ho, rfl, hbooks.owned order ho, hbooks.filled order ho⟩
  · cases runs_placeOrder hrun with
    | placed next =>
      refine ⟨fun order message hr => ?_, fun e hr => by cases hr⟩
      cases hr
      rw [next.number, hbooks.lastOrder_eq]
    | undeleted _ _ failed =>
      have hdeleted : CartKept user trace := ⟨_, by rw [failed]; exact List.mem_singleton_self _⟩
      exact ⟨fun order message hr => (by cases hr), fun e _ hkept => absurd hdeleted hkept⟩
    | corrupt _ _ wrote | unfetched _ _ wrote | unlisted _ _ wrote | exhausted _ _ wrote
    | unwritten _ _ _ wrote | emptyCart _ _ _ wrote =>
      exact ⟨fun order message hr => (by cases hr),
        fun e _ _ => ⟨rfl, orderWrites_of_nil wrote⟩⟩
  · exact h.orderWrites_of_ne

/-- The sample shop after its first order. -/
theorem orders_gapless_sample :
    ∃ past s, History Sample.shop past s ∧ allOrderWrites Sample.buyer past = 1 ∧
      (∃ order, stored? Order s.documents (ordersFolder Sample.buyer ++ "/" ++ orderNumbering.name 1) =
        .ok (some order) ∧ order.id.toNat = 1 ∧ order.user = Sample.buyer ∧
        order.cart.isEmpty = false) ∧
      ∀ moment trace r s', Runs anyFailure (placeOrder Sample.shop moment Sample.buyer) s trace r s' →
        ∀ order message, r = .ok (.placed order message) → order.id.toNat = 2 := by
  obtain ⟨past, s, h, -, hwrites, -⟩ := Sample.exists_history
  obtain ⟨-, hstored, hplace, -⟩ := orders_gapless h Sample.buyer
  rw [hwrites] at hstored hplace
  exact ⟨past, s, h, hwrites, hstored 1 (Nat.le_refl 1) (Nat.le_refl 1),
    fun moment trace r s' hrun => (hplace moment trace r s' hrun).1⟩

/-! ## No unit is lost -/

/-- In every history in which the deletion of the cart of a buyer has never failed and no line of that
cart has ever been full, the units of each SKU that the buyer has added are those in the stored cart
and those in the stored orders, all of which can be read. -/
theorem units_conserved (h : History shop past s) (user : UserId) (sku : String)
    (deleted : ∀ entry ∈ past, ¬ CartKept user entry.trace)
    (room : ∀ entry ∈ past, ∀ cart,
      storedCart entry.after.documents user = .ok cart → cart.HasRoom) :
    ∃ (cart : Cart) (orders : List Order), storedCart s.documents user = .ok cart ∧
      (s.documents.listed (ordersListing user "")).Perm
        (orders.map fun order => orderKey user order.id) ∧
      (∀ order ∈ orders, stored? Order s.documents (orderKey user order.id) = .ok (some order)) ∧
      additions user sku past = cart.units sku + (orders.map (·.cart.units sku)).sum := by
  obtain ⟨cart, orders, hbooks, -, hbalance⟩ := h.books user
  exact ⟨cart, orders, hbooks.held, hbooks.listed_perm, hbooks.stored,
    (hbalance deleted room sku).symm⟩

/-- The sample shop after its product was added and the cart placed. -/
theorem units_conserved_sample :
    ∃ past s, History Sample.shop past s ∧ (∀ entry ∈ past, ¬ CartKept Sample.buyer entry.trace) ∧
      (∀ entry ∈ past, ∀ cart,
        storedCart entry.after.documents Sample.buyer = .ok cart → cart.HasRoom) ∧
      ∃ (cart : Cart) (orders : List Order),
        storedCart s.documents Sample.buyer = .ok cart ∧
        (s.documents.listed (ordersListing Sample.buyer "")).Perm
          (orders.map fun order => orderKey Sample.buyer order.id) ∧
        (∀ order ∈ orders,
          stored? Order s.documents (orderKey Sample.buyer order.id) = .ok (some order)) ∧
        1 = cart.units "A" + (orders.map (·.cart.units "A")).sum := by
  obtain ⟨past, s, h, hadditions, -, hentries⟩ := Sample.exists_history
  have hdeleted : ∀ entry ∈ past, ¬ CartKept Sample.buyer entry.trace := by
    rintro entry he ⟨cause, hcause⟩
    rw [(hentries entry he).1] at hcause
    cases hcause
  have hroom := fun entry he => (hentries entry he).2
  rw [← hadditions]
  exact ⟨past, s, h, hdeleted, hroom, units_conserved h Sample.buyer "A" hdeleted hroom⟩

end Storefront.Shop
