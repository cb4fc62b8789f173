import Storefront.Proofs.Document.RoundTrip
import Storefront.Proofs.Json.Sorted
import Storefront.Proofs.Shop.Reading
import Storefront.Proofs.Shop.Returned

/-!
# What was returned is read again

Seen from outside, a shop keeps one cart and a list of orders for each buyer: an addition returns the cart,
a placement returns the order that it appends, and nothing else changes either of them. Of this the shop
keeps nothing but documents, and it makes up the list again whenever it is asked for. As long as no call
fails and documents keep every amount, what is made up is what was returned, but for the rates: each of them
is what its digits are read as, which need not be the rate they were made from.
-/

namespace Storefront.Shop

open Storage (Memory)

/-! ## The ledger of a buyer -/

/-- The order that was placed, if one was. -/
def Response.placed? : Except ShopError Response → Option Order
  | .ok (.placement (.placed order _)) => some order
  | _ => none

/-- The cart that an operation leaves behind, given the cart before it. -/
def Response.cartAfter : Except ShopError Response → Cart → Cart
  | .ok (.added _ new), _ => new
  | .ok (.placement (.placed _ _)), _ => .empty
  | _, old => old

/-- The orders that placements of a buyer have returned, the first one first. -/
def placedOrders (shop : Shop) (user : UserId) : List Entry → List Order
  | [] => []
  | entry :: past =>
    let placed := if entry.user = user then (entry.returned? shop).bind Response.placed? else none
    placedOrders shop user past ++ placed.toList

/-- The cart that the last addition of a buyer has returned, unless an order was placed since. Without such
an addition it is the empty one. -/
def latestCart (shop : Shop) (user : UserId) : List Entry → Cart
  | [] => .empty
  | entry :: past =>
    match if entry.user = user then entry.returned? shop else none with
    | some r => Response.cartAfter r (latestCart shop user past)
    | none => latestCart shop user past

variable {mayFail : Storage.Call → Prop} {shop : Shop} {moment : Moment} {user : UserId} {m : Memory}
  {s s' : Scene} {trace : List (Exchange interface)} {past : List Entry} {cart : Cart}
  {orders : List Order}

theorem mem_placedOrders {entry : Entry} {order : Order} {message : String} (he : entry ∈ past)
    (huser : entry.user = user)
    (hreturned : entry.returned? shop = some (.ok (.placement (.placed order message)))) :
    order ∈ placedOrders shop user past := by
  induction past with
  | nil => cases he
  | cons first past ih =>
    rw [placedOrders, List.mem_append]
    rcases List.mem_cons.1 he with rfl | he
    · right
      simp only [if_pos huser, hreturned]
      exact List.mem_singleton_self order
    · exact .inl (ih he)

/-! ## What documents keep -/

theorem isExact_price {sku : String} {product : Product} (h : shop.catalog.get? sku = some product) :
    product.price.IsExact := by
  obtain ⟨-, haccepts⟩ := Catalog.get?_eq_some h
  simp only [Catalog.accepts, Bool.and_eq_true, decide_eq_true_eq] at haccepts
  obtain ⟨⟨-, hlow⟩, hhigh⟩ := haccepts
  unfold Catalog.greatestPrice at hhigh
  unfold Cents.IsExact Cents.exactLimit
  omega

theorem isExact_add {product : Product} (hcart : cart.IsExact) (hprice : product.price.IsExact) :
    (cart.add product).IsExact :=
  Cart.forall_product_addUnit (P := fun product => product.price.IsExact) hcart hprice

/-- A shop and a moment of whose amounts documents keep every cent, and whose rates they keep nearly. -/
structure Exact (shop : Shop) (moment : Moment) : Prop where
  charge : shop.config.shipCharge.IsExact
  rate : ∀ rate, moment.quote.rate? = some rate → rate.isFinite = true

theorem NextOrder.isExact {order : Order} {message : String}
    (next : NextOrder shop moment user m order message) (held : storedCart m user = .ok cart)
    (hcart : cart.IsExact) (exact : Exact shop moment) : order.IsExact := by
  cases Except.ok.inj (held.symm.trans next.held)
  obtain ⟨payType, invoice, horder⟩ := next.eq_draft
  refine ⟨hcart, ?_, ?_⟩
  · rw [horder]
    exact exact.charge
  · rw [horder]
    exact exact.rate

/-- An order and what is read of it: the same but for the rate, and with the same rate if its digits are read
with correct rounding. -/
structure KeptButRate (order read : Order) : Prop where
  eq : read = { order with exchangeRate := order.exchangeRate.map Binary64.reread }
  itemTotal : read.itemTotal = order.itemTotal
  grandTotal : read.grandTotal = order.grandTotal
  finite : ∀ rate, order.exchangeRate = some rate → rate.isFinite = true → rate.reread.isFinite = true
  positive : ∀ rate, order.exchangeRate = some rate → rate.isPositive = true → rate.reread.isPositive = true
  same : (∀ rate, order.exchangeRate = some rate → rate.ReadNearest) → read = order

theorem keptButRate_rateReread : ∀ order : Order, KeptButRate order order.rateReread
  | ⟨_, _, _, _, _, _, _, _, _⟩ =>
    { eq := rfl
      itemTotal := rfl
      grandTotal := rfl
      finite := fun _ _ => Binary64.isFinite_reread
      positive := fun _ _ => Binary64.isPositive_reread
      same := Order.rateReread_eq }

/-! ## One request -/

/-- What an operation returns is what it does to the books of the buyer who asks. -/
theorem Books.direct (h : Books s.documents user cart orders) (hcart : cart.IsExact)
    (exact : Exact shop moment) {request : Request} {r : Except ShopError Response}
    (run : Runs mayFail (request.direct.perform shop moment user) s trace r s')
    (unfailed : failures trace = []) :
    Books s'.documents user (Response.cartAfter r cart)
        (orders ++ (Response.placed? r).toList.map Order.rateReread) ∧
      (Response.cartAfter r cart).IsExact := by
  have hkept : s' = s → Response.cartAfter r cart = cart → Response.placed? r = none →
      Books s'.documents user (Response.cartAfter r cart)
          (orders ++ (Response.placed? r).toList.map Order.rateReread) ∧
        (Response.cartAfter r cart).IsExact := by
    intro hs hafter hplaced
    rw [hs, hafter, hplaced, Option.toList_none, List.map_nil, List.append_nil]
    exact ⟨h, hcart⟩
  cases hdirect : request.direct with
  | add sku =>
    rw [hdirect] at run
    obtain ⟨r₀, rfl, hadd⟩ := Program.runs_except_map_iff.1 run
    cases runs_addToCart hadd with
    | unknown | corrupt | unfetched | unwritten => exact hkept rfl rfl rfl
    | @added _ product old new known held grown =>
      cases Except.ok.inj (held.symm.trans h.held)
      have hnew : new.IsExact := by
        rw [grown]
        exact isExact_add hcart (isExact_price known)
      have hbooks := h.put_cart new
      rw [Cart.reread_eq hnew] at hbooks
      show Books _ user new (orders ++ []) ∧ new.IsExact
      rw [List.append_nil]
      exact ⟨hbooks, hnew⟩
  | place =>
    rw [hdirect] at run
    obtain ⟨r₀, rfl, hplace⟩ := Program.runs_except_map_iff.1 run
    cases runs_placeOrder hplace with
    | corrupt | unfetched | emptyCart | unlisted | exhausted | unwritten => exact hkept rfl rfl rfl
    | undeleted _ _ failed =>
      rw [unfailed] at failed
      cases failed
    | placed next =>
      have hbooks := (h.put_order next).erase_cart
      rw [Order.reread_eq (next.isExact h.held hcart exact)] at hbooks
      exact ⟨hbooks, fun item hitem => absurd hitem List.not_mem_nil⟩
  | cart =>
    rw [hdirect] at run
    obtain ⟨r₀, rfl, hread⟩ := Program.runs_except_map_iff.1 run
    obtain ⟨hs, -⟩ := (LookOnly.cart user).quiet hread
    cases r₀ <;> exact hkept hs rfl rfl
  | orders =>
    rw [hdirect] at run
    obtain ⟨r₀, rfl, hread⟩ := Program.runs_except_map_iff.1 run
    obtain ⟨hs, -⟩ := (LookOnly.orders user).quiet hread
    cases r₀ <;> exact hkept hs rfl rfl
  | fetch path =>
    rw [hdirect] at run
    obtain ⟨r₀, rfl, hread⟩ := Program.runs_except_map_iff.1 run
    obtain ⟨hs, -⟩ := (look_direct hdirect).quiet hread
    cases r₀ <;> exact hkept hs rfl rfl

/-! ## All requests -/

/-- The books of a buyer are the ledger of what was returned to this buyer. -/
theorem History.ledger (h : History shop past s) (unfailed : ∀ entry ∈ past, failures entry.trace = [])
    (exact : ∀ entry ∈ past, Exact shop entry.moment) (user : UserId) :
    Books s.documents user (latestCart shop user past) ((placedOrders shop user past).map Order.rateReread) ∧
      (latestCart shop user past).IsExact := by
  induction h with
  | start channel => exact ⟨.start user, fun item hitem => absurd hitem List.not_mem_nil⟩
  | @next past s entry before run ih =>
    obtain ⟨hbooks, hcart⟩ := ih (fun e he => unfailed e (List.mem_cons_of_mem _ he))
      (fun e he => exact e (List.mem_cons_of_mem _ he))
    by_cases huser : entry.user = user
    · subst huser
      obtain ⟨r, hreturned, -, hdirect⟩ := runs_direct run
      have hstep := hbooks.direct hcart (exact entry List.mem_cons_self) hdirect
        (unfailed entry List.mem_cons_self)
      rw [latestCart, placedOrders, List.map_append]
      simpa only [if_true, hreturned, Option.bind_some] using hstep
    · have hsame := hbooks.congr ((runs_perform run).sameFor huser)
      rw [latestCart, placedOrders]
      simp only [if_neg huser, Option.toList_none, List.append_nil]
      exact ⟨hsame, hcart⟩

/-! ## What pages show -/

/-- The summary of an order as it is given to a template. -/
def summary (order : Order) : Json := (Json.object (orderFields order)).sorted

theorem sorted_ordersData (orders : List Order) :
    (ordersData orders).sorted = .object [("orders", .array (orders.map summary))] := by
  have hitems : Json.sortedItems (orders.map fun order => .object (orderFields order)) =
      orders.map summary := by
    induction orders with
    | nil => rfl
    | cons order orders ih => rw [List.map_cons, List.map_cons, Json.sortedItems, ih, summary]
  rw [ordersData, Json.sorted, Json.sortedFields, Json.sortedFields, Table.insert, Json.sorted, hitems]

/-- The page that confirms an order is given its summary and, beside it, the message. -/
theorem without_message_placedData (order : Order) (message : String) :
    (placedData order message).sorted.without "message" = summary order := by
  have hnames : "message" ∉ (Json.sortedFields (orderFields order) []).map Prod.fst := by
    intro hmem
    obtain ⟨entry, hentry, hname⟩ := List.mem_map.1 hmem
    rcases Json.mem_sortedFields hentry with hfield | hnone
    · rw [hname] at hfield
      simp [orderFields] at hfield
    · cases hnone
  rw [placedData, summary, Json.sorted, Json.sorted, Json.sortedFields_concat, Json.without,
    Table.erase_insert_self, Table.erase_eq_self hnames]

/-- As long as no call fails and documents keep every amount, a buyer who asks for the orders gets those that
placements have returned to this buyer, each once, in the order of their numbers, and as they were but for the
rates; and one who asks for the cart gets what the last addition has returned, or the empty cart if an order was
placed since or nothing was added. The page of the orders is given the summaries of the orders as they are read,
and the page that confirmed an order was given the summary of the order as it was placed. -/
theorem reads_returned (h : History shop past s) (unfailed : ∀ entry ∈ past, failures entry.trace = [])
    (charge : shop.config.shipCharge.IsExact)
    (rates : ∀ entry ∈ past, ∀ rate, entry.moment.quote.rate? = some rate → rate.isFinite = true)
    (user : UserId) :
    (∀ entry ∈ past, ∃ r, entry.returned? shop = some r ∧
      entry.result = r.bind (entry.request.answer shop)) ∧
    (placedOrders shop user past).Pairwise (fun a b => a.id.toNat < b.id.toNat) ∧
    (∀ trace r s', Runs (fun _ => False) (Shop.orders user) s trace r s' →
      r = .ok ((placedOrders shop user past).map Order.rateReread)) ∧
    (∀ trace r s', Runs (fun _ => False) (Shop.cart user) s trace r s' →
      r = .ok (latestCart shop user past)) ∧
    (∀ path, Resource.ofPath path = .orders → ∀ moment trace r s',
      Runs (fun _ => False) (Shop.fetch shop moment user path) s trace r s' →
      r = shop.pageOf Template.orders
        (.object [("orders", .array ((placedOrders shop user past).map fun order => summary order.rateReread))])) ∧
    (∀ order ∈ placedOrders shop user past, KeptButRate order order.rateReread) ∧
    ∀ entry ∈ past, entry.user = user → ∀ order message,
      entry.returned? shop = some (.ok (.placement (.placed order message))) →
      order ∈ placedOrders shop user past ∧
      ∀ path, entry.request = .fetch path → ∃ data,
        entry.result = (shop.pageOf Template.orderPlaced data).map .reply ∧
        data.without "message" = summary order := by
  have hexact : ∀ entry ∈ past, Exact shop entry.moment := fun entry he => ⟨charge, rates entry he⟩
  obtain ⟨hbooks, -⟩ := h.ledger unfailed hexact user
  refine ⟨h.returned, (List.pairwise_map (f := Order.rateReread)).1 hbooks.ascending, fun trace r s' hrun => (hbooks.runs_orders hrun).2,
    fun trace r s' hrun => (hbooks.runs_cart hrun).2, ?_, fun order _ => keptButRate_rateReread order, ?_⟩
  · intro path hpath moment trace r s' hrun
    rw [Shop.fetch, hpath] at hrun
    simp only [fetchResource, renderPage_eq] at hrun
    obtain ⟨r₀, rfl, horders⟩ := Program.runs_except_bind_done_iff.1 hrun
    obtain ⟨-, rfl⟩ := hbooks.runs_orders horders
    have hsummaries := sorted_ordersData ((placedOrders shop user past).map Order.rateReread)
    rw [List.map_map] at hsummaries
    exact congrArg (shop.pageOf Template.orders) hsummaries
  · intro entry he huser order message hreturned
    refine ⟨mem_placedOrders he huser hreturned, fun path hpath => ?_⟩
    obtain ⟨r, hr, hresult⟩ := h.returned entry he
    cases Option.some.inj (hreturned.symm.trans hr)
    refine ⟨_, ?_, without_message_placedData order message⟩
    rw [hresult, hpath]
    rfl

namespace Sample

/-- A moment at which so much is known of rates. -/
def quoted (quote : Quote) : Moment := { Sample.moment with quote := quote }

/-- In the sample shop the product may be added and the cart placed through pages, without a failure. -/
theorem exists_pages (quote : Quote) :
    ∃ past s order message, History Sample.shop past s ∧
      (∀ entry ∈ past, failures entry.trace = [] ∧ entry.moment = quoted quote) ∧
      order.exchangeRate = quote.rate? ∧ placedOrders Sample.shop buyer past = [order] ∧
      ∃ entry ∈ past, entry.user = buyer ∧ entry.request = .fetch ["placeorder"] ∧
        entry.returned? Sample.shop = some (.ok (.placement (.placed order message))) := by
  obtain ⟨trace, r, s, run⟩ := exists_runs (fun _ => False)
    ((Request.fetch ["addtocart", "A"]).perform Sample.shop (quoted quote) buyer) scene
  obtain ⟨r₀, hadd, -⟩ := runs_addition rfl run
  obtain ⟨new, hnew, hfail, -, -, hs⟩ := (runs_addToCart hadd).succeeds get?_product rfl
  have hs : s = filled := by
    rw [hs, hnew]
    rfl
  subst hs
  have hlast : lastOrder filled.documents buyer = 0 := ((Books.start buyer).put_cart cart).lastOrder_eq
  obtain ⟨trace', r', s', hplace⟩ := exists_runs (fun _ => False) (placeOrder Sample.shop (quoted quote) buyer) filled
  obtain ⟨order, message, next, hfail', -, rfl, -⟩ :=
    (runs_placeOrder hplace).succeeds storedCart_filled (Cart.isEmpty_reread _) (by rw [hlast]; decide)
  have hdirect : Runs (fun _ => False)
      ((Request.fetch ["placeorder"]).direct.perform Sample.shop (quoted quote) buyer)
      filled trace' (.ok (.placement (.placed order message))) s' :=
    Program.runs_except_map_iff.2 ⟨_, rfl, hplace⟩
  obtain ⟨r', hfetch⟩ : ∃ r', Runs (fun _ => False)
      ((Request.fetch ["placeorder"]).perform Sample.shop (quoted quote) buyer) filled trace' r' s' := by
    rw [Request.perform_eq]
    exact ⟨_, Program.runs_except_bind_done_iff.2 ⟨_, rfl, hdirect⟩⟩
  have hadded : History Sample.shop
      [⟨buyer, quoted quote, .fetch ["addtocart", "A"], trace, r, filled⟩] filled :=
    .next (.start _) (run.mono fun _ hno => hno.elim)
  have hplaced : History Sample.shop
      [⟨buyer, quoted quote, .fetch ["placeorder"], trace', r', s'⟩,
        ⟨buyer, quoted quote, .fetch ["addtocart", "A"], trace, r, filled⟩] s' :=
    .next hadded (hfetch.mono fun _ hno => hno.elim)
  have hrate : order.exchangeRate = quote.rate? := by
    obtain ⟨payType, invoice, horder⟩ := next.eq_draft
    rw [horder]
    rfl
  have hreturned : (Entry.returned? Sample.shop ⟨buyer, quoted quote, .fetch ["placeorder"], trace', r', s'⟩) =
      some (.ok (.placement (.placed order message))) := hdirect.replay_eq
  have hentries : placedOrders Sample.shop buyer
      [⟨buyer, quoted quote, .fetch ["placeorder"], trace', r', s'⟩,
        ⟨buyer, quoted quote, .fetch ["addtocart", "A"], trace, r, filled⟩] = [order] := by
    obtain ⟨r₁, -, hdone⟩ := runs_perform_direct run
    have hfirst : (Entry.returned? Sample.shop ⟨buyer, quoted quote, .fetch ["addtocart", "A"], trace, r, filled⟩) =
        some r₁ := hdone.replay_eq
    obtain ⟨r₂, rfl, -⟩ := Program.runs_except_map_iff.1 hdone
    rw [placedOrders, placedOrders, placedOrders, hreturned, hfirst]
    cases r₂ <;> rfl
  refine ⟨_, _, order, message, hplaced, ?_, hrate, hentries, _, List.mem_cons_self, rfl, rfl, hreturned⟩
  intro entry he
  rcases List.mem_cons.1 he with rfl | he
  · exact ⟨hfail', rfl⟩
  · rw [List.mem_singleton.1 he]
    exact ⟨hfail, rfl⟩

/-- A rate whose seventeen digits are not read as the number nearest to them. -/
def roughRate : Binary64 := .ofDecimal false 38064001756786245 (-16)

theorem reread_roughRate :
    roughRate.isFinite = true ∧ roughRate.reread = .ofDecimal false 3806400175678625 (-15) ∧
      roughRate ≠ .ofDecimal false 3806400175678625 (-15) := by
  decide +kernel

end Sample

/-- The order that was placed through a page there is read with all it had, also if the digits of its rate are not
read with correct rounding. -/
theorem reads_returned_sample :
    ∃ past s order, History Sample.shop past s ∧ order.exchangeRate = some Sample.roughRate ∧
      placedOrders Sample.shop Sample.buyer past = [order] ∧ KeptButRate order order.rateReread ∧
      ∀ trace r s', Runs (fun _ => False) (Shop.orders Sample.buyer) s trace r s' →
        r = .ok [order.rateReread] := by
  obtain ⟨past, s, order, message, h, hentries, hrate, hplaced, -⟩ := Sample.exists_pages (.rate Sample.roughRate)
  have hrates : ∀ entry ∈ past, ∀ rate, entry.moment.quote.rate? = some rate → rate.isFinite = true := by
    intro entry he rate hrate
    rw [(hentries entry he).2] at hrate
    cases hrate
    exact Sample.reread_roughRate.1
  obtain ⟨-, -, horders, -, -, hkept, -⟩ := reads_returned h (fun entry he => (hentries entry he).1)
    (by decide) hrates Sample.buyer
  rw [hplaced] at horders hkept
  exact ⟨past, s, order, h, hrate, hplaced, hkept order (List.mem_singleton_self order), horders⟩

/-- An order at the rate 3.8064001756786245 is read with the rate 3.806400175678625, although nothing has failed. -/
theorem rate_read_otherwise :
    ∃ past s order, History Sample.shop past s ∧ (∀ entry ∈ past, failures entry.trace = []) ∧
      Sample.shop.config.shipCharge.IsExact ∧
      (∀ entry ∈ past, ∀ rate, entry.moment.quote.rate? = some rate → rate.isFinite = true) ∧
      placedOrders Sample.shop Sample.buyer past = [order] ∧
      order.exchangeRate = some (.ofDecimal false 38064001756786245 (-16)) ∧
      ∃ trace read s', Runs (fun _ => False) (Shop.orders Sample.buyer) s trace (.ok [read]) s' ∧
        read.exchangeRate = some (.ofDecimal false 3806400175678625 (-15)) ∧ read ≠ order := by
  obtain ⟨past, s, order, message, h, hentries, hrate, hplaced, -⟩ := Sample.exists_pages (.rate Sample.roughRate)
  obtain ⟨hfinite, hread, hother⟩ := Sample.reread_roughRate
  have hrates : ∀ entry ∈ past, ∀ rate, entry.moment.quote.rate? = some rate → rate.isFinite = true := by
    intro entry he rate hrate
    rw [(hentries entry he).2] at hrate
    cases hrate
    exact hfinite
  have hunfailed : ∀ entry ∈ past, failures entry.trace = [] := fun entry he => (hentries entry he).1
  have hcharge : Sample.shop.config.shipCharge.IsExact := by decide
  obtain ⟨hbooks, -⟩ := h.ledger hunfailed (fun entry he => ⟨hcharge, hrates entry he⟩) Sample.buyer
  rw [hplaced] at hbooks
  obtain ⟨trace, r, s', hrun⟩ := exists_runs (fun _ => False) (Shop.orders Sample.buyer) s
  obtain ⟨-, rfl⟩ := hbooks.runs_orders hrun
  have hkept := (keptButRate_rateReread order).eq
  have hreread : order.rateReread.exchangeRate = some (.ofDecimal false 3806400175678625 (-15)) := by
    rw [hkept, hrate, ← hread]
    rfl
  refine ⟨past, s, order, h, hunfailed, hcharge, hrates, hplaced, hrate, trace, order.rateReread, s', hrun, hreread, ?_⟩
  intro hsame
  rw [hsame, hrate] at hreread
  exact hother (Option.some.inj hreread)

end Storefront.Shop
