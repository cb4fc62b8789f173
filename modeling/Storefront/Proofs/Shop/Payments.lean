import Storefront.Proofs.Order
import Storefront.Proofs.Shop.Immutable
import Storefront.Proofs.Shop.Ledger
import Storefront.Proofs.Shop.Parts
import Storefront.Proofs.Shop.Sessions

/-!
# How stored orders are to be paid

Every document in the storage was written by some request, so what is to be known of the payment of an order
is known once it is known of each placement. A provider is asked in the middle of it: the cart has been read
and a number found, and nothing is written yet. The one check that concerns the amount is that it is not
zero. That it is more than nothing follows from the prices, which the catalog has accepted and which carts
keep to the cent. What is stored of the order tells the same if it keeps the charge for shipping to the cent and
the rate to the last bit.
-/

namespace Storefront.Shop

open Storage (Memory Contract)

/-- A provider was rightly asked about an order: the one that the shop has chosen and has, at a rate that is
of use, and about more than nothing. -/
structure Billed (shop : Shop) (moment : Moment) (order : Order) (request : PaymentRequest) : Prop where
  channel :
    shop.config.payType = .onChain ∧ moment.hasWallet = true ∧
        request = .address order.user shop.config.account ∨
      shop.config.payType = .lightningNetwork ∧ moment.hasNode = true ∧
        ∃ amount, request = .invoice amount (memo order) ∧
          amount.toInt = 1000 * order.settlementTotal.toInt ∧ 0 < amount.toInt
  rate : ∃ rate, moment.quote = .rate rate ∧ order.exchangeRate = some rate ∧ rate.isFinite = true ∧
    rate.isPositive = true
  positive : 0 < order.settlementTotal.toInt

/-- What the calls of a request have to do with payment. -/
inductive Paying (shop : Shop) (moment : Moment) (user : UserId) (trace : List (Exchange interface)) :
    Prop where
  /-- No provider is asked, and an order that is written is not to be paid through one. -/
  | unasked (unasked : payments trace = [])
    (unpaid : ∀ key data, IsOrders key → (key, data) ∈ written trace → ∃ order : Order,
      data = Document.encode order ∧ order.payType = .manual ∧ order.invoice = none)
  /-- A provider is asked once, after all else has gone well, and an order that is written has its answer. -/
  | asked {cart : Cart} {id : OrderId} {request : PaymentRequest} {answer : Except ProviderError String}
    {before after : List (Exchange interface)} (calls : trace = before ++ ⟨.pay request, answer⟩ :: after)
    (unfailed : failures before = []) (unwritten : written before = [])
    (once : payments trace = [(request, answer)]) (filled : cart.isEmpty = false) (priced : cart.IsPriced)
    (billed : Billed shop moment (shop.draft moment user cart id) request)
    (wrote : ∀ key data, (key, data) ∈ written trace → key = orderKey user id ∧
      data = Document.encode (settledBy shop.config.payType (shop.draft moment user cart id) answer)) :
    Paying shop moment user trace

/-- How an order under a key is to be paid: not through a provider, or as the provider has answered when the
order was placed. -/
inductive Payable (shop : Shop) (past : List Entry) (key : String) (order : Order) : Prop where
  | unpaid (manual : order.payType = .manual) (none : order.invoice = none)
  | paid {entry : Entry} {cart : Cart} {id : OrderId} {request : PaymentRequest} {text : String}
    (placed : entry ∈ past) (named : key = orderKey entry.user id)
    (wrote : ∃ data, (key, data) ∈ written entry.trace)
    (asked : payments entry.trace = [(request, .ok text)])
    (billed : Billed shop entry.moment (shop.draft entry.moment entry.user cart id) request)
    (payType : order.payType = shop.config.payType) (chosen : order.payType ≠ .manual)
    (invoice : order.invoice = some text)
    (rate : ∃ rate, entry.moment.quote = .rate rate ∧ order.exchangeRate = some rate.reread ∧
      rate.reread.isFinite = true ∧ rate.reread.isPositive = true)
    (nonneg : 0 ≤ order.settlementTotal.toInt)
    (positive : shop.config.shipCharge.IsExact → (∀ rate, entry.moment.quote = .rate rate → rate.ReadNearest) →
      0 < order.settlementTotal.toInt)

variable {σ α : Type} {mayFail : Storage.Call → Prop} {shop : Shop} {moment : Moment} {user : UserId}
  {account : String} {payType : PayType} {order : Order} {s s' : Scene} {trace : List (Exchange interface)}
  {past : List Entry}

/-! ## What is asked of a provider -/

/-- Where nothing stands in the way, there is a rate that is of use and something to be paid. -/
theorem checked_of_obstacle? (hrate : order.exchangeRate = moment.quote.rate?)
    (h : obstacle? moment order = none) :
    ∃ rate, moment.quote = .rate rate ∧ ExchangeRate.isUsable rate = true ∧
      order.settlementTotal.isZero = false := by
  unfold obstacle? at h
  cases hquote : moment.quote with
  | unattached => simp [hquote] at h
  | missing => simp [hquote, hrate, Quote.rate?] at h
  | rate rate =>
    simp only [hquote, hrate, Quote.rate?, Option.map_some, Option.getD_some] at h
    cases husable : ExchangeRate.isUsable rate with
    | false => simp [husable] at h
    | true =>
      cases hzero : order.settlementTotal.isZero with
      | true => simp [husable, hzero] at h
      | false => exact ⟨rate, rfl, husable, rfl⟩

/-- Who is asked, and for what. -/
theorem request_of_asked {request : PaymentRequest} (h : asked? moment payType account order = some request) :
    obstacle? moment order = none ∧
      (payType = .onChain ∧ moment.hasWallet = true ∧ request = .address order.user account ∨
        payType = .lightningNetwork ∧ moment.hasNode = true ∧ ∃ amount,
          order.settlementTotal.toMilliAtoms? = some amount ∧ request = .invoice amount (memo order)) := by
  unfold asked? at h
  cases hobstacle : obstacle? moment order with
  | some reason =>
    rw [hobstacle] at h
    cases h
  | none =>
    rw [hobstacle] at h
    refine ⟨rfl, ?_⟩
    cases payType with
    | manual => cases h
    | onChain =>
      cases hwallet : moment.hasWallet with
      | false => simp [hwallet] at h
      | true =>
        simp only [hwallet, if_true, Option.isSome_none, Bool.false_eq_true, if_false,
          Option.some.injEq] at h
        exact .inl ⟨rfl, rfl, h.symm⟩
    | lightningNetwork =>
      cases hnode : moment.hasNode with
      | false => simp [hnode] at h
      | true =>
        simp only [hnode, if_true, Option.isSome_none, Bool.false_eq_true, if_false,
          Option.map_eq_some_iff] at h
        obtain ⟨amount, hamount, rfl⟩ := h
        exact .inr ⟨rfl, rfl, amount, hamount, rfl⟩

/-- A provider that is asked is asked rightly. -/
theorem billed_of_asked {cart : Cart} {id : OrderId} {request : PaymentRequest} (priced : cart.IsPriced)
    (h : asked? moment shop.config.payType shop.config.account (shop.draft moment user cart id) =
      some request) : Billed shop moment (shop.draft moment user cart id) request := by
  obtain ⟨hobstacle, hrequest⟩ := request_of_asked h
  obtain ⟨rate, hquote, husable, hzero⟩ := checked_of_obstacle? rfl hobstacle
  obtain ⟨hfinite, hpositive⟩ := Bool.and_eq_true_iff.1 husable
  have hitems : 0 ≤ (shop.draft moment user cart id).itemTotal.toInt :=
    Cart.toInt_total_nonneg priced.noneNegative
  have htotal := Order.toInt_settlementTotal_pos hitems hzero
  refine ⟨?_, ⟨rate, hquote, congrArg Quote.rate? hquote, hfinite, hpositive⟩, htotal⟩
  rcases hrequest with honChain | ⟨hpay, hnode, amount, hamount, rfl⟩
  · exact .inl honChain
  · have hexact := Atoms.toInt_of_toMilliAtoms? hamount
    exact .inr ⟨hpay, hnode, amount, rfl, hexact, by omega⟩

/-! ## One request -/

/-- Nothing is written but the order. -/
theorem Commits.of_mem_written {message : String} {r : Except ShopError Unit} {key : String}
    {data : ByteArray} (h : Commits order message trace r) (hmem : (key, data) ∈ written trace) :
    key = orderKey order.user order.id ∧ data = Document.encode order := by
  cases h with
  | unwritten => cases hmem
  | undeleted | announced =>
    cases List.mem_singleton.1 hmem
    exact ⟨rfl, rfl⟩

theorem Commits.payments_eq {message : String} {r : Except ShopError Unit}
    (h : Commits order message trace r) : payments trace = [] := by
  cases h <;> rfl

/-- Placing an order asks as it should. -/
theorem paying_of_placeOrder {r : Except ShopError Placement}
    (priced : ∀ cart, storedCart s.documents user = .ok cart → cart.IsPriced)
    (run : Runs mayFail (placeOrder shop moment user) s trace r s') : Paying shop moment user trace := by
  have hunwritten : ∀ {trace}, payments trace = [] → written trace = [] →
      Paying shop moment user trace := by
    intro trace hasked hwritten
    refine .unasked hasked fun key data _ hmem => ?_
    rw [hwritten] at hmem
    cases hmem
  -- reading the cart and finding a number ask nobody; only settling does, and only the commit writes
  have hread := fun {trace r s'} (read : Runs mayFail (cart user) s trace r s') =>
    payments_of_onStorage ((LookOnly.cart user).storageOnly.onStorage_of_mem read)
  have hnumber := fun {s trace r s'} (number : Runs mayFail (nextOrderId user) s trace r s') =>
    payments_of_onStorage ((LookOnly.nextOrderId user).storageOnly.onStorage_of_mem number)
  cases runs_placeOrder_parts run with
  | unread read => exact hunwritten (hread read) (runs_cart read).2.1
  | emptyCart read => exact hunwritten (hread read) (runs_cart read).2.1
  | unnumbered read _ number =>
    exact hunwritten (by rw [payments_append, hread read, hnumber number]; rfl)
      (by rw [written_append, (runs_cart read).2.1, (runs_nextOrderId number).2.1]; rfl)
  | @settled first second third fourth held _ _ _ _ _ _ _ read filled number resolves commits =>
    obtain ⟨rfl, hfirst, ⟨hunfailed, hheld⟩ | ⟨e, -, -, he⟩⟩ := runs_cart read
    · have hpriced := priced held (Program.mapError_eq_ok_iff.1 hheld.symm)
      obtain ⟨rfl, hsecond, ⟨id', hunfailed', -, -⟩ | ⟨-, he, -⟩ | ⟨e, -, -, he⟩⟩ :=
        runs_nextOrderId number
      · obtain ⟨resolution', hr, hsettles⟩ := runs_resolve_settles resolves
        cases hr
        have hcommits := runs_commit_commits commits
        have hwrites : ∀ {key data}, (key, data) ∈ written (first ++ (second ++ (third ++ fourth))) →
            written third = [] → (key, data) ∈ written fourth := by
          intro key data hmem hthird
          simpa [hfirst, hsecond, hthird] using hmem
        cases hsettles with
        | unasked _ same =>
          refine .unasked ?_ fun key data _ hmem => ?_
          · rw [payments_append, payments_append, payments_append, hread read, hnumber number,
              hcommits.payments_eq]
            rfl
          · rw [same] at hcommits
            exact ⟨_, (hcommits.of_mem_written (hwrites hmem rfl)).2, rfl, rfl⟩
        | @asked request asked answer _ settled =>
          have hcalls : first ++ (second ++ ([⟨.pay request, answer⟩] ++ fourth)) =
              (first ++ second) ++ ⟨.pay request, answer⟩ :: fourth := by
            rw [List.append_assoc]
            rfl
          refine .asked hcalls ?_ ?_ ?_ filled hpriced (billed_of_asked hpriced asked)
            fun key data hmem => ?_
          · rw [failures_append, hunfailed, hunfailed', List.nil_append]
          · rw [written_append, hfirst, hsecond, List.nil_append]
          · rw [payments_append, payments_append, payments_append, hread read, hnumber number,
              hcommits.payments_eq]
            rfl
          · rw [settled] at hcommits
            obtain ⟨hkey, hdata⟩ := hcommits.of_mem_written (hwrites hmem rfl)
            refine ⟨hkey.trans ?_, hdata⟩
            cases answer <;> rfl
      · cases he
      · cases he
    · cases he

/-- Only an operation that places the cart writes anything but a cart. -/
theorem eq_cartKey_of_mem_written {request : Request} {r : Except ShopError Response} {key : String}
    {data : ByteArray} (hdirect : request.direct ≠ .place)
    (run : Runs mayFail (request.direct.perform shop moment user) s trace r s')
    (hmem : (key, data) ∈ written trace) : key = cartKey user := by
  have hlook : ∀ {operation : Operation Response}, LookOnly operation →
      Runs mayFail operation s trace r s' → key = cartKey user := by
    intro operation h hrun
    rw [(h.quiet hrun).2] at hmem
    cases hmem
  cases hoperation : request.direct with
  | place => exact absurd hoperation hdirect
  | add sku =>
    rw [hoperation] at run
    obtain ⟨r₀, -, hadd⟩ := Program.runs_except_map_iff.1 run
    cases runs_addToCart hadd with
    | unknown => cases hmem
    | corrupt _ _ wrote | unfetched _ _ wrote | unwritten _ _ wrote =>
      rw [wrote] at hmem
      cases hmem
    | added _ _ _ _ wrote =>
      rw [wrote] at hmem
      cases List.mem_singleton.1 hmem
      rfl
  | cart =>
    rw [hoperation] at run
    exact hlook ((LookOnly.cart user).map _) run
  | orders =>
    rw [hoperation] at run
    exact hlook ((LookOnly.orders user).map _) run
  | fetch path =>
    rw [hoperation] at run
    exact hlook ((look_direct hoperation).map _) run

theorem paying_of_runs {request : Request} {r : Except ShopError Response}
    (priced : ∀ cart, storedCart s.documents user = .ok cart → cart.IsPriced)
    (run : Runs mayFail (request.perform shop moment user) s trace r s') :
    Paying shop moment user trace := by
  obtain ⟨r₀, -, hdirect⟩ := runs_perform_direct run
  by_cases hplace : request.direct = .place
  · rw [hplace] at hdirect
    obtain ⟨r₁, -, hplaced⟩ := Program.runs_except_map_iff.1 hdirect
    exact paying_of_placeOrder priced hplaced
  · have honly := (Request.direct_cases shop moment user request).resolve_left hplace
    refine .unasked (payments_of_onStorage (honly.onStorage_of_mem hdirect))
      fun key data horders hmem => ?_
    exact absurd (eq_cartKey_of_mem_written hplace hdirect hmem) (cartKey_ne_of_isOrders horders)

/-! ## The whole history -/

/-- Carts keep prices that a catalog takes. -/
theorem Effect.priced {request : Request} {r : Except ShopError Response} {other : UserId}
    (h : Effect shop moment user request s trace r s')
    (priced : ∀ cart, storedCart s.documents other = .ok cart → cart.IsPriced) :
    ∀ cart, storedCart s'.documents other = .ok cart → cart.IsPriced := by
  by_cases huser : user = other
  · subst huser
    cases h with
    | kept => exact priced
    | @added _ product old new known held grown =>
      intro cart hcart
      rw [storedCart_put_cart] at hcart
      cases hcart
      have hnew : new.IsPriced := by
        rw [grown]
        exact (priced _ held).add (Catalog.get?_eq_some known).2
      rwa [Cart.reread_eq hnew.isExact]
    | undeleted =>
      intro cart hcart
      rw [storedCart_congr (Memory.get?_put_of_ne (cartKey_ne_orderKey _ _ _))] at hcart
      exact priced cart hcart
    | placed =>
      intro cart hcart
      rw [storedCart_erase_cart] at hcart
      cases hcart
      exact Cart.isPriced_empty
  · intro cart hcart
    rw [storedCart_congr (h.sameFor huser _ .cart)] at hcart
    exact priced cart hcart

theorem History.priced (h : History shop past s) (user : UserId) :
    ∀ cart, storedCart s.documents user = .ok cart → cart.IsPriced := by
  induction h with
  | start channel =>
    intro cart hcart
    cases hcart
    exact Cart.isPriced_empty
  | next _ run ih => exact (runs_perform run).priced ih

theorem History.paying (h : History shop past s) :
    ∀ entry ∈ past, Paying shop entry.moment entry.user entry.trace := by
  induction h with
  | start channel => exact fun _ he => absurd he List.not_mem_nil
  | next before run ih =>
    -- what a placement asks depends on its cart, whose prices the history before it vouches for
    intro entry he
    rcases List.mem_cons.1 he with rfl | he
    · exact paying_of_runs (before.priced _) run
    · exact ih entry he

/-- A document was there before, or was written. -/
theorem Effect.mem_written {request : Request} {r : Except ShopError Response} {key : String}
    {data : ByteArray} (h : Effect shop moment user request s trace r s')
    (hget : s'.documents.get? key = some data) :
    s.documents.get? key = some data ∨ (key, data) ∈ written trace := by
  have hput : ∀ {place : String} {bytes : ByteArray}, written trace = [(place, bytes)] →
      (s.documents.put place bytes).get? key = some data →
      s.documents.get? key = some data ∨ (key, data) ∈ written trace := by
    intro place bytes wrote hget
    by_cases hkey : key = place
    · subst hkey
      rw [Memory.get?_put_self] at hget
      cases hget
      exact .inr (by rw [wrote]; exact List.mem_singleton_self _)
    · rw [Memory.get?_put_of_ne hkey] at hget
      exact .inl hget
  cases h with
  | kept => exact .inl hget
  | added _ _ _ wrote => exact hput wrote hget
  | undeleted _ _ wrote => exact hput wrote hget
  | placed _ wrote =>
    by_cases hkey : key = cartKey user
    · subst hkey
      rw [Memory.get?_erase_self] at hget
      cases hget
    · rw [Memory.get?_erase_of_ne hkey] at hget
      exact hput wrote hget

theorem History.exists_written (h : History shop past s) {key : String} {data : ByteArray}
    (hget : s.documents.get? key = some data) : ∃ entry ∈ past, (key, data) ∈ written entry.trace := by
  induction h with
  | start channel => cases hget
  | next _ run ih =>
    rcases (runs_perform run).mem_written hget with hbefore | hwritten
    · obtain ⟨entry, he, hwritten⟩ := ih hbefore
      exact ⟨entry, List.mem_cons_of_mem _ he, hwritten⟩
    · exact ⟨_, List.mem_cons_self, hwritten⟩

/-! ## Runs in which a provider answers -/

theorem eq_pay_of_mem_payments {σ α : Type} {storage : Outside Storage.interface σ}
    {pay : PaymentRequest → Except ProviderError String} {p : Program interface α}
    {t t' : σ × Channel OrderPlaced} {a : α} (run : Program.Runs (ServedBy storage pay) p t trace a t') :
    ∀ asked ∈ payments trace, asked.2 = pay asked.1 := by
  induction run with
  | done => exact fun _ hmem => absurd hmem List.not_mem_nil
  | call served _ ih =>
    cases served with
    | storage | announce => exact ih
    | pay request =>
      intro asked hmem
      rcases List.mem_cons.1 hmem with rfl | hmem
      · rfl
      · exact ih asked hmem

/-- An order that is placed is made from the stored cart and has the next number. -/
theorem resolves_of_placed {message : String}
    (run : Runs mayFail (placeOrder shop moment user) s trace (.ok (.placed order message)) s') :
    ∃ cart id settling resolution s₁ s₂, storedCart s.documents user = .ok cart ∧
      id.toNat = lastOrder s.documents user + 1 ∧
      Runs mayFail (resolve moment shop.config.payType shop.config.account (shop.draft moment user cart id)) s₁
        settling (.ok resolution) s₂ ∧
      order = resolution.apply (shop.draft moment user cart id) ∧
      message = Confirmation.text order resolution ∧ settling ⊆ trace := by
  obtain ⟨_, _, settling, cart, id, resolution, _, s₁, s₂, read, numbered, resolves, horder, hmessage, hsub⟩ :=
    parts_of_placed run
  obtain ⟨rfl, -, ⟨-, held⟩ | ⟨e, -, -, he⟩⟩ := runs_cart read
  · obtain ⟨rfl, -, ⟨id', -, hid, number⟩ | ⟨-, he, -⟩ | ⟨e, -, -, he⟩⟩ := runs_nextOrderId numbered
    · cases hid
      exact ⟨cart, id, settling, resolution, _, s₂, Program.mapError_eq_ok_iff.1 held.symm, number, resolves,
        horder, hmessage, hsub⟩
    · cases he
    · cases he
  · cases he

theorem settles_of_placed {message : String}
    (run : Runs mayFail (placeOrder shop moment user) s trace (.ok (.placed order message)) s') :
    ∃ cart id settling resolution, storedCart s.documents user = .ok cart ∧
      id.toNat = lastOrder s.documents user + 1 ∧
      Settles moment shop.config.payType shop.config.account (shop.draft moment user cart id) settling
        resolution ∧
      order = resolution.apply (shop.draft moment user cart id) ∧ settling ⊆ trace := by
  obtain ⟨cart, id, settling, resolution, _, _, held, number, resolves, horder, -, hsub⟩ := resolves_of_placed run
  obtain ⟨_, hresolution, hsettles⟩ := runs_resolve_settles resolves
  cases hresolution
  exact ⟨cart, id, settling, resolution, held, number, hsettles, horder, hsub⟩

/-- A provider that would be asked about the next order may be asked, and give an address or an invoice. -/
theorem exists_paid {m : Memory} {cart : Cart} {id : OrderId} {request : PaymentRequest}
    (held : storedCart m user = .ok cart) (filled : cart.isEmpty = false)
    (number : id.toNat = lastOrder m user + 1)
    (hasked : asked? moment shop.config.payType shop.config.account (shop.draft moment user cart id) =
      some request) (channel : Channel OrderPlaced) (text : String) :
    ∃ trace message s', Runs (fun _ => False) (placeOrder shop moment user) ⟨m, channel⟩ trace
        (.ok (.placed (settledBy shop.config.payType (shop.draft moment user cart id) (.ok text)) message))
        s' ∧
      s'.documents.get? (orderKey user id) = some (Document.encode
        (settledBy shop.config.payType (shop.draft moment user cart id) (.ok text))) := by
  have htotal : ∀ request t, ∃ a t', Contract (fun _ => False) request t a t' :=
    fun request t => ⟨_, _, .obeyed request t⟩
  obtain ⟨trace, r, t', hserved⟩ := Program.exists_runs (ServedBy.total htotal fun _ => .ok text)
    (placeOrder shop moment user).run (m, channel)
  have hrun := runs_of_servedBy hserved
  have hleft : lastOrder m user + 1 < UInt64.size := number ▸ id.toNat_lt
  obtain ⟨order, message, -, -, -, rfl, hscene⟩ := (runs_placeOrder hrun).succeeds held filled hleft
  obtain ⟨cart', id', settling, resolution, held', number', hsettles, horder, hsub⟩ :=
    settles_of_placed hrun
  obtain rfl : cart' = cart := Except.ok.inj (held'.symm.trans held)
  obtain rfl : id' = id := OrderId.ext_toNat (number'.trans number.symm)
  have hsettled : order = settledBy shop.config.payType (shop.draft moment user cart' id') (.ok text) := by
    cases hsettles with
    | unasked unasked =>
      rw [hasked] at unasked
      cases unasked
    | asked _ answer settled =>
      have hanswer : answer = .ok text := eq_pay_of_mem_payments hserved _
        (List.mem_filterMap.2 ⟨_, hsub (List.mem_singleton_self _), rfl⟩)
      rw [horder, settled, hanswer]
  subst hsettled
  refine ⟨trace, message, _, hrun, ?_⟩
  rw [congrArg Scene.documents hscene, Memory.get?_erase_of_ne (cartKey_ne_orderKey _ _ _).symm]
  exact Memory.get?_put_self _ _ _

/-! ## Stored orders -/

/-- What was written is read as an order that is to be paid as the provider has answered, if one was asked. -/
theorem Paying.payable {entry : Entry} {key : String} {data : ByteArray}
    (h : Paying shop entry.moment entry.user entry.trace) (he : entry ∈ past) (horders : IsOrders key)
    (hmem : (key, data) ∈ written entry.trace) :
    ∃ order, Document.decode data = .ok order ∧ Payable shop past key order := by
  cases h with
  | unasked _ unpaid =>
    obtain ⟨order, rfl, manual, none⟩ := unpaid key data horders hmem
    exact ⟨order.reread, Order.decode_encode order, .unpaid manual none⟩
  | @asked cart id request answer _ _ _ _ _ once _ priced billed wrote =>
    obtain ⟨hkey, rfl⟩ := wrote key data hmem
    refine ⟨_, Order.decode_encode _, ?_⟩
    cases answer with
    | error cause => exact .unpaid rfl rfl
    | ok text =>
      have hchosen : shop.config.payType ≠ .manual := by
        rcases billed.channel with ⟨hpay, -⟩ | ⟨hpay, -⟩ <;> rw [hpay] <;> exact nofun
      obtain ⟨rate, hquote, hrate, hfinite, hpositive⟩ := billed.rate
      have hread : ((shop.draft entry.moment entry.user cart id).exchangeRate.filter Binary64.isFinite).map
          Binary64.reread = some rate.reread := by
        rw [hrate, Option.filter_some, if_pos hfinite, Option.map_some]
      have hitems : 0 ≤ (settledBy shop.config.payType (shop.draft entry.moment entry.user cart id)
          (.ok text)).reread.itemTotal.toInt := by
        rw [Order.itemTotal, Order.cart_reread]
        show 0 ≤ cart.reread.total.toInt
        rw [Cart.reread_eq priced.isExact]
        exact Cart.toInt_total_nonneg priced.noneNegative
      refine .paid he hkey ⟨_, hmem⟩ once billed rfl hchosen rfl
        ⟨rate, hquote, hread, Binary64.isFinite_reread hfinite, Binary64.isPositive_reread hpositive⟩
        (Order.toInt_settlementTotal_nonneg hitems) ?_
      -- the document keeps every cent of the prices, and of the charge where it is exact
      intro hcharge hnearest
      have hexact : (settledBy shop.config.payType (shop.draft entry.moment entry.user cart id)
          (.ok text)).IsExact := by
        refine ⟨priced.isExact, hcharge, fun rate' hrate' => ?_⟩
        rw [← Option.some.inj (hrate.symm.trans hrate')]
        exact hfinite
      rw [Order.reread_eq hexact, Order.rateReread_eq]
      · exact billed.positive
      · intro rate' hrate'
        rw [← Option.some.inj (hrate.symm.trans hrate')]
        exact hnearest rate hquote

/-- In every history each order that is stored can be read. It is not to be paid through a provider and has
no invoice, or it is to be paid as the shop is configured, with an address or invoice that this provider gave
when the order was placed, at a rate that is finite and positive, as it was quoted and as it is read. Then there
was more than nothing to be paid, and the document tells this as well if it keeps every cent of the charge for
shipping and the digits of the rate are read with correct rounding. A request asks
one provider at most, the one that is configured, and only after all else has gone well and before anything
is written; and an invoice is asked for over exactly what is to be paid. -/
theorem payments_settled (h : History shop past s) :
    (∀ key data, IsOrders key → s.documents.get? key = some data →
      ∃ order, Document.decode data = .ok order ∧ Payable shop past key order) ∧
    ∀ entry ∈ past, Paying shop entry.moment entry.user entry.trace := by
  refine ⟨fun key data horders hget => ?_, h.paying⟩
  obtain ⟨entry, he, hmem⟩ := h.exists_written hget
  exact (h.paying entry he).payable he horders hmem

namespace Sample

/-- The product at another price. -/
def priced (price : Cents) : Product := { product with price := price }

/-- A cart with one unit of it. -/
def oneUnit (price : Cents) : Cart := ⟨[⟨priced price, 1⟩], .epoch⟩

/-- The sample shop at another price and with a charge for shipping, whose orders are paid on the chain. -/
def chainShop (price charge : Cents) (accepted : Catalog.accepts (priced price) = true) : Shop where
  catalog := Catalog.empty.insert (priced price) accepted
  config := { ShopConfig.default with payType := .onChain, shipCharge := charge }
  render := Sample.shop.render

/-- A moment at which a rate is known and the wallet is there. -/
def rated (rate : Binary64) : Moment := { Sample.moment with quote := .rate rate, hasWallet := true }

/-- The first order, once the wallet has given an address. -/
def paidOrder (price charge : Cents) (rate : Binary64) : Order :=
  { Order.new buyer (oneUnit price) ⟨1⟩ charge .epoch with
    exchangeRate := some rate
    payType := .onChain
    invoice := some "address" }

variable {price charge : Cents} {rate : Binary64}

theorem asked?_draft (accepted : Catalog.accepts (priced price) = true)
    (usable : ExchangeRate.isUsable rate = true)
    (worth : (paidOrder price charge rate).settlementTotal.isZero = false) :
    asked? (rated rate) .onChain "default" ((chainShop price charge accepted).draft (rated rate) buyer
      (oneUnit price) ⟨1⟩) = some (.address buyer "default") := by
  have hobstacle : obstacle? (rated rate) ((chainShop price charge accepted).draft (rated rate) buyer
      (oneUnit price) ⟨1⟩) = none := obstacle?_eq_none rfl usable worth nofun
  rw [asked?, hobstacle]
  rfl

/-- In such a shop the product may be added and the cart placed. -/
theorem exists_paidOrder (price charge : Cents) (rate : Binary64)
    (accepted : Catalog.accepts (priced price) = true) (usable : ExchangeRate.isUsable rate = true)
    (worth : (paidOrder price charge rate).settlementTotal.isZero = false) :
    ∃ past s, History (chainShop price charge accepted) past s ∧ (∀ entry ∈ past, entry.moment = rated rate) ∧
      s.documents.get? (orderKey buyer ⟨1⟩) = some (Document.encode (paidOrder price charge rate)) := by
  obtain ⟨trace, r, s, run⟩ := exists_runs (fun _ => False)
    ((Request.add "A").perform (chainShop price charge accepted) (rated rate) buyer) scene
  obtain ⟨r₀, hadd, -⟩ := runs_addition rfl run
  have hproduct : (chainShop price charge accepted).catalog.get? "A" = some (priced price) := rfl
  obtain ⟨new, hnew, -, -, -, hs⟩ := (runs_addToCart hadd).succeeds hproduct rfl
  obtain rfl : new = oneUnit price := hnew
  subst hs
  have hpriced : (oneUnit price).IsPriced := Cart.isPriced_empty.add accepted
  have held := storedCart_put_cart .empty buyer (oneUnit price)
  rw [Cart.reread_eq hpriced.isExact] at held
  have hlast := ((Books.start buyer).put_cart (oneUnit price)).lastOrder_eq
  obtain ⟨trace', message, s', hplace, hstored⟩ := exists_paid held rfl (by rw [hlast]; rfl)
    (asked?_draft accepted usable worth) scene.channel "address"
  have hplaced : Runs (fun _ => False) (Request.place.perform (chainShop price charge accepted) (rated rate)
      buyer) _ trace' _ s' := Program.runs_except_map_iff.2 ⟨_, rfl, hplace⟩
  have h : History (chainShop price charge accepted)
      [⟨buyer, rated rate, .place, trace', _, s'⟩, ⟨buyer, rated rate, .add "A", trace, r, _⟩] s' :=
    .next (.next (.start scene.channel) (run.mono fun _ hno => hno.elim)) (hplaced.mono fun _ hno => hno.elim)
  refine ⟨_, s', h, fun entry he => ?_, hstored⟩
  simp only [List.mem_cons, List.not_mem_nil, or_false] at he
  rcases he with rfl | rfl <;> rfl

end Sample

/-- A shop whose charge for shipping is five dollars, at twenty dollars for a coin. -/
theorem payments_settled_sample :
    ∃ past s, History (Sample.chainShop ⟨250⟩ ⟨500⟩ (by decide)) past s ∧
      (∃ order : Order, Document.decode
          (Document.encode (Sample.paidOrder ⟨250⟩ ⟨500⟩ (Binary64.ofInt 20))) = .ok order ∧
        Payable (Sample.chainShop ⟨250⟩ ⟨500⟩ (by decide)) past (orderKey Sample.buyer ⟨1⟩) order) ∧
      ∀ entry ∈ past, Paying (Sample.chainShop ⟨250⟩ ⟨500⟩ (by decide)) entry.moment entry.user
        entry.trace := by
  obtain ⟨past, s, h, -, hstored⟩ := Sample.exists_paidOrder ⟨250⟩ ⟨500⟩ (Binary64.ofInt 20) (by decide)
    (by decide +kernel) (by decide +kernel)
  obtain ⟨horders, hpaying⟩ := payments_settled h
  exact ⟨past, s, h, horders _ _ (isOrders_orderKey _ _) hstored, hpaying⟩

/-- In such a shop, and at that rate, an order may be stored with an address that settles for nothing as it is read. -/
def Sample.Lost (price charge : Cents) (rate : Binary64) (accepted : Catalog.accepts (priced price) = true) : Prop :=
  ∃ past s, History (chainShop price charge accepted) past s ∧ (∀ entry ∈ past, entry.moment = rated rate) ∧
    ∃ data, s.documents.get? (orderKey buyer ⟨1⟩) = some data ∧
      ∃ order : Order, Document.decode data = .ok order ∧ order.payType = .onChain ∧
        order.invoice = some "address" ∧ ¬ 0 < order.settlementTotal.toInt

theorem Sample.lost (price charge : Cents) (rate : Binary64) (accepted : Catalog.accepts (priced price) = true)
    (h : ExchangeRate.isUsable rate = true ∧ (paidOrder price charge rate).settlementTotal.isZero = false ∧
      ¬ 0 < (paidOrder price charge rate).reread.settlementTotal.toInt) :
    Lost price charge rate accepted := by
  obtain ⟨usable, worth, hlost⟩ := h
  obtain ⟨past, s, hpast, hrated, hstored⟩ := exists_paidOrder price charge rate accepted usable worth
  exact ⟨past, s, hpast, hrated, _, hstored, _, Order.decode_encode _, rfl, rfl, hlost⟩

/-- A charge of about 70 million million dollars comes back from a document with a cent less, and at this rate
that cent decides whether anything is to be paid. Without a charge, and at the rate 113999999.99999999 for 57 cents,
the last bit of the rate decides it. -/
theorem stored_settlement_lost :
    Sample.Lost ⟨10⟩ ⟨7092554207029260⟩ (.ofDecimal false 1418510841405854 7) (by decide) ∧
      Sample.Lost ⟨57⟩ .zero (.ofDecimal false 11399999999999999 (-8)) (by decide) :=
  ⟨Sample.lost _ _ _ _ (by decide +kernel), Sample.lost _ _ _ _ (by decide +kernel)⟩

end Storefront.Shop
