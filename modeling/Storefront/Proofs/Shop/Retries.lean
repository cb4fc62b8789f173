import Storefront.Proofs.Shop.History

/-!
# Placing a cart again

An order is written before its cart is deleted, and nothing ties the two together. If the deletion fails
the buyer is told so, while the order and the cart are both there, and the cart can be placed once more.
In no other way does a buyer come by more units in orders than were added, nor by two orders from one
cart.
-/

namespace Storefront.Shop

open Storage (Memory)

/-- Has the deletion of the cart of a buyer failed in the course of some calls? -/
def cartKept? (user : UserId) (trace : List (Exchange interface)) : Bool :=
  (failures trace).any fun
    | (.delete key, _) => key == cartKey user
    | _ => false

/-- The units of a SKU in the stored cart of a buyer. -/
def heldUnits (user : UserId) (sku : String) (s : Scene) : Nat :=
  match storedCart s.documents user with
  | .ok cart => cart.units sku
  | .error _ => 0

/-- The units of a SKU in all the carts of a buyer that have stayed behind their orders. -/
def unitsKept (user : UserId) (sku : String) (past : List Entry) : Nat :=
  (past.map fun entry =>
    if cartKept? user entry.trace then heldUnits user sku entry.after else 0).sum

variable {shop : Shop} {user : UserId} {s s' : Scene} {trace : List (Exchange interface)}
  {past : List Entry} {sku : String}

theorem cartKept?_iff : cartKept? user trace = true ↔ CartKept user trace := by
  rw [cartKept?, List.any_eq_true]
  constructor
  · rintro ⟨⟨request, cause⟩, hfailed, hcart⟩
    cases request with
    | delete key => exact ⟨cause, beq_iff_eq.1 hcart ▸ hfailed⟩
    | get key | put key data | list start => cases hcart
  · rintro ⟨cause, hfailed⟩
    exact ⟨_, hfailed, beq_self_eq_true _⟩

theorem cartKept?_of_nil (hfail : failures trace = []) : cartKept? user trace = false := by
  rw [cartKept?, hfail]
  rfl

theorem heldUnits_eq {cart : Cart} (held : storedCart s.documents user = .ok cart) :
    heldUnits user sku s = cart.units sku := by
  rw [heldUnits, held]

theorem additions_cons_eq_zero_iff {entry : Entry} :
    additions user sku (entry :: past) = 0 ↔
      additions user sku past = 0 ∧
        ¬ (entry.user = user ∧ entry.request.addedSku? entry.result = some sku) := by
  rw [additions, additions, List.countP_cons]
  by_cases h : entry.user = user ∧ entry.request.addedSku? entry.result = some sku
  · simp [h]
  · simp [h]

/-! ## One request -/

namespace Turn

variable {cart cart' : Cart} {orders orders' : List Order} {added : Option String}
  (h : Turn user trace cart orders added cart' orders')
include h

/-- The units grow by what is added, and by what a cart that stays behind its order still holds. -/
theorem balance_le (sku : String) :
    balance sku cart' orders' ≤ balance sku cart orders + (if added = some sku then 1 else 0) +
      if cartKept? user trace then cart'.units sku else 0 := by
  cases h with
  | kept => omega
  | added product now counted =>
    have hunits := Cart.units_add_le cart product sku
    rw [balance, balance, Cart.units_reread, Cart.units_updated, counted]
    simp only [Option.some.injEq]
    omega
  | undeleted same _ kept =>
    -- the units are in the order and still in the cart
    rw [if_pos (cartKept?_iff.2 kept), balance, balance, List.map_append, List.sum_append,
      List.map_singleton, List.sum_singleton, same, Cart.units_reread]
    omega
  | placed same =>
    rw [balance, balance, List.map_append, List.sum_append, List.map_singleton, List.sum_singleton,
      same, Cart.units_reread, Cart.units_empty]
    omega

/-- An order is made of a cart that is not empty. -/
theorem isEmpty_of_orderWrites (hwrote : orderWrites user trace ≠ 0) : cart.isEmpty = false := by
  cases h with
  | kept _ unwritten | added _ _ _ unwritten => exact absurd unwritten hwrote
  | undeleted _ filled | placed _ filled => exact filled

/-- Once an order is written the cart is empty, unless deleting it has failed. -/
theorem isEmpty_after (hwrote : orderWrites user trace ≠ 0) (hdeleted : ¬ CartKept user trace) :
    cart'.isEmpty = true := by
  cases h with
  | kept _ unwritten | added _ _ _ unwritten => exact absurd unwritten hwrote
  | undeleted _ _ kept => exact absurd kept hdeleted
  | placed => rfl

/-- An empty cart stays empty until something is added. -/
theorem isEmpty_of_isEmpty (hempty : cart.isEmpty = true) (hadded : added = none) :
    cart'.isEmpty = true := by
  cases h with
  | kept | undeleted => exact hempty
  | added _ _ counted =>
    rw [hadded] at counted
    cases counted
  | placed => rfl

end Turn

/-! ## All along -/

namespace History

theorem balance_le (h : History shop past s) (user : UserId) :
    ∃ cart orders, Books s.documents user cart orders ∧
      ∀ sku, balance sku cart orders ≤ additions user sku past + unitsKept user sku past := by
  induction h with
  | start channel => exact ⟨.empty, [], .start user, fun _ => Nat.le_refl 0⟩
  | @next past s entry before run ih =>
    obtain ⟨cart, orders, hbooks, hbalance⟩ := ih
    have heffect := runs_perform run
    by_cases huser : entry.user = user
    · subst huser
      obtain ⟨cart', orders', hbooks', hturn⟩ := heffect.turn hbooks
      refine ⟨cart', orders', hbooks', fun sku => ?_⟩
      have hbefore := hbalance sku
      have hstep := hturn.balance_le sku
      rw [← heldUnits_eq hbooks'.held] at hstep
      rw [additions, List.countP_cons, ← additions, unitsKept, List.map_cons, List.sum_cons,
        ← unitsKept]
      simp only [true_and, decide_eq_true_eq]
      omega
    · refine ⟨cart, orders, hbooks.congr (heffect.sameFor huser), fun sku => ?_⟩
      have hbefore := hbalance sku
      rw [additions, List.countP_cons, ← additions, unitsKept, List.map_cons, List.sum_cons,
        ← unitsKept]
      omega

/-- What was asked before is a history too. -/
theorem exists_before {later : List Entry} (h : History shop (later ++ past) s) :
    ∃ s₁, History shop past s₁ := by
  induction later generalizing s with
  | nil => exact ⟨s, h⟩
  | cons entry later ih =>
    cases h with
    | next before => exact ih before

theorem user_eq_of_orderWrites (h : History shop past s) {entry : Entry} (hentry : entry ∈ past)
    (hwrote : orderWrites user entry.trace ≠ 0) : entry.user = user := by
  by_contra hne
  exact hwrote (h.orderWrites_of_ne entry hentry hne)

/-- The cart of a buyer stays empty from the order that it was placed with to the next addition. -/
theorem isEmpty_cart {middle earlier : List Entry} {first : Entry}
    (h : History shop (middle ++ first :: earlier) s) (hwrote : orderWrites user first.trace ≠ 0)
    (hdeleted : ¬ CartKept user first.trace) (hadded : ∀ sku, additions user sku middle = 0) :
    ∃ cart orders, Books s.documents user cart orders ∧ cart.isEmpty = true := by
  -- by induction on what was asked since, the latest request first
  induction middle generalizing s with
  | nil =>
    have huser := h.user_eq_of_orderWrites List.mem_cons_self hwrote
    cases h with
    | next before run =>
      subst huser
      obtain ⟨cart, orders, hbooks, -⟩ := before.books first.user
      obtain ⟨cart', orders', hbooks', hturn⟩ := (runs_perform run).turn hbooks
      exact ⟨cart', orders', hbooks', hturn.isEmpty_after hwrote hdeleted⟩
  | cons entry middle ih =>
    cases h with
    | next before run =>
      have hsplit := fun sku => additions_cons_eq_zero_iff.1 (hadded sku)
      obtain ⟨cart, orders, hbooks, hempty⟩ := ih before fun sku => (hsplit sku).1
      by_cases huser : entry.user = user
      · subst huser
        obtain ⟨cart', orders', hbooks', hturn⟩ := (runs_perform run).turn hbooks
        refine ⟨cart', orders', hbooks', hturn.isEmpty_of_isEmpty hempty ?_⟩
        rw [Option.eq_none_iff_forall_ne_some]
        intro sku hsku
        exact (hsplit sku).2 ⟨rfl, hsku⟩
      · exact ⟨cart, orders, hbooks.congr ((runs_perform run).sameFor huser), hempty⟩

/-- Between two orders of a buyer something was added, unless the cart of the first could not be
deleted. -/
theorem cartKept_of_orderWrites {later middle earlier : List Entry} {first second : Entry}
    (h : History shop (later ++ second :: (middle ++ first :: earlier)) s)
    (hfirst : orderWrites user first.trace ≠ 0) (hsecond : orderWrites user second.trace ≠ 0)
    (hadded : ∀ sku, additions user sku middle = 0) : CartKept user first.trace := by
  by_contra hdeleted
  obtain ⟨s₁, h₁⟩ := h.exists_before
  have huser := h₁.user_eq_of_orderWrites List.mem_cons_self hsecond
  cases h₁ with
  | next before run =>
    subst huser
    obtain ⟨cart, orders, hbooks, hempty⟩ := before.isEmpty_cart hfirst hdeleted hadded
    obtain ⟨cart', orders', -, hturn⟩ := (runs_perform run).turn hbooks
    rw [hturn.isEmpty_of_orderWrites hsecond] at hempty
    cases hempty

end History

/-- A placement that fails leaves everything as it was, or else an order is stored and its cart could not
be deleted. -/
theorem runs_placeOrder_error {mayFail : Storage.Call → Prop} {moment : Moment} {e : ShopError}
    (h : Runs mayFail (placeOrder shop moment user) s trace (.error e) s') :
    s' = s ∨ CartKept user trace ∧ ∃ order : Order, storedCart s.documents user = .ok order.cart ∧
      storedCart s'.documents user = .ok order.cart ∧
      stored? Order s'.documents (orderKey user order.id) = .ok (some order.reread) := by
  cases runs_placeOrder h with
  | corrupt | unfetched | unlisted | exhausted | unwritten => exact .inl rfl
  | @undeleted order _ e' next may failed wrote =>
    refine .inr ⟨⟨e', by rw [failed]; exact List.mem_singleton_self _⟩, order, next.held, ?_,
      stored?_put_order _ user order⟩
    exact (storedCart_congr (Memory.get?_put_of_ne (cartKey_ne_orderKey _ _ _))).trans next.held

/-! ## A cart that is placed twice -/

/-- How calls are answered where no document ever vanishes, as deleting one fails. -/
def Steadfast : Outside interface Scene := fun request s a s' =>
  Serves (fun c => ∃ key, c = .delete key) request s a s' ∧
    ∀ key, (s.documents.get? key).isSome = true → (s'.documents.get? key).isSome = true

theorem exists_steadfast (request : Call) (s : Scene) : ∃ a s', Steadfast request s a s' := by
  cases request with
  | storage request =>
    cases request with
    | delete key => exact ⟨_, s, .storage (.failed ⟨key, rfl⟩ _ (.file key (.other "disk full"))) _,
        fun _ h => h⟩
    | get key =>
      refine ⟨_, _, .storage (.obeyed (.get key) s.documents) s.channel, fun other hother => ?_⟩
      have hsame : (Memory.answer (.get key) s.documents).2 = s.documents := by
        simp only [Memory.answer]
        split <;> rfl
      rwa [hsame]
    | list start =>
      refine ⟨_, _, .storage (.obeyed (.list start) s.documents) s.channel, fun other hother => ?_⟩
      rwa [Memory.answer_list_same]
    | put key data =>
      refine ⟨_, _, .storage (.obeyed (.put key data) s.documents) s.channel, fun other hother => ?_⟩
      by_cases hkey : Storage.isKey key = true
      · rw [Memory.answer_put hkey]
        by_cases hsame : other = key
        · rw [hsame, Memory.get?_put_self]
          rfl
        · rwa [Memory.get?_put_of_ne hsame]
      · simpa [Memory.answer, Storage.readKey, hkey] using hother
  | pay request => exact ⟨.ok "", s, .pay request _ s, fun _ h => h⟩
  | announce event => exact ⟨(), _, .announce event s, fun _ h => h⟩

/-- Placing a cart may always end with the order stored and the cart still there. -/
theorem exists_undeleted (moment : Moment) {cart : Cart}
    (held : storedCart s.documents user = .ok cart) (filled : cart.isEmpty = false)
    (left : lastOrder s.documents user + 1 < UInt64.size) :
    ∃ trace order message e, NextOrder shop moment user s.documents order message ∧
      failures trace = [(.delete (cartKey user), e)] ∧
      written trace = [(orderKey user order.id, Document.encode order)] ∧
      Runs anyFailure (placeOrder shop moment user) s trace (.error (.storage e))
        { s with documents := s.documents.put (orderKey user order.id) (Document.encode order) } := by
  obtain ⟨trace, r, s', hrun⟩ :=
    Program.exists_runs exists_steadfast (placeOrder shop moment user).run s
  have hcart : (s.documents.get? (cartKey user)).isSome = true := by
    by_contra hnone
    rw [Option.not_isSome_iff_eq_none] at hnone
    rw [storedCart, stored?, hnone] at held
    cases held
    cases filled
  have hstays : (s'.documents.get? (cartKey user)).isSome = true :=
    hrun.passes.invariant (fun hserved => hserved.2 (cartKey user)) hcart
  have hserved : Runs (fun c => ∃ key, c = .delete key) (placeOrder shop moment user) s trace r s' :=
    hrun.mono fun _ _ _ _ h => h.1
  have hany : Runs anyFailure (placeOrder shop moment user) s trace r s' :=
    hserved.mono fun _ _ => trivial
  -- all other ways to end are ruled out: nothing but a deletion fails, and the cart is there in the end
  cases runs_placeOrder hserved with
  | corrupt unreadable =>
    rw [held] at unreadable
    cases unreadable
  | emptyCart held' isEmpty =>
    cases Except.ok.inj (held.symm.trans held')
    rw [filled] at isEmpty
    cases isEmpty
  | exhausted full => exact absurd left (Nat.not_lt.2 full)
  | unfetched may | unlisted may =>
    obtain ⟨key, hkey⟩ := may
    cases hkey
  | unwritten _ may =>
    obtain ⟨key, hkey⟩ := may
    cases hkey
  | undeleted next _ failed wrote => exact ⟨trace, _, _, _, next, failed, wrote, hany⟩
  | placed =>
    rw [Memory.get?_erase_self] at hstays
    cases hstays

/-- In the sample shop the product is added, placing the cart fails when the cart is to be deleted, and
the cart is placed again. -/
theorem Sample.exists_retried :
    ∃ (added first second : Entry) (s : Scene) (cause : StorageError) (o₁ o₂ : Order),
      History Sample.shop [second, first, added] s ∧
      [second, first, added].map (·.request) = [.place, .place, .add "A"] ∧
      [second, first, added].map (·.user) = [buyer, buyer, buyer] ∧
      first.result = .error (.storage cause) ∧
      storedCart first.after.documents buyer = .ok cart.reread ∧
      [second, first, added].map (fun entry => cartKept? buyer entry.trace) = [false, true, false] ∧
      [second, first, added].map (fun entry => orderWrites buyer entry.trace) = [1, 1, 0] ∧
      additions buyer "A" [second, first, added] = 1 ∧
      o₁.cart = cart.reread ∧ o₂.cart = cart.reread ∧
      Books s.documents buyer .empty [o₁.reread, o₂.reread] := by
  obtain ⟨trace, r, run, hfail, hwritten, hadded⟩ := exists_added
  have hbooks : Books filled.documents buyer cart.reread [] := (Books.start buyer).put_cart cart
  obtain ⟨trace₁, o₁, message₁, cause, next₁, hfail₁, hwritten₁, hrun₁⟩ :=
    exists_undeleted moment storedCart_filled (Cart.isEmpty_reread cart)
      (by rw [hbooks.lastOrder_eq]; decide)
  have hbooks₁ := hbooks.put_order next₁
  obtain ⟨trace₂, r₂, s₂, hrun₂⟩ := exists_runs (fun _ => False) (placeOrder Sample.shop moment buyer)
    { filled with documents := filled.documents.put (orderKey buyer o₁.id) (Document.encode o₁) }
  obtain ⟨o₂, message₂, next₂, hfail₂, hwritten₂, rfl, rfl⟩ :=
    (runs_placeOrder hrun₂).succeeds hbooks₁.held (Cart.isEmpty_reread cart)
      (by rw [hbooks₁.lastOrder_eq]; exact Nat.lt_of_lt_of_le (Nat.lt_succ_self 2) (by decide))
  have hbooks₂ := (hbooks₁.put_order next₂).erase_cart
  have hkept : cartKept? buyer trace₁ = true := by
    rw [cartKept?_iff]
    exact ⟨cause, by rw [hfail₁]; exact List.mem_singleton_self _⟩
  have h₀ : History Sample.shop [⟨buyer, moment, .add "A", trace, r, filled⟩] filled :=
    .next (.start _) (run.mono fun _ hno => hno.elim)
  have h₁ : History Sample.shop [⟨buyer, moment, .place, trace₁, _, _⟩, _] _ :=
    .next h₀ (Program.runs_except_map_iff.2 ⟨_, rfl, hrun₁⟩)
  have h₂ : History Sample.shop [⟨buyer, moment, .place, trace₂, _, _⟩, _, _] _ :=
    .next h₁ (Program.runs_except_map_iff.2 ⟨_, rfl, hrun₂.mono fun _ hno => hno.elim⟩)
  refine ⟨_, _, _, _, cause, o₁, o₂, h₂, rfl, rfl, rfl, hbooks₁.held, ?_, ?_, ?_,
    Except.ok.inj (next₁.held.symm.trans hbooks.held),
    Except.ok.inj (next₂.held.symm.trans hbooks₁.held), hbooks₂⟩
  · show [cartKept? buyer trace₂, cartKept? buyer trace₁, cartKept? buyer trace] = _
    rw [hkept, cartKept?_of_nil hfail, cartKept?_of_nil hfail₂]
  · show [orderWrites buyer trace₂, orderWrites buyer trace₁, orderWrites buyer trace] = _
    rw [orderWrites_of_order hwritten₂, orderWrites_of_order hwritten₁, orderWrites_of_cart hwritten]
    rfl
  · rw [additions, List.countP_cons, List.countP_cons, List.countP_singleton, hadded,
      Request.addedSku?_of_addition?_eq_none rfl, Request.addedSku?_of_addition?_eq_none rfl]
    rfl

/-! ## More orders than additions -/

/-- A buyer may have more units of a SKU in the stored orders and the stored cart than were added only
by what the carts still held that could not be deleted after they were placed. Two orders with no
addition between them come about only if the cart of the first could not be deleted. Every other
placement that fails leaves the shop as it was. -/
theorem ordered_once_unless_kept (h : History shop past s) (user : UserId) :
    (∃ (cart : Cart) (orders : List Order), storedCart s.documents user = .ok cart ∧
      (s.documents.listed (ordersListing user "")).Perm
        (orders.map fun order => orderKey user order.id) ∧
      (∀ order ∈ orders, stored? Order s.documents (orderKey user order.id) = .ok (some order)) ∧
      ∀ sku, cart.units sku + (orders.map (·.cart.units sku)).sum ≤
        additions user sku past + unitsKept user sku past) ∧
    (∀ later second middle first earlier, past = later ++ second :: (middle ++ first :: earlier) →
      orderWrites user first.trace ≠ 0 → orderWrites user second.trace ≠ 0 →
      (∀ sku, additions user sku middle = 0) → CartKept user first.trace) ∧
    ∀ moment trace e s', Runs anyFailure (placeOrder shop moment user) s trace (.error e) s' →
      s' = s ∨ CartKept user trace ∧ ∃ order : Order, storedCart s.documents user = .ok order.cart ∧
        storedCart s'.documents user = .ok order.cart ∧
        stored? Order s'.documents (orderKey user order.id) = .ok (some order.reread) := by
  refine ⟨?_, ?_, fun moment trace e s' => runs_placeOrder_error⟩
  · obtain ⟨cart, orders, hbooks, hbalance⟩ := h.balance_le user
    exact ⟨cart, orders, hbooks.held, hbooks.listed_perm, hbooks.stored, hbalance⟩
  · rintro later second middle first earlier rfl hfirst hsecond hadded
    exact h.cartKept_of_orderWrites hfirst hsecond hadded

/-- One unit is added and the cart is placed. Its deletion fails and the cart is placed again, which
gives a second order of the same cart. -/
theorem ordered_twice :
    ∃ (added first second : Entry) (s : Scene) (cause : StorageError) (o₁ o₂ : Order),
      History Sample.shop [second, first, added] s ∧
      [second, first, added].map (·.request) = [.place, .place, .add "A"] ∧
      [second, first, added].map (·.user) = [Sample.buyer, Sample.buyer, Sample.buyer] ∧
      first.result = .error (.storage cause) ∧
      additions Sample.buyer "A" [second, first, added] = 1 ∧
      (s.documents.listed (ordersListing Sample.buyer "")).Perm
        [orderKey Sample.buyer o₁.id, orderKey Sample.buyer o₂.id] ∧
      stored? Order s.documents (orderKey Sample.buyer o₁.id) = .ok (some o₁) ∧
      stored? Order s.documents (orderKey Sample.buyer o₂.id) = .ok (some o₂) ∧
      o₁.id.toNat = 1 ∧ o₂.id.toNat = 2 ∧ o₁.cart = o₂.cart ∧
      o₁.cart.units "A" + o₂.cart.units "A" = 2 := by
  obtain ⟨added, first, second, s, cause, o₁, o₂, h, hrequests, husers, hresult, -, -, -, hadditions,
    hcart₁, hcart₂, hbooks⟩ := Sample.exists_retried
  have hids : [o₁.reread.id.toNat, o₂.reread.id.toNat] = [1, 2] := hbooks.numbered
  obtain ⟨hid₁, hid⟩ := List.cons.inj hids
  refine ⟨added, first, second, s, cause, o₁.reread, o₂.reread, h, hrequests, husers, hresult,
    hadditions, hbooks.listed_perm, hbooks.stored _ List.mem_cons_self,
    hbooks.stored _ (List.mem_cons_of_mem _ List.mem_cons_self), hid₁, (List.cons.inj hid).1, ?_, ?_⟩
  · rw [Order.cart_reread, Order.cart_reread, hcart₁, hcart₂]
  · rw [Order.cart_reread, Order.cart_reread, hcart₁, hcart₂]
    simp only [Cart.units_reread]
    decide

/-- There the two units that were ordered are the one that was added and the one that was kept. -/
theorem ordered_once_unless_kept_sample :
    ∃ (added first second : Entry) (s : Scene), History Sample.shop [second, first, added] s ∧
      orderWrites Sample.buyer first.trace ≠ 0 ∧ orderWrites Sample.buyer second.trace ≠ 0 ∧
      CartKept Sample.buyer first.trace ∧
      additions Sample.buyer "A" [second, first, added] = 1 ∧
      unitsKept Sample.buyer "A" [second, first, added] = 1 ∧
      ∃ (cart : Cart) (orders : List Order), storedCart s.documents Sample.buyer = .ok cart ∧
        (s.documents.listed (ordersListing Sample.buyer "")).Perm
          (orders.map fun order => orderKey Sample.buyer order.id) ∧
        cart.units "A" + (orders.map (·.cart.units "A")).sum ≤ 1 + 1 := by
  obtain ⟨added, first, second, s, -, -, -, h, -, -, -, hheld, hkept, hwrites, hadditions, -⟩ :=
    Sample.exists_retried
  simp only [List.map_cons, List.map_nil, List.cons.injEq, and_true] at hkept hwrites
  have hunits : unitsKept Sample.buyer "A" [second, first, added] = 1 := by
    simp only [unitsKept, List.map_cons, List.map_nil, hkept.1, hkept.2.1, hkept.2.2,
      heldUnits_eq hheld, Cart.units_reread]
    rfl
  have hfirst : orderWrites Sample.buyer first.trace ≠ 0 := by
    rw [hwrites.2.1]
    exact Nat.one_ne_zero
  have hsecond : orderWrites Sample.buyer second.trace ≠ 0 := by
    rw [hwrites.1]
    exact Nat.one_ne_zero
  obtain ⟨⟨cart, orders, hcart, hlisted, -, hbound⟩, hdoubled, -⟩ :=
    ordered_once_unless_kept h Sample.buyer
  have hsum := hbound "A"
  rw [hadditions, hunits] at hsum
  exact ⟨added, first, second, s, h, hfirst, hsecond,
    hdoubled [] second [] first [added] rfl hfirst hsecond fun _ => rfl, hadditions, hunits, cart,
    orders, hcart, hlisted, hsum⟩

end Storefront.Shop
