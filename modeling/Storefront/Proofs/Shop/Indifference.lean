import Storefront.Proofs.Shop.InStep

/-!
# Payments make no difference to orders

Two shops that sell the same at the same charge for shipping may differ in how their orders are paid, and in
all that their payment providers say. Their operations go in step all the same: a provider is asked between two
calls on the storage, nothing but the new order has its answer, and whoever reads the order again looks only at
its number.
-/

namespace Storefront.Shop

open Storage (Memory Conduct Tracked)

/-- What came of placing an order, but for the payment. -/
inductive PlacementAlike : Placement → Placement → Prop where
  | emptyCart : PlacementAlike .emptyCart .emptyCart
  | placed {a b : Order} (alike : a.Alike b) (message message' : String) :
    PlacementAlike (.placed a message) (.placed b message')

/-- What a buyer gets from an operation, but for payments. -/
inductive ResponseAlike : Response → Response → Prop where
  | added (product : Product) (cart : Cart) : ResponseAlike (.added product cart) (.added product cart)
  | placement {a b : Placement} (alike : PlacementAlike a b) : ResponseAlike (.placement a) (.placement b)
  | cart (cart : Cart) : ResponseAlike (.cart cart) (.cart cart)
  | orders {as bs : List Order} (alike : List.Forall₂ Order.Alike as bs) :
    ResponseAlike (.orders as) (.orders bs)

/-- Shops that sell the same at the same charge for shipping. -/
structure Sells (shop shop' : Shop) : Prop where
  catalog : shop.catalog = shop'.catalog
  charge : shop.config.shipCharge = shop'.config.shipCharge

/-- Visits at which the same buyer asks for the same operation at the same time. -/
structure Visit.Alike (visit visit' : Visit) : Prop where
  user : visit.user = visit'.user
  now : visit.moment.now = visit'.moment.now
  request : visit.request = visit'.request
  /-- It is not for a page. -/
  operation : ∀ path, visit.request ≠ .fetch path

/-- What two visits have come to: the same up to payments is returned and stored, after the same calls. -/
def OutcomeAlike (o o' : Except ShopError Response × Tracked × Channel OrderPlaced) : Prop :=
  Agree ResponseAlike o.1 o'.1 ∧ TrackedAlike o.2.1 o'.2.1

variable {α β : Type} {shop shop' : Shop} {moment moment' : Moment} {user : UserId} {a b : Order}

/-! ## Documents -/

theorem agree_self {ε : Type} {rel : α → α → Prop} (hrel : ∀ a, rel a a) (r : Except ε α) : Agree rel r r := by
  cases r with
  | error e => exact .error e
  | ok a => exact .ok (hrel a)

theorem agree_decode_order {key : String} {data data' : ByteArray} (h : DataAlike key data data') :
    Agree Order.Alike (Document.decode data : Except Unreadable Order) (Document.decode data') := by
  cases h with
  | same => exact agree_self Order.Alike.refl _
  | @orders a b _ alike =>
    rw [Order.decode_encode, Order.decode_encode]
    exact .ok alike.reread

/-- Settling leaves all else alone. -/
theorem alike_apply (h : a.Alike b) (resolution resolution' : Resolution) :
    (resolution.apply a).Alike (resolution'.apply b) := by
  obtain ⟨payType, invoice, ha⟩ := apply_eq resolution a
  obtain ⟨payType', invoice', hb⟩ := apply_eq resolution' b
  rw [ha, hb]
  exact ⟨h.user, h.cart, h.id, h.status, h.placedAt, h.shipCharge⟩

/-! ## Lists of orders -/

theorem forall₂_filterMap {found found' : List (Option Order)}
    (h : List.Forall₂ (Option.Rel Order.Alike) found found') :
    List.Forall₂ Order.Alike (found.filterMap id) (found'.filterMap id) := by
  induction h with
  | nil => exact .nil
  | cons head _ ih =>
    cases head with
    | none => exact ih
    | some alike => exact .cons alike ih

/-- Sorting by number moves orders that are alike to the same place. -/
theorem forall₂_mergeSort {as bs : List Order} (h : List.Forall₂ Order.Alike as bs) :
    List.Forall₂ Order.Alike (as.mergeSort fun a b => a.id.toNat ≤ b.id.toNat)
      (bs.mergeSort fun a b => a.id.toNat ≤ b.id.toNat) := by
  obtain ⟨hlength, hzip⟩ := List.forall₂_iff_zip.1 h
  -- both are sorted at once, as the pairs are by the numbers of their first parts
  have has : ((as.zip bs).mergeSort fun p q => p.1.id.toNat ≤ q.1.id.toNat).map Prod.fst =
      as.mergeSort fun a b => a.id.toNat ≤ b.id.toNat := by
    rw [List.map_mergeSort (s := fun a b : Order => decide (a.id.toNat ≤ b.id.toNat)) fun p _ q _ => rfl,
      List.map_fst_zip (Nat.le_of_eq hlength)]
  have hbs : ((as.zip bs).mergeSort fun p q => p.1.id.toNat ≤ q.1.id.toNat).map Prod.snd =
      bs.mergeSort fun a b => a.id.toNat ≤ b.id.toNat := by
    rw [List.map_mergeSort (s := fun a b : Order => decide (a.id.toNat ≤ b.id.toNat)) fun p hp q hq => by
      rw [(hzip hp).id, (hzip hq).id], List.map_snd_zip (Nat.le_of_eq hlength.symm)]
  rw [← has, ← hbs, List.forall₂_map_left_iff, List.forall₂_map_right_iff, List.forall₂_same]
  exact fun p hp => hzip ((List.mergeSort_perm _ _).mem_iff.1 hp)

namespace Together

/-! ## Carts -/

theorem cart (user : UserId) : Together Eq (cart user) (cart user) := by
  have hread : Together (Option.Rel Eq) (Shop.readDocument Cart (cartKey user))
      (Shop.readDocument Cart (cartKey user)) := by
    refine readDocument fun data data' h => ?_
    cases h with
    | same => exact agree_self (fun _ => rfl) _
    | orders isOrders =>
      -- under the key of a cart no order is written
      exact absurd rfl (cartKey_ne_of_isOrders isOrders)
  refine hread.bind fun found found' h => ?_
  cases h with
  | none => exact pure rfl
  | some same =>
    subst same
    exact pure rfl

theorem addToCart (h : shop.catalog = shop'.catalog) (now : Timestamp) (user : UserId) (sku : String) :
    Together Eq (shop.addToCart now user sku) (shop'.addToCart now user sku) := by
  unfold Shop.addToCart
  rw [h]
  cases shop'.catalog.get? sku with
  | none => exact throw _
  | some product =>
    refine (cart user).bind fun old old' hold => ?_
    subst hold
    exact (put (.same _)).bind fun _ _ _ => pure rfl

/-! ## Settling -/

/-- The calls on payment providers, of whose answers nothing is known. -/
inductive ToProvider : (request : Call) → (request.Answer → Prop) → Prop where
  | pay (request : PaymentRequest) : ToProvider (.pay request) fun _ => True

/-- Programs that call nobody else go in step. -/
theorem of_asks {p : Program interface α} {q : Program interface β} {kind : α → Prop} {kind' : β → Prop}
    {rel : α → β → Prop} (hp : Program.Asks (I := interface) ToProvider kind p)
    (hq : Program.Asks (I := interface) ToProvider kind' q) (hrel : ∀ a b, kind a → kind' b → rel a b) :
    InStep rel p q := by
  induction hp with
  | done of_kind =>
    induction hq with
    | done of_kind' => exact .done (hrel _ _ of_kind of_kind')
    | call allows _ ih =>
      cases allows with
      | pay request => exact .payRight fun a => ih a trivial
  | call allows _ ih =>
    cases allows with
    | pay request => exact .payLeft fun a => ih a trivial

theorem asks_resolve (moment : Moment) (payType : PayType) (account : String) (order : Order) :
    Program.Asks (I := interface) ToProvider (fun r => ∃ resolution, r = .ok resolution)
      (resolve moment payType account order).run := by
  have hpure : ∀ resolution : Resolution, Program.Asks (I := interface) ToProvider
      (fun r => ∃ resolution, r = .ok resolution) (Pure.pure resolution : Operation Resolution).run :=
    fun resolution => .done ⟨resolution, rfl⟩
  unfold resolve
  split
  · exact hpure _
  · split
    · unfold resolveOnChain
      split
      · exact .call (.pay _) fun answer _ => by cases answer <;> exact hpure _
      · exact hpure _
    · unfold resolveLightning
      split
      · split
        · exact hpure _
        · exact .call (.pay _) fun answer _ => by cases answer <;> exact hpure _
      · exact hpure _
    · exact hpure _

/-- However two orders are settled, nothing is called but payment providers, and nothing fails. -/
theorem resolve (moment moment' : Moment) (payType payType' : PayType) (account account' : String)
    (order order' : Order) : Together (fun _ _ => True) (resolve moment payType account order)
      (Shop.resolve moment' payType' account' order') := by
  refine of_asks (asks_resolve _ _ _ _) (asks_resolve _ _ _ _) ?_
  rintro r r' ⟨resolution, rfl⟩ ⟨resolution', rfl⟩
  exact .ok trivial

/-! ## Orders -/

theorem nextOrderId (user : UserId) : Together Eq (nextOrderId user) (nextOrderId user) := by
  refine (list _).bind fun keys keys' hkeys => ?_
  subst hkeys
  dsimp only
  split
  · exact pure rfl
  · exact throw _

theorem commit (alike : a.Alike b) (message message' : String) :
    Together (fun _ _ => True) (commit a message) (Shop.commit b message') := by
  unfold Shop.commit writeDocument
  rw [alike.user, alike.id]
  refine (put (.orders (isOrders_orderKey _ _) alike)).bind fun _ _ _ => ?_
  refine (delete _).bind fun _ _ _ => ?_
  exact .announce (.done (.ok trivial))

theorem placeOrder (h : Sells shop shop') (hnow : moment.now = moment'.now) (user : UserId) :
    Together PlacementAlike (shop.placeOrder moment user) (shop'.placeOrder moment' user) := by
  refine (cart user).bind fun held held' hheld => ?_
  subst hheld
  split
  · exact pure .emptyCart
  · refine (nextOrderId user).bind fun id id' hid => ?_
    subst hid
    have hdraft : (shop.draft moment user held id).Alike (shop'.draft moment' user held id) :=
      ⟨rfl, rfl, rfl, rfl, hnow, h.charge⟩
    -- from here on the two orders differ, and only in how they are to be paid
    refine (resolve _ _ _ _ _ _ _ _).bind fun resolution resolution' _ => ?_
    have halike := alike_apply hdraft resolution resolution'
    exact (commit halike _ _).bind fun _ _ _ => pure (.placed halike _ _)

/-- What is read of an order is alike, whichever of the two was written. -/
theorem readableOrder (key : String) :
    Together (Option.Rel Order.Alike) (readableOrder key) (readableOrder key) := by
  have hread : Together (Option.Rel Order.Alike) (Shop.readDocument Order key) (Shop.readDocument Order key) :=
    readDocument fun _ _ => agree_decode_order
  refine InStep.bind hread fun r r' hr => ?_
  cases hr with
  | error e => exact .done (.ok .none)
  | ok related => exact .done (.ok related)

theorem orders (user : UserId) : Together (List.Forall₂ Order.Alike) (orders user) (orders user) := by
  refine (list _).bind fun keys keys' hkeys => ?_
  subst hkeys
  refine (mapM readableOrder keys).bind fun found found' hfound => pure ?_
  exact forall₂_mergeSort (forall₂_filterMap hfound)

/-! ## Whatever is asked for -/

theorem perform (h : Sells shop shop') (hnow : moment.now = moment'.now) (user : UserId) {request : Request}
    (operation : ∀ path, request ≠ .fetch path) :
    Together ResponseAlike (request.perform shop moment user) (request.perform shop' moment' user) := by
  cases request with
  | add sku =>
    unfold Request.perform
    rw [← hnow]
    refine (addToCart h.catalog moment.now user sku).map ?_
    rintro added _ rfl
    exact .added _ _
  | place => exact (placeOrder h hnow user).map fun _ _ halike => .placement halike
  | cart =>
    refine (cart user).map ?_
    rintro held _ rfl
    exact .cart held
  | orders => exact (orders user).map fun _ _ halike => .orders halike
  | fetch path => exact absurd rfl (operation path)

end Together

/-! ## One visit after the other -/

variable {conduct : Conduct} {t t' : Tracked} {channel channel' : Channel OrderPlaced} {visit visit' : Visit}
  {visits visits' : List Visit}
  {outcomes outcomes' : List (Except ShopError Response × Tracked × Channel OrderPlaced)}

theorem Visit.Alike.outcome (h : visit.Alike visit') (sells : Sells shop shop') {s s' s₁ s₁'}
    {trace trace' : List (Exchange interface)} {r r' : Except ShopError Response}
    (run : visit.Runs conduct.storage shop s trace r s₁)
    (run' : visit'.Runs conduct.storage shop' s' trace' r' s₁')
    (alike : TrackedAlike s.1 s'.1) : OutcomeAlike (r, s₁) (r', s₁') := by
  have htogether := Together.perform sells h.now visit.user h.operation
  rw [Visit.Runs, ← h.user, ← h.request] at run'
  exact htogether.runs run run' alike

/-- The sessions of two shops that sell the same, on storages of one conduct. -/
theorem Session.alike (sells : Sells shop shop') (h : List.Forall₂ Visit.Alike visits visits') {s s'}
    (session : Session conduct.storage shop visits s outcomes)
    (session' : Session conduct.storage shop' visits' s' outcomes') (alike : TrackedAlike s.1 s'.1) :
    List.Forall₂ OutcomeAlike outcomes outcomes' := by
  induction h generalizing s s' outcomes outcomes' with
  | nil =>
    cases session
    cases session'
    exact .nil
  | cons hvisit _ ih =>
    cases session with
    | visit run rest =>
      cases session' with
      | visit run' rest' =>
        have houtcome := hvisit.outcome sells run run' alike
        exact .cons houtcome (ih rest rest' houtcome.2)

/-! ## Errors -/

/-- On a storage of some conduct a run is a run in a scene. -/
theorem runs_of_conduct {pay : PaymentRequest → Except ProviderError String} {operation : Operation α}
    {s s₁ : Tracked × Channel OrderPlaced} {trace : List (Exchange interface)} {r : Except ShopError α}
    (run : Program.Runs (ServedBy conduct.storage pay) operation.run s trace r s₁) :
    Runs anyFailure operation ⟨s.1.documents, s.2⟩ trace r ⟨s₁.1.documents, s₁.2⟩ := by
  refine run.image (fun s => (⟨s.1.documents, s.2⟩ : Scene)) fun request s a s' hserved => ?_
  cases hserved with
  | storage served channel => exact .storage (Conduct.contract_of_storage served) channel
  | pay request s => exact .pay request _ _
  | announce event t channel => exact .announce event ⟨t.documents, channel⟩

/-- An error that has nothing to do with payments: the storage has failed, or there is no number left. -/
def Unpaid (e : ShopError) : Prop := e = .overflow .add ∨ ∃ cause, e = .storage cause

theorem unpaid_of_place {r : Except ShopError Response} {s s₁ : Tracked × Channel OrderPlaced}
    {trace : List (Exchange interface)} {e : ShopError} (hplace : visit.request = .place)
    (run : visit.Runs conduct.storage shop s trace r s₁) (he : r = .error e) : Unpaid e := by
  rw [Visit.Runs, hplace] at run
  obtain ⟨r₀, hr, hplaced⟩ := Program.runs_except_map_iff.1 run
  rw [he] at hr
  generalize hscene : (⟨s₁.1.documents, s₁.2⟩ : Scene) = c at *
  cases runs_placeOrder (hscene ▸ runs_of_conduct hplaced) with
  | corrupt | unfetched | unlisted | unwritten | undeleted =>
    cases hr
    exact .inr ⟨_, rfl⟩
  | exhausted =>
    cases hr
    exact .inl rfl
  | emptyCart | placed => cases hr

theorem Session.unpaid {s : Tracked × Channel OrderPlaced}
    (session : Session conduct.storage shop visits s outcomes) :
    List.Forall₂ (fun visit o => visit.request = .place → ∀ e, o.1 = .error e → Unpaid e) visits outcomes := by
  induction session with
  | closed => exact .nil
  | visit run _ ih => exact .cons (fun hplace e he => unpaid_of_place hplace run he) ih

/-- Two shops that sell the same at the same charge for shipping are asked for the same operations at the same
times, on storages that hold the same at first and fail alike. Their orders may be paid in different ways, and
rates and providers may be what they will. Still each operation has the same outcome in both but for payments,
which is also what is then stored, after the same calls on the same keys. Orders that are alike have the same
totals, and documents that are alike are read as orders that are alike. And an error of placing an order has
nothing to do with payments. -/
theorem payments_indifferent (sells : Sells shop shop') (h : List.Forall₂ Visit.Alike visits visits')
    (m : Memory) (session : Session conduct.storage shop visits (⟨m, []⟩, channel) outcomes)
    (session' : Session conduct.storage shop' visits' (⟨m, []⟩, channel') outcomes') :
    List.Forall₂ OutcomeAlike outcomes outcomes' ∧
    (∀ a b : Order, a.Alike b → a.itemTotal = b.itemTotal ∧ a.grandTotal = b.grandTotal) ∧
    (∀ key data data', DataAlike key data data' →
      Agree Order.Alike (Document.decode data : Except Unreadable Order) (Document.decode data')) ∧
    List.Forall₂ (fun visit o => visit.request = .place → ∀ e, o.1 = .error e → Unpaid e) visits outcomes :=
  ⟨session.alike sells h session' ⟨.refl m, rfl⟩, fun _ _ halike => ⟨halike.itemTotal, halike.grandTotal⟩,
    fun _ _ _ => agree_decode_order, session.unpaid⟩

namespace Sample

/-- The sample shop with another way to pay and another account. -/
def paidShop (payType : PayType) (account : String) : Shop :=
  { Sample.shop with config := { ShopConfig.default with payType := payType, account := account } }

/-- A storage of which the fourth call fails, and which lists keys backwards. -/
def failing : Conduct where
  fails calls := if calls.length = 4 then some (.file "disk" (.other "full")) else none
  arrange _ keys := keys.reverse
  perm _ keys := List.reverse_perm keys

/-- A buyer adds the product, tries twice to place the cart, and looks at the orders. -/
def shopping (quote : Quote) (pay : PaymentRequest → Except ProviderError String) : List Visit :=
  [.add "A", .place, .place, .orders].map fun request =>
    ⟨⟨buyer, ⟨.epoch, quote, true, true⟩, request⟩, pay⟩

end Sample

/-- At a rate that is no number nobody is paid, and otherwise there is an address; the orders are alike. -/
theorem payments_indifferent_sample :
    ∃ outcomes outcomes',
      Session Sample.failing.storage (Sample.paidShop .lightningNetwork "savings")
        (Sample.shopping (.rate .nan) fun _ => .error (.unavailable "down"))
        (⟨.empty, []⟩, Sample.scene.channel) outcomes ∧
      Session Sample.failing.storage (Sample.paidShop .onChain "default")
        (Sample.shopping (.rate (Binary64.ofInt 20)) fun _ => .ok "address")
        (⟨.empty, []⟩, Sample.scene.channel) outcomes' ∧
      List.Forall₂ OutcomeAlike outcomes outcomes' := by
  obtain ⟨outcomes, session⟩ := exists_session Sample.failing.storage_total
    (Sample.paidShop .lightningNetwork "savings")
    (Sample.shopping (.rate .nan) fun _ => .error (.unavailable "down")) (⟨.empty, []⟩, Sample.scene.channel)
  obtain ⟨outcomes', session'⟩ := exists_session Sample.failing.storage_total
    (Sample.paidShop .onChain "default")
    (Sample.shopping (.rate (Binary64.ofInt 20)) fun _ => .ok "address") (⟨.empty, []⟩, Sample.scene.channel)
  have hvisits : List.Forall₂ Visit.Alike
      (Sample.shopping (.rate .nan) fun _ => .error (.unavailable "down"))
      (Sample.shopping (.rate (Binary64.ofInt 20)) fun _ => .ok "address") := by
    refine .cons ?_ (.cons ?_ (.cons ?_ (.cons ?_ .nil))) <;> exact ⟨rfl, rfl, rfl, fun _ h => by cases h⟩
  have hsells : Sells (Sample.paidShop .lightningNetwork "savings") (Sample.paidShop .onChain "default") :=
    ⟨rfl, rfl⟩
  obtain ⟨halike, -⟩ := payments_indifferent hsells hvisits .empty session session'
  exact ⟨outcomes, outcomes', session, session', halike⟩

end Storefront.Shop
