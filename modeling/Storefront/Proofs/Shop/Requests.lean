import Storefront.Proofs.Shop.Asking
import Storefront.Proofs.Shop.Orders

/-!
# What requests do

A buyer asks a shop to add a product, to place the cart, for the cart, for the orders, or for a page, and
a page may do any of these. Whatever is asked for, the documents change in one of three ways or not at
all, and the outcome tells in which.
-/

namespace Storefront.Shop

open Storage (Memory)

/-- What a buyer may ask a shop for. -/
inductive Request where
  | add (sku : String)
  | place
  | cart
  | orders
  | fetch (path : List String)
  deriving DecidableEq

/-- What a buyer gets. -/
inductive Response where
  | added (product : Product) (cart : Cart)
  | placement (placement : Placement)
  | cart (cart : Cart)
  | orders (orders : List Order)
  | reply (reply : Reply)
  deriving DecidableEq

/-- Does what a buyer asks for. -/
def Request.perform (shop : Shop) (moment : Moment) (user : UserId) : Request → Operation Response
  | .add sku => (fun added => .added added.1 added.2) <$> addToCart shop moment.now user sku
  | .place => .placement <$> placeOrder shop moment user
  | .cart => .cart <$> Shop.cart user
  | .orders => .orders <$> Shop.orders user
  | .fetch path => .reply <$> Shop.fetch shop moment user path

/-- The SKU of which a request adds another unit, by itself or through a page. -/
def Request.addition? : Request → Option String
  | .add sku => some sku
  | .fetch path =>
    match Resource.ofPath path with
    | .addToCart sku => some sku
    | _ => none
  | .place | .cart | .orders => none

/-- The SKU of which a request has added a unit, as its outcome tells. A page that fails does not undo
that. -/
def Request.addedSku? (request : Request) : Except ShopError Response → Option String
  | .ok _ | .error (.page _ _) => request.addition?
  | .error _ => none

theorem Request.addedSku?_of_addition?_eq_none {request : Request} (h : request.addition? = none)
    (r : Except ShopError Response) : request.addedSku? r = none := by
  unfold addedSku?
  split
  · exact h
  · exact h
  · rfl

variable {α β : Type} {mayFail : Storage.Call → Prop} {s s' : Scene}
  {trace : List (Exchange interface)} {shop : Shop} {moment : Moment} {user : UserId}

/-! ## Operations that change nothing -/

/-- An operation that leaves everything as it is, however its calls are answered. -/
def Quiet (operation : Operation α) : Prop :=
  ∀ ⦃mayFail : Storage.Call → Prop⦄ ⦃s s' : Scene⦄ ⦃trace : List (Exchange interface)⦄
    ⦃r : Except ShopError α⦄, Runs mayFail operation s trace r s' → s' = s ∧ written trace = []

/-- What only looks at the storage leaves it as it is. -/
theorem LookOnly.quiet {operation : Operation α} (h : LookOnly operation) : Quiet operation := by
  intro mayFail s s' trace r run
  unfold LookOnly Asking at h
  change Program.Runs _ operation.run s trace r s' at run
  generalize operation.run = p at h run
  induction h generalizing s trace with
  | done =>
    obtain ⟨rfl, -, rfl⟩ := Program.runs_done_iff.1 run
    exact ⟨rfl, rfl⟩
  | call allows _ ih =>
    obtain ⟨answer, rest, s₁, rfl, served, hrest⟩ := Program.runs_call_iff.1 run
    cases allows with
    | get key =>
      cases served with
      | storage kept channel =>
        obtain rfl := kept.get_same
        obtain ⟨rfl, hwritten⟩ := ih _ trivial hrest
        exact ⟨rfl, hwritten⟩
    | list start =>
      cases served with
      | storage kept channel =>
        obtain rfl := kept.list_same
        obtain ⟨rfl, hwritten⟩ := ih _ trivial hrest
        exact ⟨rfl, hwritten⟩

/-! ## Pages -/

/-- A page is rendered or is told to have failed, without a call. -/
theorem runs_renderPage {template : String} {data : Json} {r : Except ShopError Reply}
    (h : Runs mayFail (renderPage shop template data) s trace r s') :
    trace = [] ∧ s' = s ∧
      ((∃ body, r = .ok (.page body)) ∨ ∃ cause, r = .error (.page template cause)) := by
  unfold renderPage at h
  cases hrender : shop.render template data.sorted with
  | ok body =>
    rw [hrender] at h
    obtain ⟨htrace, hr, hs⟩ := Program.runs_pure_iff.1 h
    exact ⟨htrace, hs, .inl ⟨body, hr⟩⟩
  | error cause =>
    rw [hrender] at h
    obtain ⟨htrace, hr, hs⟩ := Program.runs_throw_iff.1 h
    exact ⟨htrace, hs, .inr ⟨cause, hr⟩⟩

/-- How the outcome of an addition shows in the outcome of a request: an error is passed on, and behind
an addition only a page may fail. -/
def Shows (r₀ : Except ShopError (Product × Cart)) (r : Except ShopError α) : Prop :=
  match r₀ with
  | .error e => r = .error e
  | .ok _ => (∃ a, r = .ok a) ∨ ∃ template cause, r = .error (.page template cause)

theorem Shows.map {r₀ : Except ShopError (Product × Cart)} {r : Except ShopError α}
    (h : Shows r₀ r) (f : α → β) : Shows r₀ (r.map f) := by
  cases r₀ with
  | error e =>
    cases h
    exact rfl
  | ok added =>
    rcases h with ⟨a, rfl⟩ | ⟨template, cause, rfl⟩
    · exact .inl ⟨f a, rfl⟩
    · exact .inr ⟨template, cause, rfl⟩

/-- A page that adds a product runs as an addition. -/
theorem runs_fetch_addToCart {sku : String} {r : Except ShopError Reply}
    (h : Runs mayFail (fetchResource shop moment user (.addToCart sku)) s trace r s') :
    ∃ r₀, Runs mayFail (addToCart shop moment.now user sku) s trace r₀ s' ∧ Shows r₀ r := by
  rcases Program.runs_except_bind_iff.1 h with
    ⟨e, rfl, hadd⟩ | ⟨first, second, added, s₁, rfl, hadd, hrender⟩
  · exact ⟨.error e, hadd, rfl⟩
  · obtain ⟨rfl, rfl, hpage⟩ := runs_renderPage hrender
    rw [List.append_nil]
    refine ⟨.ok added, hadd, ?_⟩
    rcases hpage with ⟨body, rfl⟩ | ⟨cause, rfl⟩
    · exact .inl ⟨_, rfl⟩
    · exact .inr ⟨_, cause, rfl⟩

/-- A page that places the cart places it before it is rendered. -/
theorem runs_fetch_placeOrder {r : Except ShopError Reply}
    (h : Runs mayFail (fetchResource shop moment user .placeOrder) s trace r s') :
    ∃ r₀, Runs mayFail (placeOrder shop moment user) s trace r₀ s' := by
  rcases Program.runs_except_bind_iff.1 h with
    ⟨e, rfl, hplace⟩ | ⟨first, second, placement, s₁, rfl, hplace, hrest⟩
  · exact ⟨.error e, hplace⟩
  · refine ⟨.ok placement, ?_⟩
    have hdone : second = [] ∧ s' = s₁ := by
      cases placement with
      | emptyCart =>
        obtain ⟨rfl, -, rfl⟩ := Program.runs_pure_iff.1 hrest
        exact ⟨rfl, rfl⟩
      | placed order message =>
        obtain ⟨htrace, hs, -⟩ := runs_renderPage hrest
        exact ⟨htrace, hs⟩
    obtain ⟨rfl, rfl⟩ := hdone
    rwa [List.append_nil]

/-- All other pages only look. -/
theorem look_fetchResource {resource : Resource} (hadd : ∀ sku, resource ≠ .addToCart sku)
    (hplace : resource ≠ .placeOrder) : LookOnly (fetchResource shop moment user resource) := by
  cases resource with
  | index => exact LookOnly.renderPage _ _ _
  | product sku =>
    simp only [fetchResource]
    split
    · exact LookOnly.renderPage _ _ _
    · exact Asking.pure trivial
  | cart => exact (LookOnly.cart user).bind fun _ _ => LookOnly.renderPage _ _ _
  | addToCart sku => exact absurd rfl (hadd sku)
  | placeOrder => exact absurd rfl hplace
  | orders => exact (LookOnly.orders user).bind fun _ _ => LookOnly.renderPage _ _ _
  | notFound => exact Asking.pure trivial

/-! ## The effect of a request -/

/-- What may come of a request. -/
inductive Effect (shop : Shop) (moment : Moment) (user : UserId) (request : Request) (s : Scene)
    (trace : List (Exchange interface)) (r : Except ShopError Response) : Scene → Prop where
  /-- Everything is as it was. -/
  | kept (wrote : written trace = []) (unadded : request.addedSku? r = none) :
    Effect shop moment user request s trace r s
  /-- A unit was added to the cart. -/
  | added {sku : String} {product : Product} {old new : Cart}
    (known : shop.catalog.get? sku = some product) (held : storedCart s.documents user = .ok old)
    (grown : new = { old.add product with updated := moment.now })
    (wrote : written trace = [(cartKey user, Document.encode new)])
    (counted : request.addedSku? r = some sku) :
    Effect shop moment user request s trace r
      { s with documents := s.documents.put (cartKey user) (Document.encode new) }
  /-- An order was written, and its cart is still there since it could not be deleted. -/
  | undeleted {order : Order} {message : String} {e : StorageError}
    (next : NextOrder shop moment user s.documents order message)
    (failed : (.delete (cartKey user), e) ∈ failures trace)
    (wrote : written trace = [(orderKey user order.id, Document.encode order)])
    (unadded : request.addedSku? r = none) :
    Effect shop moment user request s trace r
      { s with documents := s.documents.put (orderKey user order.id) (Document.encode order) }
  /-- An order was written and its cart deleted. -/
  | placed {order : Order} {message : String}
    (next : NextOrder shop moment user s.documents order message)
    (wrote : written trace = [(orderKey user order.id, Document.encode order)])
    (unadded : request.addedSku? r = none) :
    Effect shop moment user request s trace r
      { documents := (s.documents.put (orderKey user order.id) (Document.encode order)).erase
          (cartKey user)
        channel := World.offerAll s.channel ⟨order, message⟩ }

/-- A request that adds a product runs as an addition, and its outcome tells whether that succeeded. -/
theorem runs_addition {request : Request} {sku : String} {r : Except ShopError Response}
    (hask : request.addition? = some sku)
    (h : Runs mayFail (request.perform shop moment user) s trace r s') :
    ∃ r₀, Runs mayFail (addToCart shop moment.now user sku) s trace r₀ s' ∧
      (request.addedSku? r = some sku ↔ ∃ added, r₀ = .ok added) := by
  have hruns : ∃ r₀, Runs mayFail (addToCart shop moment.now user sku) s trace r₀ s' ∧
      Shows r₀ r := by
    cases request with
    | add sku' =>
      cases hask
      obtain ⟨r₀, rfl, hadd⟩ := Program.runs_except_map_iff.1 h
      refine ⟨r₀, hadd, ?_⟩
      cases r₀ with
      | error e => exact rfl
      | ok added => exact .inl ⟨_, rfl⟩
    | fetch path =>
      obtain ⟨reply, rfl, hfetch⟩ := Program.runs_except_map_iff.1 h
      unfold fetch at hfetch
      simp only [Request.addition?] at hask
      split at hask
      · next hresource =>
        cases hask
        rw [hresource] at hfetch
        obtain ⟨r₀, hadd, hshows⟩ := runs_fetch_addToCart hfetch
        exact ⟨r₀, hadd, hshows.map _⟩
      · cases hask
    | place | cart | orders => cases hask
  obtain ⟨r₀, hadd, hshows⟩ := hruns
  refine ⟨r₀, hadd, ?_⟩
  cases r₀ with
  | error e =>
    cases hshows
    have hpage : request.addedSku? (.error e) = none := by
      cases runs_addToCart hadd <;> rfl
    simp [hpage]
  | ok added =>
    rcases hshows with ⟨response, rfl⟩ | ⟨template, cause, rfl⟩
    · exact ⟨fun _ => ⟨added, rfl⟩, fun _ => hask⟩
    · exact ⟨fun _ => ⟨added, rfl⟩, fun _ => hask⟩

theorem Adding.effect {request : Request} {sku : String} {r₀ : Except ShopError (Product × Cart)}
    {r : Except ShopError Response} (h : Adding mayFail shop moment.now user sku s trace r₀ s')
    (hask : request.addition? = some sku)
    (houtcome : request.addedSku? r = some sku ↔ ∃ added, r₀ = .ok added) :
    Effect shop moment user request s trace r s' := by
  have hfailed : (∀ added, r₀ ≠ .ok added) → request.addedSku? r = none := by
    intro hne
    have hnot : request.addedSku? r ≠ some sku := fun heq =>
      (houtcome.1 heq).elim fun added hadded => hne added hadded
    unfold Request.addedSku? at hnot ⊢
    split
    · exact absurd hask hnot
    · exact absurd hask hnot
    · rfl
  cases h with
  | unknown => exact .kept rfl (hfailed (by simp))
  | corrupt _ _ wrote => exact .kept wrote (hfailed (by simp))
  | unfetched _ _ wrote => exact .kept wrote (hfailed (by simp))
  | unwritten _ _ wrote => exact .kept wrote (hfailed (by simp))
  | added known held grown _ wrote =>
    exact .added known held grown wrote (houtcome.2 ⟨_, rfl⟩)

theorem Placing.effect {request : Request} {r₀ : Except ShopError Placement}
    {r : Except ShopError Response} (h : Placing mayFail shop moment user s trace r₀ s')
    (hadd : request.addedSku? r = none) : Effect shop moment user request s trace r s' := by
  cases h with
  | corrupt _ _ wrote => exact .kept wrote hadd
  | unfetched _ _ wrote => exact .kept wrote hadd
  | emptyCart _ _ _ wrote => exact .kept wrote hadd
  | unlisted _ _ wrote => exact .kept wrote hadd
  | exhausted _ _ wrote => exact .kept wrote hadd
  | unwritten _ _ _ wrote => exact .kept wrote hadd
  | undeleted next _ failed wrote =>
    exact .undeleted next (by rw [failed]; exact List.mem_singleton_self _) wrote hadd
  | placed next _ wrote => exact .placed next wrote hadd

theorem Quiet.effect {request : Request} {operation : Operation α} (hquiet : Quiet operation)
    {r₀ : Except ShopError α} {r : Except ShopError Response}
    (h : Runs mayFail operation s trace r₀ s') (hadd : request.addedSku? r = none) :
    Effect shop moment user request s trace r s' := by
  obtain ⟨rfl, hwritten⟩ := hquiet h
  exact .kept hwritten hadd

theorem runs_fetch {path : List String} (hask : (Request.fetch path).addition? = none)
    {r₀ : Except ShopError Reply} (h : Runs mayFail (fetch shop moment user path) s trace r₀ s')
    (r : Except ShopError Response) : Effect shop moment user (.fetch path) s trace r s' := by
  have hadd := Request.addedSku?_of_addition?_eq_none hask r
  unfold fetch at h
  simp only [Request.addition?] at hask
  cases hresource : Resource.ofPath path with
  | addToCart sku =>
    rw [hresource] at hask
    cases hask
  | placeOrder =>
    rw [hresource] at h
    obtain ⟨placement, hplace⟩ := runs_fetch_placeOrder h
    exact (runs_placeOrder hplace).effect hadd
  | index | product _ | cart | orders | notFound =>
    rw [hresource] at h
    exact (look_fetchResource (by simp) (by simp)).quiet.effect h hadd

/-- Whatever is asked for and whatever fails, the effect is one of these. -/
theorem runs_perform {request : Request} {r : Except ShopError Response}
    (h : Runs mayFail (request.perform shop moment user) s trace r s') :
    Effect shop moment user request s trace r s' := by
  cases hask : request.addition? with
  | some sku =>
    obtain ⟨r₀, hadd, houtcome⟩ := runs_addition hask h
    exact (runs_addToCart hadd).effect hask houtcome
  | none =>
    have hadd := Request.addedSku?_of_addition?_eq_none hask r
    cases request with
    | add sku => cases hask
    | place =>
      obtain ⟨placement, -, hplace⟩ := Program.runs_except_map_iff.1 h
      exact (runs_placeOrder hplace).effect hadd
    | cart =>
      obtain ⟨cart, -, hcart⟩ := Program.runs_except_map_iff.1 h
      exact (LookOnly.cart user).quiet.effect hcart hadd
    | orders =>
      obtain ⟨orders, -, horders⟩ := Program.runs_except_map_iff.1 h
      exact (LookOnly.orders user).quiet.effect horders hadd
    | fetch path =>
      obtain ⟨reply, -, hfetch⟩ := Program.runs_except_map_iff.1 h
      exact runs_fetch hask hfetch r

end Storefront.Shop
