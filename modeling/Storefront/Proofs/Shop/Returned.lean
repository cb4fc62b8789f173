import Storefront.Proofs.Shop.History

/-!
# What operations returned

A page that is about a cart or about orders is made from what an operation of the shop has returned, and
making it calls nobody. So a request for a page is a request for that operation, followed by the page. What
the operation returned does not show in the page alone, but the calls that were made, with their answers,
tell it.
-/

namespace Storefront

/-! ## Calls that are compared -/

namespace Storage.Call

/-- The bytes that a call puts. -/
def content : Call → Array UInt8
  | put _ data => data.data
  | get _ | delete _ | list _ => #[]

/-- The verb, the key and the bytes tell a call. -/
theorem eq_of_parts {c c' : Call} (hverb : c.verb = c'.verb) (hkey : c.key = c'.key)
    (hcontent : c.content = c'.content) : c = c' := by
  cases c <;> cases c' <;> simp only [verb, key, content] at hverb hkey hcontent
  case put.put => rw [hkey, ByteArray.ext hcontent]
  case get.get | delete.delete | list.list => rw [hkey]
  all_goals exact absurd hverb (by decide)

instance : DecidableEq Call := fun c c' =>
  decidable_of_iff (c.verb = c'.verb ∧ c.key = c'.key ∧ c.content = c'.content)
    ⟨fun ⟨hverb, hkey, hcontent⟩ => eq_of_parts hverb hkey hcontent, fun h => h ▸ ⟨rfl, rfl, rfl⟩⟩

end Storage.Call

namespace Shop

deriving instance DecidableEq for Call

/-! ## Pages of what was returned -/

/-- The page that is made from a template and data, or why there is none. -/
def pageOf (shop : Shop) (template : String) (data : Json) : Except ShopError Reply :=
  match shop.render template data with
  | .ok body => .ok (.page body)
  | .error cause => .error (.page template cause)

/-- The page that shows what an operation has returned. -/
def Response.page (shop : Shop) : Response → Except ShopError Reply
  | .added product new => shop.pageOf Template.addToCart (addedData product new).sorted
  | .placement .emptyCart => .ok (.page emptyCartText)
  | .placement (.placed order message) =>
    shop.pageOf Template.orderPlaced (placedData order message).sorted
  | .cart held => shop.pageOf Template.cart (cartData held).sorted
  | .orders found => shop.pageOf Template.orders (ordersData found).sorted
  | .reply made => .ok made

/-- The request for the operation that a page shows. Any other request stands for itself. -/
def Request.direct : Request → Request
  | .fetch path =>
    match Resource.ofPath path with
    | .addToCart sku => .add sku
    | .placeOrder => .place
    | .cart => .cart
    | .orders => .orders
    | .index | .product _ | .notFound => .fetch path
  | request => request

/-- What comes of a request once its operation has returned something. -/
def Request.answer (shop : Shop) : Request → Response → Except ShopError Response
  | .fetch _, response => (response.page shop).map .reply
  | _, response => .ok response

variable {mayFail : Storage.Call → Prop} {shop : Shop} {moment : Moment} {user : UserId} {s s' : Scene}
  {trace : List (Exchange interface)} {past : List Entry}

theorem renderPage_eq (template : String) (data : Json) :
    renderPage shop template data = ExceptT.mk (.done (shop.pageOf template data.sorted)) := by
  unfold renderPage pageOf
  cases shop.render template data.sorted <;> rfl

theorem map_renderPage {α : Type} (template : String) (data : Json) (f : Reply → α) :
    f <$> renderPage shop template data =
      ExceptT.mk (.done ((shop.pageOf template data.sorted).map f)) := by
  rw [renderPage_eq]
  cases shop.pageOf template data.sorted <;> rfl

/-- A request is one for its operation, followed by the page if one was asked for. -/
theorem Request.perform_eq (request : Request) :
    request.perform shop moment user = (request.direct.perform shop moment user >>= fun response =>
      ExceptT.mk (.done (request.answer shop response))) := by
  have hsame : ∀ operation : Operation Response,
      (operation >>= fun response => ExceptT.mk (.done (.ok response))) = operation := bind_pure
  cases request with
  | add | place | cart | orders => exact (hsame _).symm
  | fetch path =>
    simp only [perform, Shop.fetch, direct, answer]
    cases hresource : Resource.ofPath path with
    | addToCart sku =>
      simp only [fetchResource, map_bind, bind_map_left, map_renderPage]
      rfl
    | placeOrder =>
      simp only [fetchResource, map_bind, bind_map_left]
      congr
      funext placement
      cases placement with
      | emptyCart => rfl
      | placed order message => exact map_renderPage _ _ _
    | cart | orders =>
      simp only [fetchResource, map_bind, bind_map_left, map_renderPage]
      rfl
    | index | product | notFound =>
      simp only [hresource, bind_map_left, Response.page]
      exact (bind_pure_comp _ _).symm

/-- A run of a request is a run of its operation, whose outcome the page shows. -/
theorem runs_perform_direct {σ : Type} {serve : Outside interface σ} {t t' : σ} {request : Request}
    {r : Except ShopError Response}
    (run : Program.Runs serve (request.perform shop moment user).run t trace r t') :
    ∃ r₀, r = r₀.bind (request.answer shop) ∧
      Program.Runs serve (request.direct.perform shop moment user).run t trace r₀ t' := by
  rw [Request.perform_eq] at run
  exact Program.runs_except_bind_done_iff.1 run

/-- A request that stands for itself and asks for a page asks for one that is about no cart and no orders. -/
theorem Request.ofPath_of_direct {request : Request} {path : List String}
    (h : request.direct = .fetch path) :
    Resource.ofPath path = .index ∨ (∃ sku, Resource.ofPath path = .product sku) ∨
      Resource.ofPath path = .notFound := by
  cases request with
  | add | place | cart | orders => cases h
  | fetch path' =>
    simp only [direct] at h
    cases hresource : Resource.ofPath path' with
    | addToCart sku | placeOrder | cart | orders =>
      rw [hresource] at h
      cases h
    | index =>
      simp only [hresource] at h
      cases h
      exact .inl hresource
    | product sku =>
      simp only [hresource] at h
      cases h
      exact .inr (.inl ⟨sku, hresource⟩)
    | notFound =>
      simp only [hresource] at h
      cases h
      exact .inr (.inr hresource)

/-- Such a request only looks at the storage. -/
theorem look_direct {shop : Shop} {moment : Moment} {user : UserId} {request : Request}
    {path : List String} (h : request.direct = .fetch path) :
    LookOnly (Shop.fetch shop moment user path) := by
  unfold Shop.fetch
  rcases Request.ofPath_of_direct h with hresource | ⟨sku, hresource⟩ | hresource <;> rw [hresource] <;>
    exact look_fetchResource (fun _ => nofun) nofun

/-! ## What was returned -/

/-- What the operation behind a request returned, as the calls that were made tell. -/
def Entry.returned? (shop : Shop) (entry : Entry) : Option (Except ShopError Response) :=
  (entry.request.direct.perform shop entry.moment entry.user).run.replay entry.trace

/-- In a run of a request its operation runs, and what this returns decides the outcome. -/
theorem runs_direct {entry : Entry}
    (h : Runs mayFail (entry.request.perform shop entry.moment entry.user) s entry.trace entry.result s') :
    ∃ r, entry.returned? shop = some r ∧ entry.result = r.bind (entry.request.answer shop) ∧
      Runs mayFail (entry.request.direct.perform shop entry.moment entry.user) s entry.trace r s' := by
  obtain ⟨r, hr, hdirect⟩ := runs_perform_direct h
  exact ⟨r, hdirect.replay_eq, hr, hdirect⟩

theorem History.returned (h : History shop past s) :
    ∀ entry ∈ past, ∃ r, entry.returned? shop = some r ∧
      entry.result = r.bind (entry.request.answer shop) := by
  induction h with
  | start channel => exact fun _ he => absurd he List.not_mem_nil
  | next before run ih =>
    intro entry he
    rcases List.mem_cons.1 he with rfl | he
    · obtain ⟨r, hreturned, hresult, -⟩ := runs_direct run
      exact ⟨r, hreturned, hresult⟩
    · exact ih entry he

end Shop

end Storefront
