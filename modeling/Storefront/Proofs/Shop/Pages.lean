import Storefront.Proofs.Shop.Books

/-!
# What a request for a page touches

A page is rendered from what an operation gives, and only then. So a page that is made of the catalog alone
calls nothing, the pages with the cart and the orders only look, and the two pages that change something
change what their operation does. A renderer is told what to show and never what to do: with any other one the
same calls are made and the same documents and events are left, also where the page fails.
-/

namespace Storefront.Shop

open Storage (Memory)

variable {α β : Type} {mayFail : Storage.Call → Prop} {shop : Shop} {moment : Moment} {user : UserId}
  {s s' : Scene} {trace : List (Exchange interface)} {path : List String} {resource : Resource}

/-! ## Another renderer -/

/-- With the same answers the second operation makes the calls of the first and leaves what it leaves. -/
def Follows (x : Operation α) (y : Operation β) : Prop :=
  ∀ ⦃mayFail : Storage.Call → Prop⦄ ⦃s s' : Scene⦄ ⦃trace : List (Exchange interface)⦄
    ⦃r : Except ShopError α⦄, Runs mayFail x s trace r s' → ∃ r', Runs mayFail y s trace r' s'

theorem follows_refl (x : Operation α) : Follows x x := fun _ _ _ _ r h => ⟨r, h⟩

theorem follows_bind {γ : Type} {x : Operation γ} {f : γ → Operation α} {g : γ → Operation β}
    (hfollows : ∀ a, Follows (f a) (g a)) : Follows (x >>= f) (x >>= g) := by
  intro mayFail s s' trace r h
  rcases Program.runs_except_bind_iff.1 h with
    ⟨e, rfl, hfirst⟩ | ⟨first, second, a, s₁, rfl, hfirst, hsecond⟩
  · exact ⟨.error e, Program.runs_except_bind_iff.2 (.inl ⟨e, rfl, hfirst⟩)⟩
  · obtain ⟨r', hsecond'⟩ := hfollows a hsecond
    exact ⟨r', Program.runs_except_bind_iff.2 (.inr ⟨first, second, a, s₁, rfl, hfirst, hsecond'⟩)⟩

/-- Two pages differ in nothing but what they show. -/
theorem follows_renderPage (shop other : Shop) (template template' : String) (data data' : Json) :
    Follows (renderPage shop template data) (renderPage other template' data') := by
  intro mayFail s s' trace r h
  obtain ⟨rfl, rfl, -⟩ := runs_renderPage h
  unfold renderPage
  cases other.render template' data'.sorted with
  | ok body => exact ⟨_, Program.runs_pure_iff.2 ⟨rfl, rfl, rfl⟩⟩
  | error cause => exact ⟨_, Program.runs_throw_iff.2 ⟨rfl, rfl, rfl⟩⟩

/-- The shop with other pages. -/
def withRenderer (shop : Shop) (render : Renderer) : Shop := { shop with render := render }

theorem follows_fetchResource (render : Renderer) (resource : Resource) :
    Follows (fetchResource shop moment user resource)
      (fetchResource (shop.withRenderer render) moment user resource) := by
  cases resource with
  | index => exact follows_renderPage _ _ _ _ _ _
  | product sku =>
    have hcatalog : (shop.withRenderer render).catalog = shop.catalog := rfl
    simp only [fetchResource, hcatalog]
    split
    · exact follows_renderPage _ _ _ _ _ _
    · exact follows_refl _
  | cart => exact follows_bind fun _ => follows_renderPage _ _ _ _ _ _
  | addToCart sku => exact follows_bind fun _ => follows_renderPage _ _ _ _ _ _
  | placeOrder =>
    refine follows_bind fun placement => ?_
    cases placement with
    | emptyCart => exact follows_refl _
    | placed order message => exact follows_renderPage _ _ _ _ _ _
  | orders => exact follows_bind fun _ => follows_renderPage _ _ _ _ _ _
  | notFound => exact follows_refl _

/-! ## What the shop does not have -/

/-- The first segments that the shop knows. -/
def knownSegments : List String := ["index", "product", "addtocart", "cart", "placeorder", "orders"]

/-- The paths of what the shop does not have. -/
inductive Absent (shop : Shop) : List String → Prop where
  /-- The first segment is none that the shop knows. -/
  | unknown {first : String} {rest : List String} (unknown : first ∉ knownSegments) :
    Absent shop (first :: rest)
  /-- A product is to be shown or added, and it is not told which. -/
  | unnamed {first : String} {rest : List String} (known : first = "product" ∨ first = "addtocart")
    (unnamed : rest.head? = none ∨ rest.head? = some "") : Absent shop (first :: rest)
  /-- A product is to be shown that is not for sale. -/
  | unsold {sku : String} {rest : List String} (unsold : shop.catalog.get? sku = none) :
    Absent shop ("product" :: sku :: rest)

theorem ofSku_cases (make : String → Resource) (rest : List String) :
    (rest.head? = none ∨ rest.head? = some "") ∧ Resource.ofSku make rest = .notFound ∨
      ∃ sku more, rest = sku :: more ∧ sku ≠ "" ∧ Resource.ofSku make rest = make sku := by
  cases rest with
  | nil => exact .inl ⟨.inl rfl, rfl⟩
  | cons sku more =>
    by_cases hsku : sku = ""
    · refine .inl ⟨.inr (congrArg some hsku), ?_⟩
      rw [Resource.ofSku, if_pos hsku]
    · refine .inr ⟨sku, more, rfl, hsku, ?_⟩
      rw [Resource.ofSku, if_neg hsku]

theorem ofPath_of_unknown {first : String} {rest : List String} (unknown : first ∉ knownSegments) :
    Resource.ofPath (first :: rest) = .notFound := by
  simp only [knownSegments, List.mem_cons, List.not_mem_nil, or_false, not_or] at unknown
  obtain ⟨hindex, hproduct, hadd, hcart, hplace, horders⟩ := unknown
  unfold Resource.ofPath
  split <;> simp_all

theorem Absent.ofPath (h : Absent shop path) : Resource.ofPath path = .notFound ∨
    ∃ sku, Resource.ofPath path = .product sku ∧ shop.catalog.get? sku = none := by
  cases h with
  | unknown unknown => exact .inl (ofPath_of_unknown unknown)
  | @unnamed first rest known unnamed =>
    left
    have hnone : ∀ make, Resource.ofSku make rest = .notFound := by
      intro make
      rcases ofSku_cases make rest with ⟨-, hnone⟩ | ⟨sku, more, rfl, hsku, -⟩
      · exact hnone
      · simp [hsku] at unnamed
    rcases known with rfl | rfl
    · exact hnone .product
    · exact hnone .addToCart
  | @unsold sku rest unsold =>
    by_cases hsku : sku = ""
    · left
      show Resource.ofSku .product (sku :: rest) = .notFound
      rw [Resource.ofSku, if_pos hsku]
    · refine .inr ⟨sku, ?_, unsold⟩
      show Resource.ofSku .product (sku :: rest) = .product sku
      rw [Resource.ofSku, if_neg hsku]

theorem absent_of_ofPath (h : Resource.ofPath path = .notFound ∨
    ∃ sku, Resource.ofPath path = .product sku ∧ shop.catalog.get? sku = none) : Absent shop path := by
  cases path with
  | nil => simp [Resource.ofPath] at h
  | cons first rest =>
    by_cases hknown : first ∈ knownSegments
    · simp only [knownSegments, List.mem_cons, List.not_mem_nil, or_false] at hknown
      rcases hknown with rfl | rfl | rfl | rfl | rfl | rfl
      case inr.inl =>
        rcases ofSku_cases .product rest with ⟨hnone, -⟩ | ⟨sku, more, rfl, -, hmake⟩
        · exact .unnamed (.inl rfl) hnone
        · simp only [Resource.ofPath, hmake] at h
          rcases h with hnone | ⟨sku', hproduct, habsent⟩
          · cases hnone
          · cases hproduct
            exact .unsold habsent
      case inr.inr.inl =>
        rcases ofSku_cases .addToCart rest with ⟨hnone, -⟩ | ⟨sku, more, rfl, -, hmake⟩
        · exact .unnamed (.inr rfl) hnone
        · simp [Resource.ofPath, hmake] at h
      -- what the other segments name is always there
      all_goals simp [Resource.ofPath] at h
    · exact .unknown hknown

/-- A path is not answered where it names no resource or a product that is not for sale. -/
theorem absent_iff : Absent shop path ↔ Resource.ofPath path = .notFound ∨
    ∃ sku, Resource.ofPath path = .product sku ∧ shop.catalog.get? sku = none :=
  ⟨Absent.ofPath, absent_of_ofPath⟩

/-! ## What a request touches -/

/-- Under all keys but these the documents are the same. -/
def SameBut (keys : List String) (m m' : Memory) : Prop :=
  ∀ key, key ∉ keys → m'.get? key = m.get? key

theorem sameBut_refl (keys : List String) (m : Memory) : SameBut keys m m := fun _ _ => rfl

theorem SameBut.put {keys : List String} {m m' : Memory} {key : String} (h : SameBut keys m m')
    (hkey : key ∈ keys) (data : ByteArray) : SameBut keys m (m'.put key data) := by
  intro other hother
  have hne : other ≠ key := fun heq => hother (heq ▸ hkey)
  rw [Memory.get?_put_of_ne hne]
  exact h other hother

theorem SameBut.erase {keys : List String} {m m' : Memory} {key : String} (h : SameBut keys m m')
    (hkey : key ∈ keys) : SameBut keys m (m'.erase key) := by
  intro other hother
  have hne : other ≠ key := fun heq => hother (heq ▸ hkey)
  rw [Memory.get?_erase_of_ne hne]
  exact h other hother

/-- What a request may call and change, by the resource that its path names. -/
def Footprint (shop : Shop) (user : UserId) (s : Scene) (trace : List (Exchange interface))
    (r : Except ShopError Reply) (s' : Scene) : Resource → Prop
  | .index | .product _ | .notFound => trace = [] ∧ s' = s
  | .cart | .orders => (∀ exchange ∈ trace, Looks exchange) ∧ s' = s
  | .addToCart sku =>
    match shop.catalog.get? sku with
    | none => trace = [] ∧ r = .error (.unknownProduct sku) ∧ s' = s
    | some _ => SameBut [cartKey user] s.documents s'.documents ∧ s'.channel = s.channel
  | .placeOrder => s' = s ∨ ∃ id, s.documents.get? (orderKey user id) = none ∧
    SameBut [cartKey user, orderKey user id] s.documents s'.documents

/-- A product that is not for sale is refused before the storage is looked at. -/
theorem runs_addToCart_unknown {sku : String} {r : Except ShopError (Product × Cart)}
    (absent : shop.catalog.get? sku = none)
    (h : Runs mayFail (addToCart shop moment.now user sku) s trace r s') :
    trace = [] ∧ r = .error (.unknownProduct sku) ∧ s' = s := by
  unfold addToCart at h
  rw [absent] at h
  exact Program.runs_throw_iff.1 h

theorem footprint_addToCart {sku : String} {r : Except ShopError Reply}
    (h : Runs mayFail (fetchResource shop moment user (.addToCart sku)) s trace r s') :
    Footprint shop user s trace r s' (.addToCart sku) := by
  obtain ⟨r₀, hadd, hshows⟩ := runs_fetch_addToCart h
  simp only [Footprint]
  cases hproduct : shop.catalog.get? sku with
  | none =>
    obtain ⟨htrace, rfl, hs⟩ := runs_addToCart_unknown hproduct hadd
    exact ⟨htrace, hshows, hs⟩
  | some product =>
    cases runs_addToCart hadd with
    | unknown | corrupt | unfetched | unwritten => exact ⟨sameBut_refl _ _, rfl⟩
    | added => exact ⟨(sameBut_refl _ _).put (List.mem_singleton_self _) _, rfl⟩

theorem footprint_placeOrder {r : Except ShopError Reply}
    (h : Runs mayFail (fetchResource shop moment user .placeOrder) s trace r s') :
    Footprint shop user s trace r s' .placeOrder := by
  obtain ⟨r₀, hplace⟩ := runs_fetch_placeOrder h
  cases runs_placeOrder hplace with
  | corrupt | unfetched | emptyCart | unlisted | exhausted | unwritten => exact .inl rfl
  | @undeleted order _ _ next _ _ _ =>
    refine .inr ⟨order.id, next.fresh, (sameBut_refl _ _).put ?_ _⟩
    exact List.mem_cons_of_mem _ (List.mem_singleton_self _)
  | @placed order _ next _ _ =>
    refine .inr ⟨order.id, next.fresh, ((sameBut_refl _ _).put ?_ _).erase List.mem_cons_self⟩
    exact List.mem_cons_of_mem _ (List.mem_singleton_self _)

theorem looks_fetchResource {r : Except ShopError Reply} (hadd : ∀ sku, resource ≠ .addToCart sku)
    (hplace : resource ≠ .placeOrder)
    (h : Runs mayFail (fetchResource shop moment user resource) s trace r s') :
    (∀ exchange ∈ trace, Looks exchange) ∧ s' = s := by
  have hlook : LookOnly (fetchResource shop moment user resource) := look_fetchResource hadd hplace
  obtain ⟨hs, -⟩ := hlook.quiet h
  exact ⟨hlook.looks_of_mem h, hs⟩

theorem footprint_fetchResource {r : Except ShopError Reply}
    (h : Runs mayFail (fetchResource shop moment user resource) s trace r s') :
    Footprint shop user s trace r s' resource := by
  cases resource with
  | index =>
    obtain ⟨htrace, hs, -⟩ := runs_renderPage h
    exact ⟨htrace, hs⟩
  | product sku =>
    simp only [fetchResource] at h
    split at h
    · obtain ⟨htrace, hs, -⟩ := runs_renderPage h
      exact ⟨htrace, hs⟩
    · obtain ⟨htrace, -, hs⟩ := Program.runs_pure_iff.1 h
      exact ⟨htrace, hs⟩
  | notFound =>
    obtain ⟨htrace, -, hs⟩ := Program.runs_pure_iff.1 h
    exact ⟨htrace, hs⟩
  | cart => exact looks_fetchResource (by simp) (by simp) h
  | orders => exact looks_fetchResource (by simp) (by simp) h
  | addToCart sku => exact footprint_addToCart h
  | placeOrder => exact footprint_placeOrder h

/-! ## What is answered -/

/-- An operation gives a page, unless it fails. -/
def GivesPage (operation : Operation Reply) : Prop :=
  ∀ ⦃mayFail : Storage.Call → Prop⦄ ⦃s s' : Scene⦄ ⦃trace : List (Exchange interface)⦄
    ⦃r : Except ShopError Reply⦄, Runs mayFail operation s trace r s' → r ≠ .ok .notFound

theorem givesPage_renderPage (template : String) (data : Json) :
    GivesPage (renderPage shop template data) := by
  intro mayFail s s' trace r h
  obtain ⟨-, -, ⟨body, rfl⟩ | ⟨cause, rfl⟩⟩ := runs_renderPage h
  · rintro ⟨⟩
  · rintro ⟨⟩

theorem givesPage_bind {x : Operation α} {f : α → Operation Reply} (hf : ∀ a, GivesPage (f a)) :
    GivesPage (x >>= f) := by
  intro mayFail s s' trace r h
  rcases Program.runs_except_bind_iff.1 h with ⟨e, rfl, -⟩ | ⟨_, _, a, _, -, -, hsecond⟩
  · rintro ⟨⟩
  · exact hf a hsecond

theorem ok_notFound_iff {r : Except ShopError Reply}
    (h : Runs mayFail (fetchResource shop moment user resource) s trace r s') :
    r = .ok .notFound ↔ resource = .notFound ∨
      ∃ sku, resource = .product sku ∧ shop.catalog.get? sku = none := by
  have hpage : ∀ {operation : Operation Reply}, GivesPage operation →
      Runs mayFail operation s trace r s' → ¬r = .ok .notFound := fun hgives hrun => hgives hrun
  cases resource with
  | notFound =>
    obtain ⟨-, rfl, -⟩ := Program.runs_pure_iff.1 h
    simp
  | product sku =>
    simp only [fetchResource] at h
    cases hproduct : shop.catalog.get? sku with
    | none =>
      rw [hproduct] at h
      obtain ⟨-, rfl, -⟩ := Program.runs_pure_iff.1 h
      simp [hproduct]
    | some product =>
      rw [hproduct] at h
      simp [hpage (givesPage_renderPage _ _) h, hproduct]
  | index => simp [hpage (givesPage_renderPage _ _) h]
  | cart => simp [hpage (givesPage_bind fun _ => givesPage_renderPage _ _) h]
  | addToCart sku => simp [hpage (givesPage_bind fun _ => givesPage_renderPage _ _) h]
  | orders => simp [hpage (givesPage_bind fun _ => givesPage_renderPage _ _) h]
  | placeOrder =>
    have hgives : GivesPage (fetchResource shop moment user .placeOrder) := by
      refine givesPage_bind fun placement => ?_
      cases placement with
      | emptyCart =>
        intro mayFail s s' trace r h
        obtain ⟨-, rfl, -⟩ := Program.runs_pure_iff.1 h
        rintro ⟨⟩
      | placed order message => exact givesPage_renderPage _ _
    simp [hpage hgives h]

/-- What is promised of a request for a page. -/
structure Fetched (mayFail : Storage.Call → Prop) (shop : Shop) (moment : Moment) (user : UserId)
    (path : List String) (s : Scene) (trace : List (Exchange interface)) (r : Except ShopError Reply)
    (s' : Scene) : Prop where
  /-- It touches what its resource allows. -/
  touched : Footprint shop user s trace r s' (.ofPath path)
  /-- It is told that the shop has no such thing where that is so and nowhere else. -/
  absent : r = .ok .notFound ↔ Absent shop path
  /-- Whatever renders the pages, the same calls are made and the same documents and events are left. -/
  unrendered : ∀ render, ∃ r',
    Runs mayFail (fetch (shop.withRenderer render) moment user path) s trace r' s'

/-- Whatever is asked for, stored and shown, a request comes to an end, touches no more than its path
allows, and leaves the same behind with any renderer. -/
theorem fetch_footprint (mayFail : Storage.Call → Prop) (shop : Shop) (moment : Moment) (user : UserId)
    (path : List String) (s : Scene) :
    (∃ trace r s', Runs mayFail (fetch shop moment user path) s trace r s') ∧
      ∀ trace r s', Runs mayFail (fetch shop moment user path) s trace r s' →
        Fetched mayFail shop moment user path s trace r s' := by
  refine ⟨exists_runs _ _ _, fun trace r s' h => ⟨?_, ?_, fun render => ?_⟩⟩
  · exact footprint_fetchResource h
  · exact (ok_notFound_iff h).trans absent_iff.symm
  · exact follows_fetchResource render (.ofPath path) h

/-- An order whose page fails is there, and it would be with a page that does not fail. -/
theorem fetch_footprint_unrendered :
    ∃ trace cause s',
      Runs (fun _ => False) (fetch Sample.shop Sample.moment Sample.buyer ["placeorder"]) Sample.filled
        trace (.error (.page Template.orderPlaced cause)) s' ∧
      written trace ≠ [] ∧
      Fetched (fun _ => False) Sample.shop Sample.moment Sample.buyer ["placeorder"] Sample.filled trace
        (.error (.page Template.orderPlaced cause)) s' := by
  obtain ⟨trace, order, message, s', hplace, -, hwritten, -⟩ := Sample.exists_placement
  have hpage : Runs (fun _ => False) (renderPage Sample.shop Template.orderPlaced (placedData order message))
      s' [] (.error (.page Template.orderPlaced (.unknownTemplate Template.orderPlaced))) s' :=
    Program.runs_throw_iff.2 ⟨rfl, rfl, rfl⟩
  have hrun : Runs (fun _ => False) (fetch Sample.shop Sample.moment Sample.buyer ["placeorder"])
      Sample.filled trace (.error (.page Template.orderPlaced (.unknownTemplate Template.orderPlaced))) s' :=
    Program.runs_except_bind_iff.2
      (.inr ⟨trace, [], .placed order message, s', (List.append_nil trace).symm, hplace, hpage⟩)
  obtain ⟨-, hfetched⟩ := fetch_footprint (fun _ => False) Sample.shop Sample.moment Sample.buyer
    ["placeorder"] Sample.filled
  refine ⟨trace, _, s', hrun, ?_, hfetched _ _ _ hrun⟩
  rw [hwritten]
  exact List.cons_ne_nil _ _

end Storefront.Shop
