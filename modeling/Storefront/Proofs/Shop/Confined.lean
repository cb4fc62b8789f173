import Storefront.Proofs.Shop.Asking
import Storefront.Proofs.Shop.Requests

/-!
# What a request looks at

Whatever a buyer asks a shop for, the shop fetches, writes, deletes and lists nothing but documents of
this buyer. Which keys count as those of the buyer is left open, as long as the keys of the cart and of all
orders are among them.
-/

namespace Storefront.Shop

/-- The calls that are about a buyer alone, with what is known of their answers: a listing of the orders of
the buyer gives only keys of the buyer. -/
inductive Own (owns : String → Prop) (user : UserId) :
    (request : Call) → (request.Answer → Prop) → Prop where
  | get {key : String} (owned : owns key) : Own owns user (.storage (.get key)) fun _ => True
  | put {key : String} (owned : owns key) (data : ByteArray) :
    Own owns user (.storage (.put key data)) fun _ => True
  | delete {key : String} (owned : owns key) : Own owns user (.storage (.delete key)) fun _ => True
  | list {text start : String} (parsed : Storage.Listing.parse text = .ok (ordersListing user start)) :
    Own owns user (.storage (.list text)) fun (answer : Except StorageError (List String)) =>
      ∀ keys, answer = .ok keys → ∀ key ∈ keys, owns key
  | pay (request : PaymentRequest) : Own owns user (.pay request) fun _ => True
  | announce (event : OrderPlaced) : Own owns user (.announce event) fun _ => True

/-- The keys of the documents that a shop keeps for a buyer are among some keys. -/
structure Covers (owns : String → Prop) (user : UserId) : Prop where
  cart : owns (cartKey user)
  order : ∀ id, owns (orderKey user id)

theorem covers_owns (user : UserId) : Covers (Owns user) user := ⟨.cart, owns_orderKey user⟩

variable {α β : Type}

/-- An operation makes only calls that are about a buyer, and what it gives if it succeeds is of some
kind. -/
def Confined (owns : String → Prop) (user : UserId) (kind : α → Prop) (operation : Operation α) : Prop :=
  Program.Asks (Own owns user) (fun r => ∀ a, r = .ok a → kind a) operation.run

variable {owns : String → Prop} {user : UserId} {kind : α → Prop} {kind' : β → Prop}

namespace Confined

theorem pure {a : α} (h : kind a) : Confined owns user kind (pure a) := Asking.pure h

theorem throw (e : ShopError) : Confined owns user kind (throw e) := Asking.throw e

theorem bind {x : Operation α} {f : α → Operation β} (hx : Confined owns user kind x)
    (hf : ∀ a, kind a → Confined owns user kind' (f a)) : Confined owns user kind' (x >>= f) :=
  Asking.bind hx hf

theorem map {x : Operation α} (hx : Confined owns user kind x) (f : α → β) :
    Confined owns user (fun _ => True) (f <$> x) := Asking.map hx f

theorem mapM {f : α → Operation β} {as : List α}
    (hf : ∀ a ∈ as, Confined owns user (fun _ => True) (f a)) :
    Confined owns user (fun _ => True) (as.mapM f) := Asking.mapM hf

theorem onStorage {request : Storage.Call} {expected : request.Answer → Prop}
    (h : Own owns user (.storage request) expected) :
    Confined owns user (fun a => expected (.ok a)) (onStorage request) := Asking.onStorage h

theorem askProvider (request : PaymentRequest) :
    Confined owns user (fun _ => True) (askProvider request) :=
  .call (.pay request) fun _ _ => .done fun _ _ => trivial

theorem announce (event : OrderPlaced) : Confined owns user (fun _ => True) (announce event) :=
  .call (.announce event) fun _ _ => .done fun _ _ => trivial

/-! ## The operations of a shop -/

variable {shop : Shop} {moment : Moment}

theorem readDocument (α : Type) [Document α] {key : String} (h : owns key) :
    Confined owns user (fun _ => True) (readDocument α key) := by
  refine (onStorage (.get h)).bind fun found _ => ?_
  split
  · exact pure trivial
  · split
    · exact pure trivial
    · exact throw _

theorem writeDocument [Document α] {key : String} (h : owns key) (a : α) :
    Confined owns user (fun _ => True) (writeDocument key a) := onStorage (.put h _)

theorem cart (hc : Covers owns user) : Confined owns user (fun _ => True) (cart user) :=
  (readDocument Cart hc.cart).bind fun _ _ => pure trivial

theorem addToCart (hc : Covers owns user) (now : Timestamp) (sku : String) :
    Confined owns user (fun _ => True) (addToCart shop now user sku) := by
  unfold Shop.addToCart
  split
  · exact throw _
  · exact (cart hc).bind fun _ _ => (writeDocument hc.cart _).bind fun _ _ => pure trivial

theorem nextOrderId (user : UserId) : Confined owns user (fun _ => True) (nextOrderId user) := by
  refine (onStorage (.list (parse_numberedStart user))).bind fun keys _ => ?_
  dsimp only
  split
  · exact pure trivial
  · exact throw _

/-- Finding out how an order is to be paid looks at no document at all. -/
theorem resolve (payType : PayType) (account : String) (order : Order) :
    Confined owns user (fun _ => True) (resolve moment payType account order) := by
  have hask : ∀ (request : PaymentRequest) (f : Except ProviderError String → Operation Resolution),
      (∀ a, ∃ b, f a = Pure.pure b) → Confined owns user (fun _ => True) (Shop.askProvider request >>= f) := by
    intro request f hf
    refine (askProvider request).bind fun a _ => ?_
    obtain ⟨b, hb⟩ := hf a
    rw [hb]
    exact pure trivial
  unfold Shop.resolve
  split
  · exact pure trivial
  · split
    · unfold resolveOnChain
      split
      · exact hask _ _ fun a => by cases a <;> exact ⟨_, rfl⟩
      · exact pure trivial
    · unfold resolveLightning
      split
      · split
        · exact pure trivial
        · exact hask _ _ fun a => by cases a <;> exact ⟨_, rfl⟩
      · exact pure trivial
    · exact pure trivial

theorem commit {order : Order} (hc : Covers owns order.user) (message : String) :
    Confined owns order.user (fun _ => True) (commit order message) :=
  (writeDocument (hc.order _) order).bind fun _ _ =>
    (onStorage (.delete hc.cart)).bind fun _ _ => announce _

theorem placeOrder (hc : Covers owns user) : Confined owns user (fun _ => True) (placeOrder shop moment user) := by
  refine (cart hc).bind fun cart _ => ?_
  split
  · exact pure trivial
  · refine (nextOrderId user).bind fun id _ => (resolve _ _ _).bind fun resolution _ => ?_
    have huser : (resolution.apply (shop.draft moment user cart id)).user = user := by
      obtain ⟨payType, invoice, horder⟩ := apply_eq resolution (shop.draft moment user cart id)
      rw [horder]
      rfl
    have hcommit := commit (huser.symm ▸ hc)
      (Confirmation.text (resolution.apply (shop.draft moment user cart id)) resolution)
    rw [huser] at hcommit
    exact hcommit.bind fun _ _ => pure trivial

theorem readableOrder {key : String} (h : owns key) :
    Confined owns user (fun _ => True) (readableOrder key) := by
  refine Program.Asks.bind (readDocument Order h) fun r _ => ?_
  cases r <;> exact .done fun _ _ => trivial

theorem orders (user : UserId) : Confined owns user (fun _ => True) (orders user) := by
  refine (onStorage (.list (parse_ordersFolder user))).bind fun keys hkeys => ?_
  exact (mapM fun key hkey => readableOrder (hkeys keys rfl key hkey)).bind fun _ _ => pure trivial

theorem renderPage (template : String) (data : Json) :
    Confined owns user (fun _ => True) (renderPage shop template data) := by
  unfold Shop.renderPage
  split
  · exact pure trivial
  · exact throw _

theorem fetchResource (hc : Covers owns user) (resource : Resource) :
    Confined owns user (fun _ => True) (fetchResource shop moment user resource) := by
  cases resource with
  | index => exact renderPage _ _
  | product sku =>
    simp only [Shop.fetchResource]
    split
    · exact renderPage _ _
    · exact pure trivial
  | cart => exact (cart hc).bind fun _ _ => renderPage _ _
  | addToCart sku => exact (addToCart hc _ sku).bind fun _ _ => renderPage _ _
  | placeOrder =>
    refine (placeOrder hc).bind fun placement _ => ?_
    cases placement with
    | emptyCart => exact pure trivial
    | placed order message => exact renderPage _ _
  | orders => exact (orders user).bind fun _ _ => renderPage _ _
  | notFound => exact pure trivial

/-- Whatever a buyer asks for, all calls are about this buyer. -/
theorem perform (hc : Covers owns user) (request : Request) :
    Confined owns user (fun _ => True) (request.perform shop moment user) := by
  cases request with
  | add sku => exact (addToCart hc _ sku).map _
  | place => exact (placeOrder hc).map _
  | cart => exact (cart hc).map _
  | orders => exact (orders user).map _
  | fetch path => exact (fetchResource hc _).map _

end Confined

end Storefront.Shop
