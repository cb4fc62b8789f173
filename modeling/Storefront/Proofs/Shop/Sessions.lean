import Storefront.Proofs.Shop.Isolation
import Storefront.Proofs.Shop.Reading
import Storefront.Proofs.Shop.Returned

/-!
# Sessions

A shop serves one visit after the other, on whatever storage it has. What comes of the visits depends on the
order in which listings show their keys only as far as operations do, and they do not: the next number is found
among all keys, and the orders of a buyer are sorted before they are given out.
-/

namespace Storefront.Shop

open Storage (Memory Contract SameTold)

/-- A request at a moment, and how the payment providers answer meanwhile. An operation asks one provider at
most, and once. -/
structure Visit extends Step where
  pay : PaymentRequest → Except ProviderError String

/-- How the calls of a shop are answered, given a storage and the answers of the providers. An order is
announced by every producer. -/
inductive ServedBy {σ : Type} (storage : Outside Storage.interface σ)
    (pay : PaymentRequest → Except ProviderError String) :
    Outside interface (σ × Channel OrderPlaced) where
  | storage {request : Storage.Call} {a : request.Answer} {t t' : σ} (served : storage request t a t')
    (channel : Channel OrderPlaced) : ServedBy storage pay (.storage request) (t, channel) a (t', channel)
  | pay (request : PaymentRequest) (s : σ × Channel OrderPlaced) :
    ServedBy storage pay (.pay request) s (pay request) s
  | announce (event : OrderPlaced) (t : σ) (channel : Channel OrderPlaced) :
    ServedBy storage pay (.announce event) (t, channel) () (t, World.offerAll channel event)

/-- A run of a visit. -/
abbrev Visit.Runs {σ : Type} (visit : Visit) (storage : Outside Storage.interface σ) (shop : Shop)
    (s : σ × Channel OrderPlaced) (trace : List (Exchange interface)) (r : Except ShopError Response)
    (s' : σ × Channel OrderPlaced) : Prop :=
  Program.Runs (ServedBy storage visit.pay) (visit.request.perform shop visit.moment visit.user).run s trace
    r s'

/-- Visits one after the other, with the outcome of each and what the storage and the channel have become. -/
inductive Session {σ : Type} (storage : Outside Storage.interface σ) (shop : Shop) :
    List Visit → σ × Channel OrderPlaced →
      List (Except ShopError Response × σ × Channel OrderPlaced) → Prop where
  | closed (s : σ × Channel OrderPlaced) : Session storage shop [] s []
  | visit {visit : Visit} {later : List Visit} {s s' : σ × Channel OrderPlaced}
    {trace : List (Exchange interface)} {r : Except ShopError Response}
    {outcomes : List (Except ShopError Response × σ × Channel OrderPlaced)}
    (run : visit.Runs storage shop s trace r s') (rest : Session storage shop later s' outcomes) :
    Session storage shop (visit :: later) s ((r, s') :: outcomes)

variable {σ α β : Type} {storage : Outside Storage.interface σ} {shop : Shop} {moment : Moment}
  {user : UserId} {pay : PaymentRequest → Except ProviderError String}

/-- Where the storage answers every call, every call is answered. -/
theorem ServedBy.total (htotal : ∀ request t, ∃ a t', storage request t a t')
    (pay : PaymentRequest → Except ProviderError String) :
    ∀ request s, ∃ answer s', ServedBy storage pay request s answer s' := by
  rintro request ⟨t, channel⟩
  cases request with
  | storage request =>
    obtain ⟨a, t', hserved⟩ := htotal request t
    exact ⟨a, (t', channel), .storage hserved channel⟩
  | pay request => exact ⟨pay request, (t, channel), .pay request _⟩
  | announce event => exact ⟨(), _, .announce event t channel⟩

/-- A storage that answers every call can serve all visits. -/
theorem exists_session (htotal : ∀ request t, ∃ a t', storage request t a t') (shop : Shop)
    (visits : List Visit) (s : σ × Channel OrderPlaced) :
    ∃ outcomes, Session storage shop visits s outcomes := by
  induction visits generalizing s with
  | nil => exact ⟨[], .closed s⟩
  | cons visit visits ih =>
    obtain ⟨trace, r, s', hrun⟩ := Program.exists_runs (ServedBy.total htotal visit.pay)
      (visit.request.perform shop visit.moment visit.user).run s
    obtain ⟨outcomes, hrest⟩ := ih s'
    exact ⟨_, .visit hrun hrest⟩

/-! ## A storage that keeps its contract -/

variable {mayFail : Storage.Call → Prop} {s s₁ s₂ : Memory × Channel OrderPlaced}
  {trace trace' : List (Exchange interface)}

/-- On a storage that keeps its contract a run is a run in a scene. -/
theorem runs_of_servedBy {operation : Operation α} {r : Except ShopError α}
    (h : Program.Runs (ServedBy (Contract mayFail) pay) operation.run s trace r s₁) :
    Runs mayFail operation ⟨s.1, s.2⟩ trace r ⟨s₁.1, s₁.2⟩ := by
  refine h.image (fun s => (⟨s.1, s.2⟩ : Scene)) fun request s a s' hserved => ?_
  cases hserved with
  | storage served channel => exact .storage served channel
  | pay request s => exact .pay request _ _
  | announce event t channel => exact .announce event ⟨t, channel⟩

/-! ## Programs to which the order of a listing does not matter -/

/-- However the keys of a listing are ordered, the program goes on alike. -/
inductive Steady : Program interface α → Prop where
  | done (a : α) : Steady (.done a)
  | storage {request : Storage.Call} {next : request.Answer → Program interface α}
    (alike : ∀ a b, SameTold request a b → next a = next b) (rest : ∀ a, Steady (next a)) :
    Steady (.call (.storage request) next)
  | pay {request : PaymentRequest} {next : Except ProviderError String → Program interface α}
    (rest : ∀ a, Steady (next a)) : Steady (.call (.pay request) next)
  | announce {event : OrderPlaced} {next : Unit → Program interface α} (rest : ∀ a, Steady (next a)) :
    Steady (.call (.announce event) next)

/-- Where no call fails, such a program comes to one end only. -/
theorem Steady.unique {p : Program interface α} {a b : α} (h : Steady p)
    (run : Program.Runs (ServedBy (Contract fun _ => False) pay) p s trace a s₁)
    (run' : Program.Runs (ServedBy (Contract fun _ => False) pay) p s trace' b s₂) :
    a = b ∧ s₁ = s₂ := by
  induction h generalizing s trace trace' with
  | done a =>
    obtain ⟨-, rfl, rfl⟩ := Program.runs_done_iff.1 run
    obtain ⟨-, rfl, rfl⟩ := Program.runs_done_iff.1 run'
    exact ⟨rfl, rfl⟩
  | storage alike _ ih =>
    obtain ⟨answer, rest, t, -, hserved, hrest⟩ := Program.runs_call_iff.1 run
    obtain ⟨answer', rest', t', -, hserved', hrest'⟩ := Program.runs_call_iff.1 run'
    cases hserved with
    | storage served channel =>
      cases hserved' with
      | storage served' _ =>
        obtain ⟨hsame, rfl⟩ := served.unique served'
        rw [← alike _ _ hsame] at hrest'
        exact ih _ hrest hrest'
  | pay _ ih =>
    obtain ⟨answer, rest, t, -, hserved, hrest⟩ := Program.runs_call_iff.1 run
    obtain ⟨answer', rest', t', -, hserved', hrest'⟩ := Program.runs_call_iff.1 run'
    cases hserved
    cases hserved'
    exact ih _ hrest hrest'
  | announce _ ih =>
    obtain ⟨answer, rest, t, -, hserved, hrest⟩ := Program.runs_call_iff.1 run
    obtain ⟨answer', rest', t', -, hserved', hrest'⟩ := Program.runs_call_iff.1 run'
    cases hserved
    cases hserved'
    exact ih _ hrest hrest'

namespace Steady

theorem bind_run {p : Program interface α} {f : α → Program interface β} (hp : Steady p)
    (hf : ∀ a, Steady (f a)) : Steady (p >>= f) := by
  induction hp with
  | done a => exact hf a
  | storage alike _ ih =>
    refine .storage (fun a b hsame => ?_) ih
    rw [alike a b hsame]
  | pay _ ih => exact .pay ih
  | announce _ ih => exact .announce ih

theorem pure (a : α) : Steady (pure a : Operation α).run := .done _

theorem throw (e : ShopError) : Steady (throw e : Operation α).run := .done _

theorem bind {x : Operation α} {f : α → Operation β} (hx : Steady x.run) (hf : ∀ a, Steady (f a).run) :
    Steady (x >>= f).run := by
  rw [ExceptT.run_bind]
  refine hx.bind_run fun r => ?_
  cases r with
  | error e => exact .done _
  | ok a => exact hf a

theorem map {x : Operation α} (hx : Steady x.run) (f : α → β) : Steady (f <$> x).run := by
  rw [map_eq_pure_bind]
  exact hx.bind fun a => pure (f a)

/-- A call that lists no keys. -/
theorem onStorage {request : Storage.Call} (hsingle : ∀ a b, SameTold request a b → a = b) :
    Steady (onStorage request).run := by
  refine .storage (fun a b hsame => ?_) fun a => .done _
  rw [hsingle a b hsame]

theorem get (key : String) : Steady (Shop.onStorage (.get key)).run := onStorage fun _ _ h => by cases h; rfl

theorem put (key : String) (data : ByteArray) : Steady (Shop.onStorage (.put key data)).run :=
  onStorage fun _ _ h => by cases h; rfl

theorem delete (key : String) : Steady (Shop.onStorage (.delete key)).run :=
  onStorage fun _ _ h => by cases h; rfl

/-- A listing whose keys are taken together. -/
theorem list {f : List String → Operation α} (start : String)
    (halike : ∀ keys keys' : List String, keys.Perm keys' → f keys = f keys')
    (hf : ∀ keys, Steady (f keys).run) : Steady (Shop.onStorage (.list start) >>= f).run := by
  refine .storage (fun a b hsame => ?_) fun a => ?_
  · cases hsame with
    | refl => rfl
    | keys perm =>
      show (f _).run = (f _).run
      rw [halike _ _ perm]
  · cases a with
    | error e => exact .done _
    | ok keys => exact hf keys

theorem askProvider (request : PaymentRequest) : Steady (askProvider request).run :=
  .pay fun _ => .done _

theorem announceOrder (event : OrderPlaced) : Steady (Shop.announce event).run :=
  .announce fun _ => .done _

theorem readDocument (α : Type) [Document α] (key : String) : Steady (readDocument α key).run := by
  refine (get key).bind fun found => ?_
  split
  · exact pure none
  · split
    · exact pure _
    · exact throw _

theorem cart (user : UserId) : Steady (Shop.cart user).run :=
  (readDocument Cart _).bind fun _ => pure _

theorem addToCart (now : Timestamp) (user : UserId) (sku : String) :
    Steady (addToCart shop now user sku).run := by
  unfold Shop.addToCart
  split
  · exact throw _
  · exact (cart user).bind fun old => (put _ _).bind fun _ => pure _

/-- The greatest number is found whatever the order of the keys. -/
theorem nextOrderId (user : UserId) : Steady (nextOrderId user).run := by
  refine list _ (fun keys keys' hperm => ?_) fun keys => ?_
  · have hgreatest : orderNumbering.greatest? keys = orderNumbering.greatest? keys' :=
      Storage.Numbering.greatest?_congr fun key _ => hperm.mem_iff
    rw [hgreatest]
  · dsimp only
    split
    · exact pure _
    · exact throw _

theorem resolve (payType : PayType) (account : String) (order : Order) :
    Steady (resolve moment payType account order).run := by
  unfold Shop.resolve
  split
  · exact pure _
  · split
    · unfold resolveOnChain
      split
      · refine (askProvider _).bind fun answer => ?_
        cases answer <;> exact pure _
      · exact pure _
    · unfold resolveLightning
      split
      · split
        · exact pure _
        · refine (askProvider _).bind fun answer => ?_
          cases answer <;> exact pure _
      · exact pure _
    · exact pure _

theorem placeOrder (shop : Shop) (moment : Moment) (user : UserId) :
    Steady (placeOrder shop moment user).run := by
  refine (cart user).bind fun held => ?_
  split
  · exact pure _
  · refine (nextOrderId user).bind fun id => (resolve _ _ _).bind fun resolution => ?_
    refine bind ?_ fun _ => pure _
    exact (put _ _).bind fun _ => (delete _).bind fun _ => announceOrder _

theorem renderPage (template : String) (data : Json) : Steady (renderPage shop template data).run := by
  rw [renderPage_eq]
  exact .done _

theorem fetch_direct {request : Request} {path : List String} (h : request.direct = .fetch path) :
    Steady (Shop.fetch shop moment user path).run := by
  unfold Shop.fetch
  rcases Request.ofPath_of_direct h with hresource | ⟨sku, hresource⟩ | hresource
  · rw [hresource]
    exact renderPage _ _
  · rw [hresource]
    simp only [fetchResource]
    split
    · exact renderPage _ _
    · exact pure _
  · rw [hresource]
    exact pure _

end Steady

/-! ## One visit -/

variable {cart : Cart} {orders : List Order} {r r' : Except ShopError Response} {request : Request}

/-- Where no call fails, a visit of a buyer whose books are in order has one outcome only. -/
theorem Books.perform_unique (books : Books s.1 user cart orders)
    (run : Program.Runs (ServedBy (Contract fun _ => False) pay) (request.perform shop moment user).run s
      trace r s₁)
    (run' : Program.Runs (ServedBy (Contract fun _ => False) pay) (request.perform shop moment user).run s
      trace' r' s₂) : r = r' ∧ s₁ = s₂ := by
  obtain ⟨r₀, rfl, hrun⟩ := runs_perform_direct run
  obtain ⟨r₀', rfl, hrun'⟩ := runs_perform_direct run'
  suffices hsame : r₀ = r₀' ∧ s₁ = s₂ by
    rw [hsame.1, hsame.2]
    exact ⟨rfl, rfl⟩
  have hsteady : Steady (request.direct.perform shop moment user).run → r₀ = r₀' ∧ s₁ = s₂ :=
    fun h => h.unique hrun hrun'
  cases hdirect : request.direct with
  | add sku =>
    rw [hdirect] at hsteady
    exact hsteady ((Steady.addToCart _ _ _).map _)
  | place =>
    rw [hdirect] at hsteady
    exact hsteady ((Steady.placeOrder _ _ _).map _)
  | cart =>
    rw [hdirect] at hsteady
    exact hsteady ((Steady.cart _).map _)
  | fetch path =>
    rw [hdirect] at hsteady
    exact hsteady ((Steady.fetch_direct hdirect).map _)
  | orders =>
    -- the keys are fetched in the order in which they come, but the orders are sorted in the end
    rw [hdirect] at hrun hrun'
    obtain ⟨found, rfl, hfound⟩ := Program.runs_except_map_iff.1 (runs_of_servedBy hrun)
    obtain ⟨found', rfl, hfound'⟩ := Program.runs_except_map_iff.1 (runs_of_servedBy hrun')
    obtain ⟨hs, rfl⟩ := books.runs_orders hfound
    obtain ⟨hs', rfl⟩ := books.runs_orders hfound'
    refine ⟨rfl, ?_⟩
    injection hs.trans hs'.symm with hdocuments hchannel
    exact Prod.ext hdocuments hchannel

theorem pageOf_ne_storage (template : String) (data : Json) (e : StorageError) :
    shop.pageOf template data ≠ .error (.storage e) := by
  unfold pageOf
  cases shop.render template data <;> rintro ⟨⟩

theorem answer_ne_storage (request : Request) (response : Response) (e : StorageError) :
    request.answer shop response ≠ .error (.storage e) := by
  have hpage : response.page shop ≠ .error (.storage e) := by
    cases response with
    | added | cart | orders => exact pageOf_ne_storage _ _ e
    | placement placement =>
      cases placement with
      | emptyCart => rintro ⟨⟩
      | placed order message => exact pageOf_ne_storage _ _ e
    | reply made => rintro ⟨⟩
  cases request with
  | add | place | cart | orders => rintro ⟨⟩
  | fetch path =>
    intro h
    simp only [Request.answer] at h
    cases hresponse : response.page shop with
    | error cause =>
      rw [hresponse] at h hpage
      cases h
      exact hpage rfl
    | ok reply =>
      rw [hresponse] at h
      cases h

theorem map_ne_storage {r : Except ShopError α} {e : StorageError} (h : r ≠ .error (.storage e))
    (f : α → Response) : r.map f ≠ .error (.storage e) := by
  cases r with
  | error cause =>
    rintro ⟨⟩
    exact h rfl
  | ok a => rintro ⟨⟩

/-- What is fetched without an operation asks the storage for nothing. -/
theorem fetch_direct_ne_storage {path : List String} {before after : Scene} {r : Except ShopError Reply}
    (hdirect : request.direct = .fetch path)
    (run : Runs (fun _ => False) (Shop.fetch shop moment user path) before trace r after)
    (e : StorageError) : r ≠ .error (.storage e) := by
  have hrender : ∀ {template : String} {data : Json},
      Runs (fun _ => False) (renderPage shop template data) before trace r after →
        r ≠ .error (.storage e) := by
    intro template data hrender
    obtain ⟨-, -, ⟨body, rfl⟩ | ⟨cause, rfl⟩⟩ := runs_renderPage hrender <;> rintro ⟨⟩
  unfold Shop.fetch at run
  rcases Request.ofPath_of_direct hdirect with hresource | ⟨sku, hresource⟩ | hresource
  · rw [hresource] at run
    exact hrender run
  · rw [hresource] at run
    simp only [fetchResource] at run
    split at run
    · exact hrender run
    · obtain ⟨-, rfl, -⟩ := Program.runs_pure_iff.1 run
      rintro ⟨⟩
  · rw [hresource] at run
    obtain ⟨-, rfl, -⟩ := Program.runs_pure_iff.1 run
    rintro ⟨⟩

/-- Where no call fails, no operation of a buyer whose books are in order returns a failure of the storage. -/
theorem Books.direct_ne_storage {before after : Scene} (books : Books before.documents user cart orders)
    (run : Runs (fun _ => False) (request.direct.perform shop moment user) before trace r after)
    (e : StorageError) : r ≠ .error (.storage e) := by
  cases hdirect : request.direct with
  | add sku =>
    rw [hdirect] at run
    obtain ⟨r₁, rfl, hadd⟩ := Program.runs_except_map_iff.1 run
    refine map_ne_storage ?_ _
    cases runs_addToCart hadd with
    | unknown | added => rintro ⟨⟩
    | corrupt unreadable => exact nomatch unreadable.symm.trans books.held
    | unfetched may | unwritten may => exact may.elim
  | place =>
    rw [hdirect] at run
    obtain ⟨r₁, rfl, hplace⟩ := Program.runs_except_map_iff.1 run
    refine map_ne_storage ?_ _
    cases runs_placeOrder hplace with
    | emptyCart | exhausted | placed => rintro ⟨⟩
    | corrupt unreadable => exact nomatch unreadable.symm.trans books.held
    | unfetched may | unlisted may => exact may.elim
    | unwritten _ may | undeleted _ may => exact may.elim
  | cart =>
    rw [hdirect] at run
    obtain ⟨r₁, rfl, hcart⟩ := Program.runs_except_map_iff.1 run
    obtain ⟨-, rfl⟩ := books.runs_cart hcart
    rintro ⟨⟩
  | orders =>
    rw [hdirect] at run
    obtain ⟨r₁, rfl, horders⟩ := Program.runs_except_map_iff.1 run
    obtain ⟨-, rfl⟩ := books.runs_orders horders
    rintro ⟨⟩
  | fetch path =>
    rw [hdirect] at run
    obtain ⟨r₁, rfl, hfetch⟩ := Program.runs_except_map_iff.1 run
    exact map_ne_storage (fetch_direct_ne_storage hdirect hfetch e) _

/-- Nor does a visit. -/
theorem Books.perform_ne_storage (books : Books s.1 user cart orders)
    (run : Program.Runs (ServedBy (Contract fun _ => False) pay) (request.perform shop moment user).run s
      trace r s₁) (e : StorageError) : r ≠ .error (.storage e) := by
  obtain ⟨r₀, rfl, hoperation⟩ := runs_perform_direct run
  have hreturned := books.direct_ne_storage (runs_of_servedBy hoperation) e
  cases r₀ with
  | error cause =>
    rintro ⟨⟩
    exact hreturned rfl
  | ok response => exact answer_ne_storage request response e

end Storefront.Shop
