import Storefront.Proofs.Shop.Asking
import Storefront.Proofs.Shop.Returned

/-!
# The parts of placing an order

Placing an order reads the cart, finds a number, finds out how the order is to be paid, and stores and
announces it, in this order. What each part calls is told here for any outside, so that it can be said of a
placement which provider it has asked, and of an announcement what has been stored by then.
-/

namespace Storefront.Shop

variable {α σ : Type} {serve : Outside interface σ} {s s' : σ} {trace : List (Exchange interface)}
  {shop : Shop} {moment : Moment} {user : UserId} {payType : PayType} {account : String} {order : Order}
  {message : String}

/-! ## What a trace tells of payments and announcements -/

/-- What the payment providers were asked for, and what they answered. -/
def payments (trace : List (Exchange interface)) : List (PaymentRequest × Except ProviderError String) :=
  trace.filterMap fun
    | ⟨.pay request, (a : Except ProviderError String)⟩ => some (request, a)
    | _ => none

/-- What was announced. -/
def announced (trace : List (Exchange interface)) : List OrderPlaced :=
  trace.filterMap fun
    | ⟨.announce event, _⟩ => some event
    | _ => none

@[simp] theorem payments_append (first second : List (Exchange interface)) :
    payments (first ++ second) = payments first ++ payments second := List.filterMap_append

@[simp] theorem announced_append (first second : List (Exchange interface)) :
    announced (first ++ second) = announced first ++ announced second := List.filterMap_append

theorem payments_of_onStorage (h : ∀ exchange ∈ trace, OnStorage exchange) : payments trace = [] := by
  refine List.filterMap_eq_nil_iff.2 fun exchange hmem => ?_
  cases h exchange hmem
  rfl

theorem announced_of_onStorage (h : ∀ exchange ∈ trace, OnStorage exchange) : announced trace = [] := by
  refine List.filterMap_eq_nil_iff.2 fun exchange hmem => ?_
  cases h exchange hmem
  rfl

/-! ## Settling -/

/-- What a provider is asked about an order, if one is. -/
def asked? (moment : Moment) (payType : PayType) (account : String) (order : Order) :
    Option PaymentRequest :=
  if (obstacle? moment order).isSome then none
  else match payType with
    | .onChain => if moment.hasWallet then some (.address order.user account) else none
    | .lightningNetwork =>
      if moment.hasNode then order.settlementTotal.toMilliAtoms?.map (.invoice · (memo order)) else none
    | .manual => none

theorem obstacle?_unattached (h : moment.quote = .unattached) (order : Order) :
    obstacle? moment order = some .noRateProvider := by
  unfold obstacle?
  rw [h]

theorem obstacle?_eq_none {rate : Binary64} (hrate : order.exchangeRate = some rate)
    (husable : ExchangeRate.isUsable rate = true) (hzero : order.settlementTotal.isZero = false)
    (hattached : moment.quote ≠ .unattached) : obstacle? moment order = none := by
  have hunusable : ¬ (order.exchangeRate.map ExchangeRate.isUsable).getD false = false := by
    rw [hrate]
    simpa using husable
  unfold obstacle?
  split
  · next hquote => exact absurd hquote hattached
  · rw [if_neg hunusable, hzero]
    rfl

/-- Without a source of rates nothing is arranged. -/
theorem resolve_unattached (h : moment.quote = .unattached) (payType : PayType) (account : String)
    (order : Order) : resolve moment payType account order = pure (.unavailable .noRateProvider) := by
  unfold resolve
  rw [obstacle?_unattached h]

/-- An order of which a provider was asked, once it has answered. -/
def settledBy (payType : PayType) (order : Order) : Except ProviderError String → Order
  | .ok text => { order with payType := payType, invoice := some text }
  | .error _ => order

/-- The calls that settle an order, and what they make of it. -/
inductive Settles (moment : Moment) (payType : PayType) (account : String) (order : Order) :
    List (Exchange interface) → Resolution → Prop where
  | unasked {resolution : Resolution} (unasked : asked? moment payType account order = none)
    (same : resolution.apply order = order) : Settles moment payType account order [] resolution
  | asked {request : PaymentRequest} (asked : asked? moment payType account order = some request)
    (answer : Except ProviderError String) {resolution : Resolution}
    (settled : resolution.apply order = settledBy payType order answer) :
    Settles moment payType account order [⟨.pay request, answer⟩] resolution

/-- Asking a provider and making a value of its answer. -/
theorem runs_askProvider_map {request : PaymentRequest} {f : Except ProviderError String → Operation α}
    {g : Except ProviderError String → α} (hf : ∀ answer, f answer = pure (g answer))
    {r : Except ShopError α} (run : Program.Runs serve (askProvider request >>= f).run s trace r s') :
    ∃ answer, trace = [⟨.pay request, answer⟩] ∧ r = .ok (g answer) := by
  obtain ⟨(answer : Except ProviderError String), rest, s₁, rfl, -, hrest⟩ := Program.runs_call_iff.1 run
  have hdone : Program.Runs serve (f answer).run s₁ rest r s' := hrest
  rw [hf] at hdone
  obtain ⟨rfl, rfl, -⟩ := Program.runs_pure_iff.1 hdone
  exact ⟨answer, rfl, rfl⟩

theorem runs_resolve_settles {r : Except ShopError Resolution}
    (run : Program.Runs serve (resolve moment payType account order).run s trace r s') :
    ∃ resolution, r = .ok resolution ∧ Settles moment payType account order trace resolution := by
  have hpure : ∀ {resolution : Resolution}, asked? moment payType account order = none →
      resolution.apply order = order → Program.Runs serve (pure resolution : Operation _).run s trace r s' →
        ∃ resolution, r = .ok resolution ∧ Settles moment payType account order trace resolution := by
    intro resolution hunasked hsame hdone
    obtain ⟨rfl, rfl, -⟩ := Program.runs_pure_iff.1 hdone
    exact ⟨resolution, rfl, .unasked hunasked hsame⟩
  unfold resolve at run
  cases hobstacle : obstacle? moment order with
  | some reason =>
    rw [hobstacle] at run
    exact hpure (by simp [asked?, hobstacle]) rfl run
  | none =>
    rw [hobstacle] at run
    cases payType with
    | manual => exact hpure (by simp [asked?, hobstacle]) rfl run
    | onChain =>
      dsimp only at run
      unfold resolveOnChain at run
      by_cases hwallet : moment.hasWallet = true
      · rw [if_pos hwallet] at run
        have hasked : asked? moment .onChain account order = some (.address order.user account) := by
          simp [asked?, hobstacle, hwallet]
        obtain ⟨answer, rfl, rfl⟩ := runs_askProvider_map (g := fun
          | .ok address => .onChain address
          | .error e => .unavailable (.addressFailed e.message)) (fun answer => by cases answer <;> rfl) run
        exact ⟨_, rfl, .asked hasked answer (by cases answer <;> rfl)⟩
      · rw [if_neg hwallet] at run
        exact hpure (by simp [asked?, hobstacle, hwallet]) rfl run
    | lightningNetwork =>
      dsimp only at run
      unfold resolveLightning at run
      by_cases hnode : moment.hasNode = true
      · rw [if_pos hnode] at run
        cases hamount : order.settlementTotal.toMilliAtoms? with
        | none =>
          rw [hamount] at run
          exact hpure (by simp [asked?, hobstacle, hamount]) rfl run
        | some milliAtoms =>
          rw [hamount] at run
          have hasked : asked? moment .lightningNetwork account order =
              some (.invoice milliAtoms (memo order)) := by
            simp [asked?, hobstacle, hnode, hamount]
          obtain ⟨answer, rfl, rfl⟩ := runs_askProvider_map (g := fun
            | .ok invoice => .lightning invoice
            | .error e => .unavailable (.invoiceFailed e.message)) (fun answer => by cases answer <;> rfl) run
          exact ⟨_, rfl, .asked hasked answer (by cases answer <;> rfl)⟩
      · rw [if_neg hnode] at run
        exact hpure (by simp [asked?, hobstacle, hnode]) rfl run

/-! ## Storing and announcing -/

/-- The calls that store and announce an order, and how they end. -/
inductive Commits (order : Order) (message : String) :
    List (Exchange interface) → Except ShopError Unit → Prop where
  | unwritten (e : StorageError) :
    Commits order message
      [⟨.storage (.put (orderKey order.user order.id) (Document.encode order)), .error e⟩]
      (.error (.storage e))
  | undeleted (e : StorageError) :
    Commits order message
      [⟨.storage (.put (orderKey order.user order.id) (Document.encode order)), .ok ()⟩,
        ⟨.storage (.delete (cartKey order.user)), .error e⟩] (.error (.storage e))
  | announced (found : Bool) :
    Commits order message
      [⟨.storage (.put (orderKey order.user order.id) (Document.encode order)), .ok ()⟩,
        ⟨.storage (.delete (cartKey order.user)), .ok found⟩, ⟨.announce ⟨order, message⟩, ()⟩] (.ok ())

/-- A call on the storage makes one exchange, and its answer is the outcome. -/
theorem runs_onStorage_answer {request : Storage.Call} {r : Except ShopError request.Result}
    (run : Program.Runs serve (onStorage request).run s trace r s') :
    ∃ answer : request.Answer, trace = [⟨.storage request, answer⟩] ∧ r = answer.mapError .storage := by
  obtain ⟨answer, rest, s₁, rfl, -, hdone⟩ := Program.runs_call_iff.1 run
  obtain ⟨rfl, rfl, -⟩ := Program.runs_done_iff.1 hdone
  exact ⟨answer, rfl, rfl⟩

theorem runs_commit_commits {r : Except ShopError Unit}
    (run : Program.Runs serve (commit order message).run s trace r s') : Commits order message trace r := by
  rcases Program.runs_except_bind_iff.1 run with
    ⟨e, rfl, hput⟩ | ⟨first, rest, u, s₁, rfl, hput, hrest⟩
  · obtain ⟨answer, rfl, he⟩ := runs_onStorage_answer hput
    obtain ⟨cause, rfl, rfl⟩ := Program.mapError_eq_error_iff.1 he.symm
    exact .unwritten cause
  · obtain ⟨answer, rfl, hok⟩ := runs_onStorage_answer hput
    obtain rfl := Program.mapError_eq_ok_iff.1 hok.symm
    rcases Program.runs_except_bind_iff.1 hrest with
      ⟨e, rfl, hdelete⟩ | ⟨second, third, found, s₂, rfl, hdelete, hannounce⟩
    · obtain ⟨answer, rfl, he⟩ := runs_onStorage_answer hdelete
      obtain ⟨cause, rfl, rfl⟩ := Program.mapError_eq_error_iff.1 he.symm
      exact .undeleted cause
    · obtain ⟨answer, rfl, hok⟩ := runs_onStorage_answer hdelete
      obtain rfl := Program.mapError_eq_ok_iff.1 hok.symm
      obtain ⟨⟨⟩, rest, s₃, rfl, -, hdone⟩ := Program.runs_call_iff.1 hannounce
      obtain ⟨rfl, rfl, -⟩ := Program.runs_done_iff.1 hdone
      exact .announced found

/-- What could not be stored is not announced. -/
theorem announced_eq_of_commits {e : ShopError} (h : Commits order message trace (.error e)) :
    announced trace = [] := by
  cases h <;> rfl

/-- The announcement is the last call. -/
theorem last_eq_of_commits {u : Unit} (h : Commits order message trace (.ok u)) :
    ∃ before, announced before = [] ∧ trace = before ++ [⟨.announce ⟨order, message⟩, ()⟩] := by
  cases h with
  | announced found => exact ⟨[_, _], rfl, rfl⟩

/-! ## The whole -/

/-- The parts of a run that places an order: each one that was come to, and the first that failed. -/
inductive PlacingParts (serve : Outside interface σ) (shop : Shop) (moment : Moment) (user : UserId) (s : σ) :
    List (Exchange interface) → Except ShopError Placement → σ → Prop where
  /-- There is no cart. -/
  | unread {trace : List (Exchange interface)} {e : ShopError} {s' : σ}
    (read : Program.Runs serve (cart user).run s trace (.error e) s') :
    PlacingParts serve shop moment user s trace (.error e) s'
  /-- There is nothing in the cart. -/
  | emptyCart {trace : List (Exchange interface)} {held : Cart} {s' : σ}
    (read : Program.Runs serve (cart user).run s trace (.ok held) s') (isEmpty : held.isEmpty = true) :
    PlacingParts serve shop moment user s trace (.ok .emptyCart) s'
  /-- There is no number for the order. -/
  | unnumbered {first second : List (Exchange interface)} {held : Cart} {e : ShopError} {s₁ s' : σ}
    (read : Program.Runs serve (cart user).run s first (.ok held) s₁) (filled : held.isEmpty = false)
    (number : Program.Runs serve (nextOrderId user).run s₁ second (.error e) s') :
    PlacingParts serve shop moment user s (first ++ second) (.error e) s'
  /-- The order is settled, and is then stored and announced as far as that goes. -/
  | settled {first second third fourth : List (Exchange interface)} {held : Cart} {id : OrderId}
    {resolution : Resolution} {r : Except ShopError Unit} {s₁ s₂ s₃ s' : σ}
    (read : Program.Runs serve (cart user).run s first (.ok held) s₁) (filled : held.isEmpty = false)
    (number : Program.Runs serve (nextOrderId user).run s₁ second (.ok id) s₂)
    (resolves : Program.Runs serve (resolve moment shop.config.payType shop.config.account
      (shop.draft moment user held id)).run s₂ third (.ok resolution) s₃)
    (commits : Program.Runs serve (commit (resolution.apply (shop.draft moment user held id))
      (Confirmation.text (resolution.apply (shop.draft moment user held id)) resolution)).run s₃ fourth r s') :
    PlacingParts serve shop moment user s (first ++ (second ++ (third ++ fourth)))
      (r.map fun _ => .placed (resolution.apply (shop.draft moment user held id))
        (Confirmation.text (resolution.apply (shop.draft moment user held id)) resolution)) s'

theorem runs_placeOrder_parts {r : Except ShopError Placement}
    (run : Program.Runs serve (placeOrder shop moment user).run s trace r s') :
    PlacingParts serve shop moment user s trace r s' := by
  rcases Program.runs_except_bind_iff.1 run with
    ⟨e, rfl, hread⟩ | ⟨first, rest, held, s₁, rfl, hread, hrest⟩
  · exact .unread hread
  · by_cases hempty : held.isEmpty = true
    · rw [if_pos hempty] at hrest
      obtain ⟨rfl, rfl, rfl⟩ := Program.runs_pure_iff.1 hrest
      rw [List.append_nil]
      exact .emptyCart hread hempty
    · rw [if_neg hempty] at hrest
      have hfilled := eq_false_of_ne_true hempty
      rcases Program.runs_except_bind_iff.1 hrest with
        ⟨e, rfl, hnumber⟩ | ⟨second, rest, id, s₂, rfl, hnumber, hrest⟩
      · exact .unnumbered hread hfilled hnumber
      · rcases Program.runs_except_bind_iff.1 hrest with
          ⟨e, rfl, hresolve⟩ | ⟨third, rest, resolution, s₃, rfl, hresolve, hrest⟩
        · obtain ⟨resolution, he, -⟩ := runs_resolve_settles hresolve
          cases he
        · rcases Program.runs_except_bind_iff.1 hrest with
            ⟨e, rfl, hcommit⟩ | ⟨fourth, rest, u, s₄, rfl, hcommit, hdone⟩
          · exact .settled hread hfilled hnumber hresolve hcommit
          · obtain ⟨rfl, rfl, rfl⟩ := Program.runs_pure_iff.1 hdone
            rw [List.append_nil]
            exact .settled hread hfilled hnumber hresolve hcommit

/-- An order that is placed is what settling the next one has made of it, and is told of in the message. -/
theorem parts_of_placed
    (run : Program.Runs serve (placeOrder shop moment user).run s trace (.ok (.placed order message)) s') :
    ∃ first second third held id resolution s₁ s₂ s₃,
      Program.Runs serve (cart user).run s first (.ok held) s₁ ∧
      Program.Runs serve (nextOrderId user).run s₁ second (.ok id) s₂ ∧
      Program.Runs serve (resolve moment shop.config.payType shop.config.account
        (shop.draft moment user held id)).run s₂ third (.ok resolution) s₃ ∧
      order = resolution.apply (shop.draft moment user held id) ∧
      message = Confirmation.text order resolution ∧ third ⊆ trace := by
  generalize hr : (Except.ok (.placed order message) : Except ShopError Placement) = r at run
  cases runs_placeOrder_parts run with
  | unread | emptyCart | unnumbered => cases hr
  | @settled first second third _ held id resolution r _ _ _ _ read _ number resolves _ =>
    cases r with
    | error e => cases hr
    | ok u =>
      cases hr
      refine ⟨first, second, third, held, id, resolution, _, _, _, read, number, resolves, rfl, rfl, ?_⟩
      intro exchange hmem
      simp only [List.mem_append, hmem, true_or, or_true]

/-- An order that is placed is announced by the last call, and no other one is. -/
theorem announces_of_placeOrder {r : Except ShopError Placement}
    (run : Program.Runs serve (placeOrder shop moment user).run s trace r s') :
    (announced trace = [] ∧ ∀ order message, r ≠ .ok (.placed order message)) ∨
      ∃ order message before, r = .ok (.placed order message) ∧ announced before = [] ∧
        trace = before ++ [⟨.announce ⟨order, message⟩, ()⟩] := by
  have hread := fun {trace r s'} (read : Program.Runs serve (cart user).run s trace r s') =>
    announced_of_onStorage ((LookOnly.cart user).storageOnly.onStorage_of_mem read)
  have hnumber := fun {s trace r s'} (number : Program.Runs serve (nextOrderId user).run s trace r s') =>
    announced_of_onStorage ((LookOnly.nextOrderId user).storageOnly.onStorage_of_mem number)
  cases runs_placeOrder_parts run with
  | unread read => exact .inl ⟨hread read, fun _ _ h => by cases h⟩
  | emptyCart read => exact .inl ⟨hread read, fun _ _ h => by cases h⟩
  | unnumbered read _ number =>
    refine .inl ⟨?_, fun _ _ h => by cases h⟩
    rw [announced_append, hread read, hnumber number, List.append_nil]
  | @settled first second third fourth _ _ _ r _ _ _ _ read _ number resolves commits =>
    have hbefore : announced (first ++ (second ++ third)) = [] := by
      obtain ⟨_, -, hsettles⟩ := runs_resolve_settles resolves
      rw [announced_append, announced_append, hread read, hnumber number]
      cases hsettles <;> rfl
    have hcommits := runs_commit_commits commits
    have hparts : first ++ (second ++ (third ++ fourth)) = (first ++ (second ++ third)) ++ fourth := by
      simp only [List.append_assoc]
    rw [hparts]
    cases r with
    | error e =>
      refine .inl ⟨?_, fun _ _ h => by cases h⟩
      rw [announced_append, hbefore, announced_eq_of_commits hcommits, List.append_nil]
    | ok u =>
      obtain ⟨before, hsilent, rfl⟩ := last_eq_of_commits hcommits
      refine .inr ⟨_, _, (first ++ (second ++ third)) ++ before, rfl, ?_, (List.append_assoc _ _ _).symm⟩
      rw [announced_append, hbefore, hsilent, List.append_nil]

/-- A request places the cart, or it calls nothing but the storage. -/
theorem Request.direct_cases (shop : Shop) (moment : Moment) (user : UserId) (request : Request) :
    request.direct = .place ∨ StorageOnly (request.direct.perform shop moment user) := by
  cases hdirect : request.direct with
  | place => exact .inl rfl
  | add sku => exact .inr ((StorageOnly.addToCart _ _ _ _).map _)
  | cart => exact .inr ((LookOnly.cart _).storageOnly.map _)
  | orders => exact .inr ((LookOnly.orders _).storageOnly.map _)
  | fetch path => exact .inr ((look_direct hdirect).storageOnly.map _)

end Storefront.Shop
