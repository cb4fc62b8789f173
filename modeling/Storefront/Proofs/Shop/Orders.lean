import Storefront.Proofs.Shop.Carts
import Storefront.Shop.Orders

/-!
# What placing an order does

The number of a new order is one more than the greatest in the folder of its buyer, so its document is
new there. Placing an order ends in one of a few ways, which differ in the call that failed and in what
had been written by then.
-/

namespace Storefront.Shop

open Storage (Memory)
open Storage.Numbering (greatest?_congr number?_le_greatest?)

variable {mayFail : Storage.Call → Prop} {s s' : Scene} {trace : List (Exchange interface)}

/-! ## The next number -/

/-- The listing in which the greatest number is looked for. -/
def numberedListing (user : UserId) : Storage.Listing := ordersListing user orderNumbering.before

/-- The greatest number of an order of a buyer, zero if there is none. -/
def lastOrder (m : Memory) (user : UserId) : Nat :=
  (orderNumbering.greatest? (m.listed (numberedListing user))).getD 0

/-- The text that asks for the listing. -/
def numberedStart (user : UserId) : String := ordersFolder user ++ "/" ++ orderNumbering.before

theorem parse_numberedStart (user : UserId) :
    Storage.Listing.parse (numberedStart user) = .ok (numberedListing user) :=
  parse_ordersListing user orderNumbering.before (by decide) (by decide)

theorem orderKey_mem_listed_iff {m : Memory} {user : UserId} {id : OrderId} :
    orderKey user id ∈ m.listed (numberedListing user) ↔
      (m.get? (orderKey user id)).isSome = true := by
  rw [Memory.mem_listed_iff, numberedListing, shows_ordersListing_iff, and_iff_left_iff_imp]
  intro _
  refine ⟨_, rfl, slash_not_mem_orderName _, ?_⟩
  rw [Storage.Numbering.toList_name]
  exact List.prefix_append _ _

/-- Beyond the last order there is no document. -/
theorem get?_orderKey_of_lastOrder_lt {m : Memory} {user : UserId} {id : OrderId}
    (h : lastOrder m user < id.toNat) : m.get? (orderKey user id) = none := by
  cases hget : m.get? (orderKey user id) with
  | none => rfl
  | some data =>
    have hlisted : orderKey user id ∈ m.listed (numberedListing user) :=
      orderKey_mem_listed_iff.2 (by rw [hget]; rfl)
    have hle : id.toNat ≤ lastOrder m user :=
      number?_le_greatest? hlisted (number?_orderKey user id)
    omega

/-- The greatest number among some keys makes an id. -/
theorem toNat_lastId (keys : List String) :
    (⟨((orderNumbering.greatest? keys).getD 0).toUInt64⟩ : OrderId).toNat = (orderNumbering.greatest? keys).getD 0 :=
  UInt64.toNat_ofNat_of_lt' (orderNumbering.greatest?_lt keys)

/-- Finding the next number changes nothing. It gives the number behind the last one, tells that there
is none, or fails. -/
theorem runs_nextOrderId {user : UserId} {r : Except ShopError OrderId}
    (h : Runs mayFail (nextOrderId user) s trace r s') :
    s' = s ∧ written trace = [] ∧
      ((∃ id, failures trace = [] ∧ r = .ok id ∧ id.toNat = lastOrder s.documents user + 1) ∨
        (failures trace = [] ∧ r = .error (.overflow .add) ∧
          UInt64.size ≤ lastOrder s.documents user + 1) ∨
        ∃ e, mayFail (.list (numberedStart user)) ∧
          failures trace = [(.list (numberedStart user), e)] ∧ r = .error (.storage e)) := by
  rcases Program.runs_except_bind_iff.1 h with
    ⟨e, rfl, hlist⟩ | ⟨first, second, keys, s₁, rfl, hlist, hrest⟩
  · obtain ⟨rfl, hwritten, ⟨keys, -, he, -⟩ | ⟨e', may, hfail, he⟩⟩ :=
      runs_list (parse_numberedStart user) hlist
    · cases he
    · cases he
      exact ⟨rfl, hwritten, .inr (.inr ⟨e', may, hfail, rfl⟩)⟩
  · obtain ⟨rfl, hwritten, ⟨keys', hfail, hkeys, hperm⟩ | ⟨e', -, -, he⟩⟩ :=
      runs_list (parse_numberedStart user) hlist
    · cases hkeys
      have hlast : (orderNumbering.greatest? keys).getD 0 = lastOrder s₁.documents user := by
        rw [lastOrder, greatest?_congr fun key _ => hperm.mem_iff]
      have hnumber := toNat_lastId keys
      rw [hlast] at hnumber
      simp only [hlast] at hrest
      split at hrest
      · next id hid =>
        obtain ⟨rfl, rfl, rfl⟩ := Program.runs_pure_iff.1 hrest
        have hnext := OrderId.toNat_ofNat? (OrderId.next?_eq_ok_iff.1 hid)
        exact ⟨rfl, by simpa using hwritten,
          .inl ⟨id, by simpa using hfail, rfl, by rw [hnext, hnumber]⟩⟩
      · next hid =>
        obtain ⟨rfl, rfl, rfl⟩ := Program.runs_throw_iff.1 hrest
        obtain ⟨rfl, hnone⟩ := OrderId.next?_eq_error_iff.1 hid
        rw [hnumber] at hnone
        exact ⟨rfl, by simpa using hwritten,
          .inr (.inl ⟨by simpa using hfail, rfl, OrderId.ofNat?_eq_none_iff.1 hnone⟩)⟩
    · cases he

/-! ## Settling an order -/

theorem runs_askProvider_bind {α : Type} {request : PaymentRequest}
    {f : Except ProviderError String → Operation α} (hf : ∀ a, ∃ b, f a = pure b)
    {r : Except ShopError α} (h : Runs mayFail (askProvider request >>= f) s trace r s') :
    s' = s ∧ failures trace = [] ∧ written trace = [] ∧ ∃ b, r = .ok b := by
  rcases Program.runs_except_bind_iff.1 h with
    ⟨e, rfl, hask⟩ | ⟨first, second, a, s₁, rfl, hask, hrest⟩
  · obtain ⟨a, -, he, -⟩ := runs_askProvider hask
    cases he
  · obtain ⟨a', rfl, ha, rfl⟩ := runs_askProvider hask
    obtain ⟨b, hb⟩ := hf a
    rw [hb] at hrest
    obtain ⟨rfl, rfl, rfl⟩ := Program.runs_pure_iff.1 hrest
    exact ⟨rfl, rfl, rfl, b, rfl⟩

/-- Finding out how an order is to be paid never fails and leaves all as it is. -/
theorem runs_resolve {moment : Moment} {payType : PayType} {account : String} {order : Order}
    {r : Except ShopError Resolution}
    (h : Runs mayFail (resolve moment payType account order) s trace r s') :
    s' = s ∧ failures trace = [] ∧ written trace = [] ∧ ∃ resolution, r = .ok resolution := by
  have hpure : ∀ {resolution : Resolution},
      Runs mayFail (pure resolution) s trace r s' →
        s' = s ∧ failures trace = [] ∧ written trace = [] ∧ ∃ resolution, r = .ok resolution := by
    intro resolution hrun
    obtain ⟨rfl, rfl, rfl⟩ := Program.runs_pure_iff.1 hrun
    exact ⟨rfl, rfl, rfl, resolution, rfl⟩
  unfold resolve at h
  split at h
  · exact hpure h
  · split at h
    · unfold resolveOnChain at h
      split at h
      · exact runs_askProvider_bind (fun a => by cases a <;> exact ⟨_, rfl⟩) h
      · exact hpure h
    · unfold resolveLightning at h
      split at h
      · split at h
        · exact hpure h
        · exact runs_askProvider_bind (fun a => by cases a <;> exact ⟨_, rfl⟩) h
      · exact hpure h
    · exact hpure h

/-! ## Placing an order -/

/-- The order that the stored cart of a buyer makes next, and the message to the buyer. -/
structure NextOrder (shop : Shop) (moment : Moment) (user : UserId) (m : Memory) (order : Order)
    (message : String) : Prop where
  /-- It is made of the stored cart. -/
  held : storedCart m user = .ok order.cart
  /-- There is something in the cart. -/
  filled : order.cart.isEmpty = false
  /-- Its number is the one behind the last. -/
  number : order.id.toNat = lastOrder m user + 1
  /-- Only what concerns its payment has been added to the draft. -/
  settled : ∃ resolution, order = resolution.apply (shop.draft moment user order.cart order.id) ∧
    message = Confirmation.text order resolution

/-- What a resolution leaves of an order. -/
theorem apply_eq (resolution : Resolution) (order : Order) :
    ∃ payType invoice,
      resolution.apply order = { order with payType := payType, invoice := invoice } := by
  cases resolution <;> exact ⟨_, _, rfl⟩

namespace NextOrder

variable {shop : Shop} {moment : Moment} {user : UserId} {m : Memory} {order : Order}
  {message : String}

theorem eq_draft (h : NextOrder shop moment user m order message) :
    ∃ payType invoice, order = { shop.draft moment user order.cart order.id with
      payType := payType, invoice := invoice } := by
  obtain ⟨resolution, horder, -⟩ := h.settled
  obtain ⟨payType, invoice, hrecord⟩ := apply_eq resolution (shop.draft moment user order.cart order.id)
  exact ⟨payType, invoice, horder.trans hrecord⟩

theorem user_eq (h : NextOrder shop moment user m order message) : order.user = user := by
  obtain ⟨payType, invoice, horder⟩ := h.eq_draft
  rw [horder]
  rfl

/-- There is no document yet where a new order goes. -/
theorem fresh (h : NextOrder shop moment user m order message) :
    m.get? (orderKey user order.id) = none :=
  get?_orderKey_of_lastOrder_lt (by rw [h.number]; exact Nat.lt_succ_self _)

end NextOrder

/-- What may come of placing an order. -/
inductive Placing (mayFail : Storage.Call → Prop) (shop : Shop) (moment : Moment) (user : UserId)
    (s : Scene) : List (Exchange interface) → Except ShopError Placement → Scene → Prop where
  /-- The cart cannot be read. -/
  | corrupt {trace : List (Exchange interface)} {e : StorageError}
    (unreadable : storedCart s.documents user = .error e) (failed : failures trace = [])
    (wrote : written trace = []) :
    Placing mayFail shop moment user s trace (.error (.storage e)) s
  /-- The cart cannot be fetched. -/
  | unfetched {trace : List (Exchange interface)} {e : StorageError}
    (may : mayFail (.get (cartKey user))) (failed : failures trace = [(.get (cartKey user), e)])
    (wrote : written trace = []) :
    Placing mayFail shop moment user s trace (.error (.storage e)) s
  | emptyCart {trace : List (Exchange interface)} {cart : Cart}
    (held : storedCart s.documents user = .ok cart) (isEmpty : cart.isEmpty = true)
    (failed : failures trace = []) (wrote : written trace = []) :
    Placing mayFail shop moment user s trace (.ok .emptyCart) s
  /-- The orders cannot be listed. -/
  | unlisted {trace : List (Exchange interface)} {e : StorageError}
    (may : mayFail (.list (numberedStart user)))
    (failed : failures trace = [(.list (numberedStart user), e)]) (wrote : written trace = []) :
    Placing mayFail shop moment user s trace (.error (.storage e)) s
  /-- There is no number behind the last. -/
  | exhausted {trace : List (Exchange interface)}
    (full : UInt64.size ≤ lastOrder s.documents user + 1) (failed : failures trace = [])
    (wrote : written trace = []) :
    Placing mayFail shop moment user s trace (.error (.overflow .add)) s
  /-- The order cannot be written. -/
  | unwritten {trace : List (Exchange interface)} {order : Order} {message : String}
    {e : StorageError} (next : NextOrder shop moment user s.documents order message)
    (may : mayFail (.put (orderKey user order.id) (Document.encode order)))
    (failed : failures trace = [(.put (orderKey user order.id) (Document.encode order), e)])
    (wrote : written trace = []) :
    Placing mayFail shop moment user s trace (.error (.storage e)) s
  /-- The order is written, and the cart cannot be deleted. -/
  | undeleted {trace : List (Exchange interface)} {order : Order} {message : String}
    {e : StorageError} (next : NextOrder shop moment user s.documents order message)
    (may : mayFail (.delete (cartKey user)))
    (failed : failures trace = [(.delete (cartKey user), e)])
    (wrote : written trace = [(orderKey user order.id, Document.encode order)]) :
    Placing mayFail shop moment user s trace (.error (.storage e))
      { s with documents := s.documents.put (orderKey user order.id) (Document.encode order) }
  | placed {trace : List (Exchange interface)} {order : Order} {message : String}
    (next : NextOrder shop moment user s.documents order message) (failed : failures trace = [])
    (wrote : written trace = [(orderKey user order.id, Document.encode order)]) :
    Placing mayFail shop moment user s trace (.ok (.placed order message))
      { documents := (s.documents.put (orderKey user order.id) (Document.encode order)).erase
          (cartKey user)
        channel := World.offerAll s.channel ⟨order, message⟩ }

/-- What happens before a run without a failure and without a document being written does not count. -/
theorem Placing.after {shop : Shop} {moment : Moment} {user : UserId}
    {r : Except ShopError Placement} {before : List (Exchange interface)}
    (hfail : failures before = []) (hwritten : written before = [])
    (h : Placing mayFail shop moment user s trace r s') :
    Placing mayFail shop moment user s (before ++ trace) r s' := by
  have hf : ∀ {l}, failures trace = l → failures (before ++ trace) = l := by
    intro l hl
    rw [failures_append, hfail, hl, List.nil_append]
  have hw : ∀ {l}, written trace = l → written (before ++ trace) = l := by
    intro l hl
    rw [written_append, hwritten, hl, List.nil_append]
  cases h with
  | corrupt unreadable failed wrote => exact .corrupt unreadable (hf failed) (hw wrote)
  | unfetched may failed wrote => exact .unfetched may (hf failed) (hw wrote)
  | emptyCart held isEmpty failed wrote => exact .emptyCart held isEmpty (hf failed) (hw wrote)
  | unlisted may failed wrote => exact .unlisted may (hf failed) (hw wrote)
  | exhausted full failed wrote => exact .exhausted full (hf failed) (hw wrote)
  | unwritten next may failed wrote => exact .unwritten next may (hf failed) (hw wrote)
  | undeleted next may failed wrote => exact .undeleted next may (hf failed) (hw wrote)
  | placed next failed wrote => exact .placed next (hf failed) (hw wrote)

theorem runs_commit {order : Order} {message : String} {r : Except ShopError Unit}
    (h : Runs mayFail (commit order message) s trace r s') :
    (∃ e, mayFail (.put (orderKey order.user order.id) (Document.encode order)) ∧
        failures trace = [(.put (orderKey order.user order.id) (Document.encode order), e)] ∧
        written trace = [] ∧ r = .error (.storage e) ∧ s' = s) ∨
      written trace = [(orderKey order.user order.id, Document.encode order)] ∧
        ((∃ e, mayFail (.delete (cartKey order.user)) ∧
            failures trace = [(.delete (cartKey order.user), e)] ∧ r = .error (.storage e) ∧
            s' = { s with documents :=
              s.documents.put (orderKey order.user order.id) (Document.encode order) }) ∨
          failures trace = [] ∧ r = .ok () ∧
            s' = { documents := (s.documents.put (orderKey order.user order.id)
                (Document.encode order)).erase (cartKey order.user)
                   channel := World.offerAll s.channel ⟨order, message⟩ }) := by
  rcases Program.runs_except_bind_iff.1 h with
    ⟨e, rfl, hput⟩ | ⟨first, second, u, s₁, rfl, hput, hrest⟩
  · rcases runs_put (isKey_orderKey order.user order.id) hput with
      ⟨-, -, he, -⟩ | ⟨e', may, hfail, hwritten, he, rfl⟩
    · cases he
    · exact .inl ⟨e', may, hfail, hwritten, he, rfl⟩
  · rcases runs_put (isKey_orderKey order.user order.id) hput with
      ⟨hfail, hwritten, -, rfl⟩ | ⟨e', -, -, -, he, -⟩
    · right
      rcases Program.runs_except_bind_iff.1 hrest with
        ⟨e, rfl, hdelete⟩ | ⟨third, fourth, found, s₂, rfl, hdelete, hdone⟩
      · obtain ⟨hwritten', ⟨-, he, -⟩ | ⟨e', may, hfail', he, rfl⟩⟩ :=
          runs_delete (isKey_cartKey order.user) hdelete
        · cases he
        · cases he
          exact ⟨by simp [hwritten, hwritten'], .inl ⟨e', may, by simp [hfail, hfail'], rfl, rfl⟩⟩
      · obtain ⟨hwritten', ⟨hfail', -, rfl⟩ | ⟨e', -, -, he, -⟩⟩ :=
          runs_delete (isKey_cartKey order.user) hdelete
        · obtain ⟨hfail'', hwritten'', rfl, rfl⟩ := runs_announce hdone
          exact ⟨by simp [hwritten, hwritten', hwritten''],
            .inr ⟨by simp [hfail, hfail', hfail''], rfl, rfl⟩⟩
        · cases he
    · cases he

/-- Storing the next order, as the last part of placing it. -/
theorem runs_commit_next {shop : Shop} {moment : Moment} {user : UserId} {order : Order}
    {message : String} {r : Except ShopError Placement}
    (next : NextOrder shop moment user s.documents order message)
    (h : Runs mayFail (commit order message >>= fun _ => pure (.placed order message)) s trace r s') :
    Placing mayFail shop moment user s trace r s' := by
  rcases Program.runs_except_bind_iff.1 h with
    ⟨e, rfl, hcommit⟩ | ⟨first, second, u, s₁, rfl, hcommit, hdone⟩
  · have hruns := runs_commit hcommit
    rw [next.user_eq] at hruns
    rcases hruns with ⟨e', may, hfail, hwritten, he, rfl⟩ |
      ⟨hwritten, ⟨e', may, hfail, he, rfl⟩ | ⟨-, he, -⟩⟩
    · cases he
      exact .unwritten next may hfail hwritten
    · cases he
      exact .undeleted next may hfail hwritten
    · cases he
  · have hruns := runs_commit hcommit
    rw [next.user_eq] at hruns
    obtain ⟨rfl, rfl, rfl⟩ := Program.runs_pure_iff.1 hdone
    rw [List.append_nil]
    rcases hruns with ⟨e', -, -, -, he, -⟩ | ⟨hwritten, ⟨e', -, -, he, -⟩ | ⟨hfail, -, rfl⟩⟩
    · cases he
    · cases he
    · exact .placed next hfail hwritten

/-- Making an order from the stored cart, which is not empty. -/
theorem runs_placeCart {shop : Shop} {moment : Moment} {user : UserId} {cart : Cart}
    (held : storedCart s.documents user = .ok cart) (filled : cart.isEmpty = false)
    {r : Except ShopError Placement} (h : Runs mayFail (placeCart shop moment user cart) s trace r s') :
    Placing mayFail shop moment user s trace r s' := by
  rcases Program.runs_except_bind_iff.1 h with
    ⟨e, rfl, hid⟩ | ⟨first, rest, id, s₁, rfl, hid, hrest⟩
  · obtain ⟨rfl, hwritten, ⟨id, -, he, -⟩ | ⟨hfail, he, hfull⟩ | ⟨e', may, hfail, he⟩⟩ :=
      runs_nextOrderId hid
    · cases he
    · cases he
      exact .exhausted hfull hfail hwritten
    · cases he
      exact .unlisted may hfail hwritten
  · obtain ⟨rfl, hwritten, ⟨id, hfail, hr, hnumber⟩ | ⟨-, he, -⟩ | ⟨e', -, -, he⟩⟩ :=
      runs_nextOrderId hid
    · cases hr
      refine .after hfail hwritten ?_
      rcases Program.runs_except_bind_iff.1 hrest with
        ⟨e, rfl, hresolve⟩ | ⟨second, third, resolution, s₂, rfl, hresolve, hcommit⟩
      · obtain ⟨-, -, -, resolution, he⟩ := runs_resolve hresolve
        cases he
      · obtain ⟨rfl, hfail', hwritten', -⟩ := runs_resolve hresolve
        refine .after hfail' hwritten' (runs_commit_next ?_ hcommit)
        obtain ⟨payType, invoice, horder⟩ :=
          apply_eq resolution (shop.draft moment user cart id)
        refine ⟨?_, ?_, ?_, resolution, ?_, rfl⟩ <;> rw [horder]
        · exact held
        · exact filled
        · exact hnumber
        · exact horder.symm
    · cases he
    · cases he

/-- Whatever fails, placing an order ends in one of these ways. -/
theorem runs_placeOrder {shop : Shop} {moment : Moment} {user : UserId}
    {r : Except ShopError Placement}
    (h : Runs mayFail (placeOrder shop moment user) s trace r s') :
    Placing mayFail shop moment user s trace r s' := by
  rcases Program.runs_except_bind_iff.1 h with
    ⟨e, rfl, hcart⟩ | ⟨first, rest, cart, s₁, rfl, hcart, hrest⟩
  · obtain ⟨rfl, hwritten, ⟨hfail, he⟩ | ⟨e', may, hfail, he⟩⟩ := runs_cart hcart
    · obtain ⟨e', hstored, rfl⟩ := Program.mapError_eq_error_iff.1 he.symm
      exact .corrupt hstored hfail hwritten
    · cases he
      exact .unfetched may hfail hwritten
  · obtain ⟨rfl, hwritten, ⟨hfail, hheld⟩ | ⟨e', -, -, he⟩⟩ := runs_cart hcart
    · have held := Program.mapError_eq_ok_iff.1 hheld.symm
      refine .after hfail hwritten ?_
      split at hrest
      · next hempty =>
        obtain ⟨rfl, rfl, rfl⟩ := Program.runs_pure_iff.1 hrest
        exact .emptyCart held hempty rfl rfl
      · next hfilled => exact runs_placeCart held (by simpa using hfilled) hrest
    · cases he

/-- Where nothing fails, a cart with something in it is placed as long as there is a number left. -/
theorem Placing.succeeds {shop : Shop} {moment : Moment} {user : UserId} {cart : Cart}
    {r : Except ShopError Placement} (h : Placing (fun _ => False) shop moment user s trace r s')
    (held : storedCart s.documents user = .ok cart) (filled : cart.isEmpty = false)
    (left : lastOrder s.documents user + 1 < UInt64.size) :
    ∃ order message, NextOrder shop moment user s.documents order message ∧
      failures trace = [] ∧
      written trace = [(orderKey user order.id, Document.encode order)] ∧
      r = .ok (.placed order message) ∧
      s' = { documents := (s.documents.put (orderKey user order.id) (Document.encode order)).erase
               (cartKey user)
             channel := World.offerAll s.channel ⟨order, message⟩ } := by
  cases h with
  | corrupt unreadable =>
    rw [held] at unreadable
    cases unreadable
  | emptyCart held' isEmpty =>
    cases Except.ok.inj (held.symm.trans held')
    rw [filled] at isEmpty
    cases isEmpty
  | exhausted full => exact absurd left (Nat.not_lt.2 full)
  | unfetched may | unlisted may => exact may.elim
  | unwritten _ may | undeleted _ may => exact may.elim
  | placed next failed wrote => exact ⟨_, _, next, failed, wrote, rfl, rfl⟩

end Storefront.Shop
