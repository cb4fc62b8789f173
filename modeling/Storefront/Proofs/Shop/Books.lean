import Storefront.Proofs.Cart
import Storefront.Proofs.Catalog
import Storefront.Proofs.Shop.Requests

/-!
# The books of a buyer

In a storage that only a shop writes to, the documents of a buyer make up books: one cart that can be
read, and orders numbered from one without a gap, each of which can be read and tells its number and its
buyer. What a buyer asks for carries the books on, and what another buyer asks for leaves them alone.
-/

namespace Storefront.Shop

open Storage (Memory)

variable {m m' m'' : Memory} {user other : UserId} {data : ByteArray}

/-! ## The documents of a buyer -/

/-- Two storages hold the same for a buyer. -/
def SameFor (user : UserId) (m m' : Memory) : Prop :=
  ∀ key, Owns user key → m'.get? key = m.get? key

namespace SameFor

theorem refl (user : UserId) (m : Memory) : SameFor user m m := fun _ _ => rfl

theorem symm (h : SameFor user m m') : SameFor user m' m := fun key hkey => (h key hkey).symm

theorem trans (h : SameFor user m m') (h' : SameFor user m' m'') : SameFor user m m'' :=
  fun key hkey => (h' key hkey).trans (h key hkey)

variable {key : String}

theorem put_other (hne : other ≠ user) (howns : Owns other key) (m : Memory) (data : ByteArray) :
    SameFor user m (m.put key data) := by
  intro k hk
  refine Memory.get?_put_of_ne ?_
  rintro rfl
  exact hne (howns.unique hk)

theorem erase_other (hne : other ≠ user) (howns : Owns other key) (m : Memory) :
    SameFor user m (m.erase key) := by
  intro k hk
  refine Memory.get?_erase_of_ne ?_
  rintro rfl
  exact hne (howns.unique hk)

end SameFor

/-- What one buyer asks for changes nothing for another. -/
theorem Effect.sameFor {shop : Shop} {moment : Moment} {request : Request} {s s' : Scene}
    {trace : List (Exchange interface)} {r : Except ShopError Response}
    (h : Effect shop moment other request s trace r s') (hne : other ≠ user) :
    SameFor user s.documents s'.documents := by
  cases h with
  | kept => exact .refl _ _
  | added => exact .put_other hne .cart _ _
  | undeleted => exact .put_other hne (owns_orderKey _ _) _ _
  | placed => exact (SameFor.put_other hne (owns_orderKey _ _) _ _).trans (.erase_other hne .cart _)

/-! ## Reading what was written -/

theorem storedCart_put_cart (m : Memory) (user : UserId) (cart : Cart) :
    storedCart (m.put (cartKey user) (Document.encode cart)) user = .ok cart.reread := by
  rw [storedCart, stored?, Memory.get?_put_self]
  simp only [Cart.decode_encode]
  rfl

theorem storedCart_erase_cart (m : Memory) (user : UserId) :
    storedCart (m.erase (cartKey user)) user = .ok .empty := by
  rw [storedCart, stored?, Memory.get?_erase_self]
  rfl

theorem stored?_put_order (m : Memory) (user : UserId) (order : Order) :
    stored? Order (m.put (orderKey user order.id) (Document.encode order)) (orderKey user order.id) =
      .ok (some order.reread) := by
  rw [stored?, Memory.get?_put_self]
  simp only [Order.decode_encode]

theorem isSome_get?_of_stored? {α : Type} [Document α] {key : String} {a : α}
    (h : stored? α m key = .ok (some a)) : (m.get? key).isSome = true := by
  unfold stored? at h
  cases hget : m.get? key with
  | none => rw [hget] at h; cases h
  | some data => rfl

theorem stored?_congr {α : Type} [Document α] {key : String} (h : m'.get? key = m.get? key) :
    stored? α m' key = stored? α m key := by
  rw [stored?, stored?, h]

theorem storedCart_congr (h : m'.get? (cartKey user) = m.get? (cartKey user)) :
    storedCart m' user = storedCart m user := by
  rw [storedCart, storedCart, stored?_congr h]

/-! ## Books -/

/-- The documents of a buyer are a cart and orders numbered from one. -/
structure Books (m : Memory) (user : UserId) (cart : Cart) (orders : List Order) : Prop where
  /-- The cart is what is stored. -/
  held : storedCart m user = .ok cart
  /-- Each order is what is stored under its number. -/
  stored : ∀ order ∈ orders, stored? Order m (orderKey user order.id) = .ok (some order)
  /-- Nothing else lies in the folder. -/
  complete : ∀ name, (m.get? (ordersFolder user ++ "/" ++ name)).isSome = true →
    ∃ order ∈ orders, name = orderNumbering.name order.id.toNat
  /-- The numbers count from one. -/
  numbered : orders.map (·.id.toNat) = List.range' 1 orders.length
  /-- All orders are those of the buyer. -/
  owned : ∀ order ∈ orders, order.user = user
  /-- None of them is empty. -/
  filled : ∀ order ∈ orders, order.cart.isEmpty = false

namespace Books

variable {cart : Cart} {orders : List Order}

/-- Books start empty. -/
theorem start (user : UserId) : Books .empty user .empty [] where
  held := rfl
  stored _ h := absurd h List.not_mem_nil
  complete _ h := by cases h
  numbered := rfl
  owned _ h := absurd h List.not_mem_nil
  filled _ h := absurd h List.not_mem_nil

/-- Another cart is another cart; the orders stay. -/
theorem with_cart {cart' : Cart} (h : Books m user cart orders) (held : storedCart m' user = .ok cart')
    (same : ∀ name, m'.get? (ordersFolder user ++ "/" ++ name) =
      m.get? (ordersFolder user ++ "/" ++ name)) : Books m' user cart' orders where
  held := held
  stored order ho := (stored?_congr (same _)).trans (h.stored order ho)
  complete name hname := h.complete name (by rwa [same] at hname)
  numbered := h.numbered
  owned := h.owned
  filled := h.filled

theorem congr (h : Books m user cart orders) (hsame : SameFor user m m') :
    Books m' user cart orders :=
  h.with_cart ((storedCart_congr (hsame _ .cart)).trans h.held) fun _ => hsame _ (.order _)

theorem put_cart (h : Books m user cart orders) (new : Cart) :
    Books (m.put (cartKey user) (Document.encode new)) user new.reread orders :=
  h.with_cart (storedCart_put_cart m user new) fun _ =>
    Memory.get?_put_of_ne (cartKey_ne_ordersFolder_append _ _ _).symm

theorem erase_cart (h : Books m user cart orders) :
    Books (m.erase (cartKey user)) user .empty orders :=
  h.with_cart (storedCart_erase_cart m user) fun _ =>
    Memory.get?_erase_of_ne (cartKey_ne_ordersFolder_append _ _ _).symm

/-- The numbers are those up to the number of orders. -/
theorem exists_order_iff (h : Books m user cart orders) {n : Nat} :
    (∃ order ∈ orders, order.id.toNat = n) ↔ 1 ≤ n ∧ n ≤ orders.length := by
  have hmem : n ∈ orders.map (·.id.toNat) ↔ ∃ order ∈ orders, order.id.toNat = n := List.mem_map
  rw [← hmem, h.numbered, List.mem_range'_1]
  omega

theorem toNat_id_le (h : Books m user cart orders) {order : Order} (ho : order ∈ orders) :
    order.id.toNat ≤ orders.length := (h.exists_order_iff.1 ⟨order, ho, rfl⟩).2

theorem lastOrder_eq (h : Books m user cart orders) : lastOrder m user = orders.length := by
  apply Nat.le_antisymm
  · rw [lastOrder]
    cases hgreatest : orderNumbering.greatest? (m.listed (numberedListing user)) with
    | none => exact Nat.zero_le _
    | some n =>
      obtain ⟨⟨key, hkey, hnumber⟩, -⟩ :=
        Storage.Numbering.greatest?_eq_some_iff.1 hgreatest
      obtain ⟨hsome, hshows⟩ := Memory.mem_listed_iff.1 hkey
      obtain ⟨name, rfl, -, -⟩ := shows_ordersListing_iff.1 hshows
      obtain ⟨order, ho, rfl⟩ := h.complete name hsome
      have hn : order.id.toNat = n :=
        Option.some.inj ((number?_orderKey user order.id).symm.trans hnumber)
      rw [Option.getD_some, ← hn]
      exact h.toNat_id_le ho
  · rcases Nat.eq_zero_or_pos orders.length with hzero | hpos
    · rw [hzero]
      exact Nat.zero_le _
    · obtain ⟨order, ho, hid⟩ := h.exists_order_iff.2 ⟨hpos, Nat.le_refl _⟩
      rw [← hid]
      exact Storage.Numbering.number?_le_greatest?
        (orderKey_mem_listed_iff.2 (isSome_get?_of_stored? (h.stored order ho)))
        (number?_orderKey user order.id)

theorem nodup_keys (h : Books m user cart orders) :
    (orders.map fun order => orderKey user order.id).Nodup := by
  have hnumbers : (orders.map (·.id.toNat)).Nodup := by
    rw [h.numbered]
    exact List.nodup_range' 1
  refine (List.nodup_map_iff_inj_on ?_).2 ?_
  · exact List.Nodup.of_map _ hnumbers
  · intro a ha b hb heq
    have hid := (orderKey_inj heq).2
    exact List.inj_on_of_nodup_map hnumbers ha hb (congrArg OrderId.toNat hid)

theorem listed_perm (h : Books m user cart orders) :
    (m.listed (ordersListing user "")).Perm (orders.map fun order => orderKey user order.id) := by
  refine (List.perm_ext_iff_of_nodup (m.nodup_listed _) h.nodup_keys).2 fun key => ?_
  rw [Memory.mem_listed_iff, List.mem_map]
  constructor
  · rintro ⟨hsome, hshows⟩
    obtain ⟨name, rfl, -, -⟩ := shows_ordersListing_iff.1 hshows
    obtain ⟨order, ho, rfl⟩ := h.complete name hsome
    exact ⟨order, ho, rfl⟩
  · rintro ⟨order, ho, rfl⟩
    exact ⟨isSome_get?_of_stored? (h.stored order ho),
      shows_ordersListing_iff.2 ⟨_, rfl, slash_not_mem_orderName _, List.nil_prefix⟩⟩

/-- The next order comes behind the last one. -/
theorem put_order (h : Books m user cart orders) {shop : Shop} {moment : Moment} {order : Order}
    {message : String} (next : NextOrder shop moment user m order message) :
    Books (m.put (orderKey user order.id) (Document.encode order)) user cart
      (orders ++ [order.reread]) := by
  have hother : ∀ old ∈ orders, orderKey user old.id ≠ orderKey user order.id := by
    intro old hold heq
    have hle := h.toNat_id_le hold
    rw [(orderKey_inj heq).2, next.number, h.lastOrder_eq] at hle
    omega
  have hstored : ∀ old ∈ orders ++ [order.reread],
      stored? Order (m.put (orderKey user order.id) (Document.encode order))
        (orderKey user old.id) = .ok (some old) := by
    intro old hold
    rcases List.mem_append.1 hold with hold | hold
    · exact (stored?_congr (Memory.get?_put_of_ne (hother old hold))).trans (h.stored old hold)
    · rw [List.mem_singleton.1 hold, Order.id_reread]
      exact stored?_put_order m user order
  refine
    { held := (storedCart_congr (Memory.get?_put_of_ne (cartKey_ne_orderKey _ _ _))).trans h.held
      stored := hstored
      complete := ?_
      numbered := ?_
      owned := ?_
      filled := ?_ }
  · intro name hname
    by_cases heq : name = orderNumbering.name order.id.toNat
    · exact ⟨order.reread, List.mem_append_right _ (List.mem_singleton_self _),
        by rw [heq, Order.id_reread]⟩
    · have hkey : ordersFolder user ++ "/" ++ name ≠ orderKey user order.id :=
        fun h => heq (ordersFolder_append_inj h).2
      rw [Memory.get?_put_of_ne hkey] at hname
      obtain ⟨old, hold, hold'⟩ := h.complete name hname
      exact ⟨old, List.mem_append_left _ hold, hold'⟩
  · rw [List.map_append, List.length_append, List.length_singleton, List.range'_concat, h.numbered,
      List.map_singleton, Order.id_reread, next.number, h.lastOrder_eq]
    simp [Nat.add_comm]
  · intro old hold
    rcases List.mem_append.1 hold with hold | hold
    · exact h.owned old hold
    · rw [List.mem_singleton.1 hold, Order.user_reread]
      exact next.user_eq
  · intro old hold
    rcases List.mem_append.1 hold with hold | hold
    · exact h.filled old hold
    · rw [List.mem_singleton.1 hold, Order.cart_reread, Cart.isEmpty_reread]
      exact next.filled

end Books

/-! ## The books of the small shop -/

namespace Sample

theorem storedCart_filled : storedCart filled.documents buyer = .ok cart.reread :=
  storedCart_put_cart _ _ _

/-- The only cart may be placed without a failure, and is the first order. -/
theorem exists_placement :
    ∃ trace order message s', Runs (fun _ => False) (placeOrder shop moment buyer) filled trace
        (.ok (.placed order message)) s' ∧
      failures trace = [] ∧ written trace = [(orderKey buyer order.id, Document.encode order)] ∧
      s'.documents = (filled.documents.put (orderKey buyer order.id) (Document.encode order)).erase
        (cartKey buyer) := by
  obtain ⟨trace, r, s', hrun⟩ := exists_runs (fun _ => False) (placeOrder shop moment buyer) filled
  have hlast : lastOrder filled.documents buyer = 0 :=
    ((Books.start buyer).put_cart cart).lastOrder_eq
  obtain ⟨order, message, -, hfail, hwritten, rfl, rfl⟩ :=
    (runs_placeOrder hrun).succeeds storedCart_filled (Cart.isEmpty_reread _) (by rw [hlast]; decide)
  exact ⟨trace, order, message, _, hrun, hfail, hwritten, rfl⟩

end Sample

end Storefront.Shop
