import Storefront.Proofs.Shop.History

/-!
# Placed orders never change

The folder of the orders of a buyer may hold anything: orders that cannot be read, numbers with leading
zeros or too great ones, names without a number, and gaps. A new order gets the number behind the greatest
one that a name tells, so nothing is stored yet where it goes; and nothing else that a shop does writes or
deletes a document of the orders. Hence what lies there stays as it is, however long the shop is used.
-/

namespace Storefront.Shop

open Storage (Memory)

/-- What was asked of a shop since some scene, whatever was stored then, the last request first, and the
scene to which this led. -/
inductive Course (shop : Shop) (s₀ : Scene) : List Entry → Scene → Prop where
  | start : Course shop s₀ [] s₀
  | next {past : List Entry} {s : Scene} {entry : Entry} (before : Course shop s₀ past s)
    (run : Runs anyFailure (entry.request.perform shop entry.moment entry.user) s entry.trace
      entry.result entry.after) :
    Course shop s₀ (entry :: past) entry.after

/-- The numbers that the names in the folder of the orders of a buyer tell. -/
def orderNumbers (m : Memory) (user : UserId) : List Nat :=
  (m.listed (ordersListing user "")).filterMap orderNumbering.number?

/-- Does the key lead to a document of the orders, of whatever buyer? -/
def IsOrders (key : String) : Prop := "orders/".toList <+: key.toList

instance (key : String) : Decidable (IsOrders key) :=
  inferInstanceAs (Decidable ("orders/".toList <+: key.toList))

variable {mayFail : Storage.Call → Prop} {shop : Shop} {moment : Moment} {user : UserId} {m : Memory}
  {s s' : Scene} {trace : List (Exchange interface)} {past : List Entry}

theorem cartKey_ne_of_isOrders {key : String} (h : IsOrders key) : key ≠ cartKey user := by
  rintro rfl
  obtain ⟨rest, hrest⟩ := h
  have hhead := congrArg List.head? hrest
  simp [toList_cartKey] at hhead

theorem isOrders_orderKey (user : UserId) (id : OrderId) : IsOrders (orderKey user id) := by
  refine ⟨user.text.toList ++ "/".toList ++ (orderNumbering.name id.toNat).toList, ?_⟩
  simp only [orderKey, ordersFolder, String.toList_append, List.append_assoc]

/-! ## The number of a new order -/

/-- The last order has the greatest of the numbers. -/
theorem lastOrder_eq_max (m : Memory) (user : UserId) :
    lastOrder m user = (orderNumbers m user).max?.getD 0 := by
  have hsame : orderNumbering.greatest? (m.listed (numberedListing user)) =
      orderNumbering.greatest? (m.listed (ordersListing user "")) := by
    refine Storage.Numbering.greatest?_congr fun key hnumber => ?_
    simp only [Memory.mem_listed_iff, numberedListing, shows_ordersListing_iff]
    constructor
    · rintro ⟨hsome, name, rfl, hslash, -⟩
      exact ⟨hsome, name, rfl, hslash, List.nil_prefix⟩
    · rintro ⟨hsome, name, rfl, hslash, -⟩
      -- a name without the text before the number tells none
      exact ⟨hsome, name, rfl, hslash, Storage.Numbering.before_prefix hslash hnumber⟩
  rw [lastOrder, hsame]
  rfl

theorem lastOrder_succ_lt (h : UInt64.size - 1 ∉ orderNumbers m user) :
    lastOrder m user + 1 < UInt64.size := by
  rw [lastOrder_eq_max]
  cases hmax : (orderNumbers m user).max? with
  | none => decide
  | some n =>
    have hmem : n ∈ orderNumbers m user := (List.max?_eq_some_iff.1 hmax).1
    have hne : n ≠ UInt64.size - 1 := fun heq => h (heq ▸ hmem)
    obtain ⟨key, -, hnumber⟩ := List.mem_filterMap.1 hmem
    have hlt : n < UInt64.size := Storage.Numbering.lt_of_number? hnumber
    rw [Option.getD_some]
    omega

/-- A document whose writing was tried was written, or writing it has failed. -/
theorem mem_written_or_failures {key : String} {data : ByteArray} {a : Except StorageError Unit}
    (h : (⟨.storage (.put key data), a⟩ : Exchange interface) ∈ trace) :
    (key, data) ∈ written trace ∨ ∃ e, (.put key data, e) ∈ failures trace := by
  cases a with
  | ok u => exact .inl (List.mem_filterMap.2 ⟨_, h, rfl⟩)
  | error e => exact .inr ⟨e, List.mem_filterMap.2 ⟨_, h, rfl⟩⟩

/-- Placing an order tries to write under one key at most, the one of the next number. -/
theorem Placing.writes_next {r : Except ShopError Placement} {id : OrderId}
    (h : Placing mayFail shop moment user s trace r s') (hid : id.toNat = lastOrder s.documents user + 1)
    {key : String} {data : ByteArray} {a : Except StorageError Unit}
    (hput : (⟨.storage (.put key data), a⟩ : Exchange interface) ∈ trace) : key = orderKey user id := by
  have hnext : ∀ {order message}, NextOrder shop moment user s.documents order message →
      order.id = id := fun next => OrderId.ext_toNat (next.number.trans hid.symm)
  have htried := mem_written_or_failures hput
  cases h with
  | corrupt _ failed wrote | emptyCart _ _ failed wrote | exhausted _ failed wrote
  | unfetched _ failed wrote | unlisted _ failed wrote =>
    simp [failed, wrote] at htried
  | unwritten next _ failed wrote =>
    rw [failed, wrote] at htried
    simp only [List.not_mem_nil, List.mem_singleton, Prod.mk.injEq, Storage.Call.put.injEq,
      false_or] at htried
    obtain ⟨e, ⟨rfl, -⟩, -⟩ := htried
    rw [hnext next]
  | undeleted next _ failed wrote =>
    rw [failed, wrote] at htried
    simp only [List.mem_singleton, Prod.mk.injEq, reduceCtorEq, false_and, exists_false,
      or_false] at htried
    rw [htried.1, hnext next]
  | placed next failed wrote =>
    rw [failed, wrote] at htried
    simp only [List.mem_singleton, Prod.mk.injEq, List.not_mem_nil, exists_false, or_false] at htried
    rw [htried.1, hnext next]

theorem Placing.placed_of_unfailed {r : Except ShopError Placement} {cart : Cart}
    (h : Placing mayFail shop moment user s trace r s') (held : storedCart s.documents user = .ok cart)
    (filled : cart.isEmpty = false) (left : lastOrder s.documents user + 1 < UInt64.size)
    (hfail : failures trace = []) : ∃ order message, r = .ok (.placed order message) := by
  cases h with
  | corrupt unreadable =>
    rw [held] at unreadable
    cases unreadable
  | emptyCart held' isEmpty =>
    cases Except.ok.inj (held.symm.trans held')
    rw [filled] at isEmpty
    cases isEmpty
  | exhausted full => exact absurd left (Nat.not_lt.2 full)
  | unfetched _ failed | unlisted _ failed | unwritten _ _ failed | undeleted _ _ failed =>
    rw [hfail] at failed
    cases failed
  | placed => exact ⟨_, _, rfl⟩

/-! ## What lies among the orders -/

/-- A request leaves every document of the orders as it is. -/
theorem Effect.keeps_orders {request : Request} {r : Except ShopError Response}
    (h : Effect shop moment user request s trace r s') {key : String} {data : ByteArray}
    (horders : IsOrders key) (hget : s.documents.get? key = some data) :
    s'.documents.get? key = some data := by
  have hput : ∀ {order message}, NextOrder shop moment user s.documents order message →
      (s.documents.put (orderKey user order.id) (Document.encode order)).get? key = some data := by
    intro order message next
    have hne : key ≠ orderKey user order.id := by
      rintro rfl
      rw [next.fresh] at hget
      cases hget
    rw [Memory.get?_put_of_ne hne, hget]
  cases h with
  | kept => exact hget
  | added => rw [Memory.get?_put_of_ne (cartKey_ne_of_isOrders horders), hget]
  | undeleted next => exact hput next
  | placed next => rw [Memory.get?_erase_of_ne (cartKey_ne_of_isOrders horders), hput next]

theorem Course.keeps_orders (h : Course shop s past s') {key : String} {data : ByteArray}
    (horders : IsOrders key) (hget : s.documents.get? key = some data) :
    s'.documents.get? key = some data := by
  induction h with
  | start => exact hget
  | next _ run ih => exact (runs_perform run).keeps_orders horders ih

/-- Whatever is stored, a new order of a buyer gets the number behind the greatest one that a name in the
folder of the buyer tells, or one if none of them tells any. Nothing is stored under its key, and this is
the only key under which placing the order tries to write. The order is placed unless a call fails. And
whatever buyers go on to ask for and whatever fails, each document of the orders keeps its bytes. -/
theorem orders_immutable (shop : Shop) (s : Scene) :
    (∀ user cart, storedCart s.documents user = .ok cart → cart.isEmpty = false →
      UInt64.size - 1 ∉ orderNumbers s.documents user →
      ∃ id : OrderId, id.toNat = (orderNumbers s.documents user).max?.getD 0 + 1 ∧
        s.documents.get? (orderKey user id) = none ∧
        ∀ mayFail moment trace r s', Runs mayFail (placeOrder shop moment user) s trace r s' →
          (∀ key data a, (⟨.storage (.put key data), a⟩ : Exchange interface) ∈ trace →
            key = orderKey user id) ∧
          (∀ order message, r = .ok (.placed order message) → order.id = id) ∧
          (failures trace = [] → ∃ order message, r = .ok (.placed order message))) ∧
    ∀ past s', Course shop s past s' → ∀ key data, IsOrders key →
      s.documents.get? key = some data → s'.documents.get? key = some data := by
  refine ⟨fun user cart held filled hmost => ?_, fun past s' h key data => h.keeps_orders⟩
  have hleft : lastOrder s.documents user + 1 < UInt64.size := lastOrder_succ_lt hmost
  obtain ⟨id, hid⟩ : ∃ id : OrderId, id.toNat = lastOrder s.documents user + 1 :=
    ⟨_, OrderId.toNat_ofNat? (if_pos hleft)⟩
  have hfresh : s.documents.get? (orderKey user id) = none :=
    get?_orderKey_of_lastOrder_lt (by rw [hid]; exact Nat.lt_succ_self _)
  refine ⟨id, by rw [hid, lastOrder_eq_max], hfresh, fun mayFail moment trace r s' hrun => ?_⟩
  have hplacing := runs_placeOrder hrun
  refine ⟨fun key data a hput => hplacing.writes_next hid hput, fun order message hr => ?_,
    hplacing.placed_of_unfailed held filled hleft⟩
  subst hr
  cases hplacing with
  | placed next => exact OrderId.ext_toNat (next.number.trans hid.symm)

namespace Sample

/-- The scene with a cart and a folder of orders in which other things lie: an order that cannot be read
and whose number has leading zeros, a number that is too great, and a name without one. -/
def littered : Scene where
  documents := (((Memory.empty.put "orders/bob/order-007.json" ⟨#[0]⟩).put
    "orders/bob/order-99999999999999999999.json" ⟨#[1]⟩).put "orders/bob/order-x" ⟨#[2]⟩).put
      (cartKey buyer) (Document.encode cart)
  channel := scene.channel

theorem orderNumbers_littered : orderNumbers littered.documents buyer = [7] := by decide +kernel

end Sample

/-- The order that is placed there gets the number eight, and the one that cannot be read stays. -/
theorem orders_immutable_littered :
    (∃ id : OrderId, id.toNat = 8 ∧
      Sample.littered.documents.get? (orderKey Sample.buyer id) = none ∧
      ∀ moment trace r s', Runs (fun _ => False) (placeOrder Sample.shop moment Sample.buyer)
        Sample.littered trace r s' → ∀ order message, r = .ok (.placed order message) → order.id = id) ∧
    ∀ past s', Course Sample.shop Sample.littered past s' →
      s'.documents.get? "orders/bob/order-007.json" = some ⟨#[0]⟩ := by
  obtain ⟨hplace, hkeep⟩ := orders_immutable Sample.shop Sample.littered
  have held : storedCart Sample.littered.documents Sample.buyer = .ok Sample.cart.reread :=
    storedCart_put_cart _ _ _
  constructor
  · obtain ⟨id, hid, hfresh, hruns⟩ := hplace Sample.buyer _ held (Cart.isEmpty_reread _)
      (by rw [Sample.orderNumbers_littered]; decide)
    rw [Sample.orderNumbers_littered] at hid
    exact ⟨id, hid, hfresh, fun moment trace r s' hrun => (hruns _ moment trace r s' hrun).2.1⟩
  · intro past s' h
    exact hkeep past s' h _ _ (by decide) rfl

end Storefront.Shop
