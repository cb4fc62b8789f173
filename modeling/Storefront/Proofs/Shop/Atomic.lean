import Storefront.Proofs.Shop.Books

/-!
# All or nothing

An operation that changes documents either does all that it is for or leaves every document as it was.
There is one exception: an order is written before its cart is deleted, and if only the deletion fails,
then both of them are there.
-/

namespace Storefront.Shop

open Storage (Memory)

/-- Some keys have a new content, or none any more; all others have what they had. -/
def Changed (m m' : Memory) (changes : List (String × Option ByteArray)) : Prop :=
  ∀ key, m'.get? key = (changes.lookup key).getD (m.get? key)

variable {m : Memory} {key other : String} {data : ByteArray}

theorem changed_nil (m : Memory) : Changed m m [] := fun _ => rfl

theorem changed_put (m : Memory) (key : String) (data : ByteArray) :
    Changed m (m.put key data) [(key, some data)] := by
  intro k
  by_cases hk : k = key
  · rw [hk, Memory.get?_put_self, List.lookup_cons_self]
    rfl
  · rw [Memory.get?_put_of_ne hk, List.lookup_cons, beq_false_of_ne hk]
    rfl

theorem changed_put_erase (h : key ≠ other) :
    Changed m ((m.put key data).erase other) [(key, some data), (other, none)] := by
  intro k
  by_cases hother : k = other
  · rw [hother, Memory.get?_erase_self, List.lookup_cons, beq_false_of_ne h.symm]
    simp only [List.lookup_cons_self]
    rfl
  · rw [Memory.get?_erase_of_ne hother, changed_put m key data k, List.lookup_cons, List.lookup_cons]
    split
    · rfl
    · rw [List.lookup_cons, beq_false_of_ne hother]

/-- No document has changed, and nothing was announced. -/
def Untouched (s s' : Scene) : Prop :=
  Changed s.documents s'.documents [] ∧ s'.channel = s.channel

theorem untouched_refl (s : Scene) : Untouched s s := ⟨changed_nil _, rfl⟩

variable {mayFail : Storage.Call → Prop} {shop : Shop} {moment : Moment} {user : UserId} {sku : String}
  {s s' : Scene} {trace : List (Exchange interface)}

/-- The three ways in which placing an order may end. -/
inductive AllOrNothing (shop : Shop) (moment : Moment) (user : UserId) (s s' : Scene)
    (trace : List (Exchange interface)) : Except ShopError Placement → Prop where
  /-- Nothing was done: there was an error, or the cart was read and is empty. -/
  | nothing {r : Except ShopError Placement} (untouched : Untouched s s')
    (reason : (∃ e, r = .error e) ∨ r = .ok .emptyCart ∧ failures trace = [] ∧
      ∃ cart, storedCart s.documents user = .ok cart ∧ cart.isEmpty = true) :
    AllOrNothing shop moment user s s' trace r
  /-- All was done: the order is a new document, the cart is gone, and every producer has offered one
  event. -/
  | all {order : Order} {message : String}
    (next : NextOrder shop moment user s.documents order message)
    (fresh : s.documents.get? (orderKey user order.id) = none) (unfailed : failures trace = [])
    (changed : Changed s.documents s'.documents
      [(orderKey user order.id, some (Document.encode order)), (cartKey user, none)])
    (announced : s'.channel = World.offerAll s.channel ⟨order, message⟩) :
    AllOrNothing shop moment user s s' trace (.ok (.placed order message))
  /-- The order is a new document, and the deletion of the cart failed and nothing else. -/
  | undeleted {order : Order} {message : String} {e : StorageError}
    (next : NextOrder shop moment user s.documents order message)
    (fresh : s.documents.get? (orderKey user order.id) = none)
    (failed : failures trace = [(.delete (cartKey user), e)])
    (changed : Changed s.documents s'.documents
      [(orderKey user order.id, some (Document.encode order))])
    (silent : s'.channel = s.channel) :
    AllOrNothing shop moment user s s' trace (.error (.storage e))

theorem Placing.allOrNothing {r : Except ShopError Placement}
    (h : Placing mayFail shop moment user s trace r s') :
    AllOrNothing shop moment user s s' trace r := by
  cases h with
  | corrupt | unfetched | unlisted | exhausted | unwritten =>
    exact .nothing (untouched_refl s) (.inl ⟨_, rfl⟩)
  | emptyCart held isEmpty failed =>
    exact .nothing (untouched_refl s) (.inr ⟨rfl, failed, _, held, isEmpty⟩)
  | undeleted next _ failed => exact .undeleted next next.fresh failed (changed_put _ _ _) rfl
  | placed next failed =>
    exact .all next next.fresh failed (changed_put_erase (cartKey_ne_orderKey _ _ _).symm) rfl

/-- The two ways in which adding a product may end. -/
inductive AddedOrNot (shop : Shop) (moment : Moment) (user : UserId) (sku : String) (s s' : Scene)
    (trace : List (Exchange interface)) : Except ShopError (Product × Cart) → Prop where
  /-- The new cart was written and nothing else. -/
  | added {product : Product} {old new : Cart} (known : shop.catalog.get? sku = some product)
    (held : storedCart s.documents user = .ok old) (unfailed : failures trace = [])
    (grown : new = { old.add product with updated := moment.now })
    (changed : Changed s.documents s'.documents [(cartKey user, some (Document.encode new))])
    (silent : s'.channel = s.channel) :
    AddedOrNot shop moment user sku s s' trace (.ok (product, new))
  /-- The shop has no such product. -/
  | unknown (absent : shop.catalog.get? sku = none) (untouched : Untouched s s') :
    AddedOrNot shop moment user sku s s' trace (.error (.unknownProduct sku))
  /-- The old cart cannot be read, or it cannot be fetched, or the new one cannot be written. -/
  | failed {e : StorageError} (untouched : Untouched s s')
    (reason : storedCart s.documents user = .error e ∨
      ∃ call, failures trace = [(call, e)] ∧
        (call = .get (cartKey user) ∨ ∃ data, call = .put (cartKey user) data)) :
    AddedOrNot shop moment user sku s s' trace (.error (.storage e))

theorem Adding.addedOrNot {r : Except ShopError (Product × Cart)}
    (h : Adding mayFail shop moment.now user sku s trace r s') :
    AddedOrNot shop moment user sku s s' trace r := by
  cases h with
  | unknown absent => exact .unknown absent (untouched_refl s)
  | corrupt unreadable => exact .failed (untouched_refl s) (.inl unreadable)
  | unfetched _ failed => exact .failed (untouched_refl s) (.inr ⟨_, failed, .inl rfl⟩)
  | unwritten _ failed => exact .failed (untouched_refl s) (.inr ⟨_, failed, .inr ⟨_, rfl⟩⟩)
  | added known held grown failed => exact .added known held failed grown (changed_put _ _ _) rfl

/-- Whatever is stored, whatever fails and whatever the providers answer, placing an order does all or
nothing, or all but the deletion of the cart, and adding a product writes the new cart or nothing. A
cart that is stored and cannot be read makes both of them fail. -/
theorem operations_atomic (mayFail : Storage.Call → Prop) (shop : Shop) (moment : Moment)
    (user : UserId) (s : Scene) :
    (∀ trace r s', Runs mayFail (placeOrder shop moment user) s trace r s' →
      AllOrNothing shop moment user s s' trace r) ∧
    (∀ sku trace r s', Runs mayFail (addToCart shop moment.now user sku) s trace r s' →
      AddedOrNot shop moment user sku s s' trace r) ∧
    ∀ cause, storedCart s.documents user = .error cause →
      (∀ trace r s', Runs mayFail (placeOrder shop moment user) s trace r s' → ∃ e, r = .error e) ∧
      ∀ sku trace r s', Runs mayFail (addToCart shop moment.now user sku) s trace r s' →
        ∃ e, r = .error e := by
  refine ⟨fun trace r s' h => (runs_placeOrder h).allOrNothing,
    fun sku trace r s' h => (runs_addToCart h).addedOrNot, fun cause hcause => ⟨?_, ?_⟩⟩
  · intro trace r s' h
    have hnot : ∀ cart, storedCart s.documents user ≠ .ok cart := by
      intro cart held
      rw [hcause] at held
      cases held
    cases (runs_placeOrder h).allOrNothing with
    | nothing _ reason =>
      rcases reason with herror | ⟨-, -, cart, held, -⟩
      · exact herror
      · exact absurd held (hnot cart)
    | all next => exact absurd next.held (hnot _)
    | undeleted next => exact ⟨_, rfl⟩
  · intro sku trace r s' h
    cases (runs_addToCart h).addedOrNot with
    | added _ held =>
      rw [hcause] at held
      cases held
    | unknown | failed => exact ⟨_, rfl⟩

/-- The sample shop with one unit in the cart of its buyer, which is placed. -/
theorem operations_atomic_sample :
    ∃ trace order message s',
      Runs (fun _ => False) (placeOrder Sample.shop Sample.moment Sample.buyer) Sample.filled trace
        (.ok (.placed order message)) s' ∧
      AllOrNothing Sample.shop Sample.moment Sample.buyer Sample.filled s' trace
        (.ok (.placed order message)) := by
  obtain ⟨trace, order, message, s', hrun, -⟩ := Sample.exists_placement
  obtain ⟨hplace, -⟩ := operations_atomic (fun _ => False) Sample.shop Sample.moment Sample.buyer
    Sample.filled
  exact ⟨trace, order, message, s', hrun, hplace _ _ _ hrun⟩

end Storefront.Shop
