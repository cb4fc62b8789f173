import Storefront.Proofs.Shop.Scene
import Storefront.Shop.Carts

/-!
# What operations on carts do

A cart is read as it is stored, and an absent one is empty; one that cannot be fetched or read is an
error and never an empty cart. Adding a product writes the new cart and nothing else.
-/

namespace Storefront.Shop

open Storage (Memory)

variable {mayFail : Storage.Call → Prop} {s s' : Scene} {trace : List (Exchange interface)}

/-- The cart that is stored for a buyer; an empty one if none is. -/
def storedCart (m : Memory) (user : UserId) : Except StorageError Cart :=
  (stored? Cart m (cartKey user)).map (·.getD .empty)

/-- Looking at a cart changes nothing and gives the cart that is stored, or fails. -/
theorem runs_cart {user : UserId} {r : Except ShopError Cart}
    (h : Runs mayFail (cart user) s trace r s') :
    s' = s ∧ written trace = [] ∧
      (failures trace = [] ∧ r = (storedCart s.documents user).mapError .storage ∨
        ∃ e, mayFail (.get (cartKey user)) ∧ failures trace = [(.get (cartKey user), e)] ∧
          r = .error (.storage e)) := by
  rcases Program.runs_except_bind_iff.1 h with
    ⟨e, rfl, hread⟩ | ⟨first, second, found, s₁, rfl, hread, hrest⟩
  · obtain ⟨rfl, hwritten, ⟨hfail, he⟩ | ⟨e', may, hfail, he⟩⟩ :=
      runs_readDocument (isKey_cartKey user) hread
    · obtain ⟨e', hstored, rfl⟩ := Program.mapError_eq_error_iff.1 he.symm
      refine ⟨rfl, hwritten, .inl ⟨hfail, ?_⟩⟩
      rw [storedCart, hstored]
      rfl
    · cases he
      exact ⟨rfl, hwritten, .inr ⟨e', may, hfail, rfl⟩⟩
  · obtain ⟨rfl, hwritten, ⟨hfail, hfound⟩ | ⟨e, -, -, he⟩⟩ :=
      runs_readDocument (isKey_cartKey user) hread
    · have hstored := Program.mapError_eq_ok_iff.1 hfound.symm
      obtain ⟨rfl, rfl, rfl⟩ := Program.runs_pure_iff.1 hrest
      refine ⟨rfl, by simpa using hwritten, .inl ⟨by simpa using hfail, ?_⟩⟩
      rw [storedCart, hstored]
      rfl
    · cases he

/-- What may come of adding a product to a cart. -/
inductive Adding (mayFail : Storage.Call → Prop) (shop : Shop) (now : Timestamp) (user : UserId)
    (sku : String) (s : Scene) :
    List (Exchange interface) → Except ShopError (Product × Cart) → Scene → Prop where
  /-- The shop has no such product; the storage is not even looked at. -/
  | unknown (absent : shop.catalog.get? sku = none) :
    Adding mayFail shop now user sku s [] (.error (.unknownProduct sku)) s
  /-- The old cart cannot be read. -/
  | corrupt {trace : List (Exchange interface)} {e : StorageError}
    (unreadable : storedCart s.documents user = .error e) (failed : failures trace = [])
    (wrote : written trace = []) :
    Adding mayFail shop now user sku s trace (.error (.storage e)) s
  /-- The old cart cannot be fetched. -/
  | unfetched {trace : List (Exchange interface)} {e : StorageError}
    (may : mayFail (.get (cartKey user))) (failed : failures trace = [(.get (cartKey user), e)])
    (wrote : written trace = []) :
    Adding mayFail shop now user sku s trace (.error (.storage e)) s
  /-- The new cart cannot be written. -/
  | unwritten {trace : List (Exchange interface)} {data : ByteArray} {e : StorageError}
    (may : mayFail (.put (cartKey user) data))
    (failed : failures trace = [(.put (cartKey user) data, e)]) (wrote : written trace = []) :
    Adding mayFail shop now user sku s trace (.error (.storage e)) s
  | added {trace : List (Exchange interface)} {product : Product} {old new : Cart}
    (known : shop.catalog.get? sku = some product)
    (held : storedCart s.documents user = .ok old)
    (grown : new = { old.add product with updated := now }) (failed : failures trace = [])
    (wrote : written trace = [(cartKey user, Document.encode new)]) :
    Adding mayFail shop now user sku s trace (.ok (product, new))
      { s with documents := s.documents.put (cartKey user) (Document.encode new) }

/-- Whatever fails, adding a product ends in one of these ways. -/
theorem runs_addToCart {shop : Shop} {now : Timestamp} {user : UserId} {sku : String}
    {r : Except ShopError (Product × Cart)}
    (h : Runs mayFail (addToCart shop now user sku) s trace r s') :
    Adding mayFail shop now user sku s trace r s' := by
  unfold addToCart at h
  cases hproduct : shop.catalog.get? sku with
  | none =>
    rw [hproduct] at h
    obtain ⟨rfl, rfl, rfl⟩ := Program.runs_throw_iff.1 h
    exact .unknown hproduct
  | some product =>
    rw [hproduct] at h
    rcases Program.runs_except_bind_iff.1 h with
      ⟨e, rfl, hcart⟩ | ⟨first, second, old, s₁, rfl, hcart, hrest⟩
    · obtain ⟨rfl, hwritten, ⟨hfail, he⟩ | ⟨e', may, hfail, he⟩⟩ := runs_cart hcart
      · obtain ⟨e', hstored, rfl⟩ := Program.mapError_eq_error_iff.1 he.symm
        exact .corrupt hstored hfail hwritten
      · cases he
        exact .unfetched may hfail hwritten
    · obtain ⟨rfl, hwritten, ⟨hfail, hheld⟩ | ⟨e', -, -, he⟩⟩ := runs_cart hcart
      · have hstored := Program.mapError_eq_ok_iff.1 hheld.symm
        rcases Program.runs_except_bind_iff.1 hrest with
          ⟨e, rfl, hput⟩ | ⟨third, fourth, u, s₂, rfl, hput, hdone⟩
        · rcases runs_put (isKey_cartKey user) hput with
            ⟨-, -, he, -⟩ | ⟨e', may, hfail', hwritten', he, rfl⟩
          · cases he
          · cases he
            exact .unwritten may (by simp [hfail, hfail']) (by simp [hwritten, hwritten'])
        · rcases runs_put (isKey_cartKey user) hput with
            ⟨hfail', hwritten', -, rfl⟩ | ⟨e', -, -, -, he, -⟩
          · obtain ⟨rfl, rfl, rfl⟩ := Program.runs_pure_iff.1 hdone
            exact .added hproduct hstored rfl (by simp [hfail, hfail'])
              (by simp [hwritten, hwritten'])
          · cases he
      · cases he

/-- Where nothing fails, a known product is added to any cart that can be read. -/
theorem Adding.succeeds {shop : Shop} {now : Timestamp} {user : UserId} {sku : String}
    {r : Except ShopError (Product × Cart)} {product : Product} {old : Cart}
    (h : Adding (fun _ => False) shop now user sku s trace r s')
    (known : shop.catalog.get? sku = some product) (held : storedCart s.documents user = .ok old) :
    ∃ new, new = { old.add product with updated := now } ∧ failures trace = [] ∧
      written trace = [(cartKey user, Document.encode new)] ∧ r = .ok (product, new) ∧
      s' = { s with documents := s.documents.put (cartKey user) (Document.encode new) } := by
  cases h with
  | unknown absent =>
    rw [known] at absent
    cases absent
  | corrupt unreadable =>
    rw [held] at unreadable
    cases unreadable
  | unfetched may => exact may.elim
  | unwritten may => exact may.elim
  | added known' held' grown failed wrote =>
    cases Option.some.inj (known.symm.trans known')
    cases Except.ok.inj (held.symm.trans held')
    exact ⟨_, grown, failed, wrote, rfl, rfl⟩

end Storefront.Shop
