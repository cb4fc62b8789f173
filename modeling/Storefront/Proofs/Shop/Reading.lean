import Storefront.Proofs.Shop.Books

/-!
# Reading the orders of a buyer

The orders are listed in whatever order their keys come, fetched one by one, and sorted by number. Where no
call fails this gives the orders in the books, since their numbers differ.
-/

namespace Storefront.Shop

open Storage (Memory)

variable {user : UserId} {m : Memory} {s s' : Scene} {trace : List (Exchange interface)} {cart : Cart}
  {orders : List Order}

/-- The order under a key, if there is one that can be read. -/
def readable? (m : Memory) (key : String) : Option Order := (stored? Order m key).toOption.join

theorem runs_readableOrder {key : String} (hkey : Storage.isKey key = true)
    {r : Except ShopError (Option Order)}
    (h : Runs (fun _ => False) (readableOrder key) s trace r s') :
    s' = s ∧ r = .ok (readable? s.documents key) := by
  obtain ⟨first, second, found, s₁, rfl, hread, hrest⟩ := Program.runs_bind_iff.1 h
  obtain ⟨rfl, -, ⟨-, hfound⟩ | ⟨e, may, -⟩⟩ := runs_readDocument hkey hread
  · unfold readable?
    cases hstored : stored? Order s₁.documents key with
    | ok order =>
      rw [hfound, hstored] at hrest
      obtain ⟨-, hr, hs⟩ := Program.runs_done_iff.1 hrest
      exact ⟨hs, hr⟩
    | error e =>
      rw [hfound, hstored] at hrest
      obtain ⟨-, hr, hs⟩ := Program.runs_done_iff.1 hrest
      exact ⟨hs, hr⟩
  · exact may.elim

theorem runs_mapM_readableOrder {keys : List String} (hkeys : ∀ key ∈ keys, Storage.isKey key = true)
    {r : Except ShopError (List (Option Order))}
    (h : Runs (fun _ => False) (keys.mapM readableOrder) s trace r s') :
    s' = s ∧ r = .ok (keys.map (readable? s.documents)) := by
  induction keys generalizing s' trace r with
  | nil =>
    obtain ⟨-, hr, hs⟩ := Program.runs_pure_iff.1 h
    exact ⟨hs, hr⟩
  | cons key keys ih =>
    rw [List.mapM_cons] at h
    rcases Program.runs_except_bind_iff.1 h with
      ⟨e, rfl, hfirst⟩ | ⟨first, rest, found, s₁, rfl, hfirst, hrest⟩
    · obtain ⟨-, he⟩ := runs_readableOrder (hkeys key List.mem_cons_self) hfirst
      cases he
    · obtain ⟨rfl, hfound⟩ := runs_readableOrder (hkeys key List.mem_cons_self) hfirst
      cases hfound
      have hkeys' : ∀ key ∈ keys, Storage.isKey key = true :=
        fun key hkey => hkeys key (List.mem_cons_of_mem _ hkey)
      rcases Program.runs_except_bind_iff.1 hrest with
        ⟨e, rfl, hothers⟩ | ⟨second, third, others, s₂, rfl, hothers, hdone⟩
      · obtain ⟨-, he⟩ := ih hkeys' hothers
        cases he
      · obtain ⟨rfl, hr⟩ := ih hkeys' hothers
        cases hr
        obtain ⟨-, hr, hs⟩ := Program.runs_pure_iff.1 hdone
        exact ⟨hs, hr⟩

theorem pairwise_mergeSort_id (found : List Order) :
    (found.mergeSort fun a b => a.id.toNat ≤ b.id.toNat).Pairwise fun a b => a.id.toNat ≤ b.id.toNat := by
  have hsorted : (found.mergeSort fun a b => a.id.toNat ≤ b.id.toNat).Pairwise
      fun a b => decide (a.id.toNat ≤ b.id.toNat) = true := by
    refine List.pairwise_mergeSort (fun a b c hab hbc => ?_) (fun a b => ?_) found
    · simp only [decide_eq_true_eq] at *
      omega
    · simp only [Bool.or_eq_true, decide_eq_true_eq]
      omega
  exact hsorted.imp fun h => of_decide_eq_true h

namespace Books

theorem ascending (h : Books m user cart orders) :
    orders.Pairwise fun a b => a.id.toNat < b.id.toNat := by
  have hrange : (orders.map (·.id.toNat)).Pairwise (· < ·) := by
    rw [h.numbered]
    exact List.pairwise_lt_range' 1
  exact List.pairwise_map.1 hrange

/-- The orders in the books are what the keys of the folder lead to, in whatever order the keys come. -/
theorem filterMap_readable_perm (h : Books m user cart orders) {keys : List String}
    (hkeys : keys.Perm (m.listed (ordersListing user ""))) :
    (keys.filterMap (readable? m)).Perm orders := by
  have hstored : (orders.map fun order => orderKey user order.id).filterMap (readable? m) = orders := by
    rw [List.filterMap_map]
    have hread : ∀ order ∈ orders,
        (readable? m ∘ fun order => orderKey user order.id) order = some order := by
      intro order ho
      show (stored? Order m (orderKey user order.id)).toOption.join = _
      rw [h.stored order ho]
      rfl
    rw [List.filterMap_congr hread, List.filterMap_some]
  have hperm := (hkeys.trans h.listed_perm).filterMap (readable? m)
  rwa [hstored] at hperm

/-- Sorted by number they are the orders as they were placed. -/
theorem mergeSort_eq (h : Books m user cart orders) {found : List Order} (hperm : found.Perm orders) :
    (found.mergeSort fun a b => a.id.toNat ≤ b.id.toNat) = orders := by
  have hsorted := pairwise_mergeSort_id found
  have hascending : orders.Pairwise fun a b => a.id.toNat ≤ b.id.toNat := h.ascending.imp Nat.le_of_lt
  have hsame := (List.mergeSort_perm found fun a b => a.id.toNat ≤ b.id.toNat).trans hperm
  refine hsame.eq_of_pairwise (fun a b ha hb hab hba => ?_) hsorted hascending
  -- both are among the orders, whose numbers differ
  have hnumbers : (orders.map (·.id.toNat)).Nodup := by
    rw [h.numbered]
    exact List.nodup_range' 1
  exact List.inj_on_of_nodup_map hnumbers (hsame.mem_iff.1 ha) hb (Nat.le_antisymm hab hba)

/-- Where nothing fails, a buyer who asks for the orders gets those in the books. -/
theorem runs_orders (h : Books s.documents user cart orders) {r : Except ShopError (List Order)}
    (hrun : Runs (fun _ => False) (Shop.orders user) s trace r s') : s' = s ∧ r = .ok orders := by
  rcases Program.runs_except_bind_iff.1 hrun with
    ⟨e, rfl, hlist⟩ | ⟨first, second, keys, s₁, rfl, hlist, hrest⟩
  · obtain ⟨-, -, ⟨keys, -, he, -⟩ | ⟨e', may, -⟩⟩ := runs_list (parse_ordersFolder user) hlist
    · cases he
    · exact may.elim
  · obtain ⟨rfl, -, ⟨keys', -, hkeys, hperm⟩ | ⟨e', may, -⟩⟩ :=
      runs_list (parse_ordersFolder user) hlist
    · obtain rfl : keys' = keys := (Except.ok.inj hkeys).symm
      have hkeys : ∀ key ∈ keys', Storage.isKey key = true := by
        intro key hkey
        obtain ⟨order, -, rfl⟩ := List.mem_map.1 ((hperm.trans h.listed_perm).mem_iff.1 hkey)
        exact isKey_orderKey _ _
      rcases Program.runs_except_bind_iff.1 hrest with
        ⟨e, rfl, hread⟩ | ⟨third, fourth, found, s₂, rfl, hread, hdone⟩
      · obtain ⟨-, he⟩ := runs_mapM_readableOrder hkeys hread
        cases he
      · obtain ⟨rfl, hfound⟩ := runs_mapM_readableOrder hkeys hread
        cases hfound
        obtain ⟨-, hr, hs⟩ := Program.runs_pure_iff.1 hdone
        refine ⟨hs, ?_⟩
        rw [hr, List.filterMap_map, Function.id_comp, h.mergeSort_eq (h.filterMap_readable_perm hperm)]
    · exact may.elim

theorem runs_cart (h : Books s.documents user cart orders) {r : Except ShopError Cart}
    (hrun : Runs (fun _ => False) (Shop.cart user) s trace r s') : s' = s ∧ r = .ok cart := by
  obtain ⟨hs, -, ⟨-, hr⟩ | ⟨e, may, -⟩⟩ := Shop.runs_cart hrun
  · rw [h.held] at hr
    exact ⟨hs, hr⟩
  · exact may.elim

end Books

end Storefront.Shop
