import Storefront.Proofs.Storage.Key
import Storefront.Proofs.Storage.Numbering
import Storefront.Shop.Layout
import Storefront.Storage.Memory

/-!
# The layout of the storage

A user id is one component of a key, so every key of the shop is one, and a key tells whose it is and
what lies there: carts and orders do not meet, and neither do two buyers.
-/

namespace Storefront

open Storage (components components_append_slash components_eq_singleton_iff isComponent allows isKey Listing)
open Text (splitLast_append_slash toList_append_slash)

/-! ## User ids as components -/

namespace UserId

theorem isSafe_eq_true_iff {text : String} :
    isSafe text = true ↔
      text.toList ≠ [] ∧ text.toList.head? ≠ some '.' ∧ ∀ c ∈ text.toList, UserId.allows c = true := by
  unfold isSafe
  cases text.toList with
  | nil => exact ⟨nofun, fun h => absurd rfl h.1⟩
  | cons c cs =>
    simp only [Bool.and_eq_true, bne_iff_ne, List.all_eq_true, List.head?_cons, ne_eq, Option.some.injEq,
      reduceCtorEq, not_false_eq_true, true_and]

theorem parse_eq_ok_iff {text : String} {user : UserId} : parse text = .ok user ↔ user.text = text := by
  unfold parse
  split
  · rw [Except.ok.injEq]
    constructor
    · rintro rfl
      rfl
    · rintro rfl
      rfl
  · next hsafe =>
    refine ⟨nofun, ?_⟩
    rintro rfl
    exact absurd user.safe hsafe

theorem parse_eq_error_iff {text : String} {e : InvalidUserId} :
    parse text = .error e ↔ e = ⟨text⟩ ∧ isSafe text = false := by
  unfold parse
  split
  · next hsafe => simp [hsafe]
  · next hsafe => simp [hsafe, eq_comm]

theorem allows_of_mem (user : UserId) {c : Char} (hc : c ∈ user.text.toList) :
    UserId.allows c = true :=
  (isSafe_eq_true_iff.1 user.safe).2.2 c hc

theorem head_ne_point (user : UserId) : user.text.toList.head? ≠ some '.' :=
  (isSafe_eq_true_iff.1 user.safe).2.1

theorem text_ne_nil (user : UserId) : user.text.toList ≠ [] := (isSafe_eq_true_iff.1 user.safe).1

theorem slash_not_mem (user : UserId) : '/' ∉ user.text.toList := by
  intro h
  have := user.allows_of_mem h
  simp [UserId.allows] at this

theorem ext_text {u v : UserId} (h : u.text = v.text) : u = v := by
  cases u; cases v; cases h; rfl

/-- What a user id may hold a key may hold. -/
theorem all_allows (user : UserId) : user.text.toList.all Storage.allows = true := by
  refine List.all_eq_true.2 fun c hc => ?_
  have h := user.allows_of_mem hc
  simp only [UserId.allows, Bool.and_eq_true, bne_iff_ne, ne_eq, Bool.not_eq_true'] at h
  have hnul : c ≠ '\x00' := by
    rintro rfl
    exact absurd h.2 (by decide)
  simp [Storage.allows, h.1.2, hnul]

theorem isComponent_text (user : UserId) : isComponent user.text = true := by
  have hpoint := user.head_ne_point
  have hempty : user.text ≠ "" := fun h => user.text_ne_nil (by rw [h]; rfl)
  have hdot : user.text ≠ "." := fun h => hpoint (by rw [h]; rfl)
  have hdots : user.text ≠ ".." := fun h => hpoint (by rw [h]; rfl)
  simp [isComponent, hempty, hdot, hdots]

end UserId

namespace Shop

open Storage.Numbering

theorem toList_cartKey (user : UserId) :
    (cartKey user).toList = "carts".toList ++ '/' :: user.text.toList := by
  simp [cartKey, String.toList_append]

theorem toList_ordersFolder (user : UserId) :
    (ordersFolder user).toList = "orders".toList ++ '/' :: user.text.toList := by
  simp [ordersFolder, String.toList_append]

theorem slash_not_mem_orderName (n : Nat) : '/' ∉ (orderNumbering.name n).toList := by
  simp only [toList_name, List.mem_append, not_or]
  exact ⟨by decide, slash_not_mem_digits n, by decide⟩

theorem toList_orderKey (user : UserId) (id : OrderId) :
    (orderKey user id).toList =
      (ordersFolder user).toList ++ '/' :: (orderNumbering.name id.toNat).toList := by
  rw [orderKey, toList_append_slash]

/-! ## Keys of the shop are keys -/

theorem components_cartKey (user : UserId) : components (cartKey user) = ["carts", user.text] := by
  have hkey : cartKey user = "carts" ++ "/" ++ user.text := rfl
  rw [hkey, components_append_slash, components_eq_singleton_iff.2 ⟨rfl, by decide⟩,
    components_eq_singleton_iff.2 ⟨rfl, user.slash_not_mem⟩]
  rfl

theorem components_ordersFolder (user : UserId) :
    components (ordersFolder user) = ["orders", user.text] := by
  have hfolder : ordersFolder user = "orders" ++ "/" ++ user.text := rfl
  rw [hfolder, components_append_slash, components_eq_singleton_iff.2 ⟨rfl, by decide⟩,
    components_eq_singleton_iff.2 ⟨rfl, user.slash_not_mem⟩]
  rfl

theorem components_below_ordersFolder (user : UserId) {name : String} (hslash : '/' ∉ name.toList) :
    components (ordersFolder user ++ "/" ++ name) = ["orders", user.text, name] := by
  rw [components_append_slash, components_ordersFolder, components_eq_singleton_iff.2 ⟨rfl, hslash⟩]
  rfl

theorem components_orderKey (user : UserId) (id : OrderId) :
    components (orderKey user id) = ["orders", user.text, orderNumbering.name id.toNat] :=
  components_below_ordersFolder user (slash_not_mem_orderName _)

theorem isComponent_orderName (n : Nat) : isComponent (orderNumbering.name n) = true := by
  have hhead : (orderNumbering.name n).toList.head? = some 'o' := by
    rw [toList_name]
    rfl
  have hne : ∀ s : String, s.toList.head? ≠ some 'o' → orderNumbering.name n ≠ s :=
    fun s hs h => hs (h ▸ hhead)
  simp [isComponent, hne "" (by decide), hne "." (by decide), hne ".." (by decide)]

theorem all_allows_digits (n : Nat) : (Text.digits n).all allows = true := by
  refine List.all_eq_true.2 fun c hc => ?_
  have hdigit := Text.isDigit_of_mem_digits hc
  have hslash : c ≠ '\\' := by rintro rfl; exact absurd hdigit (by decide)
  have hnul : c ≠ '\x00' := by rintro rfl; exact absurd hdigit (by decide)
  simp [allows, hslash, hnul]

theorem all_allows_ordersFolder (user : UserId) :
    (ordersFolder user).toList.all allows = true := by
  rw [toList_ordersFolder, List.all_append, List.all_cons, user.all_allows]
  decide

theorem isKey_cartKey (user : UserId) : isKey (cartKey user) = true := by
  have hall : (cartKey user).toList.all allows = true := by
    rw [toList_cartKey, List.all_append, List.all_cons, user.all_allows]
    decide
  rw [isKey, hall, components_cartKey, List.all_cons, List.all_cons, user.isComponent_text]
  rfl

theorem isKey_ordersFolder (user : UserId) : isKey (ordersFolder user) = true := by
  rw [isKey, all_allows_ordersFolder, components_ordersFolder, List.all_cons, List.all_cons,
    user.isComponent_text]
  rfl

theorem isKey_orderKey (user : UserId) (id : OrderId) : isKey (orderKey user id) = true := by
  have hname : (orderNumbering.name id.toNat).toList.all allows = true := by
    rw [toList_name, List.all_append, List.all_append, all_allows_digits]
    decide
  have hall : (orderKey user id).toList.all allows = true := by
    rw [toList_orderKey, List.all_append, List.all_cons, all_allows_ordersFolder, hname]
    decide
  rw [isKey, hall, components_orderKey, List.all_cons, List.all_cons, List.all_cons,
    user.isComponent_text, isComponent_orderName]
  rfl

/-! ## Keys tell whose they are -/

/-- A key under the folder of a buyer tells the buyer and the rest of the key. -/
theorem ordersFolder_append_inj {u v : UserId} {a b : String}
    (h : ordersFolder u ++ "/" ++ a = ordersFolder v ++ "/" ++ b) : u = v ∧ a = b := by
  have hlist : u.text.toList ++ '/' :: a.toList = v.text.toList ++ '/' :: b.toList := by
    simpa [String.toList_append, toList_ordersFolder] using congrArg String.toList h
  have hcut := Text.append_sep_inj u.slash_not_mem v.slash_not_mem hlist
  exact ⟨UserId.ext_text (String.toList_inj.1 hcut.1), String.toList_inj.1 hcut.2⟩

theorem cartKey_inj {u v : UserId} (h : cartKey u = cartKey v) : u = v := by
  have hlist := congrArg String.toList h
  simp only [toList_cartKey, List.append_cancel_left_eq, List.cons.injEq, true_and] at hlist
  exact UserId.ext_text (String.toList_inj.1 hlist)

/-- Carts and orders do not meet. -/
theorem cartKey_ne_ordersFolder_append (u v : UserId) (a : String) :
    cartKey u ≠ ordersFolder v ++ "/" ++ a := by
  intro h
  have hlist := congrArg (·.toList.head?) h
  simp [toList_cartKey, toList_ordersFolder, String.toList_append] at hlist

theorem orderKey_inj {u v : UserId} {i j : OrderId} (h : orderKey u i = orderKey v j) :
    u = v ∧ i = j := by
  obtain ⟨huv, hname⟩ := ordersFolder_append_inj h
  have hi := number?_name orderNumbering (by decide) (by decide) i.toNat_lt (ordersFolder u)
  have hj := number?_name orderNumbering (by decide) (by decide) j.toNat_lt (ordersFolder u)
  rw [hname, hj] at hi
  exact ⟨huv, OrderId.ext_toNat (Option.some.inj hi).symm⟩

theorem cartKey_ne_orderKey (u v : UserId) (id : OrderId) : cartKey u ≠ orderKey v id :=
  cartKey_ne_ordersFolder_append u v _

/-! ## Listing the orders of a buyer -/

/-- A listing of the orders of a buyer whose names start in a given way. -/
def ordersListing (user : UserId) (start : String) : Listing := ⟨ordersFolder user, start⟩

theorem parse_ordersListing (user : UserId) (start : String) (hslash : '/' ∉ start.toList)
    (hall : start.toList.all allows = true) :
    Listing.parse (ordersFolder user ++ "/" ++ start) = .ok (ordersListing user start) := by
  rw [Listing.parse, splitLast_append_slash _ hslash]
  simp [isKey_ordersFolder, hall, ordersListing]

theorem ordersFolder_ne_empty (user : UserId) : ordersFolder user ≠ "" := by
  intro hnil
  have hlist := congrArg String.toList hnil
  simp [toList_ordersFolder] at hlist

theorem path_ordersListing (user : UserId) (start : String) :
    (ordersListing user start).path = ["orders", user.text] := by
  rw [Listing.path, ordersListing, if_neg (ordersFolder_ne_empty user), components_ordersFolder]

theorem key_ordersListing (user : UserId) (start name : String) :
    (ordersListing user start).key name = ordersFolder user ++ "/" ++ name := by
  rw [Listing.key, ordersListing, if_neg (ordersFolder_ne_empty user)]

/-- All orders of a buyer are listed by the name of their folder alone. -/
theorem parse_ordersFolder (user : UserId) :
    Listing.parse (ordersFolder user ++ "/") = .ok (ordersListing user "") := by
  have h := parse_ordersListing user "" (by decide) (by decide)
  rwa [String.append_empty] at h

/-- Such a listing shows what lies right under the folder of the buyer. -/
theorem shows_ordersListing_iff {user : UserId} {start key : String} :
    Storage.Memory.shows (ordersListing user start) key = true ↔
      ∃ name : String, key = ordersFolder user ++ "/" ++ name ∧ '/' ∉ name.toList ∧
        start.toList <+: name.toList := by
  constructor
  · intro h
    rcases Text.splitLast_cases '/' key.toList with ⟨-, hcut⟩ | ⟨folder, name, hkey, hslash, hcut⟩
    · simp only [Storage.Memory.shows, hcut, Bool.and_eq_true, beq_iff_eq] at h
      have hnil := congrArg String.toList h.1
      simp [ordersListing, toList_ordersFolder] at hnil
    · simp only [Storage.Memory.shows, hcut, Bool.and_eq_true, beq_iff_eq] at h
      have hfolder : ordersFolder user = String.ofList folder := h.1
      have hstart : start.toList <+: name := by
        simpa [ordersListing, Listing.matchesName] using h.2
      refine ⟨String.ofList name, ?_, by simpa using hslash, by simpa using hstart⟩
      apply String.toList_inj.1
      simp [hfolder, hkey, String.toList_append]
  · rintro ⟨name, rfl, hslash, hstart⟩
    simp [Storage.Memory.shows, -String.toList_append, splitLast_append_slash _ hslash, ordersListing,
      Listing.matchesName, hstart]

theorem number?_orderKey (user : UserId) (id : OrderId) :
    orderNumbering.number? (orderKey user id) = some id.toNat :=
  number?_name orderNumbering (by decide) (by decide) id.toNat_lt (ordersFolder user)

/-! ## What belongs to a buyer -/

/-- The keys under which documents of a buyer may lie. -/
inductive Owns (user : UserId) : String → Prop where
  | cart : Owns user (cartKey user)
  /-- All in the folder of the orders. -/
  | order (name : String) : Owns user (ordersFolder user ++ "/" ++ name)

/-- A key belongs to one buyer at most. -/
theorem Owns.unique {u v : UserId} {key : String} (hu : Owns u key) (hv : Owns v key) : u = v := by
  cases hu with
  | cart =>
    generalize hkey : cartKey u = key at hv
    cases hv with
    | cart => exact cartKey_inj hkey
    | order name => exact absurd hkey (cartKey_ne_ordersFolder_append u v name)
  | order name =>
    generalize hkey : ordersFolder u ++ "/" ++ name = key at hv
    cases hv with
    | cart => exact absurd hkey.symm (cartKey_ne_ordersFolder_append v u name)
    | order name' => exact (ordersFolder_append_inj hkey).1

theorem owns_orderKey (user : UserId) (id : OrderId) : Owns user (orderKey user id) := .order _

/-- A listing of the orders of a buyer shows what belongs to the buyer. -/
theorem owns_of_shows {user : UserId} {start key : String}
    (h : Storage.Memory.shows (ordersListing user start) key = true) : Owns user key := by
  obtain ⟨name, rfl, -⟩ := shows_ordersListing_iff.1 h
  exact .order name

end Shop

end Storefront
