import Storefront.Proofs.Document.Records
import Storefront.Proofs.Shop.Mirror

/-!
# Ids of buyers and keys

Two checks that know nothing of each other have to agree: one on the ids of buyers, one on keys. Whatever the
first one lets through is a component that the second one takes, and what the first one refuses beyond that are
hidden files and control characters. So there is a sound key for whatever a shop holds for whichever buyer: no
two things share one, and none lies in a folder that has the key of another one as its path.
-/

namespace Storefront

open Storage (components isKey readKey readKey_eq_ok_iff Listing IsAncestor isAncestor_iff)

namespace UserId

variable {text : String}

/-- If a key can be written with a text as the last of two components then the text is fit to be one. -/
theorem of_readKey_carts {first second : String} (h : readKey ("carts/" ++ text) = .ok [first, second]) :
    text.toList ≠ [] ∧ ∀ c ∈ text.toList, c ≠ '/' ∧ c ≠ '\\' := by
  obtain ⟨hkey, hcomponents⟩ := readKey_eq_ok_iff.1 h
  have hsplit : components ("carts" ++ "/" ++ text) = [first, second] := hcomponents
  rw [Storage.components_append_slash, Storage.components_eq_singleton_iff.2 ⟨rfl, by decide⟩] at hsplit
  have hone : components text = [second] := (List.cons.inj hsplit).2
  obtain ⟨rfl, -⟩ := Storage.components_eq_singleton_iff.1 hone
  have hname : Storage.IsName text :=
    Storage.isName_of_mem_components hkey (hcomponents ▸ List.mem_cons_of_mem _ List.mem_cons_self)
  refine ⟨fun hnil => hname.ne_empty (String.toList_inj.1 hnil), fun c hc => ?_⟩
  obtain ⟨hslash, hbackslash, -⟩ := hname.chars c hc
  exact ⟨hslash, hbackslash⟩

/-- A text is a user id exactly if it holds no control character, does not start with a point, and makes up a
key of two components with the folder of the carts. -/
theorem isSafe_iff_readKey :
    isSafe text = true ↔ (∀ c ∈ text.toList, isControl c = false) ∧ text.toList.head? ≠ some '.' ∧
      ∃ first second, readKey ("carts/" ++ text) = .ok [first, second] := by
  constructor
  · intro hsafe
    obtain ⟨-, hpoint, hallows⟩ := isSafe_eq_true_iff.1 hsafe
    refine ⟨fun c hc => ?_, hpoint, "carts", text, ?_⟩
    · have hc := hallows c hc
      simp only [UserId.allows, Bool.and_eq_true, Bool.not_eq_true'] at hc
      exact hc.2
    · exact readKey_eq_ok_iff.2 ⟨Shop.isKey_cartKey ⟨text, hsafe⟩, Shop.components_cartKey ⟨text, hsafe⟩⟩
  · rintro ⟨hcontrol, hpoint, first, second, hkey⟩
    obtain ⟨hne, hchars⟩ := of_readKey_carts hkey
    refine isSafe_eq_true_iff.2 ⟨hne, hpoint, fun c hc => ?_⟩
    obtain ⟨hslash, hbackslash⟩ := hchars c hc
    simp [UserId.allows, hslash, hbackslash, hcontrol c hc]

end UserId

namespace Shop

/-- What a shop holds for a buyer. -/
inductive Holding where
  | cart (user : UserId)
  | order (user : UserId) (id : OrderId)

namespace Holding

/-- Where it lies. -/
def key : Holding → String
  | cart user => cartKey user
  | order user id => orderKey user id

theorem kept (held : Holding) : Kept held.key := by
  cases held with
  | cart user => exact ⟨user, _, _, .cart⟩
  | order user id => exact ⟨user, _, _, .order id⟩

theorem key_injective : Function.Injective key := by
  intro held other h
  cases held with
  | cart user =>
    cases other with
    | cart other => exact congrArg cart (cartKey_inj h)
    | order other id => exact absurd h (cartKey_ne_orderKey user other id)
  | order user id =>
    cases other with
    | cart other => exact absurd h.symm (cartKey_ne_orderKey other user id)
    | order other id' =>
      obtain ⟨rfl, rfl⟩ := orderKey_inj h
      rfl

theorem not_isAncestor (held other : Holding) : ¬ IsAncestor held.key other.key := by
  intro h
  obtain ⟨hne, hpart⟩ := isAncestor_iff.1 h
  exact hne (separate_kept.apart _ _ held.kept other.kept hpart)

theorem head?_ne_point {held : Holding} {folder : List String} {name : String}
    (h : readKey held.key = .ok (folder ++ [name])) : name.toList.head? ≠ some '.' := by
  obtain ⟨hkey, hcomponents⟩ := readKey_eq_ok_iff.1 h
  obtain ⟨user, folder', name', hspot⟩ := held.kept
  obtain ⟨-, hname⟩ := List.append_inj' (hspot.components_eq.symm.trans hcomponents) rfl
  obtain ⟨rfl, -⟩ := List.cons.inj hname
  exact hspot.head?_ne_point

end Holding

/-- The keys and listings for a buyer are what they should be. -/
structure Served (user : UserId) (text : String) : Prop where
  cart : readKey (cartKey user) = .ok ["carts", text]
  order : ∀ id, readKey (orderKey user id) = .ok ["orders", text, orderNumbering.name id.toNat]
  /-- The listing of all that lies in the folder of the orders. -/
  listing : Listing.parse (ordersFolder user ++ "/") = .ok ⟨"orders/" ++ text, ""⟩
  /-- The listing of what has the name of an order. -/
  numbered : Listing.parse (ordersFolder user ++ "/" ++ orderNumbering.before) =
    .ok ⟨"orders/" ++ text, "order-"⟩

/-- The check of user ids and the check of keys agree on how a storage is laid out. -/
structure SoundLayout : Prop where
  /-- A text that is a user id serves as one in every key and listing. -/
  served : ∀ text user, UserId.parse text = .ok user → Served user text
  /-- A user id in a document is a text that is one, -/
  read : ∀ data user, Document.decode data = .ok user ↔
    ∃ text, Json.readText (Text.symbols data) = (.string (some text), true) ∧ UserId.parse text = .ok user
  /-- and every text is taken from a document, or refused there, as it is by itself. -/
  reread : ∀ text, Document.decode (Json.string text).pretty.toUTF8 = (UserId.parse text).mapError .user
  unhidden : ∀ (held : Holding) folder name, readKey held.key = .ok (folder ++ [name]) →
    name.toList.head? ≠ some '.'
  injective : Function.Injective Holding.key
  apart : ∀ held other : Holding, ¬ IsAncestor held.key other.key
  /-- What is refused as a user id has a control character, would be hidden, or is not one component. -/
  refused : ∀ text e, UserId.parse text = .error e →
    (∃ c ∈ text.toList, UserId.isControl c = true) ∨ text.toList.head? = some '.' ∨
      ¬ ∃ first second, readKey ("carts/" ++ text) = .ok [first, second]

theorem served (user : UserId) : Served user user.text where
  cart := readKey_eq_ok_iff.2 ⟨isKey_cartKey user, components_cartKey user⟩
  order := fun id => readKey_eq_ok_iff.2 ⟨isKey_orderKey user id, components_orderKey user id⟩
  listing := parse_ordersFolder user
  numbered := parse_ordersListing user orderNumbering.before (by decide) (by decide)

/-- Every text that is taken as a user id makes keys and listings that the storage takes, shows, and keeps apart from
those of all other users; and what is refused could not have made them. -/
theorem soundLayout : SoundLayout where
  served := by
    intro text user hparse
    obtain rfl := UserId.parse_eq_ok_iff.1 hparse
    exact served user
  read := by
    intro data user
    rw [Document.decode_eq_ok_iff]
    constructor
    · rintro ⟨t, hread, hvalue⟩
      obtain ⟨text, rfl, hparse⟩ := UserId.ofTree_eq_ok_iff.1 hvalue
      exact ⟨text, hread, hparse⟩
    · rintro ⟨text, hread, hparse⟩
      exact ⟨_, hread, UserId.ofTree_eq_ok_iff.2 ⟨text, rfl, hparse⟩⟩
  reread := fun text => (Document.decode_pretty _).trans (UserId.ofTree_string text)
  unhidden := fun _ _ _ => Holding.head?_ne_point
  injective := Holding.key_injective
  apart := Holding.not_isAncestor
  refused := by
    intro text e hparse
    obtain ⟨-, hsafe⟩ := UserId.parse_eq_error_iff.1 hparse
    by_contra hnone
    obtain ⟨hcontrol, hpoint, hkey⟩ : (∀ c ∈ text.toList, UserId.isControl c = false) ∧
        text.toList.head? ≠ some '.' ∧ ∃ first second, readKey ("carts/" ++ text) = .ok [first, second] := by
      simpa using hnone
    rw [UserId.isSafe_iff_readKey.2 ⟨hcontrol, hpoint, hkey⟩] at hsafe
    cases hsafe

/-- Ids that are names of folders and of orders, and one text for each reason to refuse. -/
theorem soundLayout_of_lookalikes :
    Served ⟨"orders", by decide⟩ "orders" ∧ Served ⟨"order-1.json", by decide⟩ "order-1.json" ∧
      ¬ IsAncestor (Holding.cart ⟨"a", by decide⟩).key (Holding.cart ⟨"aa", by decide⟩).key ∧
      ¬ IsAncestor (Holding.order ⟨"carts", by decide⟩ ⟨1⟩).key
        (Holding.order ⟨"carts", by decide⟩ ⟨10⟩).key ∧
      ((∃ c ∈ "".toList, UserId.isControl c = true) ∨ "".toList.head? = some '.' ∨
        ¬ ∃ first second, readKey ("carts/" ++ "") = .ok [first, second]) ∧
      ((∃ c ∈ ".a".toList, UserId.isControl c = true) ∨ ".a".toList.head? = some '.' ∨
        ¬ ∃ first second, readKey ("carts/" ++ ".a") = .ok [first, second]) ∧
      ((∃ c ∈ "a/b".toList, UserId.isControl c = true) ∨ "a/b".toList.head? = some '.' ∨
        ¬ ∃ first second, readKey ("carts/" ++ "a/b") = .ok [first, second]) :=
  ⟨soundLayout.served _ _ (UserId.parse_eq_ok_iff.2 rfl), soundLayout.served _ _ (UserId.parse_eq_ok_iff.2 rfl),
    soundLayout.apart _ _, soundLayout.apart _ _, soundLayout.refused _ ⟨""⟩ rfl,
    soundLayout.refused _ ⟨".a"⟩ rfl, soundLayout.refused _ ⟨"a/b"⟩ rfl⟩

end Shop

end Storefront
