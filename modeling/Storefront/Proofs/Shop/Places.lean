import Storefront.Proofs.Shop.Confined
import Storefront.Proofs.Storage.Folder
import Storefront.Proofs.Storage.Key

/-!
# Where the documents of a shop lie in a folder

Each document lies in the folder of all carts or in the folder of the orders of its buyer. No document has
the name of a folder or of a hidden file, none lies below another one, and if the id of the buyer is not too
long then its name and the name of its temporary file are short enough for every system.
-/

namespace Storefront

open Files (Path IsPlain Fits)
open Storage (components isComponent)
open Storage.Folder (temporaryName)

namespace Files

theorem isPlain_of_isComponent {name : String} (h : isComponent name = true)
    (hshort : name.utf8ByteSize ≤ Tree.nameLimit) : IsPlain name := by
  simp only [isComponent, Bool.and_eq_true, decide_eq_true_eq] at h
  refine ⟨?_, h.2, hshort⟩
  simp [Path.isHere, h.1.1, h.1.2]

theorem isPlain_temporaryName {name suffix : String} (h : Storage.IsSuffix suffix)
    (hshort : name.utf8ByteSize ≤ 233) : IsPlain (temporaryName name suffix) := by
  have hsize := Storage.utf8ByteSize_temporaryName h name
  have hne : ∀ s : String, s.utf8ByteSize < 22 → temporaryName name suffix ≠ s :=
    fun _ => Storage.temporaryName_ne h name
  refine isPlain_of_isComponent ?_ ?_
  · simp [isComponent, hne "" (by decide), hne "." (by decide), hne ".." (by decide)]
  · unfold Tree.nameLimit
    omega

end Files

namespace Shop

/-- The greatest number of bytes in an id so that the name of the temporary file for the cart is not too
long. -/
def idLimit : Nat := 233

/-- A key of a buyer and where its document lies: the names of the folder and the name in it. -/
inductive Spot (user : UserId) : String → Path → String → Prop where
  | cart : Spot user (cartKey user) ["carts"] user.text
  | order (id : OrderId) :
    Spot user (orderKey user id) ["orders", user.text] (orderNumbering.name id.toNat)

/-- The keys under which a shop keeps documents of a buyer. -/
def Keeps (user : UserId) (key : String) : Prop := ∃ folder name, Spot user key folder name

/-- The folders in which documents may lie, or other such folders. -/
inductive IsFolder : Path → Prop where
  | root : IsFolder []
  | carts : IsFolder ["carts"]
  | orders : IsFolder ["orders"]
  | buyer (user : UserId) : IsFolder ["orders", user.text]

variable {user other : UserId} {key key' name name' suffix : String} {folder folder' : Path}

theorem covers_keeps (user : UserId) : Covers (Keeps user) user :=
  ⟨⟨_, _, .cart⟩, fun id => ⟨_, _, .order id⟩⟩

theorem Keeps.owns (h : Keeps user key) : Owns user key := by
  obtain ⟨folder, name, hspot⟩ := h
  cases hspot with
  | cart => exact .cart
  | order id => exact owns_orderKey user id

namespace Spot

theorem components_eq (h : Spot user key folder name) : components key = folder ++ [name] := by
  cases h with
  | cart => exact components_cartKey user
  | order id => exact components_orderKey user id

theorem isKey (h : Spot user key folder name) : Storage.isKey key = true := by
  cases h with
  | cart => exact isKey_cartKey user
  | order id => exact isKey_orderKey user id

theorem head?_orderName (n : Nat) : (orderNumbering.name n).toList.head? = some 'o' := by
  rw [Storage.Numbering.toList_name]
  rfl

/-- No document is hidden. -/
theorem head?_ne_point (h : Spot user key folder name) : name.toList.head? ≠ some '.' := by
  cases h with
  | cart => exact user.head_ne_point
  | order id =>
    rw [head?_orderName]
    decide

theorem ne_temporaryName (h : Spot user key folder name) (name' suffix : String) :
    name ≠ temporaryName name' suffix := by
  rintro rfl
  exact h.head?_ne_point (Storage.head?_temporaryName name' suffix)

/-- No document lies below another one. -/
theorem eq_of_below (h : Spot user key folder name) (h' : Spot other key' folder' name')
    (hpart : folder ++ [name] <+: folder' ++ [name']) : folder ++ [name] = folder' ++ [name'] := by
  refine hpart.eq_of_length ?_
  cases h with
  | cart =>
    cases h' with
    | cart => rfl
    | order id =>
      have hfirst := (List.cons_prefix_cons.1 hpart).1
      simp at hfirst
  | order id =>
    cases h' with
    | cart =>
      have hfirst := (List.cons_prefix_cons.1 hpart).1
      simp at hfirst
    | order id' => rfl

/-- No document lies where a folder is. -/
theorem not_prefix_folder (h : Spot user key folder name) (h' : Spot other key' folder' name') :
    ¬ folder ++ [name] <+: folder' := by
  intro hpart
  have heq := h.eq_of_below h' (hpart.trans (List.prefix_append _ _))
  rw [heq] at hpart
  exact Files.not_concat_below folder' name' hpart

theorem not_isFolder (h : Spot user key folder name) (name' : String) : ¬ IsFolder (folder ++ [name']) := by
  intro hfolder
  generalize hnames : folder ++ [name'] = names at hfolder
  cases h with
  | cart => cases hfolder <;> simp at hnames
  | order id => cases hfolder <;> simp at hnames

theorem isFolder_of_around (h : Spot user key folder name) {names : Path} (hpart : names <+: folder) :
    IsFolder names := by
  cases h with
  | cart =>
    rcases List.prefix_cons_iff.1 hpart with rfl | ⟨rest, rfl, hrest⟩
    · exact .root
    · rw [List.prefix_nil.1 hrest]
      exact .carts
  | order id =>
    rcases List.prefix_cons_iff.1 hpart with rfl | ⟨rest, rfl, hrest⟩
    · exact .root
    · rcases List.prefix_cons_iff.1 hrest with rfl | ⟨last, rfl, hlast⟩
      · exact .orders
      · rw [List.prefix_nil.1 hlast]
        exact .buyer user

/-! ## Sizes -/

theorem utf8ByteSize_orderName_le (id : OrderId) : (orderNumbering.name id.toNat).utf8ByteSize ≤ 31 := by
  have hdigits : (Text.digits id.toNat).length ≤ 20 :=
    (Text.length_digits_le_iff (by decide)).2 (Nat.lt_of_lt_of_le id.toNat_lt (by decide))
  have hbefore : orderNumbering.before.utf8ByteSize = 6 := by decide
  have hafter : orderNumbering.after.utf8ByteSize = 5 := by decide
  simp only [Storage.Numbering.name, String.utf8ByteSize_append, Text.utf8ByteSize_natText, hbefore,
    hafter]
  omega

theorem isPlain_orders : IsPlain "orders" := Files.isPlain_of_isComponent (by decide) (by decide)

theorem isPlain_user (hshort : user.text.utf8ByteSize ≤ idLimit) : IsPlain user.text :=
  Files.isPlain_of_isComponent user.isComponent_text (Nat.le_trans hshort (by decide))

/-- What follows the path of the root, and a slash, is short enough. -/
theorem fits_append (h : Spot user key folder name) (hshort : user.text.utf8ByteSize ≤ idLimit)
    (hplain : IsPlain name') (hsize : name'.utf8ByteSize ≤ name.utf8ByteSize + 22) :
    Fits (folder ++ [name']) := by
  have hcarts : "carts".utf8ByteSize = 5 := by decide
  have horders : "orders".utf8ByteSize = 6 := by decide
  have hlimit : Files.belowLimit = 294 := by decide
  unfold idLimit at hshort
  cases h with
  | cart =>
    refine ⟨fun n hn => ?_, ?_⟩
    · rcases List.mem_cons.1 hn with rfl | hn
      · exact Files.isPlain_of_isComponent (by decide) (by decide)
      · rwa [List.mem_singleton.1 hn]
    · simp only [List.cons_append, List.nil_append, Path.size, hcarts, hlimit]
      omega
  | order id =>
    have hname := utf8ByteSize_orderName_le id
    refine ⟨fun n hn => ?_, ?_⟩
    · rcases List.mem_cons.1 hn with rfl | hn
      · exact isPlain_orders
      · rcases List.mem_cons.1 hn with rfl | hn
        · exact isPlain_user hshort
        · rwa [List.mem_singleton.1 hn]
    · simp only [List.cons_append, List.nil_append, Path.size, horders, hlimit]
      omega

theorem size_name_le (h : Spot user key folder name) (hshort : user.text.utf8ByteSize ≤ idLimit) :
    name.utf8ByteSize ≤ idLimit := by
  cases h with
  | cart => exact hshort
  | order id => exact Nat.le_trans (utf8ByteSize_orderName_le id) (by decide)

theorem isComponent_name (h : Spot user key folder name) : isComponent name = true := by
  cases h with
  | cart => exact user.isComponent_text
  | order id => exact isComponent_orderName id.toNat

theorem fits (h : Spot user key folder name) (hshort : user.text.utf8ByteSize ≤ idLimit) :
    Fits (folder ++ [name]) := by
  have hplain := Files.isPlain_of_isComponent h.isComponent_name
    (Nat.le_trans (h.size_name_le hshort) (by decide))
  exact h.fits_append hshort hplain (Nat.le_add_right _ _)

theorem fits_temporary (h : Spot user key folder name) (hshort : user.text.utf8ByteSize ≤ idLimit)
    (hsuffix : Storage.IsSuffix suffix) : Fits (folder ++ [temporaryName name suffix]) := by
  have hplain := Files.isPlain_temporaryName hsuffix (h.size_name_le hshort)
  exact h.fits_append hshort hplain (Nat.le_of_eq (Storage.utf8ByteSize_temporaryName hsuffix name))

end Spot

theorem fits_ordersFolder (hshort : user.text.utf8ByteSize ≤ idLimit) : Fits ["orders", user.text] :=
  ((Spot.order ⟨0⟩).fits hshort).of_append

/-- What a listing of the orders of a buyer shows, if a shop keeps it, are orders of this buyer. -/
theorem Keeps.of_shows {start : String} (h : Keeps other key)
    (hshows : Storage.Memory.shows (ordersListing user start) key = true) : Keeps user key := by
  obtain rfl := h.owns.unique (owns_of_shows hshows)
  exact h

end Shop

end Storefront
