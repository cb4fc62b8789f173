import Storefront.Proofs.Shop.Places
import Storefront.Proofs.Storage.Mirror

/-!
# The documents of a shop in a folder

The keys of a shop lie side by side in a few folders, none of its documents is hidden and no temporary file has
the name of one. So a call that a shop makes for a buyer is answered by a folder as it is by the memory that
the folder mirrors.
-/

namespace Storefront.Shop

open Files (Path Place Tree EmptyRoot FitsBelow exec)
open Storage (Memory Folder.temporary Folder.temporaryName IsSuffix components Separate)

/-- The keys under which a shop keeps documents. -/
def Kept (key : String) : Prop := ∃ user, Keeps user key

/-- The files are the documents of a shop. -/
abbrev Mirrors (e : Files.Entry) (m : Memory) : Prop := Storage.Mirrors Kept e m

variable {t : Tree} {text : String} {place : Place} {e : Files.Entry} {m : Memory} {user other : UserId}
  {key key' name name' start suffix : String} {folder folder' : Path} {data : ByteArray}

theorem separate_kept : Separate Kept where
  isKey key hkept := by
    obtain ⟨user, folder, name, hspot⟩ := hkept
    exact hspot.isKey
  apart key other hkept hother hpart := by
    obtain ⟨user, folder, name, hspot⟩ := hkept
    obtain ⟨user', folder', name', hspot'⟩ := hother
    rw [hspot.components_eq, hspot'.components_eq] at hpart
    have heq := hspot.eq_of_below hspot' hpart
    rw [← hspot.components_eq, ← hspot'.components_eq] at heq
    exact Storage.components_inj heq

namespace Spot

theorem kept (h : Spot user key folder name) : Kept key := ⟨user, folder, name, h⟩

theorem fitsBelow (h : Spot user key folder name) (hroot : EmptyRoot t text place)
    (hshort : user.text.utf8ByteSize ≤ idLimit) : FitsBelow text (components key) := by
  rw [h.components_eq]
  exact (h.fits hshort).below hroot

/-- No document has the name of a temporary file, or lies below one. -/
theorem not_temporary (h : Spot user key folder name) (h' : Spot other key' folder' name') :
    ¬ folder ++ [Folder.temporaryName name suffix] <+: folder' ++ [name'] := by
  intro hpart
  rcases List.prefix_concat_iff.1 hpart with heq | hpart
  · obtain ⟨-, hname⟩ := List.append_inj' heq rfl
    exact h'.ne_temporaryName name suffix (List.cons.inj hname).1.symm
  · exact h.not_isFolder _ (h'.isFolder_of_around hpart)

end Spot

/-! ## Listings -/

theorem not_hidden (h : Kept key) : ¬ Storage.Hidden key := by
  obtain ⟨user, folder, name, hspot⟩ := h
  obtain ⟨folder', hfolder⟩ : ∃ l : Storage.Listing, l.folder = Storage.folderOf key := ⟨⟨_, ""⟩, rfl⟩
  have hnames := Storage.components_of_folder hspot.isKey hfolder
  rw [hspot.components_eq] at hnames
  obtain ⟨-, hname⟩ := List.append_inj' hnames rfl
  intro hhidden
  rw [Storage.Hidden, ← (List.cons.inj hname).1] at hhidden
  exact hspot.head?_ne_point hhidden

theorem Mirrors.exec_list (h : Mirrors e m) (hroot : EmptyRoot t text place)
    (hshort : user.text.utf8ByteSize ≤ idLimit)
    (parsed : Storage.Listing.parse key = .ok (ordersListing user start)) :
    exec (Storage.Folder.answer (Path.ofText text) suffix (.list key)) (t.plant place e) =
      (.ok (m.listed (ordersListing user start)), t.plant place e) := by
  have hspot : Spot user (orderKey user ⟨0⟩) ["orders", user.text] _ := .order ⟨0⟩
  have hpath := path_ordersListing user start
  have hfits : FitsBelow text (ordersListing user start).path := by
    rw [hpath]
    exact (fits_ordersFolder hshort).below hroot
  have hlies : ∀ key, Kept key → ¬ components key <+: (ordersListing user start).path := by
    rintro key ⟨other, folder, name, hother⟩
    rw [hpath, hother.components_eq]
    exact hother.not_prefix_folder hspot
  obtain ⟨told, hexec, hascending, htold⟩ :=
    Storage.Mirrors.exec_list separate_kept h hroot.emptyFolder parsed hfits hlies suffix
  have hall : told = m.listed (ordersListing user start) := by
    refine hascending.eq_of_mem_iff (m.ascending_listed _) fun key => ?_
    rw [htold, and_iff_left_iff_imp]
    intro hlisted
    exact not_hidden (h.kept key (Memory.mem_listed_iff.1 hlisted).1)
  rw [hexec, hall]

/-! ## Calls -/

/-- A call that is about a buyer is answered by the folder as by the memory. -/
theorem Own.answer_folder {request : Storage.Call} {expected : request.Answer → Prop}
    (own : Own (Keeps user) user (.storage request) expected) (h : Mirrors e m)
    (hroot : EmptyRoot t text place) (hshort : user.text.utf8ByteSize ≤ idLimit)
    (hsuffix : IsSuffix suffix) :
    ∃ e', exec (Storage.Folder.answer (Path.ofText text) suffix request) (t.plant place e) =
        ((Memory.answer request m).1, t.plant place e') ∧
      Mirrors e' (Memory.answer request m).2 := by
  cases own with
  | get owned =>
    obtain ⟨folder, name, hspot⟩ := owned
    rw [Memory.answer_get hspot.isKey]
    exact ⟨e, h.exec_get separate_kept hroot.emptyFolder hspot.kept (hspot.fitsBelow hroot hshort) _, h⟩
  | @put key owned data =>
    obtain ⟨folder, name, hspot⟩ := owned
    have haside : Folder.temporary (components key) suffix =
        folder ++ [Folder.temporaryName name suffix] := by
      rw [hspot.components_eq, Storage.Folder.temporary_concat]
    rw [Memory.answer_put hspot.isKey]
    refine h.exec_put separate_kept hroot.emptyFolder hspot.kept hsuffix (hspot.fitsBelow hroot hshort) ?_ ?_
      data
    · rw [haside]
      exact (hspot.fits_temporary hshort hsuffix).below hroot
    · rintro other ⟨user', folder', name', hspot'⟩
      rw [haside, hspot'.components_eq]
      exact hspot.not_temporary hspot'
  | delete owned =>
    obtain ⟨folder, name, hspot⟩ := owned
    rw [Memory.answer_delete hspot.isKey]
    exact h.exec_delete separate_kept hroot.emptyFolder hspot.kept (hspot.fitsBelow hroot hshort) _
  | list parsed =>
    rw [Memory.answer_list parsed]
    exact ⟨e, h.exec_list hroot hshort parsed, h⟩

end Storefront.Shop
