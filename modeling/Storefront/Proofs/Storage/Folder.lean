import Storefront.Proofs.Files.Below
import Storefront.Storage.Folder

/-!
# Calls on documents in a folder

What each call on the storage does to the files below its root, told by what is seen at each place before
and after. A document that is put appears at its place, the folders around it exist, and the temporary file
is gone again.
-/

namespace Storefront.Storage.Folder

open Files (Path Place Tree Entry EmptyFolder FitsBelow exec exec_perform_bind exec_bind)

variable {t : Tree} {text : String} {place : Place} {e : Entry} {names : Path} {name suffix key : String}
  {data : ByteArray}

theorem dropLast_join (root names : Path) (name : String) :
    (root.join (names ++ [name])).dropLast = root.join names := by
  rw [Path.join_eq, Path.join_eq, ← List.append_assoc, List.dropLast_concat]

theorem temporary_concat (folder : Path) (name suffix : String) :
    temporary (folder ++ [name]) suffix = folder ++ [temporaryName name suffix] := by
  rw [temporary, List.dropLast_concat, List.getLast?_concat, Option.getD_some]

theorem temporary_join (root names : Path) (name suffix : String) :
    temporary (root.join (names ++ [name])) suffix =
      root.join (names ++ [temporaryName name suffix]) := by
  rw [Path.join_eq, Path.join_eq, ← List.append_assoc, temporary_concat, List.append_assoc]

/-! ## Fetching and deleting -/

theorem exec_get (h : EmptyFolder t text place) (he : e.look [] = some .folder) (hfits : FitsBelow text names)
    (hfile : e.look names = some (.file data)) :
    exec (get key ((Path.ofText text).join names)) (t.plant place e) =
      (.ok (some data), t.plant place e) :=
  exec_perform_bind (h.perform_read he hfits hfile)

theorem exec_get_none (h : EmptyFolder t text place) (he : e.look [] = some .folder) (hfits : FitsBelow text names)
    (hnone : e.look names = none)
    (hfiles : ∀ before, before <+: names → ∀ data, e.look before ≠ some (.file data)) :
    exec (get key ((Path.ofText text).join names)) (t.plant place e) =
      (.ok none, t.plant place e) :=
  exec_perform_bind (h.perform_read_none he hfits hnone hfiles)

theorem exec_delete (h : EmptyFolder t text place) (he : e.look [] = some .folder) (hne : names ≠ [])
    (hfits : FitsBelow text names) (hfile : e.look names = some (.file data)) :
    ∃ e', exec (delete key ((Path.ofText text).join names)) (t.plant place e) =
        (.ok true, t.plant place e') ∧ (e.Tidy → e'.Tidy) ∧
      ∀ other, e'.look other = if other = names then none else e.look other := by
  obtain ⟨e', hremove, htidy, hlook⟩ := h.perform_remove he hfits hne hfile
  exact ⟨e', exec_perform_bind hremove, htidy, hlook⟩

theorem exec_delete_none (h : EmptyFolder t text place) (he : e.look [] = some .folder)
    (hfits : FitsBelow text names) (hnone : e.look names = none)
    (hfiles : ∀ before, before <+: names → ∀ data, e.look before ≠ some (.file data)) :
    exec (delete key ((Path.ofText text).join names)) (t.plant place e) =
      (.ok false, t.plant place e) :=
  exec_perform_bind (h.perform_remove_none he hfits hnone hfiles)

/-! ## Putting -/

/-- Putting a document leaves it at its place and leaves nothing else behind but folders. -/
theorem exec_put (h : EmptyFolder t text place) (he : e.look [] = some .folder)
    (hfits : FitsBelow text (names ++ [name])) (hfits' : FitsBelow text (names ++ [temporaryName name suffix]))
    (hfiles : ∀ before, before <+: names → ∀ data, e.look before ≠ some (.file data))
    (hfree : e.look (names ++ [name]) ≠ some .folder)
    (haside : e.look (names ++ [temporaryName name suffix]) = none)
    (hother : name ≠ temporaryName name suffix) (data : ByteArray) :
    ∃ e', exec (put key ((Path.ofText text).join (names ++ [name])) suffix data) (t.plant place e) =
        (.ok (), t.plant place e') ∧ (e.Tidy → e'.Tidy) ∧
      ∀ other, e'.look other = if other = names ++ [name] then some (.file data)
        else if other <+: names then some .folder else e.look other := by
  have hbelow : ∀ n : String, ¬ names ++ [n] <+: names := fun n => Files.not_concat_below names n
  have hnames : ∀ n : String, names ≠ names ++ [n] := fun n heq =>
    hbelow n (heq ▸ List.prefix_refl names)
  have hdiffer : names ++ [name] ≠ names ++ [temporaryName name suffix] := fun heq =>
    hother (List.cons.inj (List.append_cancel_left heq)).1
  -- the folders are made
  obtain ⟨e₁, hfolders, htidy₁, hlook₁⟩ := h.exec_makeFolders he hfits.of_append hfiles
  have he₁ : e₁.look [] = some .folder := by
    rw [hlook₁, if_pos List.nil_prefix]
  have hfolder₁ : e₁.look names = some .folder := by
    rw [hlook₁, if_pos (List.prefix_refl _)]
  have haside₁ : e₁.look (names ++ [temporaryName name suffix]) = none := by
    rw [hlook₁, if_neg (hbelow _), haside]
  have hfree₁ : e₁.look (names ++ [name]) ≠ some .folder := by
    rw [hlook₁, if_neg (hbelow _)]
    exact hfree
  -- the temporary file is written
  have hfree₁' : e₁.look (names ++ [temporaryName name suffix]) ≠ some .folder := by
    rw [haside₁]
    rintro ⟨⟩
  obtain ⟨e₂, hwrite, htidy₂, hlook₂⟩ := h.perform_write he₁ hfits' hfolder₁ hfree₁' data
  have he₂ : e₂.look [] = some .folder := by
    rw [hlook₂, if_neg (List.concat_ne_nil _ _).symm, he₁]
  have hfolder₂ : e₂.look names = some .folder := by
    rw [hlook₂, if_neg (hnames _), hfolder₁]
  have hfile₂ : e₂.look (names ++ [temporaryName name suffix]) = some (.file data) := by
    rw [hlook₂, if_pos rfl]
  have hfree₂ : e₂.look (names ++ [name]) ≠ some .folder := by
    rw [hlook₂, if_neg hdiffer]
    exact hfree₁
  -- and moved to its place
  obtain ⟨e₃, hrename, htidy₃, hlook₃⟩ :=
    h.perform_rename he₂ hfits' (List.concat_ne_nil _ _) hfile₂ hfits hfolder₂ hfree₂ hdiffer
  refine ⟨e₃, ?_, htidy₃ ∘ htidy₂ ∘ htidy₁, fun other => ?_⟩
  · unfold put
    rw [dropLast_join, temporary_join, exec_bind hfolders]
    exact (exec_perform_bind hwrite).trans (exec_perform_bind hrename)
  · rw [hlook₃]
    by_cases hname : other = names ++ [name]
    · rw [if_pos hname, if_pos hname]
    · rw [if_neg hname, if_neg hname]
      by_cases htemp : other = names ++ [temporaryName name suffix]
      · rw [if_pos htemp, htemp, if_neg (hbelow _), haside]
      · rw [if_neg htemp, hlook₂, if_neg htemp, hlook₁]

/-! ## Listing -/

theorem exec_list {inside : List (String × Entry)} {l : Listing} (h : EmptyFolder t text place)
    (he : e.look [] = some .folder) (hfits : FitsBelow text l.path)
    (hget : e.get? l.path = some (.folder inside)) :
    exec (list key (Path.ofText text) l) (t.plant place e) =
      (.ok (listed l (Entry.folder inside).fileNames), t.plant place e) :=
  exec_perform_bind (h.perform_names he hfits hget)

theorem exec_list_none {l : Listing} (h : EmptyFolder t text place) (he : e.look [] = some .folder)
    (hfits : FitsBelow text l.path) (hnone : e.look l.path = none)
    (hfiles : ∀ before, before <+: l.path → ∀ data, e.look before ≠ some (.file data)) :
    exec (list key (Path.ofText text) l) (t.plant place e) = (.ok [], t.plant place e) :=
  exec_perform_bind (h.perform_names_none he hfits hnone hfiles)

/-- The keys of a listing are those of the names in the folder that it shows, in their order. -/
theorem mem_listed {l : Listing} {names : List String} :
    key ∈ listed l names ↔
      ∃ name ∈ names, name.toList.head? ≠ some '.' ∧ l.matchesName name = true ∧ l.key name = key := by
  rw [listed, List.mem_mergeSort, List.mem_map]
  constructor
  · rintro ⟨name, hmem, hkey⟩
    obtain ⟨hname, hshown⟩ := List.mem_filter.1 hmem
    simp only [Bool.and_eq_true, decide_eq_true_eq] at hshown
    exact ⟨name, hname, hshown.1, hshown.2, hkey⟩
  · rintro ⟨name, hname, hhead, hmatches, hkey⟩
    refine ⟨name, List.mem_filter.2 ⟨hname, ?_⟩, hkey⟩
    simp only [Bool.and_eq_true, decide_eq_true_eq]
    exact ⟨hhead, hmatches⟩

theorem key_inj {l : Listing} {a b : String} (h : l.key a = l.key b) : a = b := by
  unfold Listing.key at h
  by_cases hfolder : l.folder = ""
  · rwa [if_pos hfolder, if_pos hfolder] at h
  · rw [if_neg hfolder, if_neg hfolder] at h
    have hlist := congrArg String.toList h
    simp only [String.toList_append, List.append_cancel_left_eq] at hlist
    exact String.toList_inj.1 hlist

/-- The keys of a listing come in their order, each once. -/
theorem ascending_listed {l : Listing} {names : List String} (h : names.Nodup) :
    (listed l names).Pairwise (· < ·) := by
  have hsorted : (listed l names).Pairwise fun a b => decide (a ≤ b) = true := by
    refine List.pairwise_mergeSort (fun a b c hab hbc => ?_) (fun a b => ?_) _
    · exact decide_eq_true (String.le_trans (of_decide_eq_true hab) (of_decide_eq_true hbc))
    · simpa using String.le_total a b
  have hnodup : (listed l names).Nodup := by
    refine (List.mergeSort_perm _ _).nodup_iff.2 ?_
    exact List.pairwise_map.2 ((h.filter _).imp fun hne hkey => hne (key_inj hkey))
  refine (hsorted.and hnodup).imp fun hboth => ?_
  obtain ⟨hle, hne⟩ := hboth
  exact Std.lt_of_le_of_ne (of_decide_eq_true hle) hne

end Storefront.Storage.Folder
