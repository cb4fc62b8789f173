import Storefront.Proofs.Storage.Key
import Storefront.Storage.Memory

/-!
# Which keys a listing shows

A key is cut at its last slash into the folder where its document lies and the name that the document has
there. The names between the slashes are those of the folder and then this one name, so that it makes no
difference whether a listing compares the texts of keys or goes to a folder and looks at the names in it.
-/

namespace Storefront.Storage

/-- What precedes the last slash; nothing if there is none. -/
def folderOf (text : String) : String := String.ofList (Text.splitLast '/' text.toList).1

/-- What follows the last slash; everything if there is none. -/
def nameOf (text : String) : String := String.ofList (Text.splitLast '/' text.toList).2

/-- The document of the key lies right in the folder of a listing, and its name starts as the listing asks. -/
def LiesUnder (start key : String) : Prop :=
  folderOf key = folderOf start ∧ (nameOf start).toList <+: (nameOf key).toList

/-- The document of the key has the name of a hidden file. -/
def Hidden (key : String) : Prop := (nameOf key).toList.head? = some '.'

variable {text key name : String} {l : Listing}

theorem parse_eq (text : String) :
    Listing.parse text =
      if folderOf text ≠ "" ∧ !isKey (folderOf text) then .error (.invalidKey (folderOf text))
      else if !(nameOf text).toList.all allows then .error (.invalidKey text)
      else .ok ⟨folderOf text, nameOf text⟩ := by
  unfold Listing.parse folderOf nameOf
  simp only [ne_eq, String.ofList_eq_empty_iff, String.toList_ofList]

theorem parse_eq_ok (h : Listing.parse text = .ok l) : l = ⟨folderOf text, nameOf text⟩ := by
  rw [parse_eq] at h
  split at h
  · cases h
  · split at h
    · cases h
    · exact (Except.ok.inj h).symm

theorem shows_eq_true_iff :
    Memory.shows l key = true ↔ l.folder = folderOf key ∧ l.matchesName (nameOf key) = true := by
  show (l.folder == folderOf key && l.matchesName (nameOf key)) = true ↔ _
  rw [Bool.and_eq_true, beq_iff_eq]

theorem shows_iff_liesUnder (h : Listing.parse text = .ok l) :
    Memory.shows l key = true ↔ LiesUnder text key := by
  rw [shows_eq_true_iff, parse_eq_ok h, Listing.matchesName, List.isPrefixOf_iff_prefix]
  exact and_congr_left fun _ => eq_comm

/-! ## Keys in folders -/

/-- A key without a slash is a name, and any other key is a key of a folder with a name below it. -/
theorem key_cases (hkey : isKey key = true) :
    (folderOf key = "" ∧ nameOf key = key ∧ components key = [key]) ∨
      (folderOf key ≠ "" ∧ folderOf key ++ "/" ++ nameOf key = key ∧
        components key = components (folderOf key) ++ [nameOf key]) := by
  rcases Text.splitLast_cases '/' key.toList with ⟨hslash, hcut⟩ | ⟨folder, name, hlist, hslash, hcut⟩
  · left
    refine ⟨?_, ?_, ?_⟩
    · rw [folderOf, hcut]
    · rw [nameOf, hcut, String.ofList_toList]
    · rw [components, Text.segments_of_not_mem hslash, List.map_singleton, String.ofList_toList]
  · right
    have hfolder : folderOf key = String.ofList folder := by rw [folderOf, hcut]
    have hname : nameOf key = String.ofList name := by rw [nameOf, hcut]
    have hcomponents : components key = components (folderOf key) ++ [nameOf key] := by
      rw [hfolder, hname, components, hlist, Text.segments_append_sep, Text.segments_of_not_mem hslash,
        List.map_append, components, String.toList_ofList]
      rfl
    refine ⟨fun hnil => ?_, ?_, hcomponents⟩
    · -- else the first name would be empty
      have hmem : "" ∈ components key := by
        rw [hcomponents, hnil]
        exact List.mem_append_left _ List.mem_cons_self
      exact (isName_of_mem_components hkey hmem).ne_empty rfl
    · apply String.toList_inj.1
      rw [hfolder, hname, hlist]
      simp [String.toList_append]

theorem components_of_folder (hkey : isKey key = true) (hfolder : l.folder = folderOf key) :
    components key = l.path ++ [nameOf key] := by
  unfold Listing.path
  rcases key_cases hkey with ⟨hnil, hname, hcomponents⟩ | ⟨hne, -, hcomponents⟩
  · rw [hfolder, if_pos hnil, hcomponents, hname]
    rfl
  · rw [hfolder, if_neg hne, hcomponents]

theorem key_of_folder (hkey : isKey key = true) (hfolder : l.folder = folderOf key) :
    l.key (nameOf key) = key := by
  unfold Listing.key
  rcases key_cases hkey with ⟨hnil, hname, -⟩ | ⟨hne, heq, -⟩
  · rw [hfolder, if_pos hnil, hname]
  · rw [hfolder, if_neg hne, heq]

theorem folder_inj {l l' : Listing} (h : l.path = l'.path) : l.folder = l'.folder := by
  unfold Listing.path at h
  by_cases hnil : l.folder = ""
  · by_cases hnil' : l'.folder = ""
    · rw [hnil, hnil']
    · rw [if_pos hnil, if_neg hnil'] at h
      exact absurd h.symm (components_ne_nil _)
  · by_cases hnil' : l'.folder = ""
    · rw [if_neg hnil, if_pos hnil'] at h
      exact absurd h (components_ne_nil _)
    · rw [if_neg hnil, if_neg hnil'] at h
      exact components_inj h

/-- The names of a key tell where its document lies. -/
theorem folder_of_components (hkey : isKey key = true) (h : components key = l.path ++ [name]) :
    l.folder = folderOf key ∧ name = nameOf key := by
  have hown := components_of_folder (l := ⟨folderOf key, ""⟩) hkey rfl
  obtain ⟨hpath, hname⟩ := List.append_inj' (h.symm.trans hown) rfl
  exact ⟨folder_inj hpath, (List.cons.inj hname).1⟩

end Storefront.Storage
