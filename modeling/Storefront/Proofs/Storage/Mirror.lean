import Mathlib.Data.List.Sort
import Storefront.Proofs.Storage.Folder
import Storefront.Proofs.Storage.Listing
import Storefront.Proofs.Storage.Memory

/-!
# A folder that mirrors documents in memory

The files below the root are the documents that were put in memory instead, and the folders around them may
outlive them. As long as no document lies below another one, each call is answered by the folder as it is by
the memory, and the folder goes on mirroring it.
-/

namespace Storefront.Storage

open Files (Path Place Tree EmptyFolder FitsBelow exec)

/-- Keys under which documents may be kept side by side: none of them lies below another one. -/
structure Separate (allowed : String → Prop) : Prop where
  isKey : ∀ key, allowed key → isKey key = true
  apart : ∀ key other, allowed key → allowed other → components key <+: components other → key = other

/-- The root, or a folder around the document of one of these keys. -/
def Around (allowed : String → Prop) (names : Path) : Prop :=
  names = [] ∨ ∃ key, allowed key ∧ names <+: components key ∧ names ≠ components key

/-- The files are the documents, whose keys are among those allowed, and there are no folders but those around
documents that may be there. -/
structure Mirrors (allowed : String → Prop) (e : Files.Entry) (m : Memory) : Prop where
  tidy : e.Tidy
  root : e.look [] = some .folder
  held : ∀ names data, e.look names = some (.file data) ↔
    ∃ key, components key = names ∧ m.get? key = some data
  kept : ∀ key, (m.get? key).isSome = true → allowed key
  folders : ∀ names, e.look names = some .folder → Around allowed names

variable {allowed : String → Prop} {t : Tree} {text : String} {place : Place} {e e' : Files.Entry}
  {m m' : Memory} {key start suffix : String} {folder names : Path} {name : String} {data : ByteArray}

theorem exists_components (key : String) : ∃ folder name, components key = folder ++ [name] := by
  rcases List.eq_nil_or_concat' (components key) with hnil | hnames
  · exact absurd hnil (components_ne_nil key)
  · exact hnames

namespace Mirrors

theorem start_empty (allowed : String → Prop) : Mirrors allowed (.folder []) .empty where
  tidy := Files.Entry.tidy_empty
  root := rfl
  held names data := by
    constructor
    · intro hfile
      cases names with
      | nil => cases hfile
      | cons name names => cases hfile
    · rintro ⟨key, -, hget⟩
      cases hget
  kept key hsome := by cases hsome
  folders names hfolder := by
    cases names with
    | nil => exact .inl rfl
    | cons name names => cases hfolder

theorem congr (h : Mirrors allowed e m) (hsame : ∀ key, m'.get? key = m.get? key) : Mirrors allowed e m' where
  tidy := h.tidy
  root := h.root
  held names data := by simp only [hsame, h.held]
  kept key hsome := h.kept key (by rwa [hsame] at hsome)
  folders := h.folders

/-! ## What is seen where documents lie -/

theorem exists_key_of_file (h : Mirrors allowed e m) (hfile : e.look names = some (.file data)) :
    ∃ key, allowed key ∧ components key = names ∧ m.get? key = some data := by
  obtain ⟨key, hnames, hget⟩ := (h.held names data).1 hfile
  refine ⟨key, h.kept key ?_, hnames, hget⟩
  rw [hget]
  rfl

/-- No folder stands in the place of a document. -/
theorem look_ne_folder (hsep : Separate allowed) (h : Mirrors allowed e m) (hkey : allowed key) :
    e.look (components key) ≠ some .folder := by
  intro hfolder
  rcases h.folders _ hfolder with hnil | ⟨other, hother, hpart, hne⟩
  · exact components_ne_nil key hnil
  · exact hne (congrArg components (hsep.apart key other hkey hother hpart))

theorem look_key (hsep : Separate allowed) (h : Mirrors allowed e m) (hkey : allowed key) :
    e.look (components key) = (m.get? key).map .file := by
  cases hget : m.get? key with
  | some data => exact (h.held _ data).2 ⟨key, rfl, hget⟩
  | none =>
    cases hlook : e.look (components key) with
    | none => rfl
    | some kind =>
      cases kind with
      | folder => exact absurd hlook (h.look_ne_folder hsep hkey)
      | file data =>
        obtain ⟨other, hcomponents, hother⟩ := (h.held _ data).1 hlook
        have hsame : other = key := components_inj hcomponents
        rw [hsame, hget] at hother
        cases hother

/-- No file is in the way to a document. -/
theorem ne_file_around (hsep : Separate allowed) (h : Mirrors allowed e m) (hkey : allowed key)
    (hpart : names <+: components key) (hne : names ≠ components key) (data : ByteArray) :
    e.look names ≠ some (.file data) := by
  intro hfile
  obtain ⟨other, hother, rfl, -⟩ := h.exists_key_of_file hfile
  exact hne (congrArg components (hsep.apart other key hother hkey hpart))

theorem ne_file_on_way (hsep : Separate allowed) (h : Mirrors allowed e m) (hkey : allowed key)
    (habsent : m.get? key = none) (hpart : names <+: components key) (data : ByteArray) :
    e.look names ≠ some (.file data) := by
  by_cases hnames : names = components key
  · rw [hnames, h.look_key hsep hkey, habsent]
    rintro ⟨⟩
  · exact h.ne_file_around hsep hkey hpart hnames data

/-- A document lies in a folder. -/
theorem look_folder (hsep : Separate allowed) (h : Mirrors allowed e m) (hkey : allowed key)
    (hnames : components key = folder ++ [name]) (hget : m.get? key = some data) :
    e.look folder = some .folder := by
  have hthere : e.look (folder ++ [name]) ≠ none := by
    rw [← hnames, h.look_key hsep hkey, hget]
    exact Option.some_ne_none _
  exact Files.Entry.look_folder_of_below hthere (List.cons_ne_nil _ _)

/-- A folder goes on mirroring a memory if both change the same document and nothing else, except that the
folders around the document now exist. -/
theorem update (new : Option ByteArray) (hsep : Separate allowed) (h : Mirrors allowed e m)
    (hkey : allowed key) (hnames : components key = folder ++ [name]) (htidy : e'.Tidy)
    (hlook : ∀ other, e'.look other = if other = folder ++ [name] then new.map .file
      else if other <+: folder then some .folder else e.look other)
    (hnew : m'.get? key = new) (hsame : ∀ other, other ≠ key → m'.get? other = m.get? other) :
    Mirrors allowed e' m' := by
  have hbelow : ∀ names, names <+: folder → names <+: components key ∧ names ≠ components key := by
    intro names hpart
    rw [hnames]
    refine ⟨hpart.trans (List.prefix_append _ _), ?_⟩
    rintro rfl
    exact Files.not_concat_below folder name hpart
  refine ⟨htidy, ?_, ?_, ?_, ?_⟩
  · rw [hlook, if_neg (List.concat_ne_nil name folder).symm, if_pos List.nil_prefix]
  · intro names data
    rw [hlook, ← hnames]
    by_cases hname : names = components key
    · rw [if_pos hname, hname, Option.map_eq_some_iff]
      constructor
      · rintro ⟨data', hdata, ⟨⟩⟩
        exact ⟨key, rfl, hnew.trans hdata⟩
      · rintro ⟨other, hcomponents, hget⟩
        obtain rfl := components_inj hcomponents
        exact ⟨data, hnew.symm.trans hget, rfl⟩
    · -- any other place is that of another key
      have hother : ∀ other, components other = names → m'.get? other = m.get? other := by
        rintro other rfl
        refine hsame other ?_
        rintro rfl
        exact hname rfl
      have hiff : (∃ other, components other = names ∧ m'.get? other = some data) ↔
          e.look names = some (.file data) := by
        rw [h.held]
        exact exists_congr fun other => and_congr_right fun hcomponents => by rw [hother other hcomponents]
      rw [if_neg hname, hiff]
      by_cases hpart : names <+: folder
      · rw [if_pos hpart]
        obtain ⟨hway, hne⟩ := hbelow names hpart
        refine iff_of_false ?_ (h.ne_file_around hsep hkey hway hne data)
        rintro ⟨⟩
      · rw [if_neg hpart]
  · intro other hsome
    by_cases heq : other = key
    · exact heq ▸ hkey
    · rw [hsame other heq] at hsome
      exact h.kept other hsome
  · intro names hfolder
    rw [hlook] at hfolder
    by_cases hname : names = folder ++ [name]
    · rw [if_pos hname, Option.map_eq_some_iff] at hfolder
      obtain ⟨data, -, ⟨⟩⟩ := hfolder
    · rw [if_neg hname] at hfolder
      by_cases hpart : names <+: folder
      · exact .inr ⟨key, hkey, hbelow names hpart⟩
      · rw [if_neg hpart] at hfolder
        exact h.folders names hfolder

/-! ## Single documents -/

theorem exec_get (hsep : Separate allowed) (h : Mirrors allowed e m) (hroot : EmptyFolder t text place)
    (hkey : allowed key) (hfits : FitsBelow text (components key)) (suffix : String) :
    exec (Folder.answer (Path.ofText text) suffix (.get key)) (t.plant place e) =
      (.ok (m.get? key), t.plant place e) := by
  have hlook := h.look_key hsep hkey
  simp only [Folder.answer, readKey, hsep.isKey key hkey, if_true]
  cases hget : m.get? key with
  | some data =>
    rw [hget] at hlook
    exact Folder.exec_get hroot h.root hfits hlook
  | none =>
    rw [hget] at hlook
    exact Folder.exec_get_none hroot h.root hfits hlook fun before hpart =>
      h.ne_file_on_way hsep hkey hget hpart

theorem exec_put (hsep : Separate allowed) (h : Mirrors allowed e m) (hroot : EmptyFolder t text place)
    (hkey : allowed key) (hsuffix : IsSuffix suffix) (hfits : FitsBelow text (components key))
    (hfits' : FitsBelow text (Folder.temporary (components key) suffix))
    (haside : ∀ other, allowed other → ¬ Folder.temporary (components key) suffix <+: components other)
    (data : ByteArray) :
    ∃ e', exec (Folder.answer (Path.ofText text) suffix (.put key data)) (t.plant place e) =
        (.ok (), t.plant place e') ∧ Mirrors allowed e' (m.put key data) := by
  obtain ⟨folder, name, hnames⟩ := exists_components key
  have hfree := h.look_ne_folder hsep hkey
  simp only [Folder.answer, readKey, hsep.isKey key hkey, if_true]
  rw [hnames, Folder.temporary_concat] at hfits' haside
  rw [hnames] at hfits hfree ⊢
  -- no document has the name of the temporary file, and no folder around one has it
  have hunused : e.look (folder ++ [Folder.temporaryName name suffix]) = none := by
    cases hlook : e.look (folder ++ [Folder.temporaryName name suffix]) with
    | none => rfl
    | some kind =>
      cases kind with
      | folder =>
        rcases h.folders _ hlook with hnil | ⟨other, hother, hpart, -⟩
        · exact absurd hnil (List.concat_ne_nil _ _)
        · exact absurd hpart (haside other hother)
      | file data =>
        obtain ⟨other, hother, hcomponents, -⟩ := h.exists_key_of_file hlook
        exact absurd (hcomponents ▸ List.prefix_refl _) (haside other hother)
  have hlonger : name ≠ Folder.temporaryName name suffix := by
    intro heq
    have hsize := utf8ByteSize_temporaryName hsuffix name
    rw [← heq] at hsize
    omega
  have hway : ∀ before, before <+: folder → ∀ data, e.look before ≠ some (.file data) := by
    intro before hpart data
    refine h.ne_file_around hsep hkey ?_ ?_ data
    · rw [hnames]
      exact hpart.trans (List.prefix_append _ _)
    · rintro rfl
      rw [hnames] at hpart
      exact Files.not_concat_below folder name hpart
  obtain ⟨e', hexec, htidy, hlook⟩ :=
    Folder.exec_put hroot h.root hfits hfits' hway hfree hunused hlonger data
  exact ⟨e', hexec, h.update (some data) hsep hkey hnames (htidy h.tidy) hlook
    (Memory.get?_put_self _ _ _) fun other hne => Memory.get?_put_of_ne hne⟩

theorem exec_delete (hsep : Separate allowed) (h : Mirrors allowed e m) (hroot : EmptyFolder t text place)
    (hkey : allowed key) (hfits : FitsBelow text (components key)) (suffix : String) :
    ∃ e', exec (Folder.answer (Path.ofText text) suffix (.delete key)) (t.plant place e) =
        (.ok (m.contains key), t.plant place e') ∧ Mirrors allowed e' (m.erase key) := by
  obtain ⟨folder, name, hnames⟩ := exists_components key
  have hlook := h.look_key hsep hkey
  simp only [Folder.answer, readKey, hsep.isKey key hkey, if_true, Memory.contains]
  cases hget : m.get? key with
  | none =>
    rw [hget] at hlook
    refine ⟨e, Folder.exec_delete_none hroot h.root hfits hlook fun before hpart =>
      h.ne_file_on_way hsep hkey hget hpart, h.congr fun other => ?_⟩
    by_cases heq : other = key
    · rw [heq, Memory.get?_erase_self, hget]
    · exact Memory.get?_erase_of_ne heq
  | some data =>
    rw [hget] at hlook
    obtain ⟨e', hexec, htidy, hlook'⟩ :=
      Folder.exec_delete hroot h.root (components_ne_nil key) hfits hlook
    refine ⟨e', hexec, h.update none hsep hkey hnames (htidy h.tidy) (fun other => ?_)
      (Memory.get?_erase_self _ _) fun other hne => Memory.get?_erase_of_ne hne⟩
    rw [hlook', ← hnames]
    by_cases hname : other = components key
    · rw [if_pos hname, if_pos hname]
      rfl
    · rw [if_neg hname, if_neg hname]
      by_cases hpart : other <+: folder
      · -- the folders around a document are there already
        have hfolder := h.look_folder hsep hkey hnames hget
        rw [if_pos hpart, Files.Entry.look_folder_of_around hfolder hpart]
      · rw [if_neg hpart]

/-! ## Listings -/

/-- The files that a listing finds are the documents that it shows, except that it passes over hidden ones. -/
theorem mem_listed {l : Listing} {inside : List (String × Files.Entry)} (hsep : Separate allowed)
    (h : Mirrors allowed e m) (hget : e.get? l.path = some (.folder inside)) :
    key ∈ Folder.listed l (Files.Entry.folder inside).fileNames ↔ key ∈ m.listed l ∧ ¬ Hidden key := by
  have hfiles : ∀ name, name ∈ (Files.Entry.folder inside).fileNames ↔
      ∃ data, e.look (l.path ++ [name]) = some (.file data) := by
    intro name
    simp only [h.tidy.mem_fileNames hget, Files.Entry.look_eq_file_iff]
  rw [Folder.mem_listed, Memory.mem_listed_iff, shows_eq_true_iff]
  constructor
  · rintro ⟨name, hname, hhead, hmatches, rfl⟩
    obtain ⟨data, hfile⟩ := (hfiles name).1 hname
    obtain ⟨key, hkey, hcomponents, hdata⟩ := h.exists_key_of_file hfile
    obtain ⟨hfolder, rfl⟩ := folder_of_components (hsep.isKey key hkey) hcomponents
    rw [key_of_folder (hsep.isKey key hkey) hfolder, hdata]
    exact ⟨⟨rfl, hfolder, hmatches⟩, hhead⟩
  · rintro ⟨⟨hsome, hfolder, hmatches⟩, hhead⟩
    obtain ⟨data, hdata⟩ := Option.isSome_iff_exists.1 hsome
    have hkey := hsep.isKey key (h.kept key hsome)
    have hfile := (h.held _ data).2 ⟨key, rfl, hdata⟩
    rw [components_of_folder hkey hfolder] at hfile
    exact ⟨nameOf key, (hfiles _).2 ⟨data, hfile⟩, hhead, hmatches, key_of_folder hkey hfolder⟩

/-- Nothing is shown of a folder that does not exist. -/
theorem listed_eq_nil {l : Listing} (hsep : Separate allowed) (h : Mirrors allowed e m)
    (hlook : e.look l.path = none) : m.listed l = [] := by
  refine List.eq_nil_iff_forall_not_mem.2 fun key hmem => ?_
  obtain ⟨hsome, hshows⟩ := Memory.mem_listed_iff.1 hmem
  obtain ⟨hfolder, -⟩ := shows_eq_true_iff.1 hshows
  obtain ⟨data, hdata⟩ := Option.isSome_iff_exists.1 hsome
  have hkey := h.kept key hsome
  rw [h.look_folder hsep hkey (components_of_folder (hsep.isKey key hkey) hfolder) hdata] at hlook
  cases hlook

theorem exec_list {l : Listing} (hsep : Separate allowed) (h : Mirrors allowed e m)
    (hroot : EmptyFolder t text place) (parsed : Listing.parse start = .ok l)
    (hfits : FitsBelow text l.path) (hlies : ∀ key, allowed key → ¬ components key <+: l.path)
    (suffix : String) :
    ∃ told : List String, exec (Folder.answer (Path.ofText text) suffix (.list start)) (t.plant place e) =
        (.ok told, t.plant place e) ∧ told.Pairwise (· < ·) ∧
      ∀ key, key ∈ told ↔ key ∈ m.listed l ∧ ¬ Hidden key := by
  -- the way to the folder leads through no document
  have hfiles : ∀ before, before <+: l.path → ∀ data, e.look before ≠ some (.file data) := by
    intro before hpart data hfile
    obtain ⟨key, hkey, rfl, -⟩ := h.exists_key_of_file hfile
    exact hlies key hkey hpart
  simp only [Folder.answer, parsed]
  cases hlook : e.look l.path with
  | none =>
    refine ⟨[], Folder.exec_list_none hroot h.root hfits hlook hfiles, .nil, fun key => ?_⟩
    rw [h.listed_eq_nil hsep hlook]
    simp
  | some kind =>
    cases kind with
    | file data => exact absurd hlook (hfiles _ (List.prefix_refl _) data)
    | folder =>
      obtain ⟨inside, hget⟩ := Files.Entry.look_eq_folder_iff.1 hlook
      exact ⟨_, Folder.exec_list hroot h.root hfits hget,
        Folder.ascending_listed (Files.Entry.nodup_fileNames (h.tidy _ _ hget)),
        fun key => h.mem_listed hsep hget⟩

end Mirrors

end Storefront.Storage
