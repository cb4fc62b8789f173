import Storefront.Proofs.Files.Grown
import Storefront.Proofs.Storage.Backend
import Storefront.Proofs.Storage.Confined
import Storefront.Proofs.Storage.Listing

/-!
# Putting a document is all or nothing

A document is written to a temporary file beside its place and then moved there. Whichever of the steps is
refused, and for whatever reason, all files are as they were, and at most folders around the place have been
made; if none is, the only file that has changed is the one of the document. So no other document is affected.
-/

namespace Storefront.Storage.Folder

open Files (Path Place Tree Entry FileProgram perform makeFolders exec exec_bind exec_perform_bind Grown Encloses
  Becomes Rooted LeadsIn)

variable {t t' : Tree} {text key suffix : String} {names path : Path} {data : ByteArray}
  {r : Except StorageError Unit}

/-- What is seen once a document has been put and what was written aside is gone again: the document at its
place, or all as it was. -/
inductive Replaced (key : String) (place : Place) (data : ByteArray) (t t' : Tree) :
    Except StorageError Unit → Prop where
  | moved (becomes : Becomes t (Function.update t.root.look place (some (.file data))) t') :
    Replaced key place data t t' (.ok ())
  | refused (cause : FileError) (becomes : Becomes t t.root.look t') :
    Replaced key place data t t' (.error (.file key cause))

/-- Once there are the folders, the temporary file is written and moved to the place of the document. Whatever is
refused, it is not there in the end. -/
theorem exec_put_cases (hfree : ∀ old, t.root.look (t.destination (temporary path suffix)) ≠ some (.file old))
    (h : exec (put key path suffix data) t = (r, t')) :
    ∃ t₁, Grown (Encloses t path.dropLast) t t₁ ∧ Replaced key (t.destination path) data t₁ t' r ∧
      (r = .ok () → t'.find path = .ok (t.destination path, .file data)) := by
  obtain ⟨made, t₁, hfolders⟩ : ∃ made t₁, exec (makeFolders path.dropLast) t = (made, t₁) := ⟨_, _, rfl⟩
  have hgrown := Files.grown_of_makeFolders hfolders
  have hfree₁ : ∀ old, t₁.root.look (t₁.destination (temporary path suffix)) ≠ some (.file old) := by
    intro old
    rw [Files.destination_congr hgrown.start, Ne, hgrown.file_iff]
    exact hfree old
  refine ⟨t₁, hgrown, ?_⟩
  cases made with
  | error e =>
    have hput : exec (put key path suffix data) t = (failed key e, t₁) := by
      unfold put
      rw [exec_bind hfolders]
      rfl
    cases hput.symm.trans h
    exact ⟨.refused e (.refl _), nofun⟩
  | ok =>
    obtain ⟨wrote, t₂, hwrite⟩ :
      ∃ wrote t₂, Tree.perform (.write (temporary path suffix) data) t₁ = (wrote, t₂) := ⟨_, _, rfl⟩
    cases wrote with
    | error e =>
      -- what could not be written is not there, so that to remove it changes nothing
      obtain ⟨removed, hremove⟩ := Files.perform_remove_of_failed_write hfree₁ hwrite
      have hput : exec (put key path suffix data) t = (failed key e, t₁) := by
        unfold put
        rw [exec_bind hfolders]
        exact (exec_perform_bind hwrite).trans (exec_perform_bind hremove)
      cases hput.symm.trans h
      exact ⟨.refused e (.refl _), nofun⟩
    | ok =>
      have happeared := Files.appeared_of_write hfree₁ hwrite
      obtain ⟨moved, t₃, hrename⟩ :
        ∃ moved t₃, Tree.perform (.rename (temporary path suffix) path) t₂ = (moved, t₃) := ⟨_, _, rfl⟩
      rcases happeared.renamed hrename with ⟨e, rfl, rfl⟩ | ⟨rfl, hbecomes, hfound⟩
      · -- what could not be moved is still there, and is removed
        obtain ⟨t₄, hremove, hbecomes⟩ := happeared.removed
        have hput : exec (put key path suffix data) t = (failed key e, t₄) := by
          unfold put
          rw [exec_bind hfolders]
          exact (exec_perform_bind hwrite).trans ((exec_perform_bind hrename).trans (exec_perform_bind hremove))
        cases hput.symm.trans h
        exact ⟨.refused e hbecomes, nofun⟩
      · have hput : exec (put key path suffix data) t = (.ok (), t₃) := by
          unfold put
          rw [exec_bind hfolders]
          exact (exec_perform_bind hwrite).trans (exec_perform_bind hrename)
        cases hput.symm.trans h
        rw [Files.destination_congr hgrown.start] at hbecomes hfound
        exact ⟨.moved hbecomes, fun _ => hfound⟩

/-! ## What becomes of the files -/

/-- How a call ends that puts a document at a place: it is there and nothing else has changed among the files, or
nothing has changed at all. -/
inductive PutEnds (key : String) (place : Place) (data : ByteArray) (t t' : Tree) :
    Except StorageError Unit → Prop where
  | stored (files : ∀ other old, t'.root.get? other = some (.file old) ↔
      if other = place then old = data else t.root.get? other = some (.file old)) :
    PutEnds key place data t t' (.ok ())
  | refused {cause : FileError}
    (files : ∀ other old, t'.root.get? other = some (.file old) ↔ t.root.get? other = some (.file old)) :
    PutEnds key place data t t' (.error (.file key cause))

namespace PutEnds

variable {place other : Place} {found : ByteArray}

/-- What is in another file is there afterwards. -/
theorem kept (h : PutEnds key place data t t' r) (hother : other ≠ place)
    (hfile : t.root.get? other = some (.file found)) : t'.root.get? other = some (.file found) := by
  cases h with
  | stored files =>
    rw [files, if_neg hother]
    exact hfile
  | refused files => exact (files other found).2 hfile

/-- A file that is there afterwards was there before, or is the one of the document. -/
theorem file_cases (h : PutEnds key place data t t' r) (hfile : t'.root.get? other = some (.file found)) :
    t.root.get? other = some (.file found) ∨ (r = .ok () ∧ other = place) := by
  cases h with
  | stored files =>
    by_cases hother : other = place
    · exact .inr ⟨rfl, hother⟩
    · rw [files, if_neg hother] at hfile
      exact .inl hfile
  | refused files => exact .inl ((files other found).1 hfile)

end PutEnds

namespace Replaced

variable {place other : Place}

theorem becomes (h : Replaced key place data t t' r) : ∃ look, Becomes t look t' := by
  cases h with
  | moved hbecomes | refused _ hbecomes => exact ⟨_, hbecomes⟩

theorem look_folder (h : Replaced key place data t t' r) (hfolder : t'.root.look other = some .folder) :
    t.root.look other = some .folder := by
  cases h with
  | moved hbecomes =>
    rw [hbecomes.look] at hfolder
    by_cases hother : other = place
    · rw [hother, Function.update_self] at hfolder
      cases hfolder
    · rwa [Function.update_of_ne hother] at hfolder
  | refused _ hbecomes => rwa [hbecomes.look] at hfolder

/-- The folders that have been made before do not count among the files. -/
theorem ends {t₁ : Tree} {added : Place → Prop} (h : Replaced key place data t₁ t' r)
    (hgrown : Grown added t t₁) : PutEnds key place data t t' r := by
  cases h with
  | moved hbecomes =>
    refine .stored fun other old => ?_
    rw [← Entry.look_eq_file_iff, hbecomes.look]
    by_cases hother : other = place
    · rw [hother, Function.update_self, if_pos rfl, Option.some.injEq, Files.Kind.file.injEq]
      exact eq_comm
    · rw [Function.update_of_ne hother, if_neg hother, hgrown.file_iff, Entry.look_eq_file_iff]
  | refused _ hbecomes =>
    refine .refused fun other old => ?_
    rw [← Entry.look_eq_file_iff, hbecomes.look, hgrown.file_iff, Entry.look_eq_file_iff]

end Replaced

/-- What a call that puts a document comes to, and what it keeps however it ends. -/
structure PutDone (text key suffix : String) (names : Path) (data : ByteArray) (t : Tree)
    (r : Except StorageError Unit) (t' : Tree) : Prop where
  ends : PutEnds key (t.destination (Path.ofText text) ++ names) data t t' r
  /-- The document can be fetched once it is stored. -/
  fetched : r = .ok () → (exec (answer (Path.ofText text) suffix (.get key)) t').1 = .ok (some data)
  tidy : t'.root.Tidy
  folders : ∀ other, t.root.look other = some .folder → t'.root.look other = some .folder
  /-- Only folders around the document have been made, where nothing stood. -/
  made : ∀ other, t'.root.look other = some .folder → t.root.look other = some .folder ∨
    (t.root.look other = none ∧ Encloses t ((Path.ofText text).join names).dropLast other)
  /-- Every other document that could be fetched is fetched as before. -/
  others : ∀ other found, other ≠ key →
    (exec (answer (Path.ofText text) suffix (.get other)) t).1 = .ok (some found) →
      (exec (answer (Path.ofText text) suffix (.get other)) t').1 = .ok (some found)
  /-- Nothing but the document is listed that was not listed before. -/
  listed : Rooted t text → ∀ (start : String) (shown : List String),
    (exec (answer (Path.ofText text) suffix (.list start)) t').1 = .ok shown → ∀ other ∈ shown,
      (∃ before : List String, (exec (answer (Path.ofText text) suffix (.list start)) t).1 = .ok before ∧
        other ∈ before) ∨ (r = .ok () ∧ other = key)

theorem leadsIn_of_readKey (hkey : readKey key = .ok names) : ∀ name ∈ names, LeadsIn name := fun _ hname =>
  leadsIn_of_isName (isName_of_readKey hkey hname)

theorem find_of_fetched {found : Except FileError (Place × Entry)} {d : ByteArray}
    (h : Backend.fetched key found = .ok (some d)) : ∃ place, found = .ok (place, .file d) := by
  cases found with
  | ok there =>
    obtain ⟨place, entry⟩ := there
    cases entry with
    | file data =>
      cases h
      exact ⟨place, rfl⟩
    | folder inside => cases h
  | error e => cases e <;> cases h

/-- What is fetched under another key has a file of its own, and this is kept. -/
theorem fetch_kept {other : String} {found : ByteArray} (hkey : readKey key = .ok names)
    (hends : PutEnds key (t.destination (Path.ofText text) ++ names) data t t' r)
    (hstart : t'.start = t.start)
    (hfolders : ∀ other, t.root.look other = some .folder → t'.root.look other = some .folder)
    (hother : other ≠ key) (h : (exec (answer (Path.ofText text) suffix (.get other)) t).1 = .ok (some found)) :
    (exec (answer (Path.ofText text) suffix (.get other)) t').1 = .ok (some found) := by
  cases hread : readKey other with
  | error e =>
    simp only [answer, hread] at h
    cases h
  | ok names' =>
    rw [Backend.exec_answer_get suffix hread] at h ⊢
    obtain ⟨place, hfind⟩ := find_of_fetched h
    obtain ⟨-, -, -, hget⟩ := Files.leads_of_find hfind
    have hplace := (Files.destination_of_find hfind).trans (Files.destination_join (leadsIn_of_readKey hread))
    have hne : place ≠ t.destination (Path.ofText text) ++ names := by
      intro heq
      have hnames := List.append_cancel_left (hplace.symm.trans heq)
      obtain ⟨-, rfl⟩ := readKey_eq_ok_iff.1 hread
      obtain ⟨-, rfl⟩ := readKey_eq_ok_iff.1 hkey
      exact hother (components_inj hnames)
    rw [Files.find_mono hstart hfolders hfind (hends.kept hne hget)]
    rfl

/-- The key with which a listing shows the document. -/
theorem key_of_readKey {l : Listing} {name : String} (hkey : readKey key = .ok (l.path ++ [name])) :
    l.key name = key := by
  obtain ⟨hvalid, hcomponents⟩ := readKey_eq_ok_iff.1 hkey
  obtain ⟨hfolder, rfl⟩ := folder_of_components hvalid hcomponents
  exact key_of_folder hvalid hfolder

/-- A file that is listed afterwards was there before, or is the one of the document. -/
theorem listed_before {start other : String} {shown : List String} (hkey : readKey key = .ok names)
    (hends : PutEnds key (t.destination (Path.ofText text) ++ names) data t t' r)
    (hstart : t'.start = t.start) (htidy : t.root.Tidy) (htidy' : t'.root.Tidy) (hrooted : Rooted t text)
    (h : (exec (answer (Path.ofText text) suffix (.list start)) t').1 = .ok shown) (hother : other ∈ shown) :
    (∃ before : List String, (exec (answer (Path.ofText text) suffix (.list start)) t).1 = .ok before ∧
      other ∈ before) ∨ (r = .ok () ∧ other = key) := by
  cases hparse : Listing.parse start with
  | error e =>
    simp only [answer, hparse] at h
    cases h
  | ok l =>
    have hleads : ∀ name ∈ l.path, LeadsIn name := fun name hname =>
      leadsIn_of_isName (isName_of_parse hparse hname)
    rw [Backend.exec_answer_list suffix hparse] at h ⊢
    cases hfind : t'.find ((Path.ofText text).join l.path) with
    | error e =>
      rw [hfind] at h
      cases e <;> cases h
      cases hother
    | ok there =>
      obtain ⟨place, entry⟩ := there
      rw [hfind] at h
      cases entry with
      | file d => cases h
      | folder inside' =>
        obtain rfl := Except.ok.inj h
        obtain ⟨name, hname, hvisible, hmatches, rfl⟩ := mem_listed.1 hother
        obtain ⟨-, -, -, hget'⟩ := Files.leads_of_find hfind
        obtain ⟨d, hfile⟩ := (htidy'.mem_fileNames hget').1 hname
        rcases hends.file_cases hfile with hbefore | ⟨hok, hplace⟩
        · left
          -- the folder was there, and so it was listed
          have hthere : t.root.look (place ++ [name]) ≠ none := by
            rw [Entry.look_eq_file_iff.2 hbefore]
            exact Option.some_ne_none _
          obtain ⟨inside, hget⟩ :=
            Entry.look_eq_folder_iff.1 (Entry.look_folder_of_below hthere (List.cons_ne_nil _ _))
          rw [hrooted.find_back hleads hstart hfind hget]
          refine ⟨_, rfl, mem_listed.2 ⟨name, ?_, hvisible, hmatches, rfl⟩⟩
          exact (htidy.mem_fileNames hget).2 ⟨d, hbefore⟩
        · right
          have hfolder : place = t.destination (Path.ofText text) ++ l.path :=
            (Files.destination_of_find hfind).trans
              ((Files.destination_congr hstart _).trans (Files.destination_join hleads))
          rw [hfolder, List.append_assoc] at hplace
          rw [← List.append_cancel_left hplace] at hkey
          exact ⟨hok, key_of_readKey hkey⟩

/-- The temporary file has its place beside that of the document. -/
theorem destination_temporary (hkey : readKey key = .ok names) (hsuffix : IsSuffix suffix) :
    t.destination (temporary ((Path.ofText text).join names) suffix) =
      temporary (t.destination (Path.ofText text) ++ names) suffix := by
  have hnames : ∀ name ∈ names, IsName name := fun _ hname => isName_of_readKey hkey hname
  obtain ⟨-, hcomponents⟩ := readKey_eq_ok_iff.1 hkey
  have hne : names ≠ [] := hcomponents ▸ components_ne_nil key
  rcases List.eq_nil_or_concat names with hnil | ⟨folder, name, hconcat⟩
  · exact absurd hnil hne
  · rw [List.concat_eq_append] at hconcat
    subst hconcat
    have hleads : ∀ n ∈ folder ++ [temporaryName name suffix], LeadsIn n := by
      intro n hn
      refine leadsIn_of_isName ?_
      rcases List.mem_append.1 hn with hn | hn
      · exact hnames n (List.mem_append_left _ hn)
      · rw [List.mem_singleton.1 hn]
        exact isName_temporaryName (hnames name (List.mem_append_right _ List.mem_cons_self)) hsuffix
    rw [temporary_join, Files.destination_join hleads, ← List.append_assoc, ← List.append_assoc,
      temporary_concat]

namespace Blocked

/-- A folder has the name of the document. -/
def tree : Tree := ⟨.folder [("data", .folder [("carts", .folder [("bob", .folder [])])])], []⟩

/-- The temporary file for the document. -/
def aside : Place := temporary (tree.destination (Path.ofText "data") ++ ["carts", "bob"]) "0000000000000000"

theorem tidy_tree : tree.root.Tidy :=
  ((Entry.tidy_empty.singleton "bob").singleton "carts").singleton "data"

theorem get?_aside : tree.root.get? aside = none := by rfl

theorem hasRoot : Files.HasRoot tree "data" ["data"] := ⟨_, by rfl⟩

end Blocked

end Storefront.Storage.Folder
