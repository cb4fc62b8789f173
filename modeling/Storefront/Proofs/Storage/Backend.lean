import Storefront.Proofs.Files.Inside
import Storefront.Proofs.Program
import Storefront.Proofs.Storage.Contract
import Storefront.Proofs.Storage.Folder
import Storefront.Proofs.Storage.Key
import Storefront.Storage.Backend

/-!
# Looking at a backend

To fetch a document or to list the keys of a folder changes nothing, in memory or in files. A document that is
listed is told when it is fetched, unless the fetch fails.
-/

namespace Storefront.Storage

open Files (Path Place Tree Entry LeadsIn exec exec_perform_bind)

/-- How a backend answers if a call may fail before it reaches the documents. A listing shows its keys in any
order. -/
inductive Backend.Serves (mayFail : Call → Prop) : Outside interface Backend where
  | answered {c : Call} {b b' : Backend} {told a : c.Answer}
    (answer : (Backend.answer c).run b = (told, b')) (same : SameTold c told a) : Serves mayFail c b a b'
  | failed {c : Call} (may : mayFail c) (b : Backend) (e : StorageError) : Serves mayFail c b (.error e) b

/-- No name of what lies in an entry has a slash in it. -/
def Named (e : Entry) : Prop := ∀ place name, e.get? (place ++ [name]) ≠ none → '/' ∉ name.toList

/-- The files of a backend lie in folders as they do in any system: in the order of their names, which have no
slashes. -/
def Backend.Sound : Backend → Prop
  | .memory _ => True
  | .files _ t => t.root.Tidy ∧ Named t.root

theorem named_file (data : ByteArray) : Named (.file data) := by
  intro place name h
  cases place <;> exact absurd rfl h

theorem Named.singleton {e : Entry} {name : String} (h : Named e) (hslash : '/' ∉ name.toList) :
    Named (.folder [(name, e)]) := by
  intro place other hget
  cases place with
  | nil =>
    rw [List.nil_append, Entry.get?_folder_cons] at hget
    by_cases heq : other = name
    · exact heq ▸ hslash
    · rw [List.lookup_cons, beq_false_of_ne heq] at hget
      exact absurd rfl hget
  | cons first place =>
    rw [List.cons_append, Entry.get?_folder_cons] at hget
    by_cases heq : first = name
    · rw [heq, List.lookup_cons_self] at hget
      exact h place other hget
    · rw [List.lookup_cons, beq_false_of_ne heq] at hget
      exact absurd rfl hget

namespace Backend

variable {mayFail : Call → Prop} {b b' : Backend} {key start : String}

theorem serves_total (mayFail : Call → Prop) (c : Call) (b : Backend) : ∃ a b', Serves mayFail c b a b' :=
  ⟨_, _, .answered rfl (.refl _ _)⟩

/-- What is fetched is what the backend answers, unless the call has failed before. -/
theorem Serves.get {a : Except StorageError (Option ByteArray)} (h : Serves mayFail (.get key) b a b') :
    (Backend.answer (.get key)).run b = (a, b') ∨ (mayFail (.get key) ∧ (∃ e, a = .error e) ∧ b' = b) := by
  cases h with
  | answered answer same =>
    cases same
    exact .inl answer
  | failed may _ e => exact .inr ⟨may, ⟨e, rfl⟩, rfl⟩

theorem Serves.list {a : Except StorageError (List String)} (h : Serves mayFail (.list start) b a b') :
    (∃ told, (Backend.answer (.list start)).run b = (told, b') ∧ SameTold (.list start) told a) ∨
      (mayFail (.list start) ∧ (∃ e, a = .error e) ∧ b' = b) := by
  cases h with
  | answered answer same => exact .inl ⟨_, answer, same⟩
  | failed may _ e => exact .inr ⟨may, ⟨e, rfl⟩, rfl⟩

/-! ## Documents in memory -/

theorem answer_get_memory {names : Path} {m : Memory} (hkey : readKey key = .ok names) :
    (Backend.answer (.get key)).run (.memory m) = (.ok (m.get? key), .memory m) := by
  show ((Memory.answer (.get key) m).1, Backend.memory (Memory.answer (.get key) m).2) = _
  rw [Memory.answer_get (readKey_eq_ok_iff.1 hkey).1]

theorem answer_list_memory {l : Listing} {m : Memory} (hparse : Listing.parse start = .ok l) :
    (Backend.answer (.list start)).run (.memory m) = (.ok (m.listed l), .memory m) := by
  show ((Memory.answer (.list start) m).1, Backend.memory (Memory.answer (.list start) m).2) = _
  rw [Memory.answer_list hparse]

/-! ## Documents in files -/

variable {t : Tree} {root path : Path} {l : Listing}

theorem answer_files (c : Call) (root : Path) (t : Tree) :
    (Backend.answer c).run (.files root t) =
      ((exec (Folder.answer root temporarySuffix c) t).1,
        .files root (exec (Folder.answer root temporarySuffix c) t).2) := rfl

/-- What the file at a path holds, as an answer. -/
def fetched (key : String) : Except FileError (Place × Entry) → Except StorageError (Option ByteArray)
  | .ok (_, .file data) => .ok (some data)
  | .ok (_, .folder _) => .error (.file key .isFolder)
  | .error .notFound => .ok none
  | .error e => .error (.file key e)

theorem exec_get_eq (key : String) (path : Path) (t : Tree) :
    exec (Folder.get key path) t = (fetched key (t.find path), t) := by
  unfold Folder.get
  cases hfind : t.find path with
  | ok found =>
    obtain ⟨place, entry⟩ := found
    cases entry with
    | file data =>
      have hread : Tree.perform (.read path) t = (.ok data, t) := by simp only [Tree.perform, hfind]
      exact exec_perform_bind hread
    | folder inside =>
      have hread : Tree.perform (.read path) t = (.error .isFolder, t) := by
        simp only [Tree.perform, hfind]
      exact exec_perform_bind hread
  | error e =>
    have hread : Tree.perform (.read path) t = (.error e, t) := by simp only [Tree.perform, hfind]
    refine (exec_perform_bind hread).trans ?_
    cases e <;> rfl

/-- What a listing shows of what stands at a path, as an answer. -/
def shown (start : String) (l : Listing) : Except FileError (Place × Entry) → Except StorageError (List String)
  | .ok (_, .file _) => .error (.file start .notFolder)
  | .ok (_, .folder inside) => .ok (Folder.listed l (Entry.folder inside).fileNames)
  | .error .notFound => .ok []
  | .error e => .error (.file start e)

theorem exec_list_eq (start : String) (root : Path) (l : Listing) (t : Tree) :
    exec (Folder.list start root l) t = (shown start l (t.find (root.join l.path)), t) := by
  unfold Folder.list
  cases hfind : t.find (root.join l.path) with
  | ok found =>
    obtain ⟨place, entry⟩ := found
    cases entry with
    | file data =>
      have hnames : Tree.perform (.names (root.join l.path)) t = (.error .notFolder, t) := by
        simp only [Tree.perform, hfind]
      exact exec_perform_bind hnames
    | folder inside =>
      have hnames : Tree.perform (.names (root.join l.path)) t =
          (.ok (Entry.folder inside).fileNames, t) := by
        simp only [Tree.perform, hfind]
      exact exec_perform_bind hnames
  | error e =>
    have hnames : Tree.perform (.names (root.join l.path)) t = (.error e, t) := by
      simp only [Tree.perform, hfind]
    refine (exec_perform_bind hnames).trans ?_
    cases e <;> rfl

theorem exec_answer_get {names : Path} (suffix : String) (hkey : readKey key = .ok names) :
    exec (Folder.answer root suffix (.get key)) t = (fetched key (t.find (root.join names)), t) := by
  simp only [Folder.answer, hkey]
  exact exec_get_eq key (root.join names) t

theorem exec_answer_list (suffix : String) (hparse : Listing.parse start = .ok l) :
    exec (Folder.answer root suffix (.list start)) t = (shown start l (t.find (root.join l.path)), t) := by
  simp only [Folder.answer, hparse]
  exact exec_list_eq start root l t

theorem answer_get_files {names : Path} (hkey : readKey key = .ok names) :
    (Backend.answer (.get key)).run (.files root t) =
      (fetched key (t.find (root.join names)), .files root t) := by
  rw [answer_files, exec_answer_get _ hkey]
  rfl

theorem answer_list_files (hparse : Listing.parse start = .ok l) :
    (Backend.answer (.list start)).run (.files root t) =
      (shown start l (t.find (root.join l.path)), .files root t) := by
  rw [answer_files, exec_answer_list _ hparse]
  rfl

/-! ## Looking changes nothing -/

theorem answer_get_invalid {e : StorageError} (hkey : readKey key = .error e) (b : Backend) :
    (Backend.answer (.get key)).run b = (.error e, b) := by
  cases b with
  | memory m =>
    show ((Memory.answer (.get key) m).1, Backend.memory (Memory.answer (.get key) m).2) = _
    simp only [Memory.answer, hkey]
  | files root t =>
    rw [answer_files]
    simp only [Folder.answer, hkey]
    rfl

theorem answer_get_same (key : String) (b : Backend) : ((Backend.answer (.get key)).run b).2 = b := by
  cases hkey : readKey key with
  | error e => rw [answer_get_invalid hkey]
  | ok names =>
    cases b with
    | memory m => rw [answer_get_memory hkey]
    | files root t => rw [answer_get_files hkey]

theorem answer_list_same (start : String) (b : Backend) : ((Backend.answer (.list start)).run b).2 = b := by
  cases b with
  | memory m =>
    show Backend.memory (Memory.answer (.list start) m).2 = _
    rw [Memory.answer_list_same]
  | files root t =>
    cases hparse : Listing.parse start with
    | error e =>
      rw [answer_files]
      simp only [Folder.answer, hparse]
      rfl
    | ok l => rw [answer_list_files hparse]

theorem Serves.get_same {a : Except StorageError (Option ByteArray)} (h : Serves mayFail (.get key) b a b') :
    b' = b := by
  rcases h.get with answer | ⟨-, -, hsame⟩
  · rw [← answer_get_same key b, answer]
  · exact hsame

theorem Serves.list_same {a : Except StorageError (List String)}
    (h : Serves mayFail (.list start) b a b') : b' = b := by
  rcases h.list with ⟨told, answer, -⟩ | ⟨-, -, hsame⟩
  · rw [← answer_list_same start b, answer]
  · exact hsame

/-- Keys are told if the backend tells them, in some order. -/
theorem Serves.keys {keys : List String} (h : Serves mayFail (.list start) b (.ok keys) b') :
    ∃ told, ((Backend.answer (.list start)).run b).1 = .ok told ∧ told.Perm keys := by
  rcases h.list with ⟨told, answer, same⟩ | ⟨-, ⟨e, he⟩, -⟩
  · rw [answer]
    cases same with
    | refl => exact ⟨keys, rfl, .refl _⟩
    | keys perm => exact ⟨_, rfl, perm⟩
  · cases he

theorem found_memory {m : Memory} {found : Option ByteArray}
    (h : ((Backend.answer (.get key)).run (.memory m)).1 = .ok found) : found = m.get? key := by
  cases hkey : readKey key with
  | error e =>
    rw [answer_get_invalid hkey] at h
    cases h
  | ok names =>
    rw [answer_get_memory hkey] at h
    exact (Except.ok.inj h).symm

/-- A document is told if the backend tells it. -/
theorem Serves.found {found : Option ByteArray} (h : Serves mayFail (.get key) b (.ok found) b') :
    ((Backend.answer (.get key)).run b).1 = .ok found := by
  rcases h.get with answer | ⟨-, ⟨e, he⟩, -⟩
  · rw [answer]
  · cases he

end Backend

end Storefront.Storage
