import Storefront.Proofs.Storage.Contract
import Storefront.Proofs.Storage.Mirror

/-!
# Calls in memory and in a folder

Any calls in any order come to the same in memory and in a folder that was empty, as long as no document lies
below another one, no listing goes to the place of a document or below it, and all names are short enough. Both
answer by what was put last under each key. There is one difference: the folder shows no hidden file, so that a
listing passes over keys whose names start with a point.
-/

namespace Storefront.Storage

open Files (Path Place Tree EmptyFolder FitsBelow exec)

/-! ## What the calls come to -/

/-- The text that a call is refused for, if it is. -/
def Call.refusal : Call → Option String
  | .get key | .put key _ | .delete key => if isKey key then none else some key
  | .list start =>
    if folderOf start ≠ "" ∧ !isKey (folderOf start) then some (folderOf start)
    else if (nameOf start).toList.all allows then none else some start

/-- What is stored under each key after a call. -/
def Call.effect (stored : String → Option ByteArray) : Call → String → Option ByteArray
  | .put key data => if isKey key then Function.update stored key (some data) else stored
  | .delete key => if isKey key then Function.update stored key none else stored
  | .get _ | .list _ => stored

/-- What a call answers in memory and in a folder, told by what is stored. -/
inductive Alike (stored : String → Option ByteArray) : (c : Call) → c.Answer → c.Answer → Prop where
  | refused {c : Call} {text : String} (h : c.refusal = some text) :
    Alike stored c (.error (.invalidKey text)) (.error (.invalidKey text))
  | get {key : String} (h : isKey key = true) : Alike stored (.get key) (.ok (stored key)) (.ok (stored key))
  | put {key : String} (h : isKey key = true) (data : ByteArray) :
    Alike stored (.put key data) (.ok ()) (.ok ())
  | delete {key : String} (h : isKey key = true) :
    Alike stored (.delete key) (.ok (stored key).isSome) (.ok (stored key).isSome)
  | list {start : String} {shown told : List String} (h : (Call.list start).refusal = none)
    (inMemory : ∀ key, key ∈ shown ↔ (stored key).isSome = true ∧ LiesUnder start key)
    (inFolder : ∀ key, key ∈ told ↔ key ∈ shown ∧ ¬ Hidden key) :
    Alike stored (.list start) (.ok shown) (.ok told)

/-- A call, and the random part in the name of the temporary file that it may need. -/
structure Drawn where
  call : Call
  suffix : String

def storedAfter (calls : List Drawn) : String → Option ByteArray :=
  calls.foldl (fun stored c => c.call.effect stored) fun _ => none

def memoryAfter (calls : List Drawn) : Memory :=
  calls.foldl (fun m c => (Memory.answer c.call m).2) .empty

def treeAfter (text : String) (t : Tree) (calls : List Drawn) : Tree :=
  calls.foldl (fun t c => (exec (Folder.answer (Path.ofText text) c.suffix c.call) t).2) t

/-! ## What the calls are about -/

/-- The key of a document, if the call is about one. -/
def Call.keys : Call → List String
  | .get key | .put key _ | .delete key => if isKey key then [key] else []
  | .list _ => []

/-- The names of the folder that the call lists, if it does. -/
def Call.folders : Call → List Path
  | .list start => (Listing.parse start).toOption.toList.map Listing.path
  | .get _ | .put _ _ | .delete _ => []

/-- The names of the temporary file, if the call needs one. -/
def Drawn.asides (c : Drawn) : List Path :=
  match c.call with
  | .put key _ => if isKey key then [Folder.temporary (components key) c.suffix] else []
  | .get _ | .delete _ | .list _ => []

def keysOf (calls : List Drawn) : List String := calls.flatMap (·.call.keys)

/-- The system has room for such names below a path. -/
def HasRoom (text : String) (names : Path) : Prop :=
  (∀ name ∈ names, name.utf8ByteSize ≤ Tree.nameLimit) ∧
    ((Path.ofText text).join names).size ≤ Tree.pathLimit

/-- The keys of the calls can be those of documents and none of folders, and no name is too long. The temporary
files have names that no key has. -/
structure Orderly (text : String) (calls : List Drawn) : Prop where
  -- the empty path is that of no folder
  named : text ≠ ""
  hex : ∀ c ∈ calls, IsSuffix c.suffix
  apart : ∀ key ∈ keysOf calls, ∀ other ∈ keysOf calls, components key <+: components other → key = other
  listed : ∀ key ∈ keysOf calls, ∀ c ∈ calls, ∀ folder ∈ c.call.folders, ¬ components key <+: folder
  aside : ∀ key ∈ keysOf calls, ∀ c ∈ calls, ∀ aside ∈ c.asides, ¬ aside <+: components key
  room : ∀ c ∈ calls, ∀ names ∈ c.call.keys.map components ++ c.call.folders ++ c.asides, HasRoom text names

variable {allowed : String → Prop} {t : Tree} {text : String} {place : Place} {e : Files.Entry} {m : Memory}
  {c : Drawn} {calls before after : List Drawn} {names : Path} {key start suffix : String} {data : ByteArray}

/-! ## Refusals -/

theorem parse_cases (start : String) :
    (Call.list start).refusal = none ∧ Listing.parse start = .ok ⟨folderOf start, nameOf start⟩ ∨
      ∃ text, (Call.list start).refusal = some text ∧ Listing.parse start = .error (.invalidKey text) := by
  rw [parse_eq]
  dsimp only [Call.refusal]
  by_cases hfolder : folderOf start ≠ "" ∧ (!isKey (folderOf start)) = true
  · rw [if_pos hfolder, if_pos hfolder]
    exact .inr ⟨_, rfl, rfl⟩
  · rw [if_neg hfolder, if_neg hfolder]
    by_cases hall : (nameOf start).toList.all allows = true
    · rw [if_pos hall, hall]
      exact .inl ⟨rfl, rfl⟩
    · rw [if_neg hall, eq_false_of_ne_true hall]
      exact .inr ⟨_, rfl, rfl⟩

/-- What is refused is refused by both, and changes neither. -/
theorem answer_refused (h : c.call.refusal = some text) (root : Path) (t : Tree) (m : Memory) :
    Memory.answer c.call m = (.error (.invalidKey text), m) ∧
      exec (Folder.answer root c.suffix c.call) t = (.error (.invalidKey text), t) := by
  obtain ⟨call, suffix⟩ := c
  cases call with
  | get key | put key data | delete key =>
    by_cases hkey : isKey key = true
    · simp [Call.refusal, hkey] at h
    · simp only [Call.refusal, hkey, if_false, Option.some.injEq, Bool.false_eq_true] at h
      subst h
      have hread : readKey key = .error (.invalidKey key) := if_neg hkey
      simp only [Memory.answer, Folder.answer, hread, true_and]
      rfl
  | list start =>
    rcases parse_cases start with ⟨hnone, -⟩ | ⟨text', htext, hparse⟩
    · rw [hnone] at h
      cases h
    · obtain rfl := Option.some.inj (htext.symm.trans h)
      simp only [Memory.answer, Folder.answer, hparse, true_and]
      rfl

/-! ## One call -/

theorem isKey_of_mem_keys {call : Call} (h : key ∈ call.keys) : isKey key = true := by
  cases call with
  | get other | put other data | delete other =>
    simp only [Call.keys] at h
    by_cases hkey : isKey other = true
    · rw [if_pos hkey] at h
      rwa [List.mem_singleton.1 h]
    · rw [if_neg hkey] at h
      cases h
  | list start => cases h

theorem mem_keysOf (hc : c ∈ calls) (h : key ∈ c.call.keys) : key ∈ keysOf calls :=
  List.mem_flatMap.2 ⟨c, hc, h⟩

theorem HasRoom.fitsBelow (h : HasRoom text names) (hnames : ∀ name ∈ names, IsName name) :
    FitsBelow text names := by
  refine ⟨fun name hname => ?_, h.2⟩
  have hname' := hnames name hname
  exact ⟨hname'.isHere, hname'.ne_up, h.1 name hname⟩

theorem isName_of_mem_temporary {name : String} (hkey : isKey key = true) (hsuffix : IsSuffix suffix)
    (hname : name ∈ Folder.temporary (components key) suffix) : IsName name := by
  obtain ⟨folder, last, hnames⟩ := exists_components key
  have hall : ∀ name ∈ folder ++ [last], IsName name := by
    rw [← hnames]
    exact fun name => isName_of_mem_components hkey
  rw [hnames, Folder.temporary_concat] at hname
  rcases List.mem_append.1 hname with hfolder | haside
  · exact hall name (List.mem_append_left _ hfolder)
  · rw [List.mem_singleton.1 haside]
    exact isName_temporaryName (hall last (List.mem_append_right _ (List.mem_singleton_self _))) hsuffix

namespace Orderly

theorem separate (orderly : Orderly text calls) : Separate (· ∈ keysOf calls) where
  isKey key hkey := by
    obtain ⟨c, -, hkey⟩ := List.mem_flatMap.1 hkey
    exact isKey_of_mem_keys hkey
  apart key other hkey hother hpart := orderly.apart key hkey other hother hpart

theorem fitsBelow_key (orderly : Orderly text calls) (hc : c ∈ calls) (hkey : key ∈ c.call.keys) :
    FitsBelow text (components key) := by
  refine (orderly.room c hc _ ?_).fitsBelow fun name => isName_of_mem_components (isKey_of_mem_keys hkey)
  exact List.mem_append_left _ (List.mem_append_left _ (List.mem_map_of_mem hkey))

theorem exec_put (orderly : Orderly text calls) (hroot : EmptyFolder t text place)
    (h : Mirrors (· ∈ keysOf calls) e m) (hc : (⟨.put key data, suffix⟩ : Drawn) ∈ calls)
    (hkey : isKey key = true) :
    ∃ e', exec (Folder.answer (Path.ofText text) suffix (.put key data)) (t.plant place e) =
        (.ok (), t.plant place e') ∧ Mirrors (· ∈ keysOf calls) e' (m.put key data) := by
  have hex : IsSuffix suffix := orderly.hex _ hc
  have hown : key ∈ (Call.put key data).keys := by simp [Call.keys, hkey]
  have haside : Folder.temporary (components key) suffix ∈ Drawn.asides ⟨.put key data, suffix⟩ := by
    simp [Drawn.asides, hkey]
  have hroom := orderly.room _ hc _ (List.mem_append_right _ haside)
  exact h.exec_put orderly.separate hroot (mem_keysOf hc hown) hex (orderly.fitsBelow_key hc hown)
    (hroom.fitsBelow fun name => isName_of_mem_temporary hkey hex)
    (fun other hother => orderly.aside other hother _ hc _ haside) data

theorem exec_list {l : Listing} (orderly : Orderly text calls) (hroot : EmptyFolder t text place)
    (h : Mirrors (· ∈ keysOf calls) e m) (hc : (⟨.list start, suffix⟩ : Drawn) ∈ calls)
    (hparse : Listing.parse start = .ok l) :
    ∃ told : List String, exec (Folder.answer (Path.ofText text) suffix (.list start)) (t.plant place e) =
        (.ok told, t.plant place e) ∧ ∀ key, key ∈ told ↔ key ∈ m.listed l ∧ ¬ Hidden key := by
  have hlists : l.path ∈ (Call.list start).folders := by simp [Call.folders, hparse, Except.toOption]
  have hroom := orderly.room _ hc _ (List.mem_append_left _ (List.mem_append_right _ hlists))
  obtain ⟨told, hexec, -, htold⟩ := h.exec_list orderly.separate hroot hparse
    (hroom.fitsBelow fun name => isName_of_parse hparse)
    (fun key hkey => orderly.listed key hkey _ hc _ hlists) suffix
  exact ⟨told, hexec, htold⟩

end Orderly

theorem get?_put (m : Memory) (key : String) (data : ByteArray) :
    (m.put key data).get? = Function.update m.get? key (some data) := by
  funext other
  by_cases heq : other = key
  · rw [heq, Memory.get?_put_self, Function.update_self]
  · rw [Memory.get?_put_of_ne heq, Function.update_of_ne heq]

theorem get?_erase (m : Memory) (key : String) : (m.erase key).get? = Function.update m.get? key none := by
  funext other
  by_cases heq : other = key
  · rw [heq, Memory.get?_erase_self, Function.update_self]
  · rw [Memory.get?_erase_of_ne heq, Function.update_of_ne heq]

theorem get?_answer (call : Call) (m : Memory) : (Memory.answer call m).2.get? = call.effect m.get? := by
  cases call with
  | get key =>
    simp only [Memory.answer]
    split <;> rfl
  | list start =>
    rw [Memory.answer_list_same]
    rfl
  | put key data =>
    by_cases hkey : isKey key = true
    · rw [Memory.answer_put hkey, Call.effect, if_pos hkey, get?_put]
    · simp [Memory.answer, readKey, Call.effect, hkey]
  | delete key =>
    by_cases hkey : isKey key = true
    · rw [Memory.answer_delete hkey, Call.effect, if_pos hkey, get?_erase]
    · simp [Memory.answer, readKey, Call.effect, hkey]

/-- A folder that mirrors a memory answers one of the calls like it, and mirrors it afterwards. -/
theorem Mirrors.alike (h : Mirrors (· ∈ keysOf calls) e m) (orderly : Orderly text calls)
    (hroot : EmptyFolder t text place) (hc : c ∈ calls) :
    Alike m.get? c.call (Memory.answer c.call m).1
        (exec (Folder.answer (Path.ofText text) c.suffix c.call) (t.plant place e)).1 ∧
      ∃ e', (exec (Folder.answer (Path.ofText text) c.suffix c.call) (t.plant place e)).2 =
          t.plant place e' ∧ Mirrors (· ∈ keysOf calls) e' (Memory.answer c.call m).2 := by
  have hsep := orderly.separate
  -- what is refused changes nothing, and each of the other calls is about keys of the calls
  cases hrefusal : c.call.refusal with
  | some refused =>
    obtain ⟨hmemory, hfolder⟩ := answer_refused hrefusal (Path.ofText text) (t.plant place e) m
    rw [hmemory, hfolder]
    exact ⟨.refused hrefusal, e, rfl, h⟩
  | none =>
    obtain ⟨call, suffix⟩ := c
    cases call with
    | get key =>
      have hkey : isKey key = true := by simpa [Call.refusal] using hrefusal
      have hown : key ∈ (Call.get key).keys := by simp [Call.keys, hkey]
      rw [Memory.answer_get hkey,
        h.exec_get hsep hroot (mem_keysOf hc hown) (orderly.fitsBelow_key hc hown) suffix]
      exact ⟨.get hkey, e, rfl, h⟩
    | put key data =>
      have hkey : isKey key = true := by simpa [Call.refusal] using hrefusal
      obtain ⟨e', hexec, hmirrors⟩ := orderly.exec_put hroot h hc hkey
      rw [Memory.answer_put hkey, hexec]
      exact ⟨.put hkey data, e', rfl, hmirrors⟩
    | delete key =>
      have hkey : isKey key = true := by simpa [Call.refusal] using hrefusal
      have hown : key ∈ (Call.delete key).keys := by simp [Call.keys, hkey]
      obtain ⟨e', hexec, hmirrors⟩ :=
        h.exec_delete hsep hroot (mem_keysOf hc hown) (orderly.fitsBelow_key hc hown) suffix
      rw [Memory.answer_delete hkey, hexec]
      exact ⟨.delete hkey, e', rfl, hmirrors⟩
    | list start =>
      rcases parse_cases start with ⟨-, hparse⟩ | ⟨refused, hrefused, -⟩
      · obtain ⟨told, hexec, htold⟩ := orderly.exec_list hroot h hc hparse
        rw [Memory.answer_list hparse, hexec]
        refine ⟨.list hrefusal (fun key => ?_) htold, e, rfl, h⟩
        rw [Memory.mem_listed_iff, shows_iff_liesUnder hparse]
      · rw [hrefused] at hrefusal
        cases hrefusal

/-! ## All calls -/

theorem storedAfter_concat (before : List Drawn) (c : Drawn) :
    storedAfter (before ++ [c]) = c.call.effect (storedAfter before) := by
  rw [storedAfter, List.foldl_append]
  rfl

theorem memoryAfter_concat (before : List Drawn) (c : Drawn) :
    memoryAfter (before ++ [c]) = (Memory.answer c.call (memoryAfter before)).2 := by
  rw [memoryAfter, List.foldl_append]
  rfl

theorem treeAfter_concat (text : String) (t : Tree) (before : List Drawn) (c : Drawn) :
    treeAfter text t (before ++ [c]) =
      (exec (Folder.answer (Path.ofText text) c.suffix c.call) (treeAfter text t before)).2 := by
  rw [treeAfter, List.foldl_append]
  rfl

theorem get?_memoryAfter (calls : List Drawn) : (memoryAfter calls).get? = storedAfter calls := by
  induction calls using List.reverseRecOn with
  | nil => rfl
  | append_singleton before c ih => rw [memoryAfter_concat, storedAfter_concat, get?_answer, ih]

/-- By induction on the calls so far, with the mirror as the invariant. -/
theorem exists_mirrors (orderly : Orderly text calls) (hroot : EmptyFolder t text place)
    (hbefore : ∀ c ∈ before, c ∈ calls) :
    ∃ e, treeAfter text t before = t.plant place e ∧ Mirrors (· ∈ keysOf calls) e (memoryAfter before) := by
  induction before using List.reverseRecOn with
  | nil => exact ⟨.folder [], hroot.plant_empty.symm, .start_empty _⟩
  | append_singleton before c ih =>
    obtain ⟨e, htree, hmirrors⟩ := ih fun c hc => hbefore c (List.mem_append_left _ hc)
    have hc : c ∈ calls := hbefore c (List.mem_append_right _ (List.mem_singleton_self _))
    obtain ⟨-, e', htree', hmirrors'⟩ := hmirrors.alike orderly hroot hc
    refine ⟨e', ?_, ?_⟩
    · rw [treeAfter_concat, htree, htree']
    · rw [memoryAfter_concat]
      exact hmirrors'

/-- Each call is answered alike, by what the calls before it have stored. -/
theorem answers_alike (orderly : Orderly text calls) (hroot : EmptyFolder t text place)
    (hcalls : calls = before ++ c :: after) :
    Alike (storedAfter before) c.call (Memory.answer c.call (memoryAfter before)).1
      (exec (Folder.answer (Path.ofText text) c.suffix c.call) (treeAfter text t before)).1 := by
  have hbefore : ∀ other ∈ before, other ∈ calls := by
    rw [hcalls]
    exact fun other hother => List.mem_append_left _ hother
  have hc : c ∈ calls := by
    rw [hcalls]
    exact List.mem_append_right _ List.mem_cons_self
  obtain ⟨e, htree, hmirrors⟩ := exists_mirrors orderly hroot hbefore
  obtain ⟨halike, -⟩ := hmirrors.alike orderly hroot hc
  rwa [get?_memoryAfter, ← htree] at halike

namespace Sample

/-- Nothing but an empty folder. -/
def tree : Tree := ⟨.folder [("d", .folder [])], []⟩

/-- A document is put, and one with a hidden name beside it. -/
def puts : List Drawn := [⟨.put "a" .empty, "0000000000000000"⟩, ⟨.put ".b" .empty, "0000000000000000"⟩]

/-- All is listed. -/
def last : Drawn := ⟨.list "", "0000000000000000"⟩

theorem emptyFolder_tree : EmptyFolder tree "d" ["d"] := ⟨Files.Entry.tidy_empty.singleton "d", rfl⟩

theorem orderly_calls : Orderly "d" (puts ++ [last]) := by
  refine ⟨by decide, fun c hc => ?_, by decide, by decide, by decide, ?_⟩
  · simp [puts, last] at hc
    rcases hc with rfl | rfl | rfl <;> exact isSuffix_zeros
  · unfold HasRoom
    decide

end Sample

theorem answers_alike_sample :
    Orderly "d" (Sample.puts ++ [Sample.last]) ∧ EmptyFolder Sample.tree "d" ["d"] ∧
      Alike (storedAfter Sample.puts) (.list "") (Memory.answer (.list "") (memoryAfter Sample.puts)).1
        (exec (Folder.answer (Path.ofText "d") "0000000000000000" (.list ""))
          (treeAfter "d" Sample.tree Sample.puts)).1 :=
  ⟨Sample.orderly_calls, Sample.emptyFolder_tree,
    answers_alike (c := Sample.last) Sample.orderly_calls Sample.emptyFolder_tree rfl⟩

/-- The memory shows both documents, the folder only the one that is not hidden. -/
theorem hidden_passed_over :
    Orderly "d" (Sample.puts ++ [Sample.last]) ∧ EmptyFolder Sample.tree "d" ["d"] ∧
      ¬ SameTold (.list "") (Memory.answer (.list "") (memoryAfter Sample.puts)).1
        (exec (Folder.answer (Path.ofText "d") "0000000000000000" (.list ""))
          (treeAfter "d" Sample.tree Sample.puts)).1 := by
  have hmemory : (Memory.answer (.list "") (memoryAfter Sample.puts)).1 = .ok [".b", "a"] := rfl
  have hnames : Tree.perform (.names ((Path.ofText "d").join [])) (treeAfter "d" Sample.tree Sample.puts) =
      (.ok [".b", "a"], treeAfter "d" Sample.tree Sample.puts) := rfl
  have hlisted : Folder.listed ⟨"", ""⟩ [".b", "a"] = ["a"] := by
    simp [Folder.listed, Listing.matchesName, Listing.key]
  have hfolder : exec (Folder.answer (Path.ofText "d") "0000000000000000" (.list ""))
      (treeAfter "d" Sample.tree Sample.puts) =
        (.ok (Folder.listed ⟨"", ""⟩ [".b", "a"]), treeAfter "d" Sample.tree Sample.puts) :=
    Files.exec_perform_bind hnames
  refine ⟨Sample.orderly_calls, Sample.emptyFolder_tree, ?_⟩
  rw [hmemory, hfolder, hlisted]
  intro hsame
  exact absurd hsame.perm.length_eq (by decide)

end Storefront.Storage
