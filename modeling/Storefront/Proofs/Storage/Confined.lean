import Storefront.Proofs.Files.Below
import Storefront.Proofs.Files.Inside
import Storefront.Proofs.Program
import Storefront.Proofs.Storage.Folder
import Storefront.Proofs.Storage.Key

/-!
# Calls stay in the folder

Whatever text is given as a key, a call either refuses it and does nothing, or performs operations along
paths that begin with the path of the root and go on with names that lead inwards. The folders that are made
for a document, and its temporary file, are no exception: making a folder goes back to the folder around it
only where that one is missing, and the root is there.
-/

namespace Storefront.Storage.Folder

open Files (Path Place Tree FileProgram perform makeFolder makeFoldersFrom makeFolders HasRoot Stays LeadsIn
  Changes)

/-- The path of the root, or of something that lies below it by its names. -/
inductive Within (root : Path) : Path → Prop where
  | root {path : Path} (h : root.SameFolder path) : Within root path
  | below {names : Path} (h : ∀ name ∈ names, IsName name) : Within root (root.join names)

/-- The operations along such paths, with what is known of their answers: a folder that is there is not
missing. -/
inductive Inner (root : Path) : (o : Files.Operation) → (o.Answer → Prop) → Prop where
  | root {path : Path} (h : root.SameFolder path) :
    Inner root (.makeFolder path) fun answer => answer ≠ .error .notFound
  | within {o : Files.Operation} (h : ∀ path ∈ o.paths, Within root path) : Inner root o fun _ => True

/-- A program performs operations of this kind only. -/
abbrev Confined {α : Type} (root : Path) (kind : α → Prop) (p : FileProgram α) : Prop :=
  Program.Asks (Inner root) kind p

variable {root path names outside : Path} {name suffix key text : String} {data : ByteArray} {l : Listing}
  {t t' : Tree} {place : Place}

theorem leadsIn_of_isName (h : IsName name) : LeadsIn name := ⟨h.isHere, h.ne_up⟩

/-- An operation along such paths, and whatever is made of its answer. -/
theorem confined_perform_bind {α : Type} {kind : α → Prop} {o : Files.Operation}
    {f : o.Answer → FileProgram α} (h : ∀ path ∈ o.paths, Within root path)
    (hf : ∀ answer, Confined root kind (f answer)) : Confined root kind (perform o >>= f) :=
  .call (.within h) fun answer _ => hf answer

theorem confined_pure {α : Type} {kind : α → Prop} {a : α} (h : kind a) : Confined root kind (pure a) :=
  .done h

theorem within_singleton (h : Within root path) : ∀ p ∈ [path], Within root p := fun _ hp =>
  List.mem_singleton.1 hp ▸ h

/-! ## Making folders -/

theorem confined_makeFolder (h : Within root path) : Confined root (fun _ => True) (makeFolder path) := by
  refine confined_perform_bind (within_singleton h) fun answer => ?_
  cases answer with
  | ok _ => exact confined_pure trivial
  | error err =>
    cases err with
    | alreadyExists =>
      refine confined_perform_bind (within_singleton h) fun answer => ?_
      split
      · exact confined_pure trivial
      · exact confined_pure trivial
    | _ => exact confined_pure trivial

theorem confined_makeFolder_root (h : root.SameFolder path) :
    Confined root (fun r => r ≠ .error .notFound) (makeFolder path) := by
  refine .call (.root h) fun answer hanswer => ?_
  cases answer with
  | ok _ => exact confined_pure (by rintro ⟨⟩)
  | error err =>
    cases err with
    | alreadyExists =>
      refine confined_perform_bind (within_singleton (.root h)) fun answer => ?_
      split
      · exact confined_pure (by rintro ⟨⟩)
      · exact confined_pure (by rintro ⟨⟩)
    | _ => exact confined_pure hanswer

/-- Making the root with all folders around it ends at the root. -/
theorem confined_makeFoldersFrom (heres : Path) (hroot : root = outside.reverse ++ heres)
    (hheres : ∀ name ∈ heres, Path.isHere name = true) :
    Confined root (fun _ => True) (makeFoldersFrom outside) := by
  induction outside generalizing heres with
  | nil => exact confined_pure trivial
  | cons name outside ih =>
    rw [makeFoldersFrom]
    by_cases hhere : Path.isHere name = true
    · rw [if_pos hhere]
      refine ih (name :: heres) ?_ ?_
      · rw [hroot, List.reverse_cons, List.append_assoc]
        rfl
      · intro n hn
        rcases List.mem_cons.1 hn with rfl | hn
        · exact hhere
        · exact hheres n hn
    · rw [if_neg hhere]
      have habsolute : Path.isAbsolute (name :: outside).reverse = root.isAbsolute := by
        obtain ⟨first, rest, hpath⟩ :=
          List.exists_cons_of_ne_nil (List.reverse_ne_nil_iff.2 (List.cons_ne_nil name outside))
        rw [hroot, hpath]
        rfl
      refine (confined_makeFolder_root ⟨⟨heres, hroot, hheres⟩, habsolute⟩).bind fun r hr => ?_
      split
      · -- it would go on outwards, but what is there is not missing
        exact absurd rfl hr
      · exact confined_pure trivial

theorem confined_makeFolders (hnames : ∀ name ∈ names, IsName name) :
    Confined root (fun _ => True) (makeFolders (root.join names)) := by
  induction names using List.reverseRecOn with
  | nil =>
    rw [Path.join_eq, List.append_nil]
    unfold makeFolders
    rcases Path.base_cases root with hbase | hbase
    · refine confined_makeFoldersFrom [] ?_ ?_
      · rw [List.reverse_reverse, List.append_nil, ← hbase]
      · rintro name ⟨⟩
    · refine confined_makeFoldersFrom [""] ?_ (by decide)
      rw [List.reverse_reverse, ← hbase]
  | append_singleton names name ih =>
    have hname := hnames name (List.mem_append_right _ (List.mem_singleton_self _))
    have hbefore := ih fun n hn => hnames n (List.mem_append_left _ hn)
    have hlast : Within root (root.join (names ++ [name])) := .below hnames
    rw [Files.makeFolders_join root hname.isHere]
    refine (confined_makeFolder hlast).bind fun r _ => ?_
    split
    · refine hbefore.bind fun r _ => ?_
      split
      · exact confined_makeFolder hlast
      · exact confined_pure trivial
    · exact confined_pure trivial

/-! ## The calls -/

theorem confined_get (h : Within root path) : Confined root (fun _ => True) (get key path) := by
  refine confined_perform_bind (within_singleton h) fun answer => ?_
  split <;> exact confined_pure trivial

theorem confined_delete (h : Within root path) : Confined root (fun _ => True) (delete key path) := by
  refine confined_perform_bind (within_singleton h) fun answer => ?_
  split <;> exact confined_pure trivial

theorem confined_list (h : ∀ name ∈ l.path, IsName name) :
    Confined root (fun _ => True) (list text root l) := by
  refine confined_perform_bind (within_singleton (.below h)) fun answer => ?_
  split <;> exact confined_pure trivial

theorem confined_put (hsuffix : IsSuffix suffix) (hne : names ≠ []) (hnames : ∀ name ∈ names, IsName name) :
    Confined root (fun _ => True) (put key (root.join names) suffix data) := by
  rcases List.eq_nil_or_concat names with rfl | ⟨folder, name, rfl⟩
  · exact absurd rfl hne
  rw [List.concat_eq_append] at hnames ⊢
  have hfolder : ∀ n ∈ folder, IsName n := fun n hn => hnames n (List.mem_append_left _ hn)
  have hname := hnames name (List.mem_append_right _ (List.mem_singleton_self _))
  have htarget : Within root (root.join (folder ++ [name])) := .below hnames
  have haside : Within root (root.join (folder ++ [temporaryName name suffix])) := by
    refine .below fun n hn => ?_
    rcases List.mem_append.1 hn with hn | hn
    · exact hfolder n hn
    · rw [List.mem_singleton.1 hn]
      exact isName_temporaryName hname hsuffix
  unfold put
  rw [dropLast_join, temporary_join]
  refine (confined_makeFolders hfolder).bind fun r _ => ?_
  split
  · exact confined_pure trivial
  · refine confined_perform_bind (within_singleton haside) fun r => ?_
    split
    · exact confined_perform_bind (within_singleton haside) fun _ => confined_pure trivial
    · refine confined_perform_bind (fun p hp => ?_) fun r => ?_
      · rcases List.mem_cons.1 hp with rfl | hp
        · exact haside
        · exact within_singleton htarget p hp
      · split
        · exact confined_pure trivial
        · exact confined_perform_bind (within_singleton haside) fun _ => confined_pure trivial

/-- A call is refused at once or stays below the root. -/
theorem refused_or_confined (root : Path) (hsuffix : IsSuffix suffix) (c : Call) :
    (∃ text, answer root suffix c = .done (.error (.invalidKey text))) ∨
      Confined root (fun _ => True) (answer root suffix c) := by
  have hkey : ∀ key, (∃ names, readKey key = .ok names ∧ names ≠ [] ∧ ∀ name ∈ names, IsName name) ∨
      readKey key = .error (.invalidKey key) := by
    intro key
    by_cases h : isKey key = true
    · exact .inl ⟨components key, readKey_eq_ok_iff.2 ⟨h, rfl⟩, components_ne_nil key,
        fun name => isName_of_mem_components h⟩
    · exact .inr (if_neg h)
  cases c with
  | get key =>
    rcases hkey key with ⟨names, hread, -, hnames⟩ | hread
    · simp only [answer, hread]
      exact .inr (confined_get (.below hnames))
    · simp only [answer, hread]
      exact .inl ⟨key, rfl⟩
  | put key data =>
    rcases hkey key with ⟨names, hread, hne, hnames⟩ | hread
    · simp only [answer, hread]
      exact .inr (confined_put hsuffix hne hnames)
    · simp only [answer, hread]
      exact .inl ⟨key, rfl⟩
  | delete key =>
    rcases hkey key with ⟨names, hread, -, hnames⟩ | hread
    · simp only [answer, hread]
      exact .inr (confined_delete (.below hnames))
    · simp only [answer, hread]
      exact .inl ⟨key, rfl⟩
  | list start =>
    cases hparse : Listing.parse start with
    | ok l =>
      simp only [answer, hparse]
      exact .inr (confined_list fun name => isName_of_parse hparse)
    | error e =>
      obtain ⟨text, rfl⟩ := parse_eq_error hparse
      simp only [answer, hparse]
      exact .inl ⟨text, rfl⟩

/-! ## Runs on a tree -/

/-- A tree performs operations. -/
def Performs : Outside Files.interface Tree := fun o t answer t' => Tree.perform o t = (answer, t')

/-- A tree performs operations that reach nothing but what is at a place or below it. -/
structure PerformsInside (place : Place) (o : Files.Operation) (t : Tree) (answer : o.Answer) (t' : Tree) :
    Prop where
  performed : Performs o t answer t'
  inside : ∀ path ∈ o.paths, Stays t place path

theorem Within.stays (h : HasRoot t text place) (hwithin : Within (Path.ofText text) path) :
    Stays t place path := by
  cases hwithin with
  | root hsame => exact h.stays_sameFolder hsame
  | below hnames => exact h.stays_join fun name hname => leadsIn_of_isName (hnames name hname)

theorem Inner.paths {o : Files.Operation} {expected : o.Answer → Prop} (h : Inner root o expected) :
    ∀ path ∈ o.paths, Within root path := by
  cases h with
  | root hsame => exact within_singleton (.root hsame)
  | within hwithin => exact hwithin

/-- What an operation along such a path answers is what is expected of it. -/
theorem Inner.expected {o : Files.Operation} {expected : o.Answer → Prop} {answer : o.Answer}
    (h : Inner (Path.ofText text) o expected) (hroot : HasRoot t text place)
    (hperforms : Performs o t answer t') : expected answer := by
  cases h with
  | root hsame => exact hroot.makeFolder_ne_notFound hsame hperforms
  | within _ => trivial

/-- A program that is confined to a root reaches nothing else. -/
theorem runs_inside {α : Type} {kind : α → Prop} {p : FileProgram α} {a : α}
    {trace : List (Exchange Files.interface)}
    (confined : Confined (Path.ofText text) kind p) (hroot : HasRoot t text place)
    (run : Program.Runs Performs p t trace a t') :
    (∀ exchange ∈ trace, ∀ path ∈ exchange.1.paths, Within (Path.ofText text) path) ∧
      Program.Runs (PerformsInside place) p t trace a t' ∧
      ∀ other, ¬ place <+: other → t'.root.look other = t.root.look other := by
  -- that the root is there is carried along, since what makes folders relies on it
  induction confined generalizing t trace with
  | done =>
    obtain ⟨rfl, rfl, rfl⟩ := Program.runs_done_iff.1 run
    refine ⟨?_, .done _ _, fun _ _ => rfl⟩
    rintro exchange ⟨⟩
  | @call o next expected hinner _ ih =>
    obtain ⟨answer, rest, t₁, rfl, hperforms, hrest⟩ := Program.runs_call_iff.1 run
    have hstays : ∀ path ∈ o.paths, Stays t place path := fun path hpath =>
      (hinner.paths path hpath).stays hroot
    have hchanges := Files.changes_of_perform hperforms
    obtain ⟨hpaths, hruns, hother⟩ :=
      ih answer (hinner.expected hroot hperforms) (hroot.next hchanges) hrest
    refine ⟨fun exchange hexchange => ?_, .call ⟨hperforms, hstays⟩ hruns, fun other hne => ?_⟩
    · rcases List.mem_cons.1 hexchange with rfl | hexchange
      · exact hinner.paths
      · exact hpaths exchange hexchange
    · rw [hother other hne, hchanges.look_outside hstays hne]

/-- Every call either refuses its key and does nothing, or stays below the root, which exists. Different keys
have different paths, and every path of names below the root belongs to one key. -/
theorem folder_confined (hsuffix : IsSuffix suffix) (text : String) :
    (∀ (c : Call) (t : Tree) (place : Place), HasRoot t text place →
      ∀ trace result t', Program.Runs Performs (answer (Path.ofText text) suffix c) t trace result t' →
        ((∃ key, result = .error (.invalidKey key)) ∧ trace = [] ∧ t' = t) ∨
        ((∀ exchange ∈ trace, ∀ path ∈ exchange.1.paths, Within (Path.ofText text) path) ∧
          Program.Runs (PerformsInside place) (answer (Path.ofText text) suffix c) t trace result t' ∧
          ∀ other, ¬ place <+: other → t'.root.look other = t.root.look other)) ∧
    (∀ key key' names names', readKey key = .ok names → readKey key' = .ok names' →
      (Path.ofText text).join names = (Path.ofText text).join names' → key = key') ∧
    (∀ names, names ≠ [] → (∀ name ∈ names, IsName name) →
      ∃! key, ∃ read, readKey key = .ok read ∧
        (Path.ofText text).join read = (Path.ofText text).join names) := by
  have hinj : ∀ key key' names names', readKey key = .ok names → readKey key' = .ok names' →
      (Path.ofText text).join names = (Path.ofText text).join names' → key = key' := by
    intro key key' names names' hread hread' hjoin
    rw [Path.join_eq, Path.join_eq] at hjoin
    obtain ⟨-, rfl⟩ := readKey_eq_ok_iff.1 hread
    obtain ⟨-, rfl⟩ := readKey_eq_ok_iff.1 hread'
    exact components_inj (List.append_cancel_left hjoin)
  refine ⟨fun c t place hroot trace result t' run => ?_, hinj, fun names hne hnames => ?_⟩
  · rcases refused_or_confined (Path.ofText text) hsuffix c with ⟨key, hrefused⟩ | hconfined
    · rw [hrefused] at run
      obtain ⟨rfl, rfl, rfl⟩ := Program.runs_done_iff.1 run
      exact .inl ⟨⟨key, rfl⟩, rfl, rfl⟩
    · exact .inr (runs_inside hconfined hroot run)
  · refine ⟨Path.text names, ⟨names, readKey_text hne hnames, rfl⟩, ?_⟩
    rintro key ⟨read, hread, hjoin⟩
    exact hinj _ _ _ _ hread (readKey_text hne hnames) hjoin

/-- A document is put into an empty folder: its folder, its temporary file and its file lie below the root. -/
theorem folder_confined_put :
    IsSuffix "0000000000000000" ∧ HasRoot ⟨.folder [("data", .folder [])], []⟩ "data" ["data"] ∧
      (∃ trace result t',
        Program.Runs Performs (answer (Path.ofText "data") "0000000000000000" (.put "carts/bob" .empty))
          ⟨.folder [("data", .folder [])], []⟩ trace result t' ∧ trace ≠ [] ∧
        (∀ exchange ∈ trace, ∀ path ∈ exchange.1.paths, Within (Path.ofText "data") path) ∧
        ∀ other, ¬ ["data"] <+: other →
          t'.root.look other = (Files.Entry.folder [("data", .folder [])]).look other) ∧
      ∃! key, ∃ read, readKey key = .ok read ∧
        (Path.ofText "data").join read = (Path.ofText "data").join ["carts", "bob"] := by
  have hroot : HasRoot ⟨.folder [("data", .folder [])], []⟩ "data" ["data"] := ⟨[], by rfl⟩
  have hread : readKey "carts/bob" = .ok ["carts", "bob"] := by rfl
  obtain ⟨hconfined, -, hkeys⟩ := folder_confined isSuffix_zeros "data"
  refine ⟨isSuffix_zeros, hroot, ?_, hkeys _ (List.cons_ne_nil _ _) fun name => isName_of_readKey hread⟩
  · have hcall : ∃ o next, answer (Path.ofText "data") "0000000000000000" (.put "carts/bob" .empty) =
        .call o next := ⟨_, _, rfl⟩
    have htotal : ∀ o t, ∃ result t', Performs o t result t' := fun o t => ⟨_, _, rfl⟩
    obtain ⟨trace, result, t', hruns⟩ := Program.exists_runs htotal
      (answer (Path.ofText "data") "0000000000000000" (.put "carts/bob" .empty))
      ⟨.folder [("data", .folder [])], []⟩
    have hmade : trace ≠ [] := by
      rintro rfl
      obtain ⟨o, next, hcall⟩ := hcall
      rw [hcall] at hruns
      cases hruns
    rcases hconfined _ _ _ hroot _ _ _ hruns with ⟨-, hnone, -⟩ | ⟨hwithin, -, hother⟩
    · exact absurd hnone hmade
    · exact ⟨trace, result, t', hruns, hmade, hwithin, hother⟩

end Storefront.Storage.Folder
