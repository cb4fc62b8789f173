import Mathlib.Logic.Function.Basic
import Storefront.Proofs.Files.Destination
import Storefront.Proofs.Program

/-!
# Folders that are made and files that are moved

Making folders adds empty folders where nothing stood and changes nothing else. A file that is written where
there was none can be removed again, and then the same is seen everywhere as before; or it can be moved, and
then there is no more to see than the file at its new place.
-/

namespace Storefront.Files

variable {α : Type} {t t' t'' : Tree} {path before source target : Path} {place other : Place} {data : ByteArray}
  {answer : Except FileError Unit} {new : Option Entry}

/-! ## Making folders -/

/-- A tree to which empty folders have been added at some places where nothing stood. -/
structure Grown (added : Place → Prop) (t t' : Tree) : Prop where
  start : t'.start = t.start
  tidy : t.root.Tidy → t'.root.Tidy
  look : ∀ other, t'.root.look other = t.root.look other ∨
    (t.root.look other = none ∧ t'.root.look other = some .folder ∧ added other)

namespace Grown

variable {added : Place → Prop}

theorem refl (added : Place → Prop) (t : Tree) : Grown added t t := ⟨rfl, id, fun _ => .inl rfl⟩

theorem trans (h : Grown added t t') (h' : Grown added t' t'') : Grown added t t'' := by
  refine ⟨h'.start.trans h.start, h'.tidy ∘ h.tidy, fun other => ?_⟩
  rcases h.look other with hsame | ⟨hnone, hfolder, hadded⟩
  · rw [← hsame]
    exact h'.look other
  · rcases h'.look other with hsame' | ⟨hnone', -, -⟩
    · exact .inr ⟨hnone, hsame'.trans hfolder, hadded⟩
    · rw [hfolder] at hnone'
      cases hnone'

theorem folder (h : Grown added t t') (hfolder : t.root.look other = some .folder) :
    t'.root.look other = some .folder := by
  rcases h.look other with hsame | ⟨hnone, -⟩
  · rw [hsame, hfolder]
  · rw [hfolder] at hnone
    cases hnone

theorem file_iff (h : Grown added t t') :
    t'.root.look other = some (.file data) ↔ t.root.look other = some (.file data) := by
  rcases h.look other with hsame | ⟨hnone, hfolder, -⟩
  · rw [hsame]
  · rw [hnone, hfolder]
    constructor <;> rintro ⟨⟩

end Grown

/-- The operations that make a folder and those around it. -/
inductive MakesFolders (path : Path) : (o : Operation) → (o.Answer → Prop) → Prop where
  | make {before : Path} (part : before <+: path) : MakesFolders path (.makeFolder before) fun _ => True
  | check (other : Path) : MakesFolders path (.isFolder other) fun _ => True

theorem makesFolders_perform_bind {o : Operation} {f : o.Answer → FileProgram α} {kind : α → Prop}
    (h : MakesFolders path o fun _ => True) (hf : ∀ answer, Program.Asks (MakesFolders path) kind (f answer)) :
    Program.Asks (MakesFolders path) kind (perform o >>= f) :=
  .call h fun answer _ => hf answer

theorem makesFolders_makeFolder (part : before <+: path) :
    Program.Asks (MakesFolders path) (fun _ => True) (makeFolder before) := by
  refine makesFolders_perform_bind (.make part) fun answer => ?_
  cases answer with
  | ok _ => exact .done trivial
  | error e =>
    cases e with
    | alreadyExists =>
      refine makesFolders_perform_bind (.check before) fun answer => ?_
      split <;> exact .done trivial
    | _ => exact .done trivial

theorem makesFolders_makeFoldersFrom {outside : List String} (part : outside.reverse <+: path) :
    Program.Asks (MakesFolders path) (fun _ => True) (makeFoldersFrom outside) := by
  induction outside with
  | nil => exact .done trivial
  | cons name outside ih =>
    have hrest : outside.reverse <+: path := by
      rw [List.reverse_cons] at part
      exact (List.prefix_append _ _).trans part
    rw [makeFoldersFrom]
    by_cases hhere : Path.isHere name = true
    · rw [if_pos hhere]
      exact ih hrest
    · rw [if_neg hhere]
      refine (makesFolders_makeFolder part).bind fun r _ => ?_
      split
      · refine (ih hrest).bind fun r _ => ?_
        split
        · exact makesFolders_makeFolder part
        · exact .done trivial
      · exact .done trivial

/-- To make a folder adds it where nothing stood, or changes nothing. -/
theorem grown_of_makeFolder (h : Tree.perform (.makeFolder path) t = (answer, t')) :
    Grown (fun place => place = t.destination path) t t' := by
  simp only [Tree.perform] at h
  split at h
  · next place haim =>
    cases h
    have hplace := destination_of_aim haim
    obtain ⟨way, -, haims⟩ := aims_of_aim haim
    cases haims with
    | @free way parent name hleads hfolder hnone hname =>
      refine ⟨rfl, fun htidy => htidy.set ?_, fun other => ?_⟩
      · intro e he
        cases he
        exact Entry.tidy_empty
      · have hparent : t.root.look (parent ++ [name]).dropLast = some .folder := by
          rwa [List.dropLast_concat]
        have hnot : t.root.look (parent ++ [name]) ≠ some .folder := by
          rw [hnone]
          rintro ⟨⟩
        have hlook := t.root.look_set_leaf (List.concat_ne_nil name parent) hparent
          (fun _ _ => rfl : ∀ first rest, (some (Entry.folder [])).bind (·.get? (first :: rest)) = none) hnot
        by_cases hother : other = parent ++ [name]
        · refine .inr ⟨hother ▸ hnone, ?_, hother.trans hplace⟩
          exact (hlook other).trans (if_pos hother)
        · exact .inl ((hlook other).trans (if_neg hother))
  · cases h
    exact .refl _ _
  · cases h
    exact .refl _ _

/-- The destinations of a path and of the paths of the folders around it. -/
def Encloses (t : Tree) (path : Path) (place : Place) : Prop :=
  ∃ before, before <+: path ∧ place = t.destination before

theorem MakesFolders.grown {o : Operation} {expected : o.Answer → Prop} {answer : o.Answer}
    (h : MakesFolders path o expected) (hperform : Tree.perform o t = (answer, t')) :
    expected answer ∧ Grown (Encloses t path) t t' := by
  cases h with
  | @make before part =>
    refine ⟨trivial, ?_⟩
    have hgrown := grown_of_makeFolder hperform
    refine ⟨hgrown.start, hgrown.tidy, fun other => ?_⟩
    exact (hgrown.look other).imp id fun ⟨hnone, hfolder, hother⟩ => ⟨hnone, hfolder, before, part, hother⟩
  | check other =>
    have hsame : t' = t := by
      simp only [Tree.perform] at hperform
      split at hperform <;> exact (congrArg Prod.snd hperform).symm
    subst hsame
    exact ⟨trivial, .refl _ _⟩

theorem grown_of_makesFolders {kind : α → Prop} {p : FileProgram α} {a : α}
    (asks : Program.Asks (MakesFolders path) kind p) (h : exec p t = (a, t')) : Grown (Encloses t path) t t' := by
  induction asks generalizing t with
  | done =>
    cases h
    exact .refl _ _
  | @call o next expected makes _ ih =>
    obtain ⟨answer, t₁, hperform⟩ : ∃ answer t₁, Tree.perform o t = (answer, t₁) := ⟨_, _, rfl⟩
    have hnext : exec (.call o next) t = exec (next (Tree.perform o t).1) (Tree.perform o t).2 := rfl
    rw [hnext, hperform] at h
    obtain ⟨hexpected, hgrown⟩ := makes.grown hperform
    have hrest := ih answer hexpected h
    -- destinations do not depend on what stands there, so the same places are meant in both trees
    have hsame : Encloses t₁ path = Encloses t path := by
      funext place
      simp only [Encloses, destination_congr hgrown.start]
    rw [hsame] at hrest
    exact hgrown.trans hrest

/-- Making a folder and those around it adds no more than these. -/
theorem grown_of_makeFolders {r : Except FileError Unit} (h : exec (makeFolders path) t = (r, t')) :
    Grown (Encloses t path) t t' := by
  have part : path.reverse.reverse <+: path := by simp
  exact grown_of_makesFolders (makesFolders_makeFoldersFrom part) h

/-- Whatever a program does, no folder is taken away. -/
theorem folder_of_exec {p : FileProgram α} {a : α} (h : exec p t = (a, t'))
    (hfolder : t.root.look other = some .folder) : t'.root.look other = some .folder := by
  induction p generalizing t with
  | done =>
    cases h
    exact hfolder
  | call o next ih => exact ih _ h ((changes_of_perform rfl).keeps_folders hfolder)

/-! ## Files that come and go -/

/-- A tree becomes one in which other things are seen. -/
structure Becomes (t : Tree) (look : Place → Option Kind) (t' : Tree) : Prop where
  start : t'.start = t.start
  tidy : t.root.Tidy → t'.root.Tidy
  look : ∀ other, t'.root.look other = look other

theorem Becomes.refl (t : Tree) : Becomes t t.root.look t := ⟨rfl, id, fun _ => rfl⟩

/-- What fills some room or leaves it is seen there. -/
theorem Room.becomes (h : Room t place) (new : Option Entry)
    (hnew : ∀ first rest, new.bind (·.get? (first :: rest)) = none) (htidy : ∀ e, new = some e → e.Tidy) :
    Becomes t (Function.update t.root.look place (new.map Entry.kind)) (t.set new place) := by
  refine ⟨rfl, fun ht => ht.set htidy, fun other => ?_⟩
  refine (t.root.look_set_leaf h.ne_nil h.parent hnew h.free other).trans ?_
  rw [Function.update_apply]

theorem Room.becomes_file (h : Room t place) (data : ByteArray) :
    Becomes t (Function.update t.root.look place (some (.file data))) (t.set (some (.file data)) place) := by
  refine h.becomes (some (.file data)) (fun _ _ => rfl) fun e he => ?_
  cases he
  exact Entry.tidy_file data

theorem Room.becomes_none (h : Room t place) :
    Becomes t (Function.update t.root.look place none) (t.set none place) :=
  h.becomes none (fun _ _ => rfl) fun e he => by cases he

/-- A file has been written where there was none. -/
structure Appeared (t : Tree) (path : Path) (data : ByteArray) (t' : Tree) : Prop where
  becomes : Becomes t (Function.update t.root.look (t.destination path) (some (.file data))) t'
  missing : t.root.look (t.destination path) = none
  room : Room t' (t.destination path)
  found : t'.find path = .ok (t.destination path, .file data)

theorem perform_write_cases (h : Tree.perform (.write path data) t = (answer, t')) :
    (∃ e, answer = .error e ∧ t' = t) ∨ (answer = .ok () ∧ ∃ old, t.aim path = .ok (t.destination path, old) ∧
      (∀ inside, old ≠ some (.folder inside)) ∧ t' = t.set (some (.file data)) (t.destination path)) := by
  simp only [Tree.perform] at h
  split at h
  · cases h
    exact .inl ⟨_, rfl, rfl⟩
  · next place old hfree haim =>
    cases h
    obtain rfl := destination_of_aim haim
    exact .inr ⟨rfl, old, haim, fun inside hold => hfree inside hold, rfl⟩
  · cases h
    exact .inl ⟨_, rfl, rfl⟩

/-- What is put where a path aims is found at its end. -/
theorem Aims.found {way : Path} {old : Option Entry} {e : Entry} (h : Aims t way place old)
    (hway : t.way path = .ok way) (hstart : t'.start = t.start)
    (hkeep : ∀ other, t.root.look other = some .folder → t'.root.look other = some .folder)
    (hget : t'.root.get? place = some e) : t'.find path = .ok (place, e) := by
  have hthere : (t'.root.look place).isSome = true := by
    rw [Entry.look, hget]
    rfl
  have hway' : t'.way path = .ok way := by
    unfold Tree.way at hway ⊢
    rw [hstart, hway]
  cases h with
  | there hleads => exact find_eq_ok hway' (foldlM_go_mono hkeep hthere hleads) hget
  | @free before parent name hleads hparent hnone hname =>
    have hparent' := hkeep parent hparent
    have hbefore : t'.leads before = .ok parent := foldlM_go_mono hkeep (by rw [hparent']; rfl) hleads
    refine find_eq_ok hway' ?_ hget
    unfold Tree.leads at hbefore ⊢
    rw [List.foldlM_append, hbefore]
    show [name].foldlM (go t'.root.look) parent = _
    rw [List.foldlM_cons, go_folder hparent' hname, if_pos hthere]
    rfl

/-- A file that is written where no other one stands has appeared there. -/
theorem appeared_of_write (hfree : ∀ old, t.root.look (t.destination path) ≠ some (.file old))
    (h : Tree.perform (.write path data) t = (.ok (), t')) : Appeared t path data t' := by
  rcases perform_write_cases h with ⟨e, he, -⟩ | ⟨-, old, haim, hfolder, rfl⟩
  · cases he
  · have hold : old = none ∧ t.root.look (t.destination path) = none ∧ Room t (t.destination path) := by
      obtain ⟨way, -, haims⟩ := aims_of_aim haim
      generalize t.destination path = place at hfree haims
      cases haims with
      | @there way place e hleads hget =>
        cases e with
        | folder inside => exact absurd rfl (hfolder inside)
        | file old => exact absurd (Entry.look_eq_file_iff.2 hget) (hfree old)
      | @free before parent name hleads hparent hnone hname =>
        refine ⟨rfl, hnone, List.concat_ne_nil _ _, ?_, ?_⟩
        · rwa [List.dropLast_concat]
        · rw [hnone]
          rintro ⟨⟩
    obtain ⟨rfl, hnone, hroom⟩ := hold
    have hbecomes := hroom.becomes_file data
    have hkeep : ∀ other, t.root.look other = some .folder →
        (t.set (some (.file data)) (t.destination path)).root.look other = some .folder := by
      intro other hother
      rw [hbecomes.look, Function.update_of_ne, hother]
      rintro rfl
      rw [hnone] at hother
      cases hother
    have hfile : (t.set (some (.file data)) (t.destination path)).root.look (t.destination path) =
        some (.file data) := by
      rw [hbecomes.look, Function.update_self]
    refine ⟨hbecomes, hnone, ?_, ?_⟩
    · refine ⟨hroom.ne_nil, hkeep _ hroom.parent, ?_⟩
      rw [hfile]
      rintro ⟨⟩
    · obtain ⟨way, hway, haims⟩ := aims_of_aim haim
      exact haims.found hway rfl hkeep (Entry.look_eq_file_iff.1 hfile)

/-- If it cannot be written there is nothing to remove. -/
theorem perform_remove_of_failed_write {e : FileError}
    (hfree : ∀ old, t.root.look (t.destination path) ≠ some (.file old))
    (h : Tree.perform (.write path data) t = (.error e, t')) :
    ∃ removed, Tree.perform (.remove path) t' = (removed, t) := by
  rcases perform_write_cases h with ⟨_, -, rfl⟩ | ⟨he, -⟩
  · simp only [Tree.perform]
    split
    · next place old hfind =>
      obtain ⟨way, -, -, hget⟩ := leads_of_find hfind
      rw [destination_of_find hfind] at hget
      exact absurd (Entry.look_eq_file_iff.2 hget) (hfree old)
    · exact ⟨_, rfl⟩
    · exact ⟨_, rfl⟩
  · cases he

/-- Once it is removed again, all is as it was. -/
theorem Appeared.removed (h : Appeared t path data t') :
    ∃ t'', Tree.perform (.remove path) t' = (.ok (), t'') ∧ Becomes t t.root.look t'' := by
  have hremove : Tree.perform (.remove path) t' = (.ok (), t'.set none (t.destination path)) := by
    simp only [Tree.perform, h.found]
  have hbecomes := h.room.becomes_none
  refine ⟨_, hremove, hbecomes.start.trans h.becomes.start, hbecomes.tidy ∘ h.becomes.tidy, fun other => ?_⟩
  rw [hbecomes.look]
  by_cases hother : other = t.destination path
  · rw [hother, Function.update_self, h.missing]
  · rw [Function.update_of_ne hother, h.becomes.look, Function.update_of_ne hother]

/-- Moved to another path, it is seen there and nowhere else. If it cannot be moved, all stays as it is. -/
theorem Appeared.renamed (h : Appeared t source data t')
    (hrename : Tree.perform (.rename source target) t' = (answer, t'')) :
    (∃ e, answer = .error e ∧ t'' = t') ∨ (answer = .ok () ∧
      Becomes t (Function.update t.root.look (t.destination target) (some (.file data))) t'' ∧
      t''.find target = .ok (t.destination target, .file data)) := by
  have hkeep : ∀ other, t'.root.look other = some .folder → t''.root.look other = some .folder :=
    fun _ hfolder => (changes_of_perform hrename).keeps_folders hfolder
  simp only [Tree.perform, h.found] at hrename
  split at hrename
  · cases hrename
    exact .inl ⟨_, rfl, rfl⟩
  · cases hrename
    exact .inl ⟨_, rfl, rfl⟩
  · next place file new old _ hfree hfound haim =>
    cases hfound
    cases hrename
    right
    obtain rfl : new = t.destination target :=
      (destination_of_aim haim).trans (destination_congr h.becomes.start target)
    obtain ⟨way, hway, haims⟩ := aims_of_aim haim
    have htarget := haims.room (fun inside hold => hfree inside hold) h.room.parent
    have hremoved := h.room.becomes_none
    have hmoved := (h.room.after_remove htarget).becomes_file data
    have hfound := haims.found hway (hmoved.start.trans hremoved.start) hkeep
      (Entry.look_eq_file_iff.1 ((hmoved.look _).trans (Function.update_self _ _ _)))
    refine ⟨rfl, ⟨hmoved.start.trans (hremoved.start.trans h.becomes.start),
      hmoved.tidy ∘ hremoved.tidy ∘ h.becomes.tidy, fun other => ?_⟩, hfound⟩
    rw [hmoved.look]
    -- the new place, the old one, and those where nothing has changed since the file appeared
    by_cases hother : other = t.destination target
    · rw [hother, Function.update_self, Function.update_self]
    · rw [Function.update_of_ne hother, Function.update_of_ne hother, hremoved.look]
      by_cases haside : other = t.destination source
      · rw [haside, Function.update_self, h.missing]
      · rw [Function.update_of_ne haside, h.becomes.look, Function.update_of_ne haside]
  · cases hrename
    exact .inl ⟨_, rfl, rfl⟩
  · next herror => cases herror

end Storefront.Files
