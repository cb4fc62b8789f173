import Mathlib.Data.List.Induction
import Storefront.Proofs.Files.Root

/-!
# Operations below a root

What each operation on files does at names below the root, told by what is planted there, and what making
a folder with all folders around it comes to.
-/

namespace Storefront.Files

variable {t : Tree} {text : String} {place : Place} {e e' : Entry} {names source : Path} {name : String}
  {data : ByteArray}

theorem Fits.of_append {rest : Path} (h : Fits (names ++ rest)) : Fits names :=
  ⟨fun name hname => h.plain name (List.mem_append_left _ hname),
    Nat.le_trans (Path.size_le_append names rest) h.short⟩

/-! ## Finding and aiming below the root -/

namespace EmptyFolder

open EmptyRoot (outset)

theorem find_some (h : EmptyFolder t text place) (he : e.look [] = some .folder) (hfits : FitsBelow text names)
    (hget : e.get? names = some e') :
    (t.plant place e).find ((Path.ofText text).join names) = .ok (place ++ names, e') := by
  refine find_eq_ok hfits.way_join ?_ ((h.get?_plant names).trans hget)
  rw [h.leads_append he]
  refine foldlM_go_some hfits.plain ?_
  rw [h.look_plant, Entry.look, hget]
  exact Option.some_ne_none _

theorem leads_none (h : EmptyFolder t text place) (he : e.look [] = some .folder)
    (hplain : ∀ name ∈ names, IsPlain name) (hlook : e.look names = none)
    (hfiles : ∀ before, before <+: names → ∀ data, e.look before ≠ some (.file data)) :
    (t.plant place e).leads (outset t text ++ names) = .error .notFound := by
  rw [h.leads_append he]
  have hroot : (t.plant place e).root.look place = some .folder := by
    have hlook := h.look_plant (e := e) []
    rwa [List.append_nil, he] at hlook
  refine foldlM_go_none hplain hroot ((h.look_plant names).trans hlook) ?_
  intro before hbefore data
  rw [h.look_plant]
  exact hfiles before hbefore data

theorem find_none (h : EmptyFolder t text place) (he : e.look [] = some .folder) (hfits : FitsBelow text names)
    (hlook : e.look names = none)
    (hfiles : ∀ before, before <+: names → ∀ data, e.look before ≠ some (.file data)) :
    (t.plant place e).find ((Path.ofText text).join names) = .error .notFound :=
  find_eq_error hfits.way_join (h.leads_none he hfits.plain hlook hfiles)

theorem aim_folder (h : EmptyFolder t text place) (he : e.look [] = some .folder)
    (hfits : FitsBelow text (names ++ [name])) (hfolder : e.look names = some .folder) :
    (t.plant place e).aim ((Path.ofText text).join (names ++ [name])) =
      .ok (place ++ (names ++ [name]), e.get? (names ++ [name])) := by
  have hway : (t.plant place e).way _ = .ok (outset t text ++ (names ++ [name])) := hfits.way_join
  rw [← List.append_assoc] at hway
  have hleads : (t.plant place e).leads (outset t text ++ names) = .ok (place ++ names) := by
    rw [h.leads_append he]
    refine foldlM_go_some hfits.of_append.plain ?_
    rw [h.look_plant, hfolder]
    exact Option.some_ne_none _
  rw [aim_eq_ok hway hleads ((h.look_plant names).trans hfolder)
    (hfits.plain name (List.mem_append_right _ (List.mem_singleton_self _))), List.append_assoc,
    h.get?_plant]

theorem aim_none (h : EmptyFolder t text place) (he : e.look [] = some .folder)
    (hfits : FitsBelow text (names ++ [name])) (hlook : e.look names = none)
    (hfiles : ∀ before, before <+: names → ∀ data, e.look before ≠ some (.file data)) :
    (t.plant place e).aim ((Path.ofText text).join (names ++ [name])) = .error .notFound := by
  have hway : (t.plant place e).way _ = .ok (outset t text ++ (names ++ [name])) := hfits.way_join
  rw [← List.append_assoc] at hway
  exact aim_eq_error hway (h.leads_none he hfits.of_append.plain hlook hfiles)

/-! ## Single operations -/

theorem perform_read (h : EmptyFolder t text place) (he : e.look [] = some .folder) (hfits : FitsBelow text names)
    (hfile : e.look names = some (.file data)) :
    Tree.perform (.read ((Path.ofText text).join names)) (t.plant place e) =
      (.ok data, t.plant place e) := by
  have hfind := h.find_some he hfits (Entry.look_eq_file_iff.1 hfile)
  simp only [Tree.perform, hfind]

theorem perform_read_none (h : EmptyFolder t text place) (he : e.look [] = some .folder)
    (hfits : FitsBelow text names) (hlook : e.look names = none)
    (hfiles : ∀ before, before <+: names → ∀ data, e.look before ≠ some (.file data)) :
    Tree.perform (.read ((Path.ofText text).join names)) (t.plant place e) =
      (.error .notFound, t.plant place e) := by
  have hfind := h.find_none he hfits hlook hfiles
  simp only [Tree.perform, hfind]

theorem perform_remove (h : EmptyFolder t text place) (he : e.look [] = some .folder) (hfits : FitsBelow text names)
    (hnames : names ≠ []) (hfile : e.look names = some (.file data)) :
    ∃ e', Tree.perform (.remove ((Path.ofText text).join names)) (t.plant place e) =
        (.ok (), t.plant place e') ∧ (e.Tidy → e'.Tidy) ∧
      ∀ other, e'.look other = if other = names then none else e.look other := by
  have hfind := h.find_some he hfits (Entry.look_eq_file_iff.1 hfile)
  refine ⟨e.set none names, ?_, fun htidy => htidy.set fun e' he' => ?_, e.look_set_none hnames hfile⟩
  · simp only [Tree.perform, hfind, h.plant_set hnames]
  · cases he'

theorem perform_remove_none (h : EmptyFolder t text place) (he : e.look [] = some .folder)
    (hfits : FitsBelow text names) (hlook : e.look names = none)
    (hfiles : ∀ before, before <+: names → ∀ data, e.look before ≠ some (.file data)) :
    Tree.perform (.remove ((Path.ofText text).join names)) (t.plant place e) =
      (.error .notFound, t.plant place e) := by
  have hfind := h.find_none he hfits hlook hfiles
  simp only [Tree.perform, hfind]

theorem perform_names {inside : List (String × Entry)} (h : EmptyFolder t text place)
    (he : e.look [] = some .folder) (hfits : FitsBelow text names)
    (hget : e.get? names = some (.folder inside)) :
    Tree.perform (.names ((Path.ofText text).join names)) (t.plant place e) =
      (.ok (Entry.folder inside).fileNames, t.plant place e) := by
  have hfind := h.find_some he hfits hget
  simp only [Tree.perform, hfind]

theorem perform_names_none (h : EmptyFolder t text place) (he : e.look [] = some .folder)
    (hfits : FitsBelow text names) (hlook : e.look names = none)
    (hfiles : ∀ before, before <+: names → ∀ data, e.look before ≠ some (.file data)) :
    Tree.perform (.names ((Path.ofText text).join names)) (t.plant place e) =
      (.error .notFound, t.plant place e) := by
  have hfind := h.find_none he hfits hlook hfiles
  simp only [Tree.perform, hfind]

theorem perform_write (h : EmptyFolder t text place) (he : e.look [] = some .folder)
    (hfits : FitsBelow text (names ++ [name])) (hfolder : e.look names = some .folder)
    (hfree : e.look (names ++ [name]) ≠ some .folder) (data : ByteArray) :
    ∃ e', Tree.perform (.write ((Path.ofText text).join (names ++ [name])) data) (t.plant place e) =
        (.ok (), t.plant place e') ∧ (e.Tidy → e'.Tidy) ∧
      ∀ other, e'.look other = if other = names ++ [name] then some (.file data) else e.look other := by
  have haim := h.aim_folder he hfits hfolder
  have hne := List.concat_ne_nil name names
  refine ⟨e.set (some (.file data)) (names ++ [name]), ?_, fun htidy => htidy.set fun e' he' => ?_,
    e.look_set_file hfolder hfree data⟩
  · cases hget : e.get? (names ++ [name]) with
    | none =>
      rw [hget] at haim
      simp only [Tree.perform, haim, h.plant_set hne]
    | some old =>
      rw [hget] at haim
      cases old with
      | file _ => simp only [Tree.perform, haim, h.plant_set hne]
      | folder inside => exact absurd (Entry.look_eq_folder_iff.2 ⟨inside, hget⟩) hfree
  · cases he'
    exact Entry.tidy_file data

theorem perform_rename (h : EmptyFolder t text place) (he : e.look [] = some .folder) (hsource : FitsBelow text source)
    (hne : source ≠ []) (hfile : e.look source = some (.file data)) (hfits : FitsBelow text (names ++ [name]))
    (hfolder : e.look names = some .folder) (hfree : e.look (names ++ [name]) ≠ some .folder)
    (hdiffer : names ++ [name] ≠ source) :
    ∃ e', Tree.perform
          (.rename ((Path.ofText text).join source) ((Path.ofText text).join (names ++ [name])))
          (t.plant place e) = (.ok (), t.plant place e') ∧ (e.Tidy → e'.Tidy) ∧
      ∀ other, e'.look other = if other = names ++ [name] then some (.file data)
        else if other = source then none else e.look other := by
  have hfind := h.find_some he hsource (Entry.look_eq_file_iff.1 hfile)
  have haim := h.aim_folder he hfits hfolder
  have hne' := List.concat_ne_nil name names
  -- the source is not among the folders on the way, and not at the target
  have hgone := e.look_set_none hne hfile
  have hfolder' : (e.set none source).look names = some .folder := by
    have hnames : names ≠ source := by
      rintro rfl
      rw [hfolder] at hfile
      cases hfile
    rw [hgone, if_neg hnames, hfolder]
  have hfree' : (e.set none source).look (names ++ [name]) ≠ some .folder := by
    rw [hgone, if_neg hdiffer]
    exact hfree
  refine ⟨(e.set none source).set (some (.file data)) (names ++ [name]), ?_, fun htidy => ?_,
    fun other => ?_⟩
  · cases hget : e.get? (names ++ [name]) with
    | none =>
      rw [hget] at haim
      simp only [Tree.perform, hfind, haim, h.plant_set hne, h.plant_set hne']
    | some old =>
      rw [hget] at haim
      cases old with
      | file _ => simp only [Tree.perform, hfind, haim, h.plant_set hne, h.plant_set hne']
      | folder inside => exact absurd (Entry.look_eq_folder_iff.2 ⟨inside, hget⟩) hfree
  · have hset : (e.set none source).Tidy := htidy.set fun e' he' => (by cases he')
    refine hset.set fun e' he' => ?_
    cases he'
    exact Entry.tidy_file data
  · rw [(e.set none source).look_set_file hfolder' hfree' data, hgone]

end EmptyFolder

/-! ## Programs on files -/

/-- What a program on files makes of a tree. -/
abbrev exec {α : Type} (p : FileProgram α) (t : Tree) : α × Tree := (p.run Tree.perform).run t

theorem exec_perform_bind {α : Type} {o : Operation} {f : o.Answer → FileProgram α} {a : o.Answer}
    {t' : Tree} (h : Tree.perform o t = (a, t')) : exec (perform o >>= f) t = exec (f a) t' := by
  show exec (f (Tree.perform o t).1) (Tree.perform o t).2 = _
  rw [h]

theorem exec_bind {α β : Type} {p : FileProgram α} {f : α → FileProgram β} {a : α} {t' : Tree}
    (h : exec p t = (a, t')) : exec (p >>= f) t = exec (f a) t' := by
  unfold exec at h
  rw [exec, Program.run_bind, StateT.run_bind, h]
  rfl

/-- What is found is aimed at. -/
theorem aim_of_find {path : Path} (h : t.find path = .ok (place, e)) : t.aim path = .ok (place, some e) := by
  unfold Tree.find at h
  unfold Tree.aim
  cases hway : t.way path with
  | error err =>
    rw [hway] at h
    cases h
  | ok way =>
    simp only [hway, bind, Except.bind] at h ⊢
    cases way using List.reverseRecOn with
    | nil =>
      cases h
      rfl
    | append_singleton names name =>
      have hlast : t.walk (names ++ [name]) = (do t.step (← t.walk names) name) := by
        unfold Tree.walk
        rw [List.foldlM_append]
        simp only [List.foldlM_cons, List.foldlM_nil, bind_pure]
      rw [hlast] at h
      rw [List.dropLast_concat, List.getLast?_concat]
      cases hwalk : t.walk names with
      | error err =>
        rw [hwalk] at h
        cases h
      | ok trail =>
        simp only [hwalk, bind, Except.bind] at h ⊢
        cases hstep : t.step trail name with
        | error err =>
          rw [hstep] at h
          cases h
        | ok next =>
          rw [hstep] at h
          cases h
          rfl

/-- A name that stays where it is may be left out at the end of a path, unless it is the only one. -/
theorem find_of_append_here {path : Path} (hne : path ≠ []) (hhere : Path.isHere name = true)
    (h : t.find (path ++ [name]) = .ok (place, e)) : t.find path = .ok (place, e) := by
  obtain ⟨names, hway, hleads, hget⟩ := leads_of_find h
  have hshort := Path.size_le_append path [name]
  have habsolute : (path ++ [name]).isAbsolute = path.isAbsolute := by
    obtain ⟨first, rest, rfl⟩ := List.exists_cons_of_ne_nil hne
    rfl
  unfold Tree.way at hway
  split at hway
  · cases hway
  · next hlimit =>
    obtain ⟨before, hbefore, hnames⟩ : ∃ before, t.way path = .ok before ∧ names = before ++ [name] := by
      unfold Tree.way
      rw [if_neg (by omega), ← habsolute]
      by_cases hstart : (path ++ [name]).isAbsolute = true
      · rw [if_pos hstart] at hway ⊢
        exact ⟨path, rfl, (Except.ok.inj hway).symm⟩
      · rw [if_neg hstart] at hway ⊢
        exact ⟨t.start ++ path, rfl, (Except.ok.inj hway).symm.trans (List.append_assoc _ _ _).symm⟩
    rw [hnames] at hleads
    obtain ⟨next, hfirst, hlast⟩ := foldlM_go_append hleads
    have hsame : place = next := by
      refine foldlM_go_here (fun other hother => ?_) hlast
      rw [List.mem_singleton.1 hother]
      exact hhere
    exact find_eq_ok hbefore (hsame ▸ hfirst) hget

/-- A folder that exists is not made again, -/
theorem exec_makeFolder_found {path : Path} {inside : List (String × Entry)}
    (h : t.find path = .ok (place, .folder inside)) : exec (makeFolder path) t = (.ok (), t) := by
  have hmake : Tree.perform (.makeFolder path) t = (.error .alreadyExists, t) := by
    simp only [Tree.perform, aim_of_find h]
  have hcheck : Tree.perform (.isFolder path) t = (.ok true, t) := by
    simp only [Tree.perform, h]
  exact (exec_perform_bind hmake).trans (exec_perform_bind hcheck)

/-- and no more are those around it. -/
theorem exec_makeFolders_found {path : Path} {inside : List (String × Entry)}
    (h : t.find path = .ok (place, .folder inside)) : exec (makeFolders path) t = (.ok (), t) := by
  induction path using List.reverseRecOn with
  | nil => rfl
  | append_singleton path name ih =>
    unfold makeFolders
    rw [List.reverse_concat, makeFoldersFrom]
    by_cases hhere : Path.isHere name = true
    · rw [if_pos hhere]
      by_cases hne : path = []
      · rw [hne]
        rfl
      · exact ih (find_of_append_here hne hhere h)
    · have hback : (name :: path.reverse).reverse = path ++ [name] := by
        rw [List.reverse_cons, List.reverse_reverse]
      rw [if_neg hhere, hback]
      exact exec_bind (exec_makeFolder_found h)

namespace EmptyFolder

/-- Making a folder in a folder makes it or finds it. -/
theorem exec_makeFolder (h : EmptyFolder t text place) (he : e.look [] = some .folder)
    (hfits : FitsBelow text (names ++ [name])) (hfolder : e.look names = some .folder)
    (hfile : ∀ data, e.look (names ++ [name]) ≠ some (.file data)) :
    ∃ e', exec (makeFolder ((Path.ofText text).join (names ++ [name]))) (t.plant place e) =
        (.ok (), t.plant place e') ∧ (e.Tidy → e'.Tidy) ∧
      ∀ other, e'.look other = if other = names ++ [name] then some .folder else e.look other := by
  have haim := h.aim_folder he hfits hfolder
  have hne := List.concat_ne_nil name names
  cases hget : e.get? (names ++ [name]) with
  | none =>
    rw [hget] at haim
    have hmake : Tree.perform (.makeFolder ((Path.ofText text).join (names ++ [name])))
        (t.plant place e) = (.ok (), t.plant place (e.set (some (.folder [])) (names ++ [name]))) := by
      simp only [Tree.perform, haim, h.plant_set hne]
    refine ⟨_, exec_perform_bind hmake, fun htidy => htidy.set ?_, ?_⟩
    · intro e' he'
      cases he'
      exact Entry.tidy_empty
    · have hold : e.look (names ++ [name]) ≠ some .folder := by
        rw [Entry.look, hget]
        exact (Option.some_ne_none _).symm
      exact e.look_set_leaf hne (by rwa [List.dropLast_concat]) (fun first rest => rfl) hold
  | some old =>
    cases old with
    | file data => exact absurd (Entry.look_eq_file_iff.2 hget) (hfile data)
    | folder inside =>
      refine ⟨e, exec_makeFolder_found (h.find_some he hfits hget), id, fun other => ?_⟩
      by_cases hother : other = names ++ [name]
      · rw [if_pos hother, hother]
        exact Entry.look_eq_folder_iff.2 ⟨inside, hget⟩
      · rw [if_neg hother]

/-- In a folder that does not exist no folder is made. -/
theorem exec_makeFolder_none (h : EmptyFolder t text place) (he : e.look [] = some .folder)
    (hfits : FitsBelow text (names ++ [name])) (hlook : e.look names = none)
    (hfiles : ∀ before, before <+: names → ∀ data, e.look before ≠ some (.file data)) :
    exec (makeFolder ((Path.ofText text).join (names ++ [name]))) (t.plant place e) =
      (.error .notFound, t.plant place e) := by
  have haim := h.aim_none he hfits hlook hfiles
  have hmake : Tree.perform (.makeFolder ((Path.ofText text).join (names ++ [name])))
      (t.plant place e) = (.error .notFound, t.plant place e) := by
    simp only [Tree.perform, haim]
  exact exec_perform_bind hmake

end EmptyFolder

/-- Where the folder around it is missing, that one is made first. -/
theorem makeFolders_join (root : Path) (hhere : Path.isHere name = false) :
    makeFolders (root.join (names ++ [name])) = (do
      match ← makeFolder (root.join (names ++ [name])) with
      | .error .notFound =>
        match ← makeFolders (root.join names) with
        | .ok () => makeFolder (root.join (names ++ [name]))
        | .error e => return .error e
      | other => return other) := by
  have hreverse : (root.join (names ++ [name])).reverse = name :: (root.join names).reverse := by
    rw [Path.join_eq, Path.join_eq, ← List.append_assoc, List.reverse_concat]
  have hback : (name :: (root.join names).reverse).reverse = root.join (names ++ [name]) := by
    rw [← hreverse, List.reverse_reverse]
  unfold makeFolders
  rewrite [hreverse, makeFoldersFrom, hhere, if_neg Bool.false_ne_true, hback]
  rfl

/-- What is seen once a folder is made in one around which all folders are made. -/
theorem look_of_made {e₁ e₂ : Entry}
    (h₁ : ∀ other, e₁.look other = if other <+: names then some .folder else e.look other)
    (h₂ : ∀ other, e₂.look other = if other = names ++ [name] then some .folder else e₁.look other)
    (other : Place) : e₂.look other = if other <+: names ++ [name] then some .folder else e.look other := by
  rw [h₂, h₁]
  by_cases hlast : other = names ++ [name]
  · rw [if_pos hlast, if_pos (List.prefix_concat_iff.2 (.inl hlast))]
  · have hiff : other <+: names ↔ other <+: names ++ [name] := by
      rw [List.prefix_concat_iff, or_iff_right hlast]
    rw [if_neg hlast]
    simp only [hiff]

namespace EmptyFolder

/-- Making a folder makes the folders around it as well, as long as no file is in the way. -/
theorem exec_makeFolders (h : EmptyFolder t text place) (he : e.look [] = some .folder)
    (hfits : FitsBelow text names)
    (hfiles : ∀ before, before <+: names → ∀ data, e.look before ≠ some (.file data)) :
    ∃ e', exec (makeFolders ((Path.ofText text).join names)) (t.plant place e) =
        (.ok (), t.plant place e') ∧ (e.Tidy → e'.Tidy) ∧
      ∀ other, e'.look other = if other <+: names then some .folder else e.look other := by
  induction names using List.reverseRecOn generalizing e with
  | nil =>
    obtain ⟨inside, hget⟩ := Entry.look_eq_folder_iff.1 he
    refine ⟨e, exec_makeFolders_found (h.find_some he hfits hget), id, fun other => ?_⟩
    by_cases hother : other <+: []
    · rw [if_pos hother, List.prefix_nil.1 hother, he]
    · rw [if_neg hother]
  | append_singleton names name ih =>
    have hhere := (hfits.plain name (List.mem_append_right _ (List.mem_singleton_self _))).notHere
    have hfile : ∀ data, e.look (names ++ [name]) ≠ some (.file data) :=
      hfiles _ (List.prefix_refl _)
    rw [makeFolders_join _ hhere]
    cases hparent : e.look names with
    | some kind =>
      cases kind with
      | file data => exact absurd hparent (hfiles _ (List.prefix_append _ _) data)
      | folder =>
        obtain ⟨e', hmake, htidy, hlook⟩ := h.exec_makeFolder he hfits hparent hfile
        refine ⟨e', exec_bind hmake, htidy, look_of_made (fun other => ?_) hlook⟩
        by_cases hother : other <+: names
        · rw [if_pos hother, Entry.look_folder_of_around hparent hother]
        · rw [if_neg hother]
    | none =>
      have hbefore : ∀ before, before <+: names → ∀ data, e.look before ≠ some (.file data) :=
        fun before hpart => hfiles before (hpart.trans (List.prefix_append _ _))
      -- the folder around it is made, and then the folder itself
      have hmissing := h.exec_makeFolder_none he hfits hparent hbefore
      obtain ⟨e₁, hmake₁, htidy₁, hlook₁⟩ := ih he hfits.of_append hbefore
      have he₁ : e₁.look [] = some .folder := by
        rw [hlook₁, if_pos List.nil_prefix]
      have hfolder₁ : e₁.look names = some .folder := by
        rw [hlook₁, if_pos (List.prefix_refl _)]
      have hfile₁ : ∀ data, e₁.look (names ++ [name]) ≠ some (.file data) := by
        intro data
        rw [hlook₁, if_neg (not_concat_below names name)]
        exact hfile data
      obtain ⟨e₂, hmake₂, htidy₂, hlook₂⟩ := h.exec_makeFolder he₁ hfits hfolder₁ hfile₁
      refine ⟨e₂, ?_, htidy₂ ∘ htidy₁, look_of_made hlook₁ hlook₂⟩
      rw [exec_bind hmissing]
      exact (exec_bind hmake₁).trans hmake₂

end EmptyFolder

end Storefront.Files
