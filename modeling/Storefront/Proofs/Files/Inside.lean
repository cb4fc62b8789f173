import Storefront.Proofs.Files.Root

/-!
# Paths that stay in a folder

A folder stands at the end of a path. The same path with more names behind it, each of which leads one
folder inwards, leads to something below the folder or nowhere, whatever lies there; and so what is done
along such paths leaves all other places as they are. No operation takes a folder away, so the path goes on
leading to it.
-/

namespace Storefront.Files

/-- A name that leads to what lies in a folder. -/
structure LeadsIn (name : String) : Prop where
  notHere : Path.isHere name = false
  notUp : name ≠ ".."

/-- A path that leads to a folder, and perhaps more names that stay there: both write the same folder. -/
structure Path.SameFolder (root path : Path) : Prop where
  names : ∃ heres, root = path ++ heres ∧ ∀ name ∈ heres, Path.isHere name = true
  absolute : path.isAbsolute = root.isAbsolute

/-- A path leads to nothing but what is at a place or below it. -/
structure Stays (t : Tree) (place : Place) (path : Path) : Prop where
  find : ∀ other e, t.find path = .ok (other, e) → place <+: other
  aim : ∀ other e, t.aim path = .ok (other, e) → place <+: other

/-- A folder stands at the end of a path. -/
def HasRoot (t : Tree) (text : String) (place : Place) : Prop :=
  ∃ inside, t.find (Path.ofText text) = .ok (place, .folder inside)

variable {t t' : Tree} {place other : Place} {path names way : Path} {name text : String} {e : Entry}
  {old new : Option Entry} {o : Operation} {answer : o.Answer}

theorem head?_ne_of_leadsIn (h : ∀ name ∈ names, LeadsIn name) : names.head? ≠ some "" := by
  intro hhead
  have hhere := (h "" (List.mem_of_mem_head? hhead)).notHere
  cases hhere

/-- Names that lead inwards lead nowhere but inwards. -/
theorem foldlM_go_inwards {look : Place → Option Kind} (hnames : ∀ name ∈ names, LeadsIn name)
    (h : names.foldlM (go look) place = .ok other) : other = place ++ names := by
  induction names generalizing place with
  | nil =>
    rw [List.append_nil]
    exact (Except.ok.inj h).symm
  | cons name names ih =>
    obtain ⟨next, -, hgoes, hrest⟩ := foldlM_go_cons h
    have hname := hnames name List.mem_cons_self
    have hnext : next = place ++ [name] := by
      cases hgoes with
      | here hhere =>
        rw [hname.notHere] at hhere
        cases hhere
      | up hup => exact absurd hup hname.notUp
      | inwards => rfl
    rw [ih (fun n hn => hnames n (List.mem_cons_of_mem _ hn)) hrest, hnext, List.append_assoc]
    rfl

/-- A walk is taken as well where no folder is missing, if there is something at its end. -/
theorem foldlM_go_mono {look look' : Place → Option Kind}
    (hkeep : ∀ place, look place = some .folder → look' place = some .folder)
    (hend : (look' other).isSome = true) (h : names.foldlM (go look) place = .ok other) :
    names.foldlM (go look') place = .ok other := by
  induction names generalizing place with
  | nil => exact h
  | cons name names ih =>
    obtain ⟨next, hfolder, hgoes, hrest⟩ := foldlM_go_cons h
    have hnext : (look' next).isSome = true := by
      cases names with
      | nil =>
        rw [Except.ok.inj hrest]
        exact hend
      | cons first names =>
        obtain ⟨-, hfolder, -⟩ := foldlM_go_cons hrest
        rw [hkeep next hfolder]
        rfl
    have hsame : Goes look' place name next := by
      cases hgoes with
      | here hhere => exact .here hhere
      | up hup => exact .up hup
      | inwards hname _ => exact .inwards hname hnext
    rw [List.foldlM_cons, hsame.go_eq (hkeep _ hfolder)]
    exact ih hrest

/-- What is found is found as well where no folder is missing, whatever it has become. -/
theorem find_mono {e' : Entry} (hstart : t'.start = t.start)
    (hkeep : ∀ place, t.root.look place = some .folder → t'.root.look place = some .folder)
    (h : t.find path = .ok (place, e)) (hget : t'.root.get? place = some e') :
    t'.find path = .ok (place, e') := by
  obtain ⟨way, hway, hleads, -⟩ := leads_of_find h
  refine find_eq_ok ?_ (foldlM_go_mono hkeep ?_ hleads) hget
  · unfold Tree.way at hway ⊢
    rw [hstart, hway]
  · rw [Entry.look, hget]
    rfl

/-! ## What is aimed at -/

/-- What is aimed at stands at the end of the path, or may be put into the folder to which the path leads
but for its last name. -/
inductive Aims (t : Tree) : Path → Place → Option Entry → Prop where
  | there {way : Path} {place : Place} {e : Entry} (hleads : t.leads way = .ok place)
    (hget : t.root.get? place = some e) : Aims t way place (some e)
  | free {way : Path} {place : Place} {name : String} (hleads : t.leads way = .ok place)
    (hfolder : t.root.look place = some .folder) (hnone : t.root.look (place ++ [name]) = none)
    (hname : IsPlain name) : Aims t (way ++ [name]) (place ++ [name]) none

theorem leads_of_walk {trail : Trail} (h : t.walk names = .ok trail) :
    trail.Valid t ∧ t.leads names = .ok trail.place := by
  have hfollows := walk_leads t names
  rw [h] at hfollows
  exact hfollows.of_ok

/-- Where a name is missing in a folder, something of this name may be put. -/
theorem isPlain_of_go_notFound {look : Place → Option Kind} (hthere : look place ≠ none)
    (h : go look place name = .error .notFound) :
    look place = some .folder ∧ IsPlain name ∧ look (place ++ [name]) = none := by
  unfold go at h
  cases hkind : look place with
  | none => exact absurd hkind hthere
  | some kind =>
    rw [hkind] at h
    cases kind with
    | file data => cases h
    | folder =>
      by_cases hhere : Path.isHere name = true
      · simp only [if_pos hhere] at h
        cases h
      · by_cases hup : name = ".."
        · simp only [if_neg hhere, if_pos hup] at h
          cases h
        · by_cases hlong : Tree.nameLimit < name.utf8ByteSize
          · simp only [if_neg hhere, if_neg hup, if_pos hlong] at h
            cases h
          · simp only [if_neg hhere, if_neg hup, if_neg hlong] at h
            by_cases hsome : (look (place ++ [name])).isSome = true
            · rw [if_pos hsome] at h
              cases h
            · exact ⟨rfl, ⟨eq_false_of_ne_true hhere, hup, Nat.not_lt.1 hlong⟩, by simpa using hsome⟩

theorem aims_of_aim (h : t.aim path = .ok (place, old)) :
    ∃ way, t.way path = .ok way ∧ Aims t way place old := by
  unfold Tree.aim at h
  cases hway : t.way path with
  | error err =>
    rw [hway] at h
    cases h
  | ok way =>
    rw [hway] at h
    refine ⟨way, rfl, ?_⟩
    cases hwalk : t.walk way.dropLast with
    | error err =>
      simp only [hwalk, bind, Except.bind] at h
      cases h
    | ok trail =>
      obtain ⟨hvalid, hleads⟩ := leads_of_walk hwalk
      simp only [hwalk, bind, Except.bind] at h
      cases hlast : way.getLast? with
      | none =>
        rw [List.getLast?_eq_none_iff.1 hlast] at hleads ⊢
        simp only [hlast] at h
        cases h
        exact .there hleads hvalid.get?_place
      | some name =>
        obtain ⟨before, rfl⟩ := List.getLast?_eq_some_iff.1 hlast
        rw [List.dropLast_concat] at hleads
        have hstep := step_follows hvalid name
        simp only [hlast] at h
        cases hnext : t.step trail name with
        | ok next =>
          rw [hnext] at h hstep
          cases h
          obtain ⟨hvalid', hgo⟩ := hstep.of_ok
          refine .there ?_ hvalid'.get?_place
          unfold Tree.leads at hleads ⊢
          simp only [List.foldlM_append, hleads, bind, Except.bind, List.foldlM_cons, hgo,
            List.foldlM_nil, pure, Except.pure]
        | error err =>
          rw [hnext] at h hstep
          have hgo := hstep.of_error
          cases err with
          | notFound =>
            cases h
            have hthere : t.root.look trail.place ≠ none := by
              rw [Entry.look, hvalid.get?_place]
              exact Option.some_ne_none _
            obtain ⟨hfolder, hname, hnone⟩ := isPlain_of_go_notFound hthere hgo
            exact .free hleads hfolder hnone hname
          | _ => cases h

/-- Where a path leads, there it aims. -/
theorem exists_aim (hway : t.way path = .ok way) (hleads : t.leads way = .ok place) :
    ∃ e, t.aim path = .ok (place, some e) := by
  rcases List.eq_nil_or_concat way with rfl | ⟨before, name, rfl⟩
  · cases hleads
    exact ⟨t.root, by simp only [Tree.aim, hway, bind, Except.bind]; rfl⟩
  · rw [List.concat_eq_append] at hway hleads
    obtain ⟨next, hnext, hlast⟩ := foldlM_go_append hleads
    obtain ⟨last, hfolder, hgoes, hend⟩ := foldlM_go_cons hlast
    obtain rfl := Except.ok.inj hend
    obtain ⟨trail, hwalk, hvalid, rfl⟩ := walk_eq_ok hnext
    have hstep := step_follows hvalid name
    rw [hgoes.go_eq hfolder] at hstep
    obtain ⟨trail', htrail, -, hplace⟩ := hstep.exists_trail
    refine ⟨t.reached trail', ?_⟩
    simp only [Tree.aim, hway, bind, Except.bind, List.dropLast_concat, hwalk, List.getLast?_concat,
      htrail, pure, Except.pure, hplace]

/-! ## Paths below a place -/

/-- A path stays below a place if it leads there first and then inwards. -/
theorem stays_of_way
    (h : ∀ way, t.way path = .ok way → ∃ before names, way = before ++ names ∧
      t.leads before = .ok place ∧ ∀ name ∈ names, LeadsIn name) : Stays t place path := by
  have hleads : ∀ {way other}, t.way path = .ok way → t.leads way = .ok other → place <+: other := by
    intro way other hway hother
    obtain ⟨before, names, rfl, hbefore, hnames⟩ := h way hway
    obtain ⟨next, hnext, hrest⟩ := foldlM_go_append hother
    obtain rfl := Except.ok.inj (hbefore.symm.trans hnext)
    rw [foldlM_go_inwards hnames hrest]
    exact List.prefix_append _ _
  constructor
  · intro other e hfind
    obtain ⟨way, hway, hother, -⟩ := leads_of_find hfind
    exact hleads hway hother
  · intro other old haim
    obtain ⟨way, hway, haims⟩ := aims_of_aim haim
    cases haims with
    | there hother _ => exact hleads hway hother
    | @free way parent name hparent hfolder hnone hname =>
      obtain ⟨before, names, heq, hbefore, hnames⟩ := h _ hway
      rcases List.eq_nil_or_concat names with rfl | ⟨names, last, rfl⟩
      · -- the path leads to the place, so its last name is not missing
        rw [List.append_nil] at heq
        rw [← heq] at hbefore
        obtain ⟨next, hnext, hlast⟩ := foldlM_go_append hbefore
        obtain rfl := Except.ok.inj (hparent.symm.trans hnext)
        obtain ⟨last, -, hgoes, -⟩ := foldlM_go_cons hlast
        cases hgoes with
        | here hhere =>
          rw [hname.notHere] at hhere
          cases hhere
        | up hup => exact absurd hup hname.notUp
        | inwards _ hthere =>
          rw [hnone] at hthere
          cases hthere
      · rw [List.concat_eq_append, ← List.append_assoc] at heq
        obtain ⟨rfl, -⟩ := List.append_inj' heq rfl
        obtain ⟨next, hnext, hrest⟩ := foldlM_go_append hparent
        obtain rfl := Except.ok.inj (hbefore.symm.trans hnext)
        have hinner : ∀ n ∈ names, LeadsIn n := fun n hn =>
          hnames n (List.concat_eq_append ▸ List.mem_append_left _ hn)
        rw [foldlM_go_inwards hinner hrest, List.append_assoc]
        exact List.prefix_append _ _

/-- What lies in a folder that is found is found behind its path, unless the path becomes too long. -/
theorem find_concat {inside : List (String × Entry)} (h : t.find path = .ok (place, .folder inside))
    (hne : path ≠ []) (hname : LeadsIn name) (hthere : inside.lookup name = some e) :
    t.find (path ++ [name]) = .ok (place ++ [name], e) ∨
      t.find (path ++ [name]) = .error .nameTooLong := by
  obtain ⟨way, hway, hleads, hget⟩ := leads_of_find h
  by_cases hlong : Tree.pathLimit < (path ++ [name]).size
  · right
    rw [Tree.find, Tree.way, if_pos hlong]
    rfl
  · have hway' : t.way (path ++ [name]) = .ok (way ++ [name]) := by
      obtain ⟨first, rest, rfl⟩ := List.exists_cons_of_ne_nil hne
      have hsize := Path.size_le_append (first :: rest) [name]
      have habsolute : Path.isAbsolute (first :: rest ++ [name]) = Path.isAbsolute (first :: rest) := rfl
      rw [Tree.way, if_neg (by omega)] at hway
      rw [Tree.way, if_neg hlong, habsolute, ← Except.ok.inj hway]
      split
      · rfl
      · rw [List.append_assoc]
    have hfolder : t.root.look place = some .folder := Entry.look_eq_folder_iff.2 ⟨inside, hget⟩
    have hbelow : t.root.get? (place ++ [name]) = some e := (Entry.get?_concat hget name).trans hthere
    have hlast : t.leads (way ++ [name]) = go t.root.look place name := by
      rw [Tree.leads] at hleads
      rw [Tree.leads, List.foldlM_append, hleads]
      show [name].foldlM (go t.root.look) place = _
      rw [List.foldlM_cons]
      cases go t.root.look place name <;> rfl
    by_cases hshort : name.utf8ByteSize ≤ Tree.nameLimit
    · left
      have hsome : (t.root.look (place ++ [name])).isSome = true := by
        rw [Entry.look, hbelow]
        rfl
      rw [go_folder hfolder ⟨hname.notHere, hname.notUp, hshort⟩, if_pos hsome] at hlast
      exact find_eq_ok hway' hlast hbelow
    · right
      refine find_eq_error hway' (hlast.trans ?_)
      simp only [go, hfolder, hname.notHere, hname.notUp, Nat.not_le.1 hshort, Bool.false_eq_true, if_false,
        if_true]

/-! ## What operations leave as it is -/

/-- A place in a folder where no folder stands. -/
structure Room (t : Tree) (place : Place) : Prop where
  ne_nil : place ≠ []
  parent : t.root.look place.dropLast = some .folder
  free : t.root.look place ≠ some .folder

/-- A file that is put into some room, or taken from there, displaces no folder. -/
theorem Room.look_set (h : Room t place) (new : Option Entry)
    (hnew : ∀ first rest, new.bind (·.get? (first :: rest)) = none)
    (hfolder : t.root.look other = some .folder) : (t.set new place).root.look other = some .folder := by
  have hne : other ≠ place := by
    rintro rfl
    exact h.free hfolder
  refine (t.root.look_set_leaf h.ne_nil h.parent hnew h.free other).trans ?_
  rw [if_neg hne, hfolder]

/-- Where a file stands there is room, unless the file is all there is. -/
theorem room_of_file {data : ByteArray} (hget : t.root.get? place = some (.file data))
    (hfolder : t.root.look other = some .folder) : Room t place := by
  have hfile := Entry.look_eq_file_iff.2 hget
  have hne : place ≠ [] := by
    rintro rfl
    have htop := Entry.look_folder_of_around hfolder List.nil_prefix
    rw [hfile] at htop
    cases htop
  refine ⟨hne, ?_, ?_⟩
  · have hthere : t.root.look (place.dropLast ++ [place.getLast hne]) ≠ none := by
      rw [List.dropLast_concat_getLast, hfile]
      exact Option.some_ne_none _
    exact Entry.look_folder_of_below hthere (List.cons_ne_nil _ _)
  · rw [hfile]
    rintro ⟨⟩

theorem Aims.room (h : Aims t way place old) (hold : ∀ inside, old ≠ some (.folder inside))
    (hfolder : t.root.look other = some .folder) : Room t place := by
  cases h with
  | @there way place e hleads hget =>
    cases e with
    | folder inside => exact absurd rfl (hold inside)
    | file data => exact room_of_file hget hfolder
  | free hleads hparent hnone hname =>
    refine ⟨List.concat_ne_nil _ _, ?_, ?_⟩
    · rw [List.dropLast_concat]
      exact hparent
    · rw [hnone]
      rintro ⟨⟩

theorem Room.after_remove {source : Place} (hsource : Room t source) (h : Room t place) :
    Room (t.set none source) place := by
  have hlook := t.root.look_set_leaf hsource.ne_nil hsource.parent
    (fun _ _ => rfl : ∀ first rest, (none : Option Entry).bind (·.get? (first :: rest)) = none) hsource.free
  refine ⟨h.ne_nil, hsource.look_set none (fun _ _ => rfl) h.parent, ?_⟩
  show (t.root.set none source).look place ≠ _
  rw [hlook]
  by_cases hsame : place = source
  · rw [if_pos hsame]
    rintro ⟨⟩
  · rw [if_neg hsame]
    exact h.free

/-- How an operation may change a tree. -/
inductive Changes (t : Tree) : Operation → Tree → Prop where
  | nothing (o : Operation) : Changes t o t
  | made {path : Path} {place : Place} (haim : t.aim path = .ok (place, none)) :
    Changes t (.makeFolder path) (t.set (some (.folder [])) place)
  | written {path : Path} {place : Place} {old : Option Entry} (haim : t.aim path = .ok (place, old))
    (hold : ∀ inside, old ≠ some (.folder inside)) (data : ByteArray) :
    Changes t (.write path data) (t.set (some (.file data)) place)
  | removed {path : Path} {place : Place} {data : ByteArray} (hfind : t.find path = .ok (place, .file data)) :
    Changes t (.remove path) (t.set none place)
  | renamed {source target : Path} {place new : Place} {data : ByteArray} {old : Option Entry}
    (hfind : t.find source = .ok (place, .file data)) (haim : t.aim target = .ok (new, old))
    (hold : ∀ inside, old ≠ some (.folder inside)) :
    Changes t (.rename source target) ((t.set none place).set (some (.file data)) new)

theorem changes_of_perform (h : Tree.perform o t = (answer, t')) : Changes t o t' := by
  cases o with
  | makeFolder path =>
    simp only [Tree.perform] at h
    split at h
    · next haim =>
      cases h
      exact .made haim
    · cases h
      exact .nothing _
    · cases h
      exact .nothing _
  | isFolder path =>
    simp only [Tree.perform] at h
    split at h <;> (cases h; exact .nothing _)
  | read path =>
    simp only [Tree.perform] at h
    split at h <;> (cases h; exact .nothing _)
  | names path =>
    simp only [Tree.perform] at h
    split at h <;> (cases h; exact .nothing _)
  | write path data =>
    simp only [Tree.perform] at h
    split at h
    · cases h
      exact .nothing _
    · next hfree haim =>
      cases h
      exact .written haim (fun inside hold => hfree inside hold) data
    · cases h
      exact .nothing _
  | remove path =>
    simp only [Tree.perform] at h
    split at h
    · next hfind =>
      cases h
      exact .removed hfind
    · cases h
      exact .nothing _
    · cases h
      exact .nothing _
  | rename source target =>
    simp only [Tree.perform] at h
    split at h
    · cases h
      exact .nothing _
    · cases h
      exact .nothing _
    · next place file new old hfile hfree hfind haim =>
      cases h
      cases file with
      | folder inside => exact (hfile inside rfl).elim
      | file data => exact .renamed hfind haim fun inside hold => hfree inside hold
    · cases h
      exact .nothing _
    · cases h
      exact .nothing _

/-- No operation takes a folder away. -/
theorem Changes.keeps_folders (h : Changes t o t') (hfolder : t.root.look other = some .folder) :
    t'.root.look other = some .folder := by
  cases h with
  | nothing => exact hfolder
  | made haim =>
    obtain ⟨way, -, haims⟩ := aims_of_aim haim
    refine (haims.room (fun inside hold => ?_) hfolder).look_set _ (fun _ _ => rfl) hfolder
    cases hold
  | written haim hold data =>
    obtain ⟨way, -, haims⟩ := aims_of_aim haim
    exact (haims.room hold hfolder).look_set _ (fun _ _ => rfl) hfolder
  | removed hfind =>
    obtain ⟨way, -, -, hget⟩ := leads_of_find hfind
    exact (room_of_file hget hfolder).look_set none (fun _ _ => rfl) hfolder
  | renamed hfind haim hold =>
    obtain ⟨way, -, -, hget⟩ := leads_of_find hfind
    obtain ⟨way', -, haims⟩ := aims_of_aim haim
    have hsource := room_of_file hget hfolder
    have htarget := haims.room hold hfolder
    refine (hsource.after_remove htarget).look_set _ (fun _ _ => rfl) ?_
    exact hsource.look_set none (fun _ _ => rfl) hfolder

/-- Operations along paths that stay below a place leave what is elsewhere as it is. -/
theorem Changes.look_outside (h : Changes t o t') (hstays : ∀ path ∈ o.paths, Stays t place path)
    (hother : ¬ place <+: other) : t'.root.look other = t.root.look other := by
  have hset : ∀ (t : Tree) (new : Option Entry) {changed : Place}, place <+: changed →
      (t.set new changed).root.look other = t.root.look other := fun t new _ hbelow =>
    Entry.look_set_of_not_below (fun h => hother (hbelow.trans h)) t.root new
  cases h with
  | nothing => rfl
  | @made path _ haim => exact hset t _ ((hstays path (List.mem_singleton_self _)).aim _ _ haim)
  | @written path _ _ haim _ data => exact hset t _ ((hstays path (List.mem_singleton_self _)).aim _ _ haim)
  | @removed path _ _ hfind => exact hset t _ ((hstays path (List.mem_singleton_self _)).find _ _ hfind)
  | @renamed source target _ _ _ _ hfind haim =>
    have hsource := hstays source List.mem_cons_self
    have htarget := hstays target (List.mem_cons_of_mem _ (List.mem_singleton_self _))
    rw [hset _ _ (htarget.aim _ _ haim), hset t _ (hsource.find _ _ hfind)]

theorem Changes.start_eq (h : Changes t o t') : t'.start = t.start := by
  cases h <;> rfl

/-! ## The root -/

namespace HasRoot

theorem leads (h : HasRoot t text place) : t.leads (EmptyRoot.outset t text) = .ok place := by
  obtain ⟨inside, hfind⟩ := h
  exact EmptyRoot.leads_outset_of_find hfind

theorem look (h : HasRoot t text place) : t.root.look place = some .folder := by
  obtain ⟨inside, hfind⟩ := h
  obtain ⟨-, -, -, hget⟩ := leads_of_find hfind
  exact Entry.look_eq_folder_iff.2 ⟨inside, hget⟩

/-- Whatever is done, the root stays where it is. -/
theorem next (h : HasRoot t text place) (hchanges : Changes t o t') : HasRoot t' text place := by
  have hkeep : ∀ other, t.root.look other = some .folder → t'.root.look other = some .folder :=
    fun _ => hchanges.keeps_folders
  have hlook := h.look
  obtain ⟨inside, hfind⟩ := h
  obtain ⟨inside', hget⟩ := Entry.look_eq_folder_iff.1 (hkeep _ hlook)
  exact ⟨inside', find_mono hchanges.start_eq hkeep hfind hget⟩

/-- Names behind the path of the root that lead inwards stay below the root. -/
theorem stays_join (h : HasRoot t text place) (hnames : ∀ name ∈ names, LeadsIn name) :
    Stays t place ((Path.ofText text).join names) := by
  refine stays_of_way fun way hway => ⟨EmptyRoot.outset t text, names, ?_, h.leads, hnames⟩
  rw [steps_of_way hway, EmptyRoot.steps_join t text (head?_ne_of_leadsIn hnames)]

/-- Another way to write the root leads there. -/
theorem leads_sameFolder (h : HasRoot t text place) (hsame : (Path.ofText text).SameFolder path)
    (hway : t.way path = .ok way) : t.leads way = .ok place := by
  obtain ⟨inside, hfind⟩ := h
  obtain ⟨full, hfull, hleads, -⟩ := leads_of_find hfind
  obtain ⟨⟨heres, hnames, hheres⟩, habsolute⟩ := hsame
  have heq : full = way ++ heres := by
    unfold Tree.way at hway hfull
    split at hway
    · cases hway
    · split at hfull
      · cases hfull
      · cases hway
        cases hfull
        rw [← habsolute, hnames]
        split
        · rfl
        · rw [List.append_assoc]
  rw [heq] at hleads
  obtain ⟨next, hnext, hrest⟩ := foldlM_go_append hleads
  rw [foldlM_go_here hheres hrest]
  exact hnext

theorem stays_sameFolder (h : HasRoot t text place) (hsame : (Path.ofText text).SameFolder path) :
    Stays t place path := by
  refine stays_of_way fun way hway => ⟨way, [], (List.append_nil _).symm, h.leads_sameFolder hsame hway, ?_⟩
  rintro name ⟨⟩

/-- The root is not made, since it is there. -/
theorem makeFolder_ne_notFound (h : HasRoot t text place) (hsame : (Path.ofText text).SameFolder path)
    {answer : Except FileError Unit} (hperform : Tree.perform (.makeFolder path) t = (answer, t')) :
    answer ≠ .error .notFound := by
  rintro rfl
  cases hway : t.way path with
  | error err =>
    have haim : t.aim path = .error err := by
      simp only [Tree.aim, hway, bind, Except.bind]
    simp only [Tree.perform, haim] at hperform
    cases hperform
    unfold Tree.way at hway
    split at hway <;> cases hway
  | ok way =>
    obtain ⟨e, haim⟩ := exists_aim hway (h.leads_sameFolder hsame hway)
    simp only [Tree.perform, haim] at hperform
    cases hperform

end HasRoot

end Storefront.Files
