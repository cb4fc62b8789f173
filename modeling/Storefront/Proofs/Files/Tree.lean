import Storefront.Files.Tree
import Storefront.Proofs.Files.Entry

/-!
# Walking through what is seen

A walk along a path is told by the places it comes to. Where it goes from there depends on what is seen at
the place and right below it, and on nothing else, so that two trees in which the same is seen are walked
alike.
-/

namespace Storefront.Files

/-- Where a step from a place leads, given what is seen at each place. -/
def go (look : Place → Option Kind) (place : Place) (name : String) : Except FileError Place :=
  match look place with
  | none => .error .notFound
  | some (.file _) => .error .notFolder
  | some .folder =>
    if Path.isHere name then .ok place
    else if name = ".." then .ok place.dropLast
    else if Tree.nameLimit < name.utf8ByteSize then .error .nameTooLong
    else if (look (place ++ [name])).isSome then .ok (place ++ [name])
    else .error .notFound

/-- A name that leads to what lies in a folder and that is not too long. -/
structure IsPlain (name : String) : Prop where
  notHere : Path.isHere name = false
  notUp : name ≠ ".."
  short : name.utf8ByteSize ≤ Tree.nameLimit

variable {t : Tree} {trail : Trail} {path names rest : Path} {place : Place} {name : String} {e : Entry}
  {look : Place → Option Kind}

theorem go_folder (h : look place = some .folder) (hname : IsPlain name) :
    go look place name =
      if (look (place ++ [name])).isSome then .ok (place ++ [name]) else .error .notFound := by
  have hshort : ¬ Tree.nameLimit < name.utf8ByteSize := Nat.not_lt.2 hname.short
  simp only [go, h, hname.notHere, hname.notUp, hshort, Bool.false_eq_true, if_false]

/-- Where a step leads that leads somewhere. -/
inductive Goes (look : Place → Option Kind) (place : Place) (name : String) : Place → Prop where
  | here (hhere : Path.isHere name = true) : Goes look place name place
  | up (hup : name = "..") : Goes look place name place.dropLast
  | inwards (hname : IsPlain name) (hthere : (look (place ++ [name])).isSome = true) :
    Goes look place name (place ++ [name])

theorem goes_of_go {next : Place} (h : go look place name = .ok next) :
    look place = some .folder ∧ Goes look place name next := by
  unfold go at h
  cases hkind : look place with
  | none =>
    rw [hkind] at h
    cases h
  | some kind =>
    rw [hkind] at h
    cases kind with
    | file data => cases h
    | folder =>
      refine ⟨rfl, ?_⟩
      simp only at h
      by_cases hhere : Path.isHere name = true
      · rw [if_pos hhere] at h
        cases h
        exact .here hhere
      · rw [if_neg hhere] at h
        by_cases hup : name = ".."
        · rw [if_pos hup] at h
          cases h
          exact .up hup
        · rw [if_neg hup] at h
          by_cases hlong : Tree.nameLimit < name.utf8ByteSize
          · rw [if_pos hlong] at h
            cases h
          · rw [if_neg hlong] at h
            by_cases hthere : (look (place ++ [name])).isSome = true
            · rw [if_pos hthere] at h
              cases h
              exact .inwards ⟨eq_false_of_ne_true hhere, hup, Nat.not_lt.1 hlong⟩ hthere
            · rw [if_neg hthere] at h
              cases h

theorem Goes.go_eq {next : Place} (h : Goes look place name next) (hfolder : look place = some .folder) :
    go look place name = .ok next := by
  cases h with
  | here hhere => simp only [go, hfolder, hhere, if_true]
  | up hup =>
    have hhere : Path.isHere ".." = false := by decide
    simp only [go, hfolder, hup, hhere, Bool.false_eq_true, if_false, if_true]
  | inwards hname hthere => rw [go_folder hfolder hname, if_pos hthere]

/-! ## Trails -/

/-- What a trail has come to stands in the tree where the trail says. -/
def Trail.Valid (t : Tree) : Trail → Prop
  | [] => True
  | (name, e) :: trail => t.root.get? (Trail.place trail ++ [name]) = some e ∧ Trail.Valid t trail

theorem Trail.place_cons (name : String) (e : Entry) (trail : Trail) :
    Trail.place ((name, e) :: trail) = trail.place ++ [name] := by
  simp [Trail.place]

theorem Trail.place_drop_one (trail : Trail) : Trail.place (trail.drop 1) = trail.place.dropLast := by
  cases trail with
  | nil => rfl
  | cons step trail =>
    obtain ⟨name, e⟩ := step
    rw [Trail.place_cons, List.dropLast_concat]
    rfl

theorem Trail.Valid.drop_one (h : trail.Valid t) : Trail.Valid t (trail.drop 1) := by
  cases trail with
  | nil => exact h
  | cons step trail => exact h.2

theorem Trail.Valid.get?_place (h : trail.Valid t) : t.root.get? trail.place = some (t.reached trail) := by
  cases trail with
  | nil => exact Entry.get?_nil _
  | cons step trail =>
    obtain ⟨name, e⟩ := step
    rw [Trail.place_cons]
    exact h.1

/-- A walk and the places it comes to go together: they end at the same place or fail alike. -/
def Follows (t : Tree) : Except FileError Trail → Except FileError Place → Prop
  | .ok trail, .ok place => trail.Valid t ∧ trail.place = place
  | .error e, .error e' => e = e'
  | _, _ => False

namespace Follows

variable {walked : Except FileError Trail} {led : Except FileError Place} {err : FileError}

theorem of_ok (h : Follows t (.ok trail) led) : trail.Valid t ∧ led = .ok trail.place := by
  cases led with
  | error err => exact h.elim
  | ok place => exact ⟨h.1, congrArg Except.ok h.2.symm⟩

theorem of_error (h : Follows t (.error err) led) : led = .error err := by
  cases led with
  | error err' => exact congrArg Except.error h.symm
  | ok place => exact h.elim

theorem exists_trail (h : Follows t walked (.ok place)) :
    ∃ trail, walked = .ok trail ∧ trail.Valid t ∧ trail.place = place := by
  cases walked with
  | error err => exact h.elim
  | ok trail => exact ⟨trail, rfl, h⟩

theorem eq_error (h : Follows t walked (.error err)) : walked = .error err := by
  cases walked with
  | error err' => exact congrArg Except.error h
  | ok trail => exact h.elim

end Follows

theorem step_follows (h : trail.Valid t) (name : String) :
    Follows t (t.step trail name) (go t.root.look trail.place name) := by
  have hget := h.get?_place
  unfold Tree.step go
  cases hreached : t.reached trail with
  | file data =>
    have hlook : t.root.look trail.place = some (.file data) := by
      rw [Entry.look_eq_file_iff, hget, hreached]
    rw [hlook]
    exact rfl
  | folder inside =>
    have hlook : t.root.look trail.place = some .folder := by
      rw [Entry.look_eq_folder_iff, hget, hreached]
      exact ⟨inside, rfl⟩
    have hbelow : t.root.get? (trail.place ++ [name]) = inside.lookup name := by
      rw [hreached] at hget
      exact Entry.get?_concat hget name
    rw [hlook]
    by_cases hhere : Path.isHere name = true
    · simp only [if_pos hhere]
      exact ⟨h, rfl⟩
    · by_cases hup : name = ".."
      · simp only [if_neg hhere, if_pos hup]
        exact ⟨h.drop_one, Trail.place_drop_one trail⟩
      · by_cases hlong : Tree.nameLimit < name.utf8ByteSize
        · simp only [if_neg hhere, if_neg hup, if_pos hlong]
          exact rfl
        · simp only [if_neg hhere, if_neg hup, if_neg hlong]
          rw [Entry.look, hbelow]
          cases hlookup : inside.lookup name with
          | none => exact rfl
          | some e => exact ⟨⟨hbelow.trans hlookup, h⟩, Trail.place_cons name e trail⟩

theorem walk_follows (h : trail.Valid t) (names : Path) :
    Follows t (names.foldlM t.step trail) (names.foldlM (go t.root.look) trail.place) := by
  induction names generalizing trail with
  | nil => exact ⟨h, rfl⟩
  | cons name names ih =>
    have hstep := step_follows h name
    rw [List.foldlM_cons, List.foldlM_cons]
    cases hplace : go t.root.look trail.place name with
    | error err =>
      rw [hplace] at hstep
      rw [hstep.eq_error]
      exact rfl
    | ok place =>
      rw [hplace] at hstep
      obtain ⟨next, hnext, hvalid, rfl⟩ := hstep.exists_trail
      rw [hnext]
      exact ih hvalid

/-! ## Finding and aiming -/

/-- Where a walk from the outermost folder leads. -/
def Tree.leads (t : Tree) (names : Path) : Except FileError Place := names.foldlM (go t.root.look) []

theorem walk_leads (t : Tree) (names : Path) : Follows t (t.walk names) (t.leads names) := by
  have hvalid : Trail.Valid t [] := trivial
  exact walk_follows hvalid names

theorem walk_eq_ok (h : t.leads names = .ok place) :
    ∃ trail, t.walk names = .ok trail ∧ trail.Valid t ∧ trail.place = place := by
  have hfollows := walk_leads t names
  rw [h] at hfollows
  exact hfollows.exists_trail

theorem walk_eq_error {err : FileError} (h : t.leads names = .error err) : t.walk names = .error err := by
  have hfollows := walk_leads t names
  rw [h] at hfollows
  exact hfollows.eq_error

theorem find_eq_ok (hway : t.way path = .ok names) (hleads : t.leads names = .ok place)
    (hget : t.root.get? place = some e) : t.find path = .ok (place, e) := by
  obtain ⟨trail, hwalk, hvalid, rfl⟩ := walk_eq_ok hleads
  have hreached : t.reached trail = e := Option.some.inj (hvalid.get?_place.symm.trans hget)
  simp only [Tree.find, hway, hwalk, bind, Except.bind, pure, Except.pure, hreached]

theorem find_eq_error {err : FileError} (hway : t.way path = .ok names)
    (hleads : t.leads names = .error err) : t.find path = .error err := by
  simp only [Tree.find, hway, walk_eq_error hleads, bind, Except.bind]

/-- What is found stands at the place to which the path leads. -/
theorem leads_of_find (h : t.find path = .ok (place, e)) :
    ∃ names, t.way path = .ok names ∧ t.leads names = .ok place ∧ t.root.get? place = some e := by
  unfold Tree.find at h
  cases hway : t.way path with
  | error err =>
    rw [hway] at h
    cases h
  | ok names =>
    rw [hway] at h
    refine ⟨names, rfl, ?_⟩
    cases hleads : t.leads names with
    | error err =>
      simp only [walk_eq_error hleads, bind, Except.bind] at h
      cases h
    | ok place' =>
      obtain ⟨trail, hwalk, hvalid, rfl⟩ := walk_eq_ok hleads
      simp only [hwalk, bind, Except.bind, pure, Except.pure] at h
      cases h
      exact ⟨rfl, hvalid.get?_place⟩

/-- A name in a folder is aimed at whether something stands there or not. -/
theorem aim_eq_ok (hway : t.way path = .ok (names ++ [name])) (hleads : t.leads names = .ok place)
    (hfolder : t.root.look place = some .folder) (hname : IsPlain name) :
    t.aim path = .ok (place ++ [name], t.root.get? (place ++ [name])) := by
  obtain ⟨trail, hwalk, hvalid, rfl⟩ := walk_eq_ok hleads
  have hstep := step_follows hvalid name
  rw [go_folder hfolder hname] at hstep
  simp only [Tree.aim, hway, bind, Except.bind, List.dropLast_concat, hwalk, List.getLast?_concat,
    pure, Except.pure]
  cases hget : t.root.get? (trail.place ++ [name]) with
  | none =>
    rw [Entry.look_eq_none_iff.2 hget] at hstep
    rw [hstep.eq_error]
  | some e =>
    have hsome : (t.root.look (trail.place ++ [name])).isSome = true := by
      rw [Entry.look, hget]
      rfl
    rw [if_pos hsome] at hstep
    obtain ⟨next, hnext, hvalid', hplace⟩ := hstep.exists_trail
    have hreached : t.reached next = e := by
      have hnext' := hvalid'.get?_place
      rw [hplace, hget] at hnext'
      exact (Option.some.inj hnext').symm
    simp only [hnext, hreached, hplace]

theorem aim_eq_error {err : FileError} (hway : t.way path = .ok (names ++ [name]))
    (hleads : t.leads names = .error err) : t.aim path = .error err := by
  simp only [Tree.aim, hway, bind, Except.bind, List.dropLast_concat, walk_eq_error hleads]

/-! ## Walks that come somewhere -/

/-- A walk that comes somewhere has taken each step. -/
theorem foldlM_go_cons {target : Place} (h : (name :: names).foldlM (go look) place = .ok target) :
    ∃ next, look place = some .folder ∧ Goes look place name next ∧
      names.foldlM (go look) next = .ok target := by
  rw [List.foldlM_cons] at h
  cases hgo : go look place name with
  | error err =>
    rw [hgo] at h
    cases h
  | ok next =>
    rw [hgo] at h
    obtain ⟨hfolder, hgoes⟩ := goes_of_go hgo
    exact ⟨next, hfolder, hgoes, h⟩

theorem foldlM_go_append {target : Place} (h : (names ++ rest).foldlM (go look) place = .ok target) :
    ∃ next, names.foldlM (go look) place = .ok next ∧ rest.foldlM (go look) next = .ok target := by
  rw [List.foldlM_append] at h
  cases hnames : names.foldlM (go look) place with
  | error err =>
    rw [hnames] at h
    cases h
  | ok next =>
    rw [hnames] at h
    exact ⟨next, rfl, h⟩

/-- Names that stand for the folder that has been reached lead nowhere else. -/
theorem foldlM_go_here {target : Place} (hheres : ∀ name ∈ names, Path.isHere name = true)
    (h : names.foldlM (go look) place = .ok target) : target = place := by
  induction names generalizing place with
  | nil => exact (Except.ok.inj h).symm
  | cons name names ih =>
    obtain ⟨next, -, hgoes, hrest⟩ := foldlM_go_cons h
    have hhere := hheres name List.mem_cons_self
    have hnext : next = place := by
      cases hgoes with
      | here => rfl
      | up hup =>
        rw [hup] at hhere
        cases hhere
      | inwards hname =>
        rw [hname.notHere] at hhere
        cases hhere
    rw [ih (fun n hn => hheres n (List.mem_cons_of_mem _ hn)) hrest, hnext]

/-! ## Plain names -/

/-- Plain names lead to whatever stands where they point. -/
theorem foldlM_go_some {root : Entry} (hplain : ∀ name ∈ names, IsPlain name)
    (h : root.look (place ++ names) ≠ none) :
    names.foldlM (go root.look) place = .ok (place ++ names) := by
  induction names generalizing place with
  | nil =>
    rw [List.append_nil]
    rfl
  | cons name names ih =>
    have hfolder : root.look place = some .folder :=
      Entry.look_folder_of_below h (List.cons_ne_nil _ _)
    rw [List.append_cons] at h ⊢
    have hsome : (root.look (place ++ [name])).isSome = true := by
      by_cases hnames : names = []
      · rw [hnames, List.append_nil] at h
        exact Option.isSome_iff_ne_none.2 h
      · rw [Entry.look_folder_of_below h hnames]
        rfl
    rw [List.foldlM_cons, go_folder hfolder (hplain name List.mem_cons_self), if_pos hsome]
    exact ih (fun n hn => hplain n (List.mem_cons_of_mem _ hn)) h

/-- Plain names that lead through folders to nothing lead to nothing. -/
theorem foldlM_go_none {root : Entry} (hplain : ∀ name ∈ names, IsPlain name)
    (hfolder : root.look place = some .folder) (h : root.look (place ++ names) = none)
    (hfiles : ∀ before, before <+: names → ∀ data, root.look (place ++ before) ≠ some (.file data)) :
    names.foldlM (go root.look) place = .error .notFound := by
  induction names generalizing place with
  | nil =>
    rw [List.append_nil, hfolder] at h
    cases h
  | cons name names ih =>
    rw [List.append_cons] at h
    rw [List.foldlM_cons, go_folder hfolder (hplain name List.mem_cons_self)]
    cases hnext : root.look (place ++ [name]) with
    | none => rfl
    | some kind =>
      cases kind with
      | file data =>
        exact absurd hnext (hfiles [name] (List.cons_prefix_cons.2 ⟨rfl, List.nil_prefix⟩) data)
      | folder =>
        refine ih (fun n hn => hplain n (List.mem_cons_of_mem _ hn)) hnext h ?_
        intro before hbefore data
        rw [← List.append_cons]
        exact hfiles (name :: before) (List.cons_prefix_cons.2 ⟨rfl, hbefore⟩) data

end Storefront.Files
