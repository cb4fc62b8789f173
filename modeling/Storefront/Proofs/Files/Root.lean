import Storefront.Proofs.Files.Tree

/-!
# Files below a root folder

A path leads to an empty folder, the root, and files are to be kept below it. Whatever is planted there,
the path goes on leading to the root, since it has never passed through it; and what an operation does at
the path of some names below the root is what it does at these names in the plant.
-/

namespace Storefront.Files

/-! ## Paths below a folder -/

namespace Path

variable {root names : Path}

/-- The path without a slash at its end. -/
def base (root : Path) : Path := if root.getLast? = some "" then root.dropLast else root

theorem join_eq (root names : Path) : root.join names = root.base ++ names := rfl

theorem base_cases (root : Path) : root = root.base ∨ root = root.base ++ [""] := by
  unfold base
  by_cases hlast : root.getLast? = some ""
  · right
    obtain ⟨before, rfl⟩ := List.getLast?_eq_some_iff.1 hlast
    rw [if_pos hlast, List.dropLast_concat]
  · left
    rw [if_neg hlast]

theorem size_append_le (a b : Path) : size (a ++ b) ≤ a.size + 1 + b.size := by
  induction a with
  | nil =>
    rw [List.nil_append]
    exact Nat.le_add_left _ _
  | cons name a ih =>
    cases a with
    | nil =>
      cases b with
      | nil => exact Nat.le_add_right _ _
      | cons first b => exact Nat.le_refl _
    | cons next a =>
      have hcons : ∀ rest : Path, size (name :: next :: rest) =
          name.utf8ByteSize + 1 + size (next :: rest) := fun rest => rfl
      rw [List.cons_append, List.cons_append, hcons, hcons]
      rw [List.cons_append] at ih
      omega

theorem size_le_append (a b : Path) : size a ≤ size (a ++ b) := by
  induction a with
  | nil => exact Nat.zero_le _
  | cons name a ih =>
    cases a with
    | nil =>
      cases b with
      | nil => exact Nat.le_refl _
      | cons first b => exact Nat.le_trans (Nat.le_add_right _ _) (Nat.le_add_right _ _)
    | cons next a => exact Nat.add_le_add_left ih _

theorem size_base_le (root : Path) : root.base.size ≤ root.size := by
  rcases base_cases root with h | h
  · exact Nat.le_of_eq (congrArg size h.symm)
  · have hsize : size root = size (root.base ++ [""]) := congrArg size h
    rw [hsize]
    exact size_le_append _ _

/-- A path that was written is not the one empty name. -/
theorem ofText_ne (text : String) : ofText text ≠ [""] := by
  unfold ofText
  by_cases htext : text = ""
  · rw [if_pos htext]
    exact (List.cons_ne_nil _ _).symm
  · rw [if_neg htext]
    cases hchars : text.toList with
    | nil => exact absurd (String.toList_inj.1 hchars) htext
    | cons c cs =>
      obtain ⟨first, others, hrest⟩ := List.exists_cons_of_ne_nil (Text.segments_ne_nil '/' cs)
      intro h
      rw [Text.segments, hrest] at h
      by_cases hc : c = '/'
      · rw [if_pos hc] at h
        cases h
      · rw [if_neg hc] at h
        have hnil := congrArg String.toList (List.cons.inj h).1
        simp at hnil

/-- What follows below does not make a path start elsewhere. -/
theorem isAbsolute_join (hroot : root ≠ [""]) (hnames : names.head? ≠ some "") :
    (root.join names).isAbsolute = root.isAbsolute := by
  rw [join_eq]
  cases hbase : root.base with
  | nil =>
    rcases base_cases root with h | h
    · rw [h, hbase, List.nil_append]
      simp [isAbsolute, hnames]
    · rw [hbase] at h
      exact absurd h hroot
  | cons name base =>
    rcases base_cases root with h | h
    · rw [h, hbase]
      rfl
    · rw [h, hbase]
      rfl

end Path

/-! ## The root -/

/-- The greatest number of bytes in the path of a root, so that everything below it can be reached. -/
def rootLimit : Nat := 3800

/-- The number of bytes that this leaves for what follows the path of the root and a slash. -/
def belowLimit : Nat := Tree.pathLimit - rootLimit - 1

/-- A path that is not too long leads to an empty folder, in a tree whose names stand in their order. -/
structure EmptyRoot (t : Tree) (text : String) (place : Place) : Prop where
  tidy : t.root.Tidy
  found : t.find (Path.ofText text) = .ok (place, .folder [])
  short : (Path.ofText text).size ≤ rootLimit

/-- Names that may be followed below a root. -/
structure Fits (names : Path) : Prop where
  plain : ∀ name ∈ names, IsPlain name
  short : names.size ≤ belowLimit

/-- A path leads to an empty folder, in a tree whose names stand in their order. -/
structure EmptyFolder (t : Tree) (text : String) (place : Place) : Prop where
  tidy : t.root.Tidy
  found : t.find (Path.ofText text) = .ok (place, .folder [])

/-- Names that may be followed below a path. -/
structure FitsBelow (text : String) (names : Path) : Prop where
  plain : ∀ name ∈ names, IsPlain name
  short : ((Path.ofText text).join names).size ≤ Tree.pathLimit

/-- A tree with an entry planted at a place. -/
def Tree.plant (t : Tree) (place : Place) (e : Entry) : Tree := t.set (some e) place

variable {t : Tree} {text : String} {place : Place} {e : Entry} {names : Path} {name : String}
  {data : ByteArray}

/-! ## Reaching the root -/

/-- A place that is not below another one; it may be that place itself. -/
def Outside (place other : Place) : Prop := place <+: other → other = place

theorem look_plant_of_outside (hroot : t.root.look place = some .folder) (he : e.look [] = some .folder)
    {other : Place} (h : Outside place other) : (t.plant place e).root.look other = t.root.look other := by
  by_cases hpart : place <+: other
  · obtain ⟨inside, hinside⟩ := Entry.look_eq_folder_iff.1 hroot
    have hthere : (t.root.get? place).isSome = true := by
      rw [hinside]
      rfl
    have hget := Entry.get?_set_of_isSome hthere e []
    rw [List.append_nil] at hget
    rw [h hpart, hroot, ← he]
    exact congrArg (Option.map Entry.kind) hget
  · exact Entry.look_set_of_not_below hpart _ _

/-- A step does not lead below an empty folder, since nothing lies there. -/
theorem Outside.goes (hroot : t.root.get? place = some (.folder [])) {other next : Place}
    (h : Outside place other) (hgoes : Goes t.root.look other name next) : Outside place next := by
  intro hpart
  cases hgoes with
  | here hhere => exact h hpart
  | up hup =>
    have hsame := h (hpart.trans (List.dropLast_prefix _))
    have hlength := hpart.length_le
    rw [hsame, List.length_dropLast] at hlength
    have hnil : place = [] := List.eq_nil_of_length_eq_zero (by omega)
    rw [hsame, hnil]
    rfl
  | inwards hname hthere =>
    rcases List.prefix_concat_iff.1 hpart with heq | hbelow
    · exact heq.symm
    · rw [h hbelow, Entry.look, Entry.get?_append, hroot] at hthere
      cases hthere

/-- A step that does not start below an empty folder leads to the same place whatever is planted there. -/
theorem go_plant (hroot : t.root.get? place = some (.folder [])) (he : e.look [] = some .folder)
    {other next : Place} (hother : Outside place other) (h : go t.root.look other name = .ok next) :
    Outside place next ∧ go (t.plant place e).root.look other name = .ok next := by
  have hplace : t.root.look place = some .folder := Entry.look_eq_folder_iff.2 ⟨[], hroot⟩
  obtain ⟨hfolder, hgoes⟩ := goes_of_go h
  have hnext := hother.goes hroot hgoes
  have hsame : Goes (t.plant place e).root.look other name next := by
    cases hgoes with
    | here hhere => exact .here hhere
    | up hup => exact .up hup
    | inwards hname hthere =>
      refine .inwards hname ?_
      rwa [look_plant_of_outside hplace he hnext]
  refine ⟨hnext, hsame.go_eq ?_⟩
  rw [look_plant_of_outside hplace he hother, hfolder]

/-- A walk that has not gone below an empty folder goes the same way whatever is planted there. -/
theorem foldlM_go_plant (hroot : t.root.get? place = some (.folder [])) (he : e.look [] = some .folder)
    {other target : Place} (hother : Outside place other)
    (h : names.foldlM (go t.root.look) other = .ok target) :
    names.foldlM (go (t.plant place e).root.look) other = .ok target := by
  induction names generalizing other with
  | nil => exact h
  | cons name names ih =>
    rw [List.foldlM_cons] at h ⊢
    cases hgo : go t.root.look other name with
    | error err =>
      rw [hgo] at h
      cases h
    | ok next =>
      rw [hgo] at h
      obtain ⟨hnext, hsame⟩ := go_plant hroot he hother hgo
      rw [hsame]
      exact ih hnext h

theorem EmptyRoot.emptyFolder (h : EmptyRoot t text place) : EmptyFolder t text place := ⟨h.tidy, h.found⟩

/-- Below a root there is room for all names that fit. -/
theorem Fits.below (hfits : Fits names) (h : EmptyRoot t text place) : FitsBelow text names := by
  refine ⟨hfits.plain, ?_⟩
  have hjoin := Path.size_append_le (Path.ofText text).base names
  have hbase := Path.size_base_le (Path.ofText text)
  have hroot := h.short
  have hbelow := hfits.short
  rw [Path.join_eq]
  unfold rootLimit at hroot
  unfold belowLimit rootLimit Tree.pathLimit at hbelow
  unfold Tree.pathLimit
  omega

/-- The names to be walked for a path from the outermost folder on. -/
def Tree.steps (t : Tree) (path : Path) : Path := if path.isAbsolute then path else t.start ++ path

theorem way_eq (t : Tree) (path : Path) :
    t.way path = if Tree.pathLimit < path.size then .error .nameTooLong else .ok (t.steps path) := rfl

theorem steps_of_way (h : t.way path = .ok names) : names = t.steps path := by
  rw [way_eq] at h
  split at h
  · cases h
  · exact (Except.ok.inj h).symm

namespace EmptyRoot

/-- The names that lead from the outermost folder to the root. -/
def outset (t : Tree) (text : String) : Path :=
  if (Path.ofText text).isAbsolute then (Path.ofText text).base else t.start ++ (Path.ofText text).base

/-- The names of the path itself are the same, but for a slash at its end. -/
theorem steps_root (t : Tree) (text : String) :
    t.steps (Path.ofText text) = outset t text ∨ t.steps (Path.ofText text) = outset t text ++ [""] := by
  unfold Tree.steps outset
  rcases Path.base_cases (Path.ofText text) with hbase | hbase
  · left
    rw [← hbase]
  · right
    by_cases habsolute : (Path.ofText text).isAbsolute = true
    · rw [if_pos habsolute, if_pos habsolute]
      exact hbase
    · rw [if_neg habsolute, if_neg habsolute, List.append_assoc, ← hbase]

/-- More names go on behind them. -/
theorem steps_join (t : Tree) (text : String) {names : Path} (hhead : names.head? ≠ some "") :
    t.steps ((Path.ofText text).join names) = outset t text ++ names := by
  rw [Tree.steps, Path.isAbsolute_join (Path.ofText_ne text) hhead, Path.join_eq]
  unfold outset
  split
  · rfl
  · rw [List.append_assoc]

/-- They lead to what is found at the path of the root. -/
theorem leads_outset_of_find (h : t.find (Path.ofText text) = .ok (place, e)) :
    t.leads (outset t text) = .ok place := by
  obtain ⟨names, hway, hleads, -⟩ := leads_of_find h
  obtain rfl := steps_of_way hway
  rcases steps_root t text with hsteps | hsteps
  · rwa [hsteps] at hleads
  · -- the empty name behind the last slash stays where it is
    rw [hsteps] at hleads
    obtain ⟨other, hbefore, hlast⟩ := foldlM_go_append hleads
    have hhere : ∀ name ∈ [""], Path.isHere name = true := by decide
    rw [foldlM_go_here hhere hlast]
    exact hbefore

end EmptyRoot

namespace FitsBelow

theorem head?_ne (h : FitsBelow text names) : names.head? ≠ some "" := by
  cases names with
  | nil => exact (Option.some_ne_none _).symm
  | cons name names =>
    intro hhead
    have hname := (h.plain name List.mem_cons_self).notHere
    rw [Option.some.inj hhead] at hname
    cases hname

theorem of_append {rest : Path} (h : FitsBelow text (names ++ rest)) : FitsBelow text names := by
  refine ⟨fun name hname => h.plain name (List.mem_append_left _ hname), ?_⟩
  have hshort := h.short
  rw [Path.join_eq, ← List.append_assoc] at hshort
  exact Nat.le_trans (Path.size_le_append _ rest) hshort

/-- Such names are followed from the root on, whatever is planted there. -/
theorem way_join (h : FitsBelow text names) :
    (t.plant place e).way ((Path.ofText text).join names) = .ok (EmptyRoot.outset t text ++ names) := by
  rw [way_eq, if_neg (Nat.not_lt.2 h.short), EmptyRoot.steps_join _ text h.head?_ne]
  rfl

end FitsBelow

namespace EmptyFolder

open EmptyRoot (outset leads_outset_of_find)

theorem get?_root (h : EmptyFolder t text place) : t.root.get? place = some (.folder []) := by
  obtain ⟨-, -, -, hget⟩ := leads_of_find h.found
  exact hget

theorem plant_empty (h : EmptyFolder t text place) : t.plant place (.folder []) = t := by
  unfold Tree.plant Tree.set
  rw [h.tidy.set_get? h.get?_root]

theorem leads_outset (h : EmptyFolder t text place) : t.leads (outset t text) = .ok place :=
  leads_outset_of_find h.found

theorem leads_append (h : EmptyFolder t text place) (he : e.look [] = some .folder) (names : Path) :
    (t.plant place e).leads (outset t text ++ names) =
      names.foldlM (go (t.plant place e).root.look) place := by
  have hreach : (outset t text).foldlM (go (t.plant place e).root.look) [] = .ok place := by
    refine foldlM_go_plant h.get?_root he ?_ h.leads_outset
    intro hpart
    exact (List.prefix_nil.1 hpart).symm
  unfold Tree.leads
  rw [List.foldlM_append, hreach]
  rfl

theorem get?_plant (h : EmptyFolder t text place) (names : Place) :
    (t.plant place e).root.get? (place ++ names) = e.get? names := by
  refine Entry.get?_set_of_isSome ?_ e names
  rw [h.get?_root]
  rfl

theorem look_plant (h : EmptyFolder t text place) (names : Place) :
    (t.plant place e).root.look (place ++ names) = e.look names :=
  congrArg (Option.map Entry.kind) (h.get?_plant names)

theorem plant_set (h : EmptyFolder t text place) (hnames : names ≠ []) (new : Option Entry) :
    (t.plant place e).set new (place ++ names) = t.plant place (e.set new names) := by
  have hthere : (t.root.get? place).isSome = true := by
    rw [h.get?_root]
    rfl
  unfold Tree.plant Tree.set
  simp only [Entry.set_set_append hthere hnames]

end EmptyFolder

end Storefront.Files
