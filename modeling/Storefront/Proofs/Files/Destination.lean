import Storefront.Proofs.Files.Inside
import Storefront.Proofs.Files.Below

/-!
# Where paths lead

There are no links, so where a path leads is told by its names alone: a path leads to its destination, or it
does not lead anywhere because something on the way is missing, is a file, or has a name that is too long. What
an operation does it does at the destinations of its paths.
-/

namespace Storefront.Files

open EmptyRoot (outset)

/-- Where a name leads from a place if it leads anywhere. -/
def onward (place : Place) (name : String) : Place :=
  if Path.isHere name then place else if name = ".." then place.dropLast else place ++ [name]

/-- Where a path leads if nothing is in its way. -/
def Tree.destination (t : Tree) (path : Path) : Place := (t.steps path).foldl onward []

variable {t t' : Tree} {place other next : Place} {path names way : Path} {name text : String} {e : Entry}
  {old : Option Entry} {data : ByteArray} {look : Place → Option Kind}

theorem onward_inwards (h : LeadsIn name) : onward place name = place ++ [name] := by
  rw [onward, h.notHere, if_neg Bool.false_ne_true, if_neg h.notUp]

theorem Goes.eq_onward (h : Goes look place name next) : next = onward place name := by
  cases h with
  | here hhere => rw [onward, if_pos hhere]
  | up hup =>
    have hhere : ¬ Path.isHere ".." = true := by decide
    rw [hup, onward, if_neg hhere, if_pos rfl]
  | inwards hname => rw [onward_inwards ⟨hname.notHere, hname.notUp⟩]

theorem eq_foldl_onward (h : names.foldlM (go look) place = .ok other) : other = names.foldl onward place := by
  induction names generalizing place with
  | nil => exact (Except.ok.inj h).symm
  | cons name names ih =>
    obtain ⟨next, -, hgoes, hrest⟩ := foldlM_go_cons h
    rw [List.foldl_cons, ← hgoes.eq_onward]
    exact ih hrest

theorem foldl_onward_inwards (h : ∀ name ∈ names, LeadsIn name) : names.foldl onward place = place ++ names := by
  induction names generalizing place with
  | nil => exact (List.append_nil _).symm
  | cons name names ih =>
    rw [List.foldl_cons, onward_inwards (h name List.mem_cons_self),
      ih fun n hn => h n (List.mem_cons_of_mem _ hn), List.append_assoc]
    rfl

theorem destination_congr (h : t'.start = t.start) (path : Path) : t'.destination path = t.destination path := by
  rw [Tree.destination, Tree.destination, Tree.steps, Tree.steps, h]

theorem destination_of_find (h : t.find path = .ok (place, e)) : place = t.destination path := by
  obtain ⟨way, hway, hleads, -⟩ := leads_of_find h
  rw [Tree.destination, ← steps_of_way hway]
  exact eq_foldl_onward hleads

theorem destination_of_aims (h : Aims t way place old) : place = way.foldl onward [] := by
  cases h with
  | there hleads => exact eq_foldl_onward hleads
  | free hleads _ _ hname =>
    rw [List.foldl_append, ← eq_foldl_onward hleads, List.foldl_cons, List.foldl_nil,
      onward_inwards ⟨hname.notHere, hname.notUp⟩]

theorem destination_of_aim (h : t.aim path = .ok (place, old)) : place = t.destination path := by
  obtain ⟨way, hway, haims⟩ := aims_of_aim h
  rw [Tree.destination, ← steps_of_way hway]
  exact destination_of_aims haims

/-- Names behind the path of a root that lead inwards have their destination below that of the root. -/
theorem destination_join (hnames : ∀ name ∈ names, LeadsIn name) :
    t.destination ((Path.ofText text).join names) = t.destination (Path.ofText text) ++ names := by
  have hroot : t.destination (Path.ofText text) = (outset t text).foldl onward [] := by
    unfold Tree.destination
    rcases EmptyRoot.steps_root t text with hsteps | hsteps
    · rw [hsteps]
    · have hhere : Path.isHere "" = true := by decide
      rw [hsteps, List.foldl_append, List.foldl_cons, List.foldl_nil, onward, if_pos hhere]
  rw [hroot, Tree.destination, EmptyRoot.steps_join t text (head?_ne_of_leadsIn hnames), List.foldl_append,
    foldl_onward_inwards hnames]

/-! ## Roots that can be missing -/

/-- The path of a root leads somewhere, and from there on never goes back out, so that it cannot lead through a
folder that is missing to one that is there. -/
def Rooted (t : Tree) (text : String) : Prop :=
  ∃ before names outer, outset t text = before ++ names ∧ t.leads before = .ok outer ∧
    ∀ name ∈ names, name ≠ ".."

theorem HasRoot.rooted (h : HasRoot t text place) : Rooted t text :=
  ⟨outset t text, [], place, (List.append_nil _).symm, h.leads, fun _ hname => absurd hname List.not_mem_nil⟩

theorem prefix_of_foldlM_go (hup : ∀ name ∈ names, name ≠ "..") (h : names.foldlM (go look) place = .ok other) :
    place <+: other := by
  induction names generalizing place with
  | nil => exact Except.ok.inj h ▸ List.prefix_refl place
  | cons name names ih =>
    obtain ⟨next, -, hgoes, hrest⟩ := foldlM_go_cons h
    have hbelow := ih (fun n hn => hup n (List.mem_cons_of_mem _ hn)) hrest
    cases hgoes with
    | here => exact hbelow
    | up heq => exact absurd heq (hup name List.mem_cons_self)
    | inwards => exact (List.prefix_append _ _).trans hbelow

/-- A walk that never goes back out is taken as well wherever there are folders up to its end. -/
theorem foldlM_go_back {look' : Place → Option Kind} (hup : ∀ name ∈ names, name ≠ "..")
    (hfolders : ∀ between, between <+: other → look' between = some .folder)
    (h : names.foldlM (go look) place = .ok other) : names.foldlM (go look') place = .ok other := by
  induction names generalizing place with
  | nil => exact h
  | cons name names ih =>
    have hplace := hfolders place (prefix_of_foldlM_go hup h)
    obtain ⟨next, -, hgoes, hrest⟩ := foldlM_go_cons h
    have hup' : ∀ n ∈ names, n ≠ ".." := fun n hn => hup n (List.mem_cons_of_mem _ hn)
    have hnext := hfolders next (prefix_of_foldlM_go hup' hrest)
    have hsame : Goes look' place name next := by
      cases hgoes with
      | here hhere => exact .here hhere
      | up heq => exact .up heq
      | inwards hname =>
        refine .inwards hname ?_
        rw [hnext]
        rfl
    rw [List.foldlM_cons, hsame.go_eq hplace]
    exact ih hup' hrest

/-- What is found below a root later was found there before if it was a folder before. -/
theorem Rooted.find_back {e' : Entry} {inside : List (String × Entry)} (h : Rooted t text)
    (hnames : ∀ name ∈ names, LeadsIn name) (hstart : t'.start = t.start)
    (hfind : t'.find ((Path.ofText text).join names) = .ok (place, e'))
    (hget : t.root.get? place = some (.folder inside)) :
    t.find ((Path.ofText text).join names) = .ok (place, .folder inside) := by
  obtain ⟨before, rest, outer, houtset, hbefore, hup⟩ := h
  obtain ⟨way, hway, hleads, -⟩ := leads_of_find hfind
  have hsteps : t.steps ((Path.ofText text).join names) = before ++ (rest ++ names) := by
    rw [EmptyRoot.steps_join t text (head?_ne_of_leadsIn hnames), houtset, List.append_assoc]
  have hsame : t'.steps ((Path.ofText text).join names) = t.steps ((Path.ofText text).join names) := by
    rw [Tree.steps, Tree.steps, hstart]
  have hway' : t.way ((Path.ofText text).join names) = .ok way := by
    rw [way_eq] at hway ⊢
    rwa [← hsame]
  rw [steps_of_way hway', hsteps] at hleads
  obtain ⟨next, hfirst, hlast⟩ := foldlM_go_append hleads
  obtain rfl : next = outer := (eq_foldl_onward hfirst).trans (eq_foldl_onward hbefore).symm
  refine find_eq_ok hway' ?_ hget
  rw [steps_of_way hway', hsteps]
  unfold Tree.leads at hbefore ⊢
  rw [List.foldlM_append, hbefore]
  -- the end is a folder, and so is all around it, where the way has led through
  refine foldlM_go_back (fun name hname => ?_) (fun between hbetween => ?_) hlast
  · rcases List.mem_append.1 hname with hname | hname
    · exact hup name hname
    · exact (hnames name hname).notUp
  · exact Entry.look_folder_of_around (Entry.look_eq_folder_iff.2 ⟨inside, hget⟩) hbetween

end Storefront.Files
