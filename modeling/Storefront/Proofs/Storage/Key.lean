import Storefront.Proofs.Text.Digits
import Storefront.Proofs.Text.Segments
import Storefront.Storage.Folder

/-!
# Keys and names

A key is written from names between slashes, and only in one way. Each name leads one folder inwards: it is
not empty, it does not stand for the folder itself or the one around it, and there is no slash, no backslash
and no NUL in it. So is the name of a temporary file, and so are the names that a listing goes through.
-/

namespace Storefront.Storage

open Files (Path)
open Folder (temporaryName)

/-- A name of something in a folder, under any system. -/
structure IsName (name : String) : Prop where
  ne_empty : name ≠ ""
  ne_here : name ≠ "."
  ne_up : name ≠ ".."
  chars : ∀ c ∈ name.toList, c ≠ '/' ∧ c ≠ '\\' ∧ c ≠ '\x00'

variable {text : String} {names : Path} {name suffix : String}

theorem IsName.isHere (h : IsName name) : Path.isHere name = false := by
  simp [Path.isHere, h.ne_empty, h.ne_here]

/-! ## From keys to names -/

theorem components_inj {a b : String} (h : components a = components b) : a = b := by
  have hsegments := (List.map_inj_right fun _ _ hof => String.ofList_inj.1 hof).1 h
  exact String.toList_inj.1 (Text.segments_inj hsegments)

theorem components_ne_nil (text : String) : components text ≠ [] := by
  unfold components
  rw [Ne, List.map_eq_nil_iff]
  exact Text.segments_ne_nil '/' _

theorem components_append_slash (a b : String) :
    components (a ++ "/" ++ b) = components a ++ components b := by
  rw [components, Text.toList_append_slash, Text.segments_append_sep, List.map_append]
  rfl

theorem components_eq_singleton_iff {text name : String} :
    components text = [name] ↔ text = name ∧ '/' ∉ text.toList := by
  have hname : [name] = [name.toList].map String.ofList := by
    rw [List.map_singleton, String.ofList_toList]
  rw [hname, components, List.map_inj_right fun _ _ hof => String.ofList_inj.1 hof,
    Text.segments_eq_singleton_iff, String.toList_inj]

/-- The first text is the path of a folder around what the second one is the path of. -/
def IsAncestor (outer inner : String) : Prop := ∃ rest, inner = outer ++ "/" ++ rest

theorem isAncestor_iff {outer inner : String} :
    IsAncestor outer inner ↔ outer ≠ inner ∧ components outer <+: components inner := by
  constructor
  · rintro ⟨rest, rfl⟩
    rw [components_append_slash]
    refine ⟨fun h => ?_, List.prefix_append _ _⟩
    have hcomponents := congrArg components h
    rw [components_append_slash] at hcomponents
    exact components_ne_nil rest (List.self_eq_append_right.1 hcomponents)
  · rintro ⟨hne, more, hmore⟩
    have hsegments : Text.segments '/' inner.toList =
        Text.segments '/' outer.toList ++ more.map String.toList := by
      have h := congrArg (List.map String.toList) hmore.symm
      simpa [components, Function.comp_def] using h
    rcases Text.eq_or_append_sep_of_segments hsegments with ⟨heq, -⟩ | ⟨rest, hrest, -⟩
    · exact absurd (String.toList_inj.1 heq).symm hne
    · refine ⟨String.ofList rest, String.toList_inj.1 ?_⟩
      simpa [String.toList_append] using hrest

/-- A key consists of names. -/
theorem isName_of_mem_components (hkey : isKey text = true) (hname : name ∈ components text) :
    IsName name := by
  obtain ⟨hallowed, hcomponents⟩ := Bool.and_eq_true_iff.1 hkey
  have hcomponent := List.all_eq_true.1 hcomponents name hname
  simp only [isComponent, Bool.and_eq_true, decide_eq_true_eq] at hcomponent
  refine ⟨hcomponent.1.1, hcomponent.1.2, hcomponent.2, fun c hc => ?_⟩
  obtain ⟨segment, hsegment, rfl⟩ := List.mem_map.1 hname
  rw [String.toList_ofList] at hc
  obtain ⟨hmem, hslash⟩ := Text.mem_of_mem_segments hsegment hc
  have hallows := List.all_eq_true.1 hallowed c hmem
  simp only [allows, Bool.and_eq_true, decide_eq_true_eq] at hallows
  exact ⟨hslash, hallows⟩

theorem readKey_eq_ok_iff : readKey text = .ok names ↔ isKey text = true ∧ components text = names := by
  unfold readKey
  by_cases hkey : isKey text = true
  · rw [if_pos hkey, Except.ok.injEq]
    exact (and_iff_right hkey).symm
  · rw [if_neg hkey]
    constructor
    · rintro ⟨⟩
    · rintro ⟨h, -⟩
      exact absurd h hkey

theorem isName_of_readKey (h : readKey text = .ok names) (hname : name ∈ names) : IsName name := by
  obtain ⟨hkey, rfl⟩ := readKey_eq_ok_iff.1 h
  exact isName_of_mem_components hkey hname

/-- The folder of a listing is the outermost one or has a key. -/
theorem isKey_of_parse {l : Listing} (h : Listing.parse text = .ok l) (hfolder : l.folder ≠ "") :
    isKey l.folder = true := by
  unfold Listing.parse at h
  dsimp only at h
  split at h
  · cases h
  · next hgood =>
    split at h
    · cases h
    · cases h
      refine Decidable.byContradiction fun hkey => ?_
      refine hgood ⟨fun hnil => hfolder ?_, ?_⟩
      · dsimp only
        rw [hnil]
      · rw [eq_false_of_ne_true hkey]
        rfl

theorem isName_of_parse {l : Listing} (h : Listing.parse text = .ok l) (hname : name ∈ l.path) :
    IsName name := by
  unfold Listing.path at hname
  by_cases hfolder : l.folder = ""
  · rw [if_pos hfolder] at hname
    cases hname
  · rw [if_neg hfolder] at hname
    exact isName_of_mem_components (isKey_of_parse h hfolder) hname

theorem parse_eq_error {e : StorageError} (h : Listing.parse text = .error e) :
    ∃ refused, e = .invalidKey refused := by
  unfold Listing.parse at h
  dsimp only at h
  split at h
  · cases h
    exact ⟨_, rfl⟩
  · split at h
    · cases h
      exact ⟨_, rfl⟩
    · cases h

/-! ## From names to keys -/

theorem components_text (hne : names ≠ []) (hnames : ∀ name ∈ names, IsName name) :
    components (Path.text names) = names := by
  have hone : ∀ name : String, IsName name → components name = [name] := fun name hname =>
    components_eq_singleton_iff.2 ⟨rfl, fun hslash => (hname.chars _ hslash).1 rfl⟩
  induction names with
  | nil => exact absurd rfl hne
  | cons name names ih =>
    have hname := hone name (hnames name List.mem_cons_self)
    unfold Path.text at ih ⊢
    cases names with
    | nil => rw [String.intercalate_singleton, hname]
    | cons next names =>
      rw [String.intercalate_cons_cons, components_append_slash, hname,
        ih (List.cons_ne_nil _ _) fun n hn => hnames n (List.mem_cons_of_mem _ hn)]
      rfl

theorem mem_text {c : Char} (h : c ∈ (Path.text names).toList) :
    c = '/' ∨ ∃ name ∈ names, c ∈ name.toList := by
  induction names with
  | nil => cases h
  | cons name names ih =>
    unfold Path.text at ih h
    cases names with
    | nil =>
      rw [String.intercalate_singleton] at h
      exact .inr ⟨name, List.mem_cons_self, h⟩
    | cons next names =>
      rw [String.intercalate_cons_cons, String.toList_append, String.toList_append, List.mem_append,
        List.mem_append] at h
      rcases h with (hname | hslash) | hrest
      · exact .inr ⟨name, List.mem_cons_self, hname⟩
      · exact .inl (List.mem_singleton.1 hslash)
      · rcases ih hrest with hslash | ⟨other, hother, hc⟩
        · exact .inl hslash
        · exact .inr ⟨other, List.mem_cons_of_mem _ hother, hc⟩

/-- Names between slashes are a key. -/
theorem readKey_text (hne : names ≠ []) (hnames : ∀ name ∈ names, IsName name) :
    readKey (Path.text names) = .ok names := by
  have hcomponents := components_text hne hnames
  refine readKey_eq_ok_iff.2 ⟨Bool.and_eq_true_iff.2 ⟨?_, ?_⟩, hcomponents⟩
  · refine List.all_eq_true.2 fun c hc => ?_
    rcases mem_text hc with rfl | ⟨name, hname, hc⟩
    · decide
    · obtain ⟨-, hbackslash, hnul⟩ := (hnames name hname).chars c hc
      simp [allows, hbackslash, hnul]
  · rw [hcomponents]
    refine List.all_eq_true.2 fun name hname => ?_
    have h := hnames name hname
    simp [isComponent, h.ne_empty, h.ne_here, h.ne_up]

/-! ## Temporary files -/

/-- The random part in the name of a temporary file: sixteen hexadecimal digits. -/
structure IsSuffix (suffix : String) : Prop where
  hex : ∀ c ∈ suffix.toList, c.isDigit = true ∨ 'a' ≤ c ∧ c ≤ 'f'
  length : suffix.toList.length = 16

theorem isSuffix_zeros : IsSuffix "0000000000000000" := by
  refine ⟨fun c hc => ?_, rfl⟩
  have hzero : c ∈ List.replicate 16 '0' := hc
  rw [List.eq_of_mem_replicate hzero]
  exact .inl rfl

theorem IsSuffix.utf8ByteSize_eq {suffix : String} (h : IsSuffix suffix) : suffix.utf8ByteSize = 16 := by
  have hbytes : ∀ c ∈ suffix.toList, c.val ≤ 127 := by
    intro c hc
    rcases h.hex c hc with hdigit | ⟨-, hletter⟩
    · simp only [Char.isDigit, Bool.and_eq_true, decide_eq_true_eq] at hdigit
      exact UInt32.le_trans hdigit.2 (by decide)
    · exact UInt32.le_trans hletter (by decide)
  rw [← h.length, ← Text.utf8ByteSize_ofList hbytes, String.ofList_toList]

theorem head?_temporaryName (name suffix : String) :
    (temporaryName name suffix).toList.head? = some '.' := by
  simp [temporaryName, String.toList_append]

theorem utf8ByteSize_temporaryName {suffix : String} (h : IsSuffix suffix) (name : String) :
    (temporaryName name suffix).utf8ByteSize = name.utf8ByteSize + 22 := by
  have hpoint : ".".utf8ByteSize = 1 := by decide
  have hmark : ".tmp-".utf8ByteSize = 5 := by decide
  simp only [temporaryName, String.utf8ByteSize_append, h.utf8ByteSize_eq, hpoint, hmark]
  omega

theorem temporaryName_ne (h : IsSuffix suffix) (name : String) {other : String}
    (hother : other.utf8ByteSize < 22) : temporaryName name suffix ≠ other := by
  rintro rfl
  rw [utf8ByteSize_temporaryName h] at hother
  omega

/-- Hexadecimal digits are neither slashes nor anything else that a name may not hold. -/
theorem IsSuffix.chars (h : IsSuffix suffix) :
    ∀ c ∈ suffix.toList, c ≠ '/' ∧ c ≠ '\\' ∧ c ≠ '\x00' := by
  intro c hc
  have hne : ∀ d : Char, d.isDigit = false → ¬ 'a' ≤ d → c ≠ d := by
    rintro d hdigit hletter rfl
    rcases h.hex c hc with hc | ⟨hc, -⟩
    · rw [hdigit] at hc
      cases hc
    · exact hletter hc
  exact ⟨hne _ (by decide) (by decide), hne _ (by decide) (by decide), hne _ (by decide) (by decide)⟩

/-- The temporary file of a document has a name that stays in its folder. -/
theorem isName_temporaryName (h : IsName name) (hsuffix : IsSuffix suffix) :
    IsName (temporaryName name suffix) := by
  have hne : ∀ other : String, other.utf8ByteSize < 22 → temporaryName name suffix ≠ other :=
    fun _ => temporaryName_ne hsuffix name
  refine ⟨hne _ (by decide), hne _ (by decide), hne _ (by decide), fun c hc => ?_⟩
  have hmarks : ∀ c ∈ ".".toList ++ ".tmp-".toList, c ≠ '/' ∧ c ≠ '\\' ∧ c ≠ '\x00' := by simp
  simp only [temporaryName, String.toList_append, List.mem_append] at hc hmarks
  rcases hc with ((hpoint | hname) | hmark) | hrandom
  · exact hmarks c (.inl hpoint)
  · exact h.chars c hname
  · exact hmarks c (.inr hmark)
  · exact hsuffix.chars c hrandom

end Storefront.Storage
