import Storefront.Files.Entry
import Storefront.Proofs.Table

/-!
# Entries through their places

`Entry.look` tells what stands at a place, without what lies in it. Setting something at a place changes
what is seen there and below, and nothing anywhere else, and it keeps the names in every folder in order.
-/

namespace Storefront

namespace Files

theorem not_concat_below (place : Place) (name : String) : ¬ place ++ [name] <+: place := by
  intro hpart
  have hlength := hpart.length_le
  rw [List.length_append, List.length_singleton] at hlength
  omega

/-- What stands at a place, as seen from outside. -/
inductive Kind where
  | folder
  | file (data : ByteArray)

namespace Entry

/-- The kind of an entry. -/
def kind : Entry → Kind
  | file data => .file data
  | folder _ => .folder

/-- What is seen at a place. -/
def look (e : Entry) (place : Place) : Option Kind := (e.get? place).map kind

variable {e e' : Entry} {new : Option Entry} {name : String} {place other rest : Place}
  {inside : List (String × Entry)} {data : ByteArray}

/-! ## Places below a place -/

@[simp] theorem get?_nil (e : Entry) : e.get? [] = some e := by
  rw [get?]

@[simp] theorem get?_folder_cons (inside : List (String × Entry)) (name : String) (rest : Place) :
    (folder inside).get? (name :: rest) = (inside.lookup name).bind (get? · rest) := rfl

theorem get?_append (e : Entry) (place rest : Place) :
    e.get? (place ++ rest) = (e.get? place).bind (get? · rest) := by
  induction place generalizing e with
  | nil => rw [get?_nil]; rfl
  | cons name place ih =>
    cases e with
    | file data => rfl
    | folder inside =>
      rw [List.cons_append, get?_folder_cons, get?_folder_cons]
      cases inside.lookup name with
      | none => rfl
      | some e => exact ih e

theorem get?_concat (h : e.get? place = some (folder inside)) (name : String) :
    e.get? (place ++ [name]) = inside.lookup name := by
  rw [get?_append, h, Option.bind_some, get?_folder_cons]
  cases hlookup : inside.lookup name with
  | none => rfl
  | some e => exact get?_nil e

theorem look_eq_folder_iff : e.look place = some .folder ↔ ∃ inside, e.get? place = some (folder inside) := by
  unfold look
  cases e.get? place with
  | none => simp
  | some e =>
    cases e with
    | file data => simp [kind]
    | folder inside => simp [kind]

theorem look_eq_file_iff : e.look place = some (.file data) ↔ e.get? place = some (file data) := by
  unfold look
  cases e.get? place with
  | none => simp
  | some e =>
    cases e with
    | file data => simp [kind]
    | folder inside => simp [kind]

theorem look_eq_none_iff : e.look place = none ↔ e.get? place = none := by
  rw [look, Option.map_eq_none_iff]

/-- Only in a folder there is something. -/
theorem look_folder_of_below (h : e.look (place ++ rest) ≠ none) (hrest : rest ≠ []) :
    e.look place = some .folder := by
  obtain ⟨name, rest, rfl⟩ := List.exists_cons_of_ne_nil hrest
  rw [Ne, look_eq_none_iff, get?_append] at h
  cases hplace : e.get? place with
  | none =>
    rw [hplace] at h
    exact absurd rfl h
  | some e' =>
    cases e' with
    | file data =>
      rw [hplace] at h
      exact absurd rfl h
    | folder inside => exact look_eq_folder_iff.2 ⟨inside, hplace⟩

theorem look_folder_of_around (h : e.look place = some .folder) (hpart : other <+: place) :
    e.look other = some .folder := by
  obtain ⟨rest, rfl⟩ := hpart
  by_cases hrest : rest = []
  · rwa [hrest, List.append_nil] at h
  · have hthere : e.look (other ++ rest) ≠ none := by
      rw [h]
      exact Option.some_ne_none _
    exact look_folder_of_below hthere hrest

/-! ## Setting something at a place -/

@[simp] theorem set_file_cons (data : ByteArray) (new : Option Entry) (name : String) (rest : Place) :
    (file data).set new (name :: rest) = file data := by
  rw [set]

theorem set_folder_singleton (inside : List (String × Entry)) (e : Entry) (name : String) :
    (folder inside).set (some e) [name] = folder (Table.insert name e inside) := by
  rw [set]

/-- What is set further inwards is set in what stands on the way. -/
theorem set_folder_of_lookup (hlookup : inside.lookup name = some e) (hrest : rest ≠ [])
    (new : Option Entry) :
    (folder inside).set new (name :: rest) = folder (Table.insert name (e.set new rest) inside) := by
  obtain ⟨next, rest, rfl⟩ := List.exists_cons_of_ne_nil hrest
  rw [set.eq_def]
  simp only [hlookup]

theorem set_folder_of_lookup_none (hlookup : inside.lookup name = none) (hrest : rest ≠ [])
    (new : Option Entry) : (folder inside).set new (name :: rest) = folder inside := by
  obtain ⟨next, rest, rfl⟩ := List.exists_cons_of_ne_nil hrest
  rw [set.eq_def]
  simp only [hlookup]

/-- What setting something makes of the folder on the way. -/
theorem exists_set_folder (inside : List (String × Entry)) (new : Option Entry) (name : String)
    (rest : Place) :
    ∃ inside', (folder inside).set new (name :: rest) = folder inside' ∧
      (∀ other, other ≠ name → inside'.lookup other = inside.lookup other) ∧
      inside'.lookup name = (if rest = [] then new else (inside.lookup name).map (·.set new rest)) ∧
      (Table.Ascending inside → Table.Ascending inside') := by
  cases rest with
  | nil =>
    cases new with
    | some entry =>
      exact ⟨Table.insert name entry inside, by rw [set],
        fun other hne => Table.lookup_insert_of_ne hne _ _, Table.lookup_insert_self _ _ _,
        fun h => h.insert _ _⟩
    | none =>
      exact ⟨Table.erase name inside, by rw [set], fun other hne => Table.lookup_erase_of_ne hne _,
        Table.lookup_erase_self _ _, fun h => h.erase _⟩
  | cons next rest =>
    rw [if_neg (List.cons_ne_nil _ _)]
    cases hlookup : inside.lookup name with
    | some entry =>
      exact ⟨Table.insert name (entry.set new (next :: rest)) inside,
        set_folder_of_lookup hlookup (List.cons_ne_nil _ _) new,
        fun other hne => Table.lookup_insert_of_ne hne _ _, Table.lookup_insert_self _ _ _,
        fun h => h.insert _ _⟩
    | none =>
      exact ⟨inside, set_folder_of_lookup_none hlookup (List.cons_ne_nil _ _) new, fun _ _ => rfl,
        hlookup, id⟩

/-- What is set is there afterwards, if the folder of its place exists. -/
theorem get?_set_append (hplace : place ≠ []) (hparent : e.look place.dropLast = some .folder)
    (new : Option Entry) (rest : Place) :
    (e.set new place).get? (place ++ rest) = new.bind (get? · rest) := by
  induction place generalizing e with
  | nil => exact absurd rfl hplace
  | cons name place ih =>
    have hfolder : e.look [] = some .folder := by
      cases place with
      | nil => exact hparent
      | cons next place =>
        have hbelow : e.look ([] ++ (name :: next :: place).dropLast) ≠ none := by
          rw [List.nil_append, hparent]
          exact Option.some_ne_none _
        exact look_folder_of_below hbelow (List.cons_ne_nil _ _)
    obtain ⟨inside, hinside⟩ := look_eq_folder_iff.1 hfolder
    rw [get?_nil] at hinside
    cases hinside
    obtain ⟨inside', hset, -, hlookup, -⟩ := exists_set_folder inside new name place
    rw [hset, List.cons_append, get?_folder_cons, hlookup]
    cases place with
    | nil => rfl
    | cons next place =>
      rw [if_neg (List.cons_ne_nil _ _)]
      rw [List.dropLast_cons_of_ne_nil (List.cons_ne_nil _ _), look, get?_folder_cons] at hparent
      cases hnext : inside.lookup name with
      | none =>
        rw [hnext] at hparent
        cases hparent
      | some entry =>
        rw [hnext] at hparent
        exact ih (List.cons_ne_nil _ _) hparent

/-- What is set in place of something is there afterwards. -/
theorem get?_set_of_isSome (h : (e.get? place).isSome = true) (e' : Entry) (rest : Place) :
    (e.set (some e') place).get? (place ++ rest) = e'.get? rest := by
  by_cases hplace : place = []
  · rw [hplace, set]
    rfl
  · have hparent : e.look place.dropLast = some .folder := by
      have hthere : e.look (place.dropLast ++ [place.getLast hplace]) ≠ none := by
        rw [List.dropLast_concat_getLast, Ne, look_eq_none_iff]
        exact Option.isSome_iff_ne_none.1 h
      exact look_folder_of_below hthere (List.cons_ne_nil _ _)
    rw [get?_set_append hplace hparent]
    rfl

/-- Anywhere else all is as it was. -/
theorem look_set_of_not_below (h : ¬ place <+: other) (e : Entry) (new : Option Entry) :
    (e.set new place).look other = e.look other := by
  induction place generalizing e other with
  | nil => exact absurd List.nil_prefix h
  | cons name place ih =>
    cases e with
    | file data => rw [set_file_cons]
    | folder inside =>
      obtain ⟨inside', hset, hothers, hlookup, -⟩ := exists_set_folder inside new name place
      rw [hset]
      cases other with
      | nil => rfl
      | cons first other =>
        rw [look, look, get?_folder_cons, get?_folder_cons]
        by_cases hfirst : first = name
        · subst hfirst
          have hrest : ¬ place <+: other := fun hpart => h (List.cons_prefix_cons.2 ⟨rfl, hpart⟩)
          have hplace : place ≠ [] := by
            rintro rfl
            exact hrest List.nil_prefix
          rw [hlookup, if_neg hplace]
          cases inside.lookup first with
          | none => rfl
          | some entry => exact ih hrest entry
        · rw [hothers first hfirst]

/-- If there was no folder and something is set in which nothing lies, only its place is changed. -/
theorem look_set_leaf (e : Entry) (hplace : place ≠ []) (hparent : e.look place.dropLast = some .folder)
    (hleaf : ∀ first rest, new.bind (·.get? (first :: rest)) = none) (hold : e.look place ≠ some .folder)
    (other : Place) : (e.set new place).look other = if other = place then new.map kind else e.look other := by
  by_cases hpart : place <+: other
  · obtain ⟨rest, rfl⟩ := hpart
    rw [look, get?_set_append hplace hparent]
    cases rest with
    | nil =>
      rw [List.append_nil, if_pos rfl]
      cases new with
      | none => rfl
      | some e' => exact congrArg (Option.map kind) (get?_nil e')
    | cons first rest =>
      have hne : place ++ first :: rest ≠ place := fun heq =>
        List.cons_ne_nil first rest (List.append_right_eq_self.1 heq)
      rw [hleaf, if_neg hne, Option.map_none]
      cases hbelow : e.look (place ++ first :: rest) with
      | none => rfl
      | some kind =>
        have hthere : e.look (place ++ first :: rest) ≠ none := by
          rw [hbelow]
          exact Option.some_ne_none kind
        exact absurd (look_folder_of_below hthere (List.cons_ne_nil _ _)) hold
  · have hne : other ≠ place := by
      rintro rfl
      exact hpart (List.prefix_refl _)
    rw [look_set_of_not_below hpart, if_neg hne]

theorem look_set_file (e : Entry) (hfolder : e.look place = some .folder)
    (hfree : e.look (place ++ [name]) ≠ some .folder) (data : ByteArray) (other : Place) :
    (e.set (some (file data)) (place ++ [name])).look other =
      if other = place ++ [name] then some (.file data) else e.look other := by
  have hne := List.concat_ne_nil name place
  exact e.look_set_leaf hne (by rwa [List.dropLast_concat]) (fun first rest => rfl) hfree other

theorem look_set_none (e : Entry) (hplace : place ≠ []) (hfile : e.look place = some (.file data))
    (other : Place) : (e.set none place).look other = if other = place then none else e.look other := by
  have hparent : e.look place.dropLast = some .folder := by
    have hthere : e.look (place.dropLast ++ [place.getLast hplace]) ≠ none := by
      rw [List.dropLast_concat_getLast, hfile]
      exact Option.some_ne_none _
    exact look_folder_of_below hthere (List.cons_ne_nil _ _)
  have hold : e.look place ≠ some .folder := by
    rw [hfile]
    rintro ⟨⟩
  exact e.look_set_leaf hplace hparent (fun first rest => rfl) hold other

/-- Setting something below a place is setting the changed entry there. -/
theorem set_set_append (hplace : (e.get? place).isSome = true) (hrest : rest ≠ []) (e' : Entry)
    (new : Option Entry) :
    (e.set (some e') place).set new (place ++ rest) = e.set (some (e'.set new rest)) place := by
  induction place generalizing e with
  | nil =>
    rw [List.nil_append, set, set]
    rfl
  | cons name place ih =>
    cases e with
    | file data => cases hplace
    | folder inside =>
      rw [get?_folder_cons] at hplace
      cases place with
      | nil =>
        rw [List.cons_append, List.nil_append, set_folder_singleton, set_folder_singleton,
          set_folder_of_lookup (Table.lookup_insert_self _ _ _) hrest, Table.insert_insert]
      | cons next place =>
        cases hlookup : inside.lookup name with
        | none =>
          rw [hlookup] at hplace
          cases hplace
        | some entry =>
          rw [hlookup] at hplace
          have hbelow : (entry.set (some e') (next :: place)).set new (next :: place ++ rest) =
              entry.set (some (e'.set new rest)) (next :: place) := ih hplace
          have hne : next :: place ++ rest ≠ [] := List.cons_ne_nil _ _
          rw [List.cons_append, set_folder_of_lookup hlookup (List.cons_ne_nil _ _),
            set_folder_of_lookup (Table.lookup_insert_self _ _ _) hne, hbelow, Table.insert_insert,
            set_folder_of_lookup hlookup (List.cons_ne_nil _ _)]

/-! ## The order of names -/

/-- The names in every folder stand in their order. -/
def Tidy (e : Entry) : Prop :=
  ∀ place inside, e.get? place = some (folder inside) → Table.Ascending inside

theorem tidy_file (data : ByteArray) : (file data).Tidy := by
  intro place inside h
  cases place with
  | nil => cases h
  | cons name rest => cases h

theorem tidy_folder_iff :
    (folder inside).Tidy ↔
      Table.Ascending inside ∧ ∀ name e, inside.lookup name = some e → e.Tidy := by
  constructor
  · intro h
    refine ⟨h [] inside (get?_nil _), fun name e hlookup place inside' hget => ?_⟩
    refine h (name :: place) inside' ?_
    rw [get?_folder_cons, hlookup]
    exact hget
  · rintro ⟨hascending, hinside⟩ place inside' hget
    cases place with
    | nil =>
      cases hget
      exact hascending
    | cons name place =>
      rw [get?_folder_cons, Option.bind_eq_some_iff] at hget
      obtain ⟨e, hlookup, hget⟩ := hget
      exact hinside name e hlookup place inside' hget

theorem tidy_empty : (folder []).Tidy :=
  tidy_folder_iff.2 ⟨Table.ascending_nil, fun name e h => by cases h⟩

theorem Tidy.singleton (h : e.Tidy) (name : String) : (folder [(name, e)]).Tidy := by
  refine tidy_folder_iff.2 ⟨List.pairwise_singleton _ _, fun other e' hlookup => ?_⟩
  have hmem := Table.mem_of_lookup hlookup
  cases List.mem_singleton.1 hmem
  exact h

theorem Tidy.set (h : e.Tidy) (hnew : ∀ e', new = some e' → e'.Tidy) : (e.set new place).Tidy := by
  induction place generalizing e with
  | nil =>
    rw [Entry.set]
    cases new with
    | none => exact h
    | some e' => exact hnew e' rfl
  | cons name place ih =>
    cases e with
    | file data =>
      rw [set_file_cons]
      exact h
    | folder inside =>
      obtain ⟨hascending, hinside⟩ := tidy_folder_iff.1 h
      obtain ⟨inside', hset, hothers, hlookup, hkeeps⟩ := exists_set_folder inside new name place
      rw [hset]
      refine tidy_folder_iff.2 ⟨hkeeps hascending, fun other e' he' => ?_⟩
      by_cases hother : other = name
      · rw [hother, hlookup] at he'
        by_cases hplace : place = []
        · rw [if_pos hplace] at he'
          exact hnew e' he'
        · rw [if_neg hplace, Option.map_eq_some_iff] at he'
          obtain ⟨entry, hentry, rfl⟩ := he'
          exact ih (hinside name entry hentry)
      · rw [hothers other hother] at he'
        exact hinside other e' he'

/-- Setting what is there already changes nothing. -/
theorem Tidy.set_get? (h : e.Tidy) (hget : e.get? place = some e') : e.set (some e') place = e := by
  induction place generalizing e with
  | nil =>
    rw [get?_nil] at hget
    rw [Entry.set, Option.getD_some]
    exact (Option.some.inj hget).symm
  | cons name place ih =>
    cases e with
    | file data => cases hget
    | folder inside =>
      obtain ⟨hascending, hinside⟩ := tidy_folder_iff.1 h
      rw [get?_folder_cons, Option.bind_eq_some_iff] at hget
      obtain ⟨entry, hlookup, hget⟩ := hget
      by_cases hplace : place = []
      · subst hplace
        rw [get?_nil] at hget
        cases hget
        rw [set_folder_singleton, Table.insert_of_lookup hascending hlookup]
      · rw [set_folder_of_lookup hlookup hplace, ih (hinside name entry hlookup) hget,
          Table.insert_of_lookup hascending hlookup]

/-! ## Files in a folder -/

theorem mem_fileNames (h : Table.Ascending inside) :
    name ∈ (folder inside).fileNames ↔ ∃ data, inside.lookup name = some (file data) := by
  rw [fileNames, List.mem_filterMap]
  constructor
  · rintro ⟨⟨n, e⟩, hmem, hname⟩
    cases e with
    | file data =>
      cases hname
      exact ⟨data, Table.lookup_of_mem h.nodup hmem⟩
    | folder inside => cases hname
  · rintro ⟨data, hlookup⟩
    exact ⟨(name, file data), Table.mem_of_lookup hlookup, rfl⟩

/-- The names of the files in a folder, seen from outside it. -/
theorem Tidy.mem_fileNames (h : e.Tidy) (hget : e.get? place = some (folder inside)) :
    name ∈ (folder inside).fileNames ↔ ∃ data, e.get? (place ++ [name]) = some (file data) := by
  rw [Entry.mem_fileNames (h place inside hget)]
  simp only [get?_concat hget]

theorem nodup_fileNames (h : Table.Ascending inside) : (folder inside).fileNames.Nodup := by
  rw [fileNames]
  refine List.pairwise_filterMap.2 (h.imp ?_)
  rintro ⟨n, e⟩ ⟨n', e'⟩ hlt name hname name' hname'
  cases e with
  | folder => cases hname
  | file =>
    cases e' with
    | folder => cases hname'
    | file =>
      cases hname
      cases hname'
      rintro rfl
      exact String.lt_irrefl _ hlt

end Entry

end Files

end Storefront
