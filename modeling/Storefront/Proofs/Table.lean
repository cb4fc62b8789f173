import Storefront.Table

/-!
# What is in a table

A name finds what stands under it, since each name stands in a table once. Putting in a name and taking it out
change nothing for the other names.
-/

namespace Storefront.Table

variable {α : Type} {table : Table α} {name : String} {value : α}

theorem isSome_lookup_iff : (table.lookup name).isSome = true ↔ name ∈ table.map Prod.fst := by
  induction table with
  | nil => simp
  | cons entry rest ih =>
    rw [List.lookup_cons, List.map_cons, List.mem_cons, ← ih]
    split
    · next heq => simp [beq_iff_eq.1 heq]
    · next heq => simp [beq_eq_false_iff_ne.1 heq]

theorem Ascending.nodup (h : table.Ascending) : (table.map Prod.fst).Nodup := by
  refine List.pairwise_map.2 (h.imp ?_)
  intro a b hlt heq
  exact String.lt_irrefl _ (heq ▸ hlt)

theorem mem_of_lookup (h : table.lookup name = some value) : (name, value) ∈ table := by
  induction table with
  | nil => cases h
  | cons entry rest ih =>
    rw [List.lookup_cons] at h
    split at h
    · next heq =>
      cases h
      rw [beq_iff_eq.1 heq]
      exact List.mem_cons_self
    · exact List.mem_cons_of_mem _ (ih h)

theorem lookup_of_mem (distinct : (table.map Prod.fst).Nodup) (hmem : (name, value) ∈ table) :
    table.lookup name = some value := by
  induction table with
  | nil => cases hmem
  | cons entry rest ih =>
    obtain ⟨hnew, hrest⟩ := List.nodup_cons.1 distinct
    rcases List.mem_cons.1 hmem with rfl | hmem
    · exact List.lookup_cons_self
    · have hne : name ≠ entry.1 := by
        rintro rfl
        exact hnew (List.mem_map.2 ⟨_, hmem, rfl⟩)
      rw [List.lookup_cons, beq_false_of_ne hne]
      exact ih hrest hmem

/-- A table with a new name has one more entry. -/
theorem insert_perm (h : name ∉ table.map Prod.fst) :
    (insert name value table).Perm ((name, value) :: table) := by
  induction table with
  | nil => exact .refl _
  | cons entry rest ih =>
    obtain ⟨hne, hrest⟩ := not_or.1 (mt List.mem_cons.2 h)
    rw [insert]
    split
    · exact .refl _
    · next hle =>
      have hlt : entry.1 < name := Decidable.byContradiction fun hge =>
        hne (String.le_antisymm (String.not_lt.1 hge) (String.not_lt.1 hle))
      rw [if_pos hlt]
      exact ((ih hrest).cons entry).trans (.swap _ _ rest)

theorem insert_insert (name : String) (a b : α) (table : Table α) :
    insert name b (insert name a table) = insert name b table := by
  induction table with
  | nil => simp [insert]
  | cons entry rest ih =>
    obtain ⟨n, v⟩ := entry
    by_cases hlt : name < n
    · simp [insert, hlt]
    · by_cases hgt : n < name
      · simp [insert, hlt, hgt, ih]
      · simp [insert, hlt, hgt]

theorem insert_of_lookup (h : table.Ascending) (hlookup : table.lookup name = some value) :
    insert name value table = table := by
  induction table with
  | nil => cases hlookup
  | cons entry rest ih =>
    obtain ⟨n, v⟩ := entry
    obtain ⟨hfirst, hrest⟩ := List.pairwise_cons.1 h
    by_cases hname : name = n
    · subst hname
      rw [List.lookup_cons_self] at hlookup
      cases hlookup
      simp [insert]
    · rw [List.lookup_cons, beq_false_of_ne hname] at hlookup
      have hlt : n < name := hfirst (name, value) (mem_of_lookup hlookup)
      simp only [insert, String.lt_asymm hlt, hlt, if_true, if_false, ih hrest hlookup]

theorem erase_insert_self (name : String) (value : α) (table : Table α) :
    erase name (insert name value table) = erase name table := by
  induction table with
  | nil => simp [insert, erase]
  | cons entry rest ih =>
    obtain ⟨n, v⟩ := entry
    simp only [insert]
    split
    · simp [erase]
    · split
      · next hlt =>
        simp only [erase, List.filter_cons] at ih ⊢
        rw [ih]
      · next hle hge =>
        have hn : n = name := String.le_antisymm (String.not_lt.1 hle) (String.not_lt.1 hge)
        simp [erase, hn]

theorem erase_eq_self (h : name ∉ table.map Prod.fst) : erase name table = table := by
  refine List.filter_eq_self.2 fun entry he => decide_eq_true ?_
  rintro rfl
  exact h (List.mem_map_of_mem he)

end Storefront.Table
