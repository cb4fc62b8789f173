/-!
# Tables

Named values in the order of their names, each name once. Names are ordered by code point, which is
also the order of their bytes. The view of a table is `List.lookup`.
-/

namespace Storefront

/-- Named values in the order of their names. -/
abbrev Table (α : Type) := List (String × α)

namespace Table

variable {α : Type}

/-- The table with a value under a name, in place of an earlier one. -/
def insert (name : String) (value : α) : Table α → Table α
  | [] => [(name, value)]
  | (n, v) :: rest =>
    if name < n then (name, value) :: (n, v) :: rest
    else if n < name then (n, v) :: insert name value rest
    else (name, value) :: rest

/-- The table without a name. -/
def erase (name : String) (table : Table α) : Table α := table.filter (·.1 ≠ name)

/-- Do the names stand in their order, each of them once? -/
def Ascending (table : Table α) : Prop := table.Pairwise fun a b => a.1 < b.1

@[simp] theorem lookup_insert_self (name : String) (value : α) (table : Table α) :
    (insert name value table).lookup name = some value := by
  induction table with
  | nil => simp [insert]
  | cons entry rest ih =>
    obtain ⟨n, v⟩ := entry
    simp only [insert]
    split
    · simp
    · split
      · next h =>
        have hb : (name == n) = false := by
          simpa using fun e : name = n => String.lt_irrefl n (e ▸ h)
        simp [List.lookup_cons, hb, ih]
      · simp

theorem lookup_insert_of_ne {name other : String} (h : other ≠ name) (value : α) (table : Table α) :
    (insert name value table).lookup other = table.lookup other := by
  have hb : (other == name) = false := by simpa using h
  induction table with
  | nil => simp [insert, List.lookup_cons, hb]
  | cons entry rest ih =>
    obtain ⟨n, v⟩ := entry
    simp only [insert]
    split
    · simp [List.lookup_cons, hb]
    · split
      · simp [List.lookup_cons, ih]
      · next h₁ h₂ =>
        have hn : n = name := String.le_antisymm (String.not_lt.1 h₁) (String.not_lt.1 h₂)
        simp [List.lookup_cons, hb, hn]

theorem ascending_nil : Ascending ([] : Table α) := List.Pairwise.nil

theorem mem_insert {name : String} {value : α} {table : Table α} {entry : String × α}
    (h : entry ∈ insert name value table) : entry = (name, value) ∨ entry ∈ table := by
  induction table with
  | nil => exact .inl (List.mem_singleton.1 h)
  | cons head rest ih =>
    simp only [insert] at h
    split at h
    · exact List.mem_cons.1 h
    · split at h
      · rcases List.mem_cons.1 h with rfl | h
        · exact .inr List.mem_cons_self
        · exact (ih h).imp_right (List.mem_cons_of_mem _)
      · exact (List.mem_cons.1 h).imp_right (List.mem_cons_of_mem _)

theorem Ascending.insert {table : Table α} (h : Ascending table) (name : String) (value : α) :
    Ascending (insert name value table) := by
  induction table with
  | nil => exact List.pairwise_singleton _ _
  | cons head rest ih =>
    obtain ⟨hhead, hrest⟩ := List.pairwise_cons.1 h
    simp only [Table.insert]
    split
    · next hlt =>
      refine List.pairwise_cons.2 ⟨fun entry he => ?_, h⟩
      rcases List.mem_cons.1 he with rfl | he
      · exact hlt
      · exact String.lt_trans hlt (hhead entry he)
    · next hle =>
      split
      · next hgt =>
        refine List.pairwise_cons.2 ⟨fun entry he => ?_, ih hrest⟩
        rcases mem_insert he with rfl | he
        · exact hgt
        · exact hhead entry he
      · next hge =>
        have hn : head.1 = name := String.le_antisymm (String.not_lt.1 hle) (String.not_lt.1 hge)
        exact List.pairwise_cons.2 ⟨fun entry he => hn ▸ hhead entry he, hrest⟩

theorem Ascending.erase {table : Table α} (h : Ascending table) (name : String) :
    Ascending (erase name table) := List.Pairwise.filter _ h

@[simp] theorem lookup_erase_self (name : String) (table : Table α) :
    (erase name table).lookup name = none := by
  induction table with
  | nil => rfl
  | cons entry rest ih =>
    obtain ⟨n, v⟩ := entry
    by_cases h : n = name
    · simpa [erase, h] using ih
    · have h' : (name == n) = false := by simpa using Ne.symm h
      simpa [erase, h, List.lookup_cons, h'] using ih

theorem lookup_erase_of_ne {name other : String} (h : other ≠ name) (table : Table α) :
    (erase name table).lookup other = table.lookup other := by
  induction table with
  | nil => rfl
  | cons entry rest ih =>
    obtain ⟨n, v⟩ := entry
    by_cases hn : n = name
    · subst hn
      have h' : (other == n) = false := by simpa using h
      simpa [erase, List.lookup_cons, h'] using ih
    · by_cases ho : (other == n) = true
      · simp [erase, hn, List.lookup_cons, ho]
      · simpa [erase, hn, List.lookup_cons, ho] using ih

end Table

end Storefront
