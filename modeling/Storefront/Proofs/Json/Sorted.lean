import Storefront.Json.Basic
import Storefront.Proofs.Table

/-!
# Sorted objects

The fields of a sorted object stand in a table, so that taking out a field that was put in last leaves the
others as they were.
-/

namespace Storefront.Json

/-- An object without one of its fields. -/
def without (name : String) : Json → Json
  | .object fields => .object (Table.erase name fields)
  | v => v

theorem sortedFields_concat (fields : List (String × Json)) (name : String) (v : Json)
    (done : Table Json) :
    sortedFields (fields ++ [(name, v)]) done =
      Table.insert name v.sorted (sortedFields fields done) := by
  induction fields generalizing done with
  | nil => rfl
  | cons field fields ih => exact ih _

theorem mem_sortedFields {fields : List (String × Json)} {done : Table Json} {entry : String × Json}
    (h : entry ∈ sortedFields fields done) : entry.1 ∈ fields.map Prod.fst ∨ entry ∈ done := by
  induction fields generalizing done with
  | nil => exact .inr h
  | cons field fields ih =>
    obtain ⟨name, v⟩ := field
    rcases ih h with hfield | hdone
    · exact .inl (List.mem_cons_of_mem _ hfield)
    · rcases Table.mem_insert hdone with rfl | hdone
      · exact .inl List.mem_cons_self
      · exact .inr hdone

end Storefront.Json
