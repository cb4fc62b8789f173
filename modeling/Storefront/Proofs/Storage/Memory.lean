import Storefront.Proofs.Table
import Storefront.Storage.Memory

/-!
# Documents in memory through their keys

The view of a memory is `Memory.get?`. What each operation does to it is told here, and a listing shows
the keys under which there is something.
-/

namespace Storefront

namespace Storage.Memory

variable {m : Memory} {key other : String} {data : ByteArray}

@[simp] theorem get?_empty (key : String) : empty.get? key = none := rfl

@[simp] theorem get?_put_self (m : Memory) (key : String) (data : ByteArray) :
    (m.put key data).get? key = some data := Table.lookup_insert_self key data m.documents

theorem get?_put_of_ne (h : other ≠ key) : (m.put key data).get? other = m.get? other :=
  Table.lookup_insert_of_ne h data m.documents

@[simp] theorem get?_erase_self (m : Memory) (key : String) : (m.erase key).get? key = none :=
  Table.lookup_erase_self key m.documents

theorem get?_erase_of_ne (h : other ≠ key) : (m.erase key).get? other = m.get? other :=
  Table.lookup_erase_of_ne h m.documents

theorem mem_listed_iff {l : Listing} :
    key ∈ m.listed l ↔ (m.get? key).isSome = true ∧ shows l key = true := by
  rw [listed, List.mem_filter, get?, Table.isSome_lookup_iff]

theorem nodup_listed (m : Memory) (l : Listing) : (m.listed l).Nodup :=
  m.ascending.nodup.filter _

theorem ascending_listed (m : Memory) (l : Listing) : (m.listed l).Pairwise (· < ·) :=
  (List.pairwise_map.2 m.ascending).filter _

/-- A listing depends on nothing but which of the keys that it shows are there. -/
theorem listed_congr {m' : Memory} {l : Listing}
    (h : ∀ key, shows l key = true → (m'.get? key).isSome = (m.get? key).isSome) :
    m'.listed l = m.listed l := by
  have hmem : ∀ key, key ∈ m'.listed l ↔ key ∈ m.listed l := by
    intro key
    simp only [mem_listed_iff]
    exact and_congr_left fun hshows => by rw [h key hshows]
  have hperm := (List.perm_ext_iff_of_nodup (m'.nodup_listed l) (m.nodup_listed l)).2 hmem
  refine hperm.eq_of_pairwise ?_ (m'.ascending_listed l) (m.ascending_listed l)
  intro a b _ _ hab hba
  exact absurd (String.lt_trans hab hba) (String.lt_irrefl a)

/-! ## What the memory answers -/

theorem answer_get (h : isKey key = true) : answer (.get key) m = (.ok (m.get? key), m) := by
  simp only [answer, readKey, h, if_true]

theorem answer_put (h : isKey key = true) :
    answer (.put key data) m = (.ok (), m.put key data) := by
  simp only [answer, readKey, h, if_true]

theorem answer_list_same (start : String) (m : Memory) : (answer (.list start) m).2 = m := by
  simp only [answer]
  split <;> rfl

theorem answer_error_same {c : Call} {e : StorageError} (h : (answer c m).1 = .error e) :
    (answer c m).2 = m := by
  cases c with
  | get key | put key data | delete key =>
    simp only [answer] at h ⊢
    split at h
    · cases h
    · rfl
  | list start => exact answer_list_same start m

theorem answer_delete (h : isKey key = true) :
    answer (.delete key) m = (.ok (m.contains key), m.erase key) := by
  simp only [answer, readKey, h, if_true]

theorem answer_list {start : String} {l : Listing} (h : Listing.parse start = .ok l) :
    answer (.list start) m = (.ok (m.listed l), m) := by
  simp only [answer, h]

end Storage.Memory

end Storefront
