import Storefront.Proofs.Storage.Memory

/-!
# The contract of the storage

What every storage promises, told by the documents that it holds: a call is answered as the documents
in memory answer it, except that a listing may show its keys in another order, or else it fails and
leaves all documents as they are. Which calls may fail is left open.
-/

namespace Storefront.Storage

/-- The answers and the documents that a call may leave behind. -/
inductive Contract (mayFail : Call → Prop) : (c : Call) → Memory → c.Answer → Memory → Prop where
  /-- The call does what it says. -/
  | obeyed (c : Call) (m : Memory) :
    Contract mayFail c m (Memory.answer c m).1 (Memory.answer c m).2
  /-- The keys of a listing come in any order. -/
  | shuffled {start : String} {m : Memory} {shown keys : List String}
    (answered : (Memory.answer (.list start) m).1 = .ok shown) (perm : keys.Perm shown) :
    Contract mayFail (.list start) m (.ok keys) m
  | failed {c : Call} (may : mayFail c) (m : Memory) (e : StorageError) :
    Contract mayFail c m (.error e) m

/-- Two answers to a call tell the same: they are equal, or they list the same keys. -/
inductive SameTold : (c : Call) → c.Answer → c.Answer → Prop where
  | refl (c : Call) (a : c.Answer) : SameTold c a a
  | keys {start : String} {keys keys' : List String} (perm : keys.Perm keys') :
    SameTold (.list start) (.ok keys) (.ok keys')

theorem SameTold.perm {start : String} {keys keys' : List String}
    (h : SameTold (.list start) (.ok keys) (.ok keys')) : keys.Perm keys' := by
  cases h with
  | refl => exact .refl keys
  | keys perm => exact perm

namespace Contract

variable {mayFail : Call → Prop} {key : String} {data : ByteArray} {m m' : Memory}

theorem get (hkey : isKey key = true) {a : Except StorageError (Option ByteArray)}
    (h : Contract mayFail (.get key) m a m') :
    m' = m ∧ (a = .ok (m.get? key) ∨ mayFail (.get key) ∧ ∃ e, a = .error e) := by
  cases h with
  | obeyed =>
    rw [Memory.answer_get hkey]
    exact ⟨rfl, .inl rfl⟩
  | failed may _ e => exact ⟨rfl, .inr ⟨may, e, rfl⟩⟩

theorem put (hkey : isKey key = true) {a : Except StorageError Unit}
    (h : Contract mayFail (.put key data) m a m') :
    (a = .ok () ∧ m' = m.put key data) ∨ (mayFail (.put key data) ∧ (∃ e, a = .error e) ∧ m' = m) := by
  cases h with
  | obeyed =>
    rw [Memory.answer_put hkey]
    exact .inl ⟨rfl, rfl⟩
  | failed may _ e => exact .inr ⟨may, ⟨e, rfl⟩, rfl⟩

/-- Only under a key a document can be put. -/
theorem put_ok {a : Except StorageError Unit} (h : Contract mayFail (.put key data) m a m')
    (ha : a = .ok ()) : isKey key = true ∧ m' = m.put key data := by
  by_cases hkey : isKey key = true
  · rcases h.put hkey with ⟨-, hput⟩ | ⟨-, ⟨e, he⟩, -⟩
    · exact ⟨hkey, hput⟩
    · rw [he] at ha
      cases ha
  · cases h with
    | obeyed => simp [Memory.answer, readKey, hkey] at ha
    | failed => cases ha

theorem delete (hkey : isKey key = true) {a : Except StorageError Bool}
    (h : Contract mayFail (.delete key) m a m') :
    (a = .ok (m.contains key) ∧ m' = m.erase key) ∨
      (mayFail (.delete key) ∧ (∃ e, a = .error e) ∧ m' = m) := by
  cases h with
  | obeyed =>
    rw [Memory.answer_delete hkey]
    exact .inl ⟨rfl, rfl⟩
  | failed may _ e => exact .inr ⟨may, ⟨e, rfl⟩, rfl⟩

theorem list {start : String} {l : Listing} (hl : Listing.parse start = .ok l)
    {a : Except StorageError (List String)} (h : Contract mayFail (.list start) m a m') :
    m' = m ∧ ((∃ keys, a = .ok keys ∧ keys.Perm (m.listed l)) ∨
      mayFail (.list start) ∧ ∃ e, a = .error e) := by
  cases h with
  | obeyed =>
    rw [Memory.answer_list hl]
    exact ⟨rfl, .inl ⟨_, rfl, .refl _⟩⟩
  | shuffled answered perm =>
    rw [Memory.answer_list hl] at answered
    cases answered
    exact ⟨rfl, .inl ⟨_, rfl, perm⟩⟩
  | failed may _ e => exact ⟨rfl, .inr ⟨may, e, rfl⟩⟩

/-- Fetching leaves the documents as they are, whatever the key. -/
theorem get_same {a : Except StorageError (Option ByteArray)}
    (h : Contract mayFail (.get key) m a m') : m' = m := by
  cases h with
  | obeyed =>
    simp only [Memory.answer]
    split <;> rfl
  | failed => rfl

theorem list_same {start : String} {a : Except StorageError (List String)}
    (h : Contract mayFail (.list start) m a m') : m' = m := by
  cases h with
  | obeyed => exact Memory.answer_list_same start m
  | shuffled => rfl
  | failed => rfl

theorem mono {mayFail' : Call → Prop} (himp : ∀ c, mayFail c → mayFail' c) {c : Call} {a : c.Answer}
    (h : Contract mayFail c m a m') : Contract mayFail' c m a m' := by
  cases h with
  | obeyed => exact .obeyed _ _
  | shuffled answered perm => exact .shuffled answered perm
  | failed may _ e => exact .failed (himp _ may) _ e

/-- A call does what it says or fails, and then changes nothing. -/
theorem answered {c : Call} {a : c.Answer} (h : Contract mayFail c m a m') :
    (∀ e, a ≠ .error e) ∧ m' = (Memory.answer c m).2 ∨ (∃ e, a = .error e) ∧ m' = m := by
  cases h with
  | obeyed =>
    cases ha : (Memory.answer c m).1 with
    | ok b => exact .inl ⟨fun _ => nofun, rfl⟩
    | error e => exact .inr ⟨⟨e, rfl⟩, Memory.answer_error_same ha⟩
  | shuffled => exact .inl ⟨fun _ => nofun, (Memory.answer_list_same _ m).symm⟩
  | failed _ _ e => exact .inr ⟨⟨e, rfl⟩, rfl⟩

/-- What is stored after a call is told by its answer. -/
theorem documents_eq {c : Call} {a : c.Answer} {m₁ m₂ : Memory} (h : Contract mayFail c m a m₁)
    (h' : Contract mayFail c m a m₂) : m₁ = m₂ := by
  rcases h.answered with ⟨hok, rfl⟩ | ⟨⟨e, he⟩, rfl⟩ <;>
    rcases h'.answered with ⟨hok', rfl⟩ | ⟨⟨e', he'⟩, rfl⟩
  · rfl
  · exact absurd he' (hok e')
  · exact absurd he (hok' e)
  · rfl

/-- Where nothing fails, a call has one answer and one effect, up to the order of a listing. -/
theorem unique {c : Call} {a b : c.Answer} {m₁ m₂ : Memory} (h : Contract (fun _ => False) c m a m₁)
    (h' : Contract (fun _ => False) c m b m₂) : SameTold c a b ∧ m₁ = m₂ := by
  cases h with
  | obeyed =>
    generalize ha : (Memory.answer c m).1 = a at h' ⊢
    cases h' with
    | obeyed => exact ⟨ha ▸ .refl _ _, rfl⟩
    | shuffled answered perm =>
      rw [← ha, answered]
      exact ⟨.keys perm.symm, Memory.answer_list_same _ m⟩
    | failed may => exact may.elim
  | shuffled answered perm =>
    cases h' with
    | obeyed =>
      rw [answered]
      exact ⟨.keys perm, (Memory.answer_list_same _ m).symm⟩
    | shuffled answered' perm' =>
      cases answered.symm.trans answered'
      exact ⟨.keys (perm.trans perm'.symm), rfl⟩
    | failed may => exact may.elim
  | failed may => exact may.elim

end Contract

end Storefront.Storage
