import Storefront.Proofs.Program
import Storefront.Proofs.Storage.Contract

/-!
# How a storage conducts itself

What a storage leaves open is which calls fail and in which order the keys of a listing come. A conduct settles
both, by the verbs and the keys of the calls so far. Nothing that is written counts for it, so storages of one
conduct behave alike as long as they are called alike, whatever they hold.
-/

namespace Storefront.Storage

/-- Which calls fail, and in which order keys come. Both depend on the verbs and keys of the calls so far, of
which the first is the one that is being answered. -/
structure Conduct where
  /-- Why the call fails, if it does. -/
  fails : List (String × String) → Option StorageError
  /-- The keys of a listing in the order in which they come. -/
  arrange : List (String × String) → List String → List String
  /-- No key is lost or made up. -/
  perm : ∀ calls keys, (arrange calls keys).Perm keys

/-- A storage in memory with a record of the calls. -/
structure Tracked where
  documents : Memory
  /-- The verbs and keys of the calls that were made, the last one first. -/
  calls : List (String × String)

/-- What becomes of the answer to a listing. -/
def arranged (arrange : List String → List String) : (c : Call) → c.Answer → c.Answer
  | .list _, (a : Except StorageError (List String)) => a.map arrange
  | .get _, a => a
  | .put _ _, a => a
  | .delete _, a => a

namespace Conduct

/-- Answers a call and records it. -/
def answer (conduct : Conduct) (c : Call) : StateM Tracked c.Answer := fun t =>
  let calls := (c.verb, c.key) :: t.calls
  match conduct.fails calls with
  | some e => (.error e, { t with calls := calls })
  | none =>
    let (a, documents) := (Memory.answer c).run t.documents
    (arranged (conduct.arrange calls) c a, ⟨documents, calls⟩)

/-- The storage as an outside. -/
def storage (conduct : Conduct) : Outside interface Tracked := fun c t a t' => conduct.answer c t = (a, t')

variable {conduct : Conduct} {c : Call} {t t' : Tracked} {a : c.Answer}

theorem storage_total (conduct : Conduct) (c : Call) (t : Tracked) : ∃ a t', conduct.storage c t a t' :=
  ⟨_, _, rfl⟩

/-- A call fails as the conduct has it, or is answered from what is stored. -/
theorem storage_cases (h : conduct.storage c t a t') :
    (∃ e, conduct.fails ((c.verb, c.key) :: t.calls) = some e ∧ a = .error e ∧
      t' = ⟨t.documents, (c.verb, c.key) :: t.calls⟩) ∨
    conduct.fails ((c.verb, c.key) :: t.calls) = none ∧
      a = arranged (conduct.arrange ((c.verb, c.key) :: t.calls)) c (Memory.answer c t.documents).1 ∧
      t' = ⟨(Memory.answer c t.documents).2, (c.verb, c.key) :: t.calls⟩ := by
  unfold storage answer at h
  dsimp only at h
  split at h
  · next e hfails =>
    cases h
    exact .inl ⟨e, hfails, rfl, rfl⟩
  · next hfails =>
    cases h
    exact .inr ⟨hfails, rfl, rfl⟩

/-- The storage keeps its contract. -/
theorem contract_of_storage (h : conduct.storage c t a t') :
    Contract (fun _ => True) c t.documents a t'.documents := by
  rcases storage_cases h with ⟨e, -, rfl, rfl⟩ | ⟨-, rfl, rfl⟩
  · exact .failed trivial _ _
  · cases c with
    | get | put | delete => exact .obeyed _ _
    | list start =>
      have hobeyed : Contract (fun _ => True) (.list start) t.documents _ _ := .obeyed (.list start) t.documents
      have hsame := Memory.answer_list_same start t.documents
      show Contract _ (.list start) t.documents (Except.map _ (Memory.answer (.list start) t.documents).1)
        (Memory.answer (.list start) t.documents).2
      cases hanswer : (Memory.answer (.list start) t.documents).1 with
      | error e =>
        rw [hanswer] at hobeyed
        exact hobeyed
      | ok keys =>
        rw [hsame]
        exact .shuffled hanswer (conduct.perm _ keys)

end Conduct

end Storefront.Storage
