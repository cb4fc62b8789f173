import Storefront.Proofs.Document.Records
import Storefront.Proofs.Shop.Immutable
import Storefront.Proofs.Shop.Sessions
import Storefront.Proofs.Storage.Conduct

/-!
# Programs that go in step

Two programs go in step if they make the same calls on storages that hold the same, except that an order may be
written in two ways that differ in how it is to be paid, and that each may ask payment providers as it likes in
between. What one reads where the other has read an order is then an order as well, and alike.
-/

namespace Storefront

/-! ## What is alike -/

/-- Orders that agree on all that has nothing to do with their payment. -/
structure Order.Alike (a b : Order) : Prop where
  user : a.user = b.user
  cart : a.cart = b.cart
  id : a.id = b.id
  status : a.status = b.status
  placedAt : a.placedAt = b.placedAt
  shipCharge : a.shipCharge = b.shipCharge

namespace Order

variable {a b : Order}

theorem Alike.refl (a : Order) : a.Alike a := ⟨rfl, rfl, rfl, rfl, rfl, rfl⟩

theorem Alike.itemTotal (h : a.Alike b) : a.itemTotal = b.itemTotal := congrArg Cart.total h.cart

theorem Alike.grandTotal (h : a.Alike b) : a.grandTotal = b.grandTotal := by
  unfold Order.grandTotal chargesShipping
  rw [h.itemTotal, h.shipCharge]

/-- Orders that are alike are read as orders that are alike. -/
theorem Alike.reread (h : a.Alike b) : a.reread.Alike b.reread :=
  ⟨h.user, congrArg Cart.reread h.cart, h.id, h.status, h.placedAt, congrArg Cents.reread h.shipCharge⟩

end Order

namespace Shop

open Storage (Memory Conduct Tracked)

/-- Two outcomes are the same error, or values that are related. -/
inductive Agree {ε α β : Type} (rel : α → β → Prop) : Except ε α → Except ε β → Prop where
  | error (e : ε) : Agree rel (.error e) (.error e)
  | ok {a : α} {b : β} (related : rel a b) : Agree rel (.ok a) (.ok b)

/-- The bytes of a document and of another one under the same key: they are equal, or they are orders that are
alike. -/
inductive DataAlike (key : String) : ByteArray → ByteArray → Prop where
  | same (data : ByteArray) : DataAlike key data data
  | orders {a b : Order} (isOrders : IsOrders key) (alike : a.Alike b) :
    DataAlike key (Document.encode a) (Document.encode b)

/-- Storages with the same keys and with documents that are alike. -/
def MemoryAlike (m m' : Memory) : Prop := ∀ key, Option.Rel (DataAlike key) (m.get? key) (m'.get? key)

/-- And which were called alike so far. -/
structure TrackedAlike (t t' : Tracked) : Prop where
  documents : MemoryAlike t.documents t'.documents
  calls : t.calls = t'.calls

variable {α β γ δ ε : Type} {rel : α → β → Prop} {rel' : γ → δ → Prop} {m m' : Memory} {key : String}
  {data data' : ByteArray}

theorem Agree.mono {r : Except ε α} {r' : Except ε β} {wider : α → β → Prop} (h : Agree rel r r')
    (himp : ∀ a b, rel a b → wider a b) : Agree wider r r' := by
  cases h with
  | error e => exact .error e
  | ok related => exact .ok (himp _ _ related)

namespace MemoryAlike

theorem refl (m : Memory) : MemoryAlike m m := by
  intro key
  cases m.get? key with
  | none => exact .none
  | some data => exact .some (.same data)

theorem isSome_eq (h : MemoryAlike m m') (key : String) : (m'.get? key).isSome = (m.get? key).isSome := by
  have hkey := h key
  cases hget : m.get? key with
  | none =>
    rw [hget] at hkey
    generalize m'.get? key = found at hkey
    cases hkey
    rfl
  | some data =>
    rw [hget] at hkey
    generalize m'.get? key = found at hkey
    cases hkey
    rfl

theorem put (h : MemoryAlike m m') (alike : DataAlike key data data') :
    MemoryAlike (m.put key data) (m'.put key data') := by
  intro other
  by_cases hkey : other = key
  · subst hkey
    rw [Memory.get?_put_self, Memory.get?_put_self]
    exact .some alike
  · rw [Memory.get?_put_of_ne hkey, Memory.get?_put_of_ne hkey]
    exact h other

theorem erase (h : MemoryAlike m m') (key : String) : MemoryAlike (m.erase key) (m'.erase key) := by
  intro other
  by_cases hkey : other = key
  · subst hkey
    rw [Memory.get?_erase_self, Memory.get?_erase_self]
    exact .none
  · rw [Memory.get?_erase_of_ne hkey, Memory.get?_erase_of_ne hkey]
    exact h other

/-! ### What is answered from both -/

theorem answer_get (h : MemoryAlike m m') (key : String) :
    Agree (Option.Rel (DataAlike key)) (Memory.answer (.get key) m).1 (Memory.answer (.get key) m').1 ∧
      MemoryAlike (Memory.answer (.get key) m).2 (Memory.answer (.get key) m').2 := by
  simp only [Memory.answer]
  cases Storage.readKey key with
  | ok _ => exact ⟨.ok (h key), h⟩
  | error e => exact ⟨.error e, h⟩

theorem answer_put (h : MemoryAlike m m') (alike : DataAlike key data data') :
    (Memory.answer (.put key data) m).1 = (Memory.answer (.put key data') m').1 ∧
      MemoryAlike (Memory.answer (.put key data) m).2 (Memory.answer (.put key data') m').2 := by
  simp only [Memory.answer]
  cases Storage.readKey key with
  | ok _ => exact ⟨rfl, h.put alike⟩
  | error e => exact ⟨rfl, h⟩

theorem answer_delete (h : MemoryAlike m m') (key : String) :
    (Memory.answer (.delete key) m).1 = (Memory.answer (.delete key) m').1 ∧
      MemoryAlike (Memory.answer (.delete key) m).2 (Memory.answer (.delete key) m').2 := by
  simp only [Memory.answer]
  cases Storage.readKey key with
  | ok _ => exact ⟨congrArg Except.ok (h.isSome_eq key).symm, h.erase key⟩
  | error e => exact ⟨rfl, h⟩

theorem answer_list (h : MemoryAlike m m') (start : String) :
    (Memory.answer (.list start) m).1 = (Memory.answer (.list start) m').1 ∧
      MemoryAlike (Memory.answer (.list start) m).2 (Memory.answer (.list start) m').2 := by
  simp only [Memory.answer]
  cases Storage.Listing.parse start with
  | ok l => exact ⟨congrArg Except.ok (Memory.listed_congr fun key _ => h.isSome_eq key).symm, h⟩
  | error e => exact ⟨rfl, h⟩

end MemoryAlike

/-! ## Single calls -/

variable {conduct : Conduct} {t t' u u' : Tracked}

/-- Calls with the same verb and key fail both, or are answered both from what is stored. -/
theorem served_alike {c c' : Storage.Call} {a : c.Answer} {a' : c'.Answer}
    (same : (c.verb, c.key) = (c'.verb, c'.key)) (h : TrackedAlike t t')
    (stored : MemoryAlike (Memory.answer c t.documents).2 (Memory.answer c' t'.documents).2)
    (served : conduct.storage c t a u) (served' : conduct.storage c' t' a' u') :
    ((∃ e, a = .error e ∧ a' = .error e) ∨ ∃ arrange,
      a = Storage.arranged arrange c (Memory.answer c t.documents).1 ∧
      a' = Storage.arranged arrange c' (Memory.answer c' t'.documents).1) ∧ TrackedAlike u u' := by
  have hcalls : (c.verb, c.key) :: t.calls = (c'.verb, c'.key) :: t'.calls := by rw [same, h.calls]
  rcases Conduct.storage_cases served with ⟨e, hfails, rfl, rfl⟩ | ⟨hfails, rfl, rfl⟩ <;>
    rcases Conduct.storage_cases served' with ⟨e', hfails', rfl, rfl⟩ | ⟨hfails', rfl, rfl⟩ <;>
      rw [hcalls, hfails'] at hfails
  · cases hfails
    exact ⟨.inl ⟨_, rfl, rfl⟩, h.documents, hcalls⟩
  · cases hfails
  · cases hfails
  · exact ⟨.inr ⟨_, by rw [hcalls], rfl⟩, stored, hcalls⟩

theorem get_alike (h : TrackedAlike t t') {a a' : Except StorageError (Option ByteArray)}
    (served : conduct.storage (.get key) t a u) (served' : conduct.storage (.get key) t' a' u') :
    Agree (Option.Rel (DataAlike key)) a a' ∧ TrackedAlike u u' := by
  obtain ⟨hagree, hstored⟩ := h.documents.answer_get key
  obtain ⟨⟨e, rfl, rfl⟩ | ⟨_, rfl, rfl⟩, halike⟩ := served_alike rfl h hstored served served'
  · exact ⟨.error e, halike⟩
  · exact ⟨hagree, halike⟩

theorem put_alike (h : TrackedAlike t t') (alike : DataAlike key data data') {a a' : Except StorageError Unit}
    (served : conduct.storage (.put key data) t a u) (served' : conduct.storage (.put key data') t' a' u') :
    a = a' ∧ TrackedAlike u u' := by
  obtain ⟨hsame, hstored⟩ := h.documents.answer_put alike
  have hcall : ((Storage.Call.put key data).verb, (Storage.Call.put key data).key) =
      ((Storage.Call.put key data').verb, (Storage.Call.put key data').key) := rfl
  obtain ⟨⟨e, rfl, rfl⟩ | ⟨_, rfl, rfl⟩, halike⟩ := served_alike hcall h hstored served served'
  · exact ⟨rfl, halike⟩
  · exact ⟨hsame, halike⟩

theorem delete_alike (h : TrackedAlike t t') {a a' : Except StorageError Bool}
    (served : conduct.storage (.delete key) t a u) (served' : conduct.storage (.delete key) t' a' u') :
    a = a' ∧ TrackedAlike u u' := by
  obtain ⟨hsame, hstored⟩ := h.documents.answer_delete key
  obtain ⟨⟨e, rfl, rfl⟩ | ⟨_, rfl, rfl⟩, halike⟩ := served_alike rfl h hstored served served'
  · exact ⟨rfl, halike⟩
  · exact ⟨hsame, halike⟩

theorem list_alike {start : String} (h : TrackedAlike t t') {a a' : Except StorageError (List String)}
    (served : conduct.storage (.list start) t a u) (served' : conduct.storage (.list start) t' a' u') :
    a = a' ∧ TrackedAlike u u' := by
  obtain ⟨hsame, hstored⟩ := h.documents.answer_list start
  obtain ⟨⟨e, rfl, rfl⟩ | ⟨_, rfl, rfl⟩, halike⟩ := served_alike rfl h hstored served served'
  · exact ⟨rfl, halike⟩
  · exact ⟨congrArg (Except.map _) hsame, halike⟩

/-! ## Whole programs -/

/-- Programs that make the same calls as long as they are answered alike, and end alike. Each may ask payment
providers at any time, and whatever these answer it remains in step. -/
inductive InStep (rel : α → β → Prop) : Program interface α → Program interface β → Prop where
  | done {a : α} {b : β} (related : rel a b) : InStep rel (.done a) (.done b)
  | get {key : String} {next : Except StorageError (Option ByteArray) → Program interface α}
    {next' : Except StorageError (Option ByteArray) → Program interface β}
    (rest : ∀ a a', Agree (Option.Rel (DataAlike key)) a a' → InStep rel (next a) (next' a')) :
    InStep rel (.call (.storage (.get key)) next) (.call (.storage (.get key)) next')
  | put {key : String} {data data' : ByteArray} {next : Except StorageError Unit → Program interface α}
    {next' : Except StorageError Unit → Program interface β} (alike : DataAlike key data data')
    (rest : ∀ a, InStep rel (next a) (next' a)) :
    InStep rel (.call (.storage (.put key data)) next) (.call (.storage (.put key data')) next')
  | delete {key : String} {next : Except StorageError Bool → Program interface α}
    {next' : Except StorageError Bool → Program interface β} (rest : ∀ a, InStep rel (next a) (next' a)) :
    InStep rel (.call (.storage (.delete key)) next) (.call (.storage (.delete key)) next')
  | list {start : String} {next : Except StorageError (List String) → Program interface α}
    {next' : Except StorageError (List String) → Program interface β}
    (rest : ∀ a, InStep rel (next a) (next' a)) :
    InStep rel (.call (.storage (.list start)) next) (.call (.storage (.list start)) next')
  | announce {event event' : OrderPlaced} {next : Unit → Program interface α}
    {next' : Unit → Program interface β} (rest : InStep rel (next ()) (next' ())) :
    InStep rel (.call (.announce event) next) (.call (.announce event') next')
  | payLeft {request : PaymentRequest} {next : Except ProviderError String → Program interface α}
    {p' : Program interface β} (rest : ∀ a, InStep rel (next a) p') :
    InStep rel (.call (.pay request) next) p'
  | payRight {request : PaymentRequest} {p : Program interface α}
    {next' : Except ProviderError String → Program interface β} (rest : ∀ a, InStep rel p (next' a)) :
    InStep rel p (.call (.pay request) next')

/-- A program that begins with a call on the storage goes on with what it has answered. -/
theorem runs_storage_call {σ : Type} {storage : Outside Storage.interface σ}
    {pay : PaymentRequest → Except ProviderError String} {c : Storage.Call}
    {next : c.Answer → Program interface α} {s s₁ : σ × Channel OrderPlaced}
    {trace : List (Exchange interface)} {r : α}
    (run : Program.Runs (ServedBy storage pay) (.call (.storage c) next) s trace r s₁) :
    ∃ a t rest, storage c s.1 a t ∧ Program.Runs (ServedBy storage pay) (next a) (t, s.2) rest r s₁ := by
  obtain ⟨a, rest, s₂, -, hserved, hrest⟩ := Program.runs_call_iff.1 run
  cases hserved with
  | storage served => exact ⟨a, _, rest, served, hrest⟩

/-- On storages of one conduct that hold the same up to payments, they end alike and leave the same. -/
theorem InStep.runs {p : Program interface α} {p' : Program interface β} (h : InStep rel p p')
    {pay pay' : PaymentRequest → Except ProviderError String} {s s₁ s' s₁' : Tracked × Channel OrderPlaced}
    {trace trace' : List (Exchange interface)} {a : α} {b : β}
    (run : Program.Runs (ServedBy conduct.storage pay) p s trace a s₁)
    (run' : Program.Runs (ServedBy conduct.storage pay') p' s' trace' b s₁')
    (alike : TrackedAlike s.1 s'.1) : rel a b ∧ TrackedAlike s₁.1 s₁'.1 := by
  -- a provider may be asked on one side alone, so the induction is on how the programs match
  induction h generalizing s s' trace trace' with
  | done related =>
    obtain ⟨-, rfl, rfl⟩ := Program.runs_done_iff.1 run
    obtain ⟨-, rfl, rfl⟩ := Program.runs_done_iff.1 run'
    exact ⟨related, alike⟩
  | get _ ih =>
    obtain ⟨_, _, _, served, hrest⟩ := runs_storage_call run
    obtain ⟨_, _, _, served', hrest'⟩ := runs_storage_call run'
    obtain ⟨hagree, halike⟩ := get_alike alike served served'
    exact ih _ _ hagree hrest hrest' halike
  | put data _ ih =>
    obtain ⟨_, _, _, served, hrest⟩ := runs_storage_call run
    obtain ⟨_, _, _, served', hrest'⟩ := runs_storage_call run'
    obtain ⟨rfl, halike⟩ := put_alike alike data served served'
    exact ih _ hrest hrest' halike
  | delete _ ih =>
    obtain ⟨_, _, _, served, hrest⟩ := runs_storage_call run
    obtain ⟨_, _, _, served', hrest'⟩ := runs_storage_call run'
    obtain ⟨rfl, halike⟩ := delete_alike alike served served'
    exact ih _ hrest hrest' halike
  | list _ ih =>
    obtain ⟨_, _, _, served, hrest⟩ := runs_storage_call run
    obtain ⟨_, _, _, served', hrest'⟩ := runs_storage_call run'
    obtain ⟨rfl, halike⟩ := list_alike alike served served'
    exact ih _ hrest hrest' halike
  | announce _ ih =>
    obtain ⟨_, _, _, -, hserved, hrest⟩ := Program.runs_call_iff.1 run
    obtain ⟨_, _, _, -, hserved', hrest'⟩ := Program.runs_call_iff.1 run'
    cases hserved
    cases hserved'
    exact ih hrest hrest' alike
  | payLeft _ ih =>
    obtain ⟨_, _, _, -, hserved, hrest⟩ := Program.runs_call_iff.1 run
    cases hserved
    exact ih _ hrest run' alike
  | payRight _ ih =>
    obtain ⟨_, _, _, -, hserved', hrest'⟩ := Program.runs_call_iff.1 run'
    cases hserved'
    exact ih _ run hrest' alike

/-! ## Sequences -/

/-- Sequences go in step if their parts do. -/
theorem InStep.bind {p : Program interface α} {p' : Program interface β} {f : α → Program interface γ}
    {f' : β → Program interface δ} (h : InStep rel p p') (hf : ∀ a b, rel a b → InStep rel' (f a) (f' b)) :
    InStep rel' (p >>= f) (p' >>= f') := by
  induction h with
  | done related => exact hf _ _ related
  | get _ ih => exact .get ih
  | put alike _ ih => exact .put alike ih
  | delete _ ih => exact .delete ih
  | list _ ih => exact .list ih
  | announce _ ih => exact .announce ih
  | payLeft _ ih => exact .payLeft ih
  | payRight _ ih => exact .payRight ih

/-- Operations that go in step and give values that are related, or fail in the same way. -/
abbrev Together (rel : α → β → Prop) (x : Operation α) (y : Operation β) : Prop :=
  InStep (Agree rel) x.run y.run

namespace Together

theorem pure {a : α} {b : β} (h : rel a b) : Together rel (pure a) (pure b) := .done (.ok h)

theorem throw (e : ShopError) : Together rel (throw e) (throw e) := .done (.error e)

theorem bind {x : Operation α} {y : Operation β} {f : α → Operation γ} {g : β → Operation δ}
    (h : Together rel x y) (hf : ∀ a b, rel a b → Together rel' (f a) (g b)) :
    Together rel' (x >>= f) (y >>= g) := by
  unfold Together
  rw [ExceptT.run_bind, ExceptT.run_bind]
  refine InStep.bind h fun r r' hr => ?_
  cases hr with
  | error e => exact .done (.error e)
  | ok related => exact hf _ _ related

theorem map {x : Operation α} {y : Operation β} {f : α → γ} {g : β → δ} (h : Together rel x y)
    (hf : ∀ a b, rel a b → rel' (f a) (g b)) : Together rel' (f <$> x) (g <$> y) := by
  rw [map_eq_pure_bind, map_eq_pure_bind]
  exact h.bind fun a b hab => pure (hf a b hab)

theorem mapM {f : γ → Operation α} {g : γ → Operation β} (hf : ∀ c, Together rel (f c) (g c)) (cs : List γ) :
    Together (List.Forall₂ rel) (cs.mapM f) (cs.mapM g) := by
  induction cs with
  | nil => exact pure .nil
  | cons c cs ih =>
    rw [List.mapM_cons, List.mapM_cons]
    exact (hf c).bind fun a b hab => ih.bind fun as bs hrest => pure (.cons hab hrest)

/-! ## Calls on the storage -/

theorem get (key : String) :
    Together (Option.Rel (DataAlike key)) (onStorage (.get key)) (onStorage (.get key)) := by
  refine InStep.get fun a a' h => .done ?_
  cases h with
  | error e => exact .error _
  | ok related => exact .ok related

theorem put (alike : DataAlike key data data') :
    Together (fun _ _ => True) (onStorage (.put key data)) (onStorage (.put key data')) := by
  refine InStep.put alike fun a => .done ?_
  cases a with
  | error e => exact .error _
  | ok u => exact .ok trivial

theorem delete (key : String) : Together Eq (onStorage (.delete key)) (onStorage (.delete key)) := by
  refine InStep.delete fun a => .done ?_
  cases a with
  | error e => exact .error _
  | ok found => exact .ok rfl

theorem list (start : String) : Together Eq (onStorage (.list start)) (onStorage (.list start)) := by
  refine InStep.list fun a => .done ?_
  cases a with
  | error e => exact .error _
  | ok keys => exact .ok rfl

/-- What reads the document under a key reads what is alike if documents that are alike are read so. -/
theorem readDocument [Document α] {rel : α → α → Prop}
    (hdecode : ∀ data data', DataAlike key data data' →
      Agree rel (Document.decode data : Except Unreadable α) (Document.decode data')) :
    Together (Option.Rel rel) (readDocument α key) (readDocument α key) := by
  refine (get key).bind fun found found' h => ?_
  cases h with
  | none => exact pure .none
  | @some data data' alike =>
    have hread := hdecode _ _ alike
    dsimp only
    generalize (Document.decode data : Except Unreadable α) = r at hread
    generalize (Document.decode data' : Except Unreadable α) = r' at hread
    cases hread with
    | error e => exact throw _
    | ok related => exact pure (.some related)

end Together

end Shop

end Storefront
