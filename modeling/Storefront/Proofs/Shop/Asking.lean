import Storefront.Proofs.Program
import Storefront.Shop.Pages

/-!
# What operations call

Which calls an operation may make is told by a relation between a call and what is known of its answer, and
what a sequence calls is what its parts call. Operations that give a cart or the orders so far only look at the
storage, and no operation calls anything else that neither settles nor announces an order.
-/

namespace Storefront.Shop

variable {α β σ : Type} {allowed : (request : Call) → (request.Answer → Prop) → Prop} {kind : α → Prop}
  {kind' : β → Prop}

/-- An operation makes none but allowed calls, and what it gives if it succeeds is of some kind. -/
def Asking (allowed : (request : Call) → (request.Answer → Prop) → Prop) (kind : α → Prop)
    (operation : Operation α) : Prop :=
  Program.Asks (I := interface) allowed (fun r => ∀ a, r = .ok a → kind a) operation.run

namespace Asking

theorem pure {a : α} (h : kind a) : Asking allowed kind (pure a) := .done fun _ ha => Except.ok.inj ha ▸ h

theorem throw (e : ShopError) : Asking allowed kind (throw e) := .done fun _ ha => by cases ha

theorem bind {x : Operation α} {f : α → Operation β} (hx : Asking allowed kind x)
    (hf : ∀ a, kind a → Asking allowed kind' (f a)) : Asking allowed kind' (x >>= f) := by
  unfold Asking at hx ⊢
  rw [ExceptT.run_bind]
  refine hx.bind fun r hr => ?_
  cases r with
  | error e => exact .done fun _ ha => by cases ha
  | ok a => exact hf a (hr a rfl)

/-- Nothing more is called where the value is only taken through a function. -/
theorem map {x : Operation α} (hx : Asking allowed kind x) (f : α → β) :
    Asking allowed (fun _ => True) (f <$> x) := by
  rw [map_eq_pure_bind]
  exact hx.bind fun _ _ => pure trivial

theorem mapM {f : α → Operation β} {as : List α} (hf : ∀ a ∈ as, Asking allowed (fun _ => True) (f a)) :
    Asking allowed (fun _ => True) (as.mapM f) := by
  induction as with
  | nil => exact pure trivial
  | cons a as ih =>
    rw [List.mapM_cons]
    exact (hf a List.mem_cons_self).bind fun _ _ =>
      (ih fun b hb => hf b (List.mem_cons_of_mem _ hb)).bind fun _ _ => pure trivial

theorem onStorage {request : Storage.Call} {expected : request.Answer → Prop}
    (h : allowed (.storage request) expected) :
    Asking allowed (fun a => expected (.ok a)) (onStorage request) := by
  refine .call h fun answer hanswer => .done fun a ha => ?_
  cases answer with
  | error e => cases ha
  | ok b =>
    cases ha
    exact hanswer

end Asking

/-! ## Looking at the storage -/

/-- The calls that look at the storage, of whose answers nothing is known. -/
inductive ToLook : (request : Call) → (request.Answer → Prop) → Prop where
  | get (key : String) : ToLook (.storage (.get key)) fun _ => True
  | list (start : String) : ToLook (.storage (.list start)) fun _ => True

/-- An operation looks at the storage and calls nothing else. -/
abbrev LookOnly (operation : Operation α) : Prop := Asking ToLook (fun _ => True) operation

/-- A call with its answer is a look at the storage. -/
inductive Looks : Exchange interface → Prop where
  | get (key : String) (answer : (Storage.Call.get key).Answer) : Looks ⟨.storage (.get key), answer⟩
  | list (start : String) (answer : (Storage.Call.list start).Answer) :
    Looks ⟨.storage (.list start), answer⟩

namespace LookOnly

/-- So all calls in its runs are looks, whatever the outside. -/
theorem looks_of_mem {operation : Operation α} {serve : Outside interface σ} {s s' : σ}
    {trace : List (Exchange interface)} {r : Except ShopError α} (h : LookOnly operation)
    (run : Program.Runs serve operation.run s trace r s') : ∀ exchange ∈ trace, Looks exchange := by
  refine Program.Asks.forall_mem (fun allows answer => ?_) h run
  cases allows with
  | get key => exact ⟨trivial, .get key answer⟩
  | list start => exact ⟨trivial, .list start answer⟩

theorem get (key : String) : LookOnly (onStorage (.get key)) := Asking.onStorage (ToLook.get key)

theorem list (start : String) : LookOnly (onStorage (.list start)) :=
  Asking.onStorage (ToLook.list start)

theorem readDocument (α : Type) [Document α] (key : String) : LookOnly (readDocument α key) := by
  refine (get key).bind fun found _ => ?_
  split
  · exact Asking.pure trivial
  · split
    · exact Asking.pure trivial
    · exact Asking.throw _

theorem cart (user : UserId) : LookOnly (cart user) :=
  (readDocument Cart _).bind fun _ _ => Asking.pure trivial

theorem nextOrderId (user : UserId) : LookOnly (nextOrderId user) := by
  refine (list _).bind fun keys _ => ?_
  dsimp only
  split
  · exact Asking.pure trivial
  · exact Asking.throw _

theorem readableOrder (key : String) : LookOnly (readableOrder key) := by
  refine Program.Asks.bind (readDocument Order key) fun r _ => ?_
  cases r <;> exact .done fun _ _ => trivial

theorem orders (user : UserId) : LookOnly (orders user) := by
  refine (list _).bind fun keys _ => ?_
  exact (Asking.mapM fun key _ => readableOrder key).bind fun _ _ => Asking.pure trivial

theorem renderPage (shop : Shop) (template : String) (data : Json) :
    LookOnly (renderPage shop template data) := by
  unfold Shop.renderPage
  split
  · exact Asking.pure trivial
  · exact Asking.throw _

end LookOnly

/-! ## Calls on the storage alone -/

/-- The calls on the storage, of whose answers nothing is known. -/
inductive ToStorage : (request : Call) → (request.Answer → Prop) → Prop where
  | storage (request : Storage.Call) : ToStorage (.storage request) fun _ => True

/-- An operation calls nothing but the storage. -/
abbrev StorageOnly (operation : Operation α) : Prop := Asking ToStorage (fun _ => True) operation

/-- A call with its answer is one on the storage. -/
inductive OnStorage : Exchange interface → Prop where
  | mk (request : Storage.Call) (answer : request.Answer) : OnStorage ⟨.storage request, answer⟩

theorem LookOnly.storageOnly {operation : Operation α} (h : LookOnly operation) :
    StorageOnly operation := by
  refine Program.Asks.mono (fun allows => ?_) h
  cases allows with
  | get key => exact .storage (.get key)
  | list start => exact .storage (.list start)

namespace StorageOnly

theorem onStorage_of_mem {operation : Operation α} {serve : Outside interface σ} {s s' : σ}
    {trace : List (Exchange interface)} {r : Except ShopError α} (h : StorageOnly operation)
    (run : Program.Runs serve operation.run s trace r s') : ∀ exchange ∈ trace, OnStorage exchange := by
  refine Program.Asks.forall_mem (fun allows answer => ?_) h run
  cases allows with
  | storage request => exact ⟨trivial, .mk request answer⟩

theorem call (request : Storage.Call) : StorageOnly (onStorage request) :=
  Asking.onStorage (ToStorage.storage request)

theorem addToCart (shop : Shop) (now : Timestamp) (user : UserId) (sku : String) :
    StorageOnly (addToCart shop now user sku) := by
  unfold Shop.addToCart
  split
  · exact Asking.throw _
  · exact (LookOnly.cart user).storageOnly.bind fun _ _ => (call _).bind fun _ _ => Asking.pure trivial

end StorageOnly

end Storefront.Shop
