import Storefront.Proofs.Program
import Storefront.Proofs.Shop.Layout
import Storefront.Proofs.Storage.Contract
import Storefront.Shop.World

/-!
# Runs of a shop

A shop works on documents and announces its orders on a channel. In a run of one of its operations
the storage keeps its contract and may fail where it is allowed to, at every call anew; the payment
providers answer as they like; and an announcement is an event that every producer of the channel
offers.
-/

namespace Storefront.Shop

open Storage (Memory Contract isKey)

/-- What the operations of a shop work on. -/
structure Scene where
  documents : Memory
  channel : Channel OrderPlaced

/-- How the calls of a shop are answered. -/
inductive Serves (mayFail : Storage.Call → Prop) : Outside interface Scene where
  /-- The storage keeps its contract. -/
  | storage {request : Storage.Call} {m m' : Memory} {a : request.Answer}
    (kept : Contract mayFail request m a m') (channel : Channel OrderPlaced) :
    Serves mayFail (.storage request) ⟨m, channel⟩ a ⟨m', channel⟩
  /-- A provider gives any answer. -/
  | pay (request : PaymentRequest) (a : Except ProviderError String) (s : Scene) :
    Serves mayFail (.pay request) s a s
  /-- An order is announced by every producer. -/
  | announce (event : OrderPlaced) (s : Scene) :
    Serves mayFail (.announce event) s () { s with channel := World.offerAll s.channel event }

/-- A run of an operation: the scene before it, the calls with their answers, its outcome, and the
scene after it. -/
abbrev Runs {α : Type} (mayFail : Storage.Call → Prop) (operation : Operation α) (s : Scene)
    (trace : List (Exchange interface)) (r : Except ShopError α) (s' : Scene) : Prop :=
  Program.Runs (Serves mayFail) operation.run s trace r s'

/-- Any operation may go through without a failure, whatever it finds. -/
theorem exists_runs {α : Type} (mayFail : Storage.Call → Prop) (operation : Operation α) (s : Scene) :
    ∃ trace r s', Runs mayFail operation s trace r s' := by
  refine Program.exists_runs (fun request s => ?_) operation.run s
  cases request with
  | storage request => exact ⟨_, _, .storage (.obeyed request s.documents) s.channel⟩
  | pay request => exact ⟨.ok "", s, .pay request _ s⟩
  | announce event => exact ⟨(), _, .announce event s⟩

theorem Runs.mono {α : Type} {mayFail mayFail' : Storage.Call → Prop}
    (himp : ∀ c, mayFail c → mayFail' c) {operation : Operation α} {s s' : Scene}
    {trace : List (Exchange interface)} {r : Except ShopError α}
    (h : Runs mayFail operation s trace r s') : Runs mayFail' operation s trace r s' := by
  refine Program.Runs.mono ?_ h
  intro request s a s' hserved
  cases hserved with
  | storage kept channel => exact .storage (kept.mono himp) channel
  | pay request a s => exact .pay request a s
  | announce event s => exact .announce event s

/-! ## What a trace tells -/

/-- The calls on the storage that failed, and why. -/
def failures (trace : List (Exchange interface)) : List (Storage.Call × StorageError) :=
  trace.filterMap fun
    | ⟨.storage request, (a : request.Answer)⟩ =>
      match a with
      | .error e => some (request, e)
      | .ok _ => none
    | _ => none

/-- The documents that were written, with their keys. -/
def written (trace : List (Exchange interface)) : List (String × ByteArray) :=
  trace.filterMap fun
    | ⟨.storage (.put key data), (a : Except StorageError Unit)⟩ =>
      match a with
      | .error _ => none
      | .ok _ => some (key, data)
    | _ => none

@[simp] theorem failures_nil : failures [] = [] := rfl

@[simp] theorem written_nil : written [] = [] := rfl

@[simp] theorem failures_append (first second : List (Exchange interface)) :
    failures (first ++ second) = failures first ++ failures second :=
  List.filterMap_append

@[simp] theorem written_append (first second : List (Exchange interface)) :
    written (first ++ second) = written first ++ written second :=
  List.filterMap_append

/-! ## Single calls -/

variable {mayFail : Storage.Call → Prop} {s s' : Scene} {trace : List (Exchange interface)}

theorem runs_onStorage {request : Storage.Call} {r : Except ShopError request.Result}
    (h : Runs mayFail (onStorage request) s trace r s') :
    ∃ a : request.Answer, Contract mayFail request s.documents a s'.documents ∧
      s'.channel = s.channel ∧ trace = [⟨.storage request, a⟩] ∧ r = a.mapError .storage := by
  obtain ⟨a, rest, s₁, rfl, hserved, hdone⟩ := Program.runs_call_iff.1 h
  obtain ⟨rfl, rfl, rfl⟩ := Program.runs_done_iff.1 hdone
  cases hserved with
  | storage kept channel => exact ⟨a, kept, rfl, rfl, rfl⟩

theorem runs_askProvider {request : PaymentRequest}
    {r : Except ShopError (Except ProviderError String)}
    (h : Runs mayFail (askProvider request) s trace r s') :
    ∃ a, trace = [⟨.pay request, a⟩] ∧ r = .ok a ∧ s' = s := by
  obtain ⟨a, rest, s₁, rfl, hserved, hdone⟩ := Program.runs_call_iff.1 h
  obtain ⟨rfl, rfl, rfl⟩ := Program.runs_done_iff.1 hdone
  cases hserved with
  | pay => exact ⟨a, rfl, rfl, rfl⟩

theorem runs_announce {event : OrderPlaced} {r : Except ShopError Unit}
    (h : Runs mayFail (announce event) s trace r s') :
    failures trace = [] ∧ written trace = [] ∧ r = .ok () ∧
      s' = { s with channel := World.offerAll s.channel event } := by
  obtain ⟨a, rest, s₁, rfl, hserved, hdone⟩ := Program.runs_call_iff.1 h
  obtain ⟨rfl, rfl, rfl⟩ := Program.runs_done_iff.1 hdone
  cases hserved with
  | announce => exact ⟨rfl, rfl, rfl, rfl⟩

/-- A scene is its documents and its channel. -/
theorem Scene.eq_of {s s' : Scene} {m : Memory} (hdocuments : s'.documents = m)
    (hchannel : s'.channel = s.channel) : s' = { s with documents := m } := by
  cases s; cases s'; cases hdocuments; cases hchannel; rfl

variable {key : String} {data : ByteArray}

theorem runs_get (hkey : isKey key = true) {r : Except ShopError (Option ByteArray)}
    (h : Runs mayFail (onStorage (.get key)) s trace r s') :
    s' = s ∧ written trace = [] ∧
      (failures trace = [] ∧ r = .ok (s.documents.get? key) ∨
        ∃ e, mayFail (.get key) ∧ failures trace = [(.get key, e)] ∧ r = .error (.storage e)) := by
  obtain ⟨a, hkept, hchannel, rfl, rfl⟩ := runs_onStorage h
  obtain ⟨hsame, rfl | ⟨may, e, rfl⟩⟩ := hkept.get hkey
  · exact ⟨Scene.eq_of hsame hchannel, rfl, .inl ⟨rfl, rfl⟩⟩
  · exact ⟨Scene.eq_of hsame hchannel, rfl, .inr ⟨e, may, rfl, rfl⟩⟩

theorem runs_put (hkey : isKey key = true) {r : Except ShopError Unit}
    (h : Runs mayFail (onStorage (.put key data)) s trace r s') :
    failures trace = [] ∧ written trace = [(key, data)] ∧ r = .ok () ∧
        s' = { s with documents := s.documents.put key data } ∨
      ∃ e, mayFail (.put key data) ∧ failures trace = [(.put key data, e)] ∧ written trace = [] ∧
        r = .error (.storage e) ∧ s' = s := by
  obtain ⟨a, hkept, hchannel, rfl, rfl⟩ := runs_onStorage h
  rcases hkept.put hkey with ⟨rfl, hput⟩ | ⟨may, ⟨e, rfl⟩, hsame⟩
  · exact .inl ⟨rfl, rfl, rfl, Scene.eq_of hput hchannel⟩
  · exact .inr ⟨e, may, rfl, rfl, rfl, Scene.eq_of hsame hchannel⟩

theorem runs_delete (hkey : isKey key = true) {r : Except ShopError Bool}
    (h : Runs mayFail (onStorage (.delete key)) s trace r s') :
    written trace = [] ∧
      (failures trace = [] ∧ r = .ok (s.documents.contains key) ∧
          s' = { s with documents := s.documents.erase key } ∨
        ∃ e, mayFail (.delete key) ∧ failures trace = [(.delete key, e)] ∧
          r = .error (.storage e) ∧ s' = s) := by
  obtain ⟨a, hkept, hchannel, rfl, rfl⟩ := runs_onStorage h
  rcases hkept.delete hkey with ⟨rfl, hput⟩ | ⟨may, ⟨e, rfl⟩, hsame⟩
  · exact ⟨rfl, .inl ⟨rfl, rfl, Scene.eq_of hput hchannel⟩⟩
  · exact ⟨rfl, .inr ⟨e, may, rfl, rfl, Scene.eq_of hsame hchannel⟩⟩

/-- A listing shows the keys in some order, or fails. -/
theorem runs_list {start : String} {l : Storage.Listing}
    (hl : Storage.Listing.parse start = .ok l) {r : Except ShopError (List String)}
    (h : Runs mayFail (onStorage (.list start)) s trace r s') :
    s' = s ∧ written trace = [] ∧
      ((∃ keys, failures trace = [] ∧ r = .ok keys ∧ keys.Perm (s.documents.listed l)) ∨
        ∃ e, mayFail (.list start) ∧ failures trace = [(.list start, e)] ∧
          r = .error (.storage e)) := by
  obtain ⟨a, hkept, hchannel, rfl, rfl⟩ := runs_onStorage h
  obtain ⟨hsame, ⟨keys, rfl, hperm⟩ | ⟨may, e, rfl⟩⟩ := hkept.list hl
  · exact ⟨Scene.eq_of hsame hchannel, rfl, .inl ⟨keys, rfl, rfl, hperm⟩⟩
  · exact ⟨Scene.eq_of hsame hchannel, rfl, .inr ⟨e, may, rfl, rfl⟩⟩

/-! ## Documents -/

variable {α : Type} [Document α]

/-- What is stored under a key, if it can be read. -/
def stored? (α : Type) [Document α] (m : Memory) (key : String) :
    Except StorageError (Option α) :=
  match m.get? key with
  | none => .ok none
  | some data =>
    match Document.decode data with
    | .ok a => .ok (some a)
    | .error reason => .error (.corrupt key reason)

/-- Reading a document gives what is stored, tells that it cannot be read, or fails. -/
theorem runs_readDocument (hkey : isKey key = true) {r : Except ShopError (Option α)}
    (h : Runs mayFail (readDocument α key) s trace r s') :
    s' = s ∧ written trace = [] ∧
      (failures trace = [] ∧ r = (stored? α s.documents key).mapError .storage ∨
        ∃ e, mayFail (.get key) ∧ failures trace = [(.get key, e)] ∧ r = .error (.storage e)) := by
  rcases Program.runs_except_bind_iff.1 h with
    ⟨e, rfl, hget⟩ | ⟨first, second, found, s₁, rfl, hget, hrest⟩
  · obtain ⟨rfl, hwritten, ⟨-, he⟩ | hfailed⟩ := runs_get hkey hget
    · cases he
    · obtain ⟨e', may, hfail, he⟩ := hfailed
      exact ⟨rfl, hwritten, .inr ⟨e', may, hfail, by cases he; rfl⟩⟩
  · obtain ⟨rfl, hwritten, ⟨hfail, hfound⟩ | ⟨e, -, -, he⟩⟩ := runs_get hkey hget
    · cases hfound
      have hr : second = [] ∧ r = (stored? α s₁.documents key).mapError .storage ∧ s' = s₁ := by
        unfold stored?
        cases hdata : s₁.documents.get? key with
        | none =>
          rw [hdata] at hrest
          exact Program.runs_pure_iff.1 hrest
        | some data =>
          rw [hdata] at hrest
          cases hdecode : (Document.decode data : Except Unreadable α) with
          | ok a =>
            simp only [hdecode] at hrest ⊢
            exact Program.runs_pure_iff.1 hrest
          | error reason =>
            simp only [hdecode] at hrest ⊢
            exact Program.runs_throw_iff.1 hrest
      obtain ⟨rfl, rfl, rfl⟩ := hr
      exact ⟨rfl, by simpa using hwritten, .inl ⟨by simpa using hfail, rfl⟩⟩
    · cases he

/-! ## A small shop -/

namespace Sample

/-- The only product. -/
def product : Product := ⟨"A", "Apple", ⟨250⟩, ""⟩

/-- A shop that sells one product and whose pages all fail. -/
def shop : Shop where
  catalog := Catalog.empty.insert product (by decide)
  config := .default
  render template _ := .error (.unknownTemplate template)

/-- A buyer. -/
def buyer : UserId := ⟨"bob", by decide⟩

/-- The cart with one unit of the product. -/
def cart : Cart := ⟨[⟨product, 1⟩], .epoch⟩

/-- A moment at which nothing is known of rates and no provider is there. -/
def moment : Moment := ⟨.epoch, .unattached, false, false⟩

/-- An empty storage and a channel with one producer. -/
def scene : Scene := ⟨.empty, ⟨1, by decide, [], by decide, true, 1⟩⟩

/-- The scene once the cart is stored. -/
def filled : Scene :=
  { scene with documents := Memory.empty.put (cartKey buyer) (Document.encode cart) }

theorem get?_product : shop.catalog.get? "A" = some product := by decide

end Sample

end Storefront.Shop
