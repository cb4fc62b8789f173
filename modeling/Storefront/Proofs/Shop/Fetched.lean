import Mathlib.Data.List.Perm.Basic
import Storefront.Proofs.Shop.Parts
import Storefront.Proofs.Shop.Sessions

/-!
# Orders from what was fetched

The orders of a buyer are listed once and then fetched one by one, and each answer decides alone whether
there is an order in it. So whatever the storage is and whatever it answers, the history of a buyer is told
by the listing and the answers to the fetches: only a listing that fails makes it fail.
-/

namespace Storefront.Shop

open Storage (Memory Listing SameTold)

/-- A key that was fetched, with the answer. -/
abbrev FetchedDocument : Type := String × Except StorageError (Option ByteArray)

namespace FetchedDocument

/-- The call. -/
def exchange (fetched : FetchedDocument) : Exchange interface := ⟨.storage (.get fetched.1), fetched.2⟩

/-- The order in the answer, if there is one that can be read. -/
def order? (fetched : FetchedDocument) : Option Order :=
  match fetched.2 with
  | .ok (some data) => (Document.decode data).toOption
  | .ok none | .error _ => none

end FetchedDocument

/-- Has fetching a key failed in the course of some calls? -/
def unfetched? (trace : List (Exchange interface)) (key : String) : Bool :=
  (failures trace).any fun
    | (.get other, _) => other == key
    | _ => false

/-- How the history of a buyer comes out, given the answers to the calls. -/
inductive HistoryFrom (user : UserId) :
    List (Exchange interface) → Except ShopError (List Order) → Prop where
  /-- The documents could not be listed, and nothing else was called. -/
  | unlisted (e : StorageError) :
    HistoryFrom user [⟨.storage (.list (ordersFolder user ++ "/")), .error e⟩] (.error (.storage e))
  /-- Each key was fetched once, and the orders that were found are given by number. -/
  | told {fetched : List FetchedDocument} {found : List Order}
    (sorted : found.Pairwise fun a b => a.id.toNat ≤ b.id.toNat)
    (same : found.Perm (fetched.filterMap FetchedDocument.order?)) :
    HistoryFrom user
      (⟨.storage (.list (ordersFolder user ++ "/")), .ok (fetched.map Prod.fst)⟩ ::
        fetched.map FetchedDocument.exchange) (.ok found)

/-- How the history of a buyer comes out, given the documents right in the folder of the orders. -/
inductive HistoryOf (user : UserId) (docs : List (String × ByteArray)) (trace : List (Exchange interface)) :
    Except ShopError (List Order) → Prop where
  | unlisted {e : StorageError} (failed : trace = [⟨.storage (.list (ordersFolder user ++ "/")), .error e⟩]) :
    HistoryOf user docs trace (.error (.storage e))
  /-- The orders are those in the documents that could be fetched and read, by number. -/
  | told {found : List Order} (listed : ∀ e, (.list (ordersFolder user ++ "/"), e) ∉ failures trace)
    (sorted : found.Pairwise fun a b => a.id.toNat ≤ b.id.toNat)
    (same : found.Perm (docs.filterMap fun document =>
      if unfetched? trace document.1 then none else (Document.decode document.2).toOption)) :
    HistoryOf user docs trace (.ok found)

variable {σ α : Type} {serve : Outside interface σ} {storage : Outside Storage.interface σ}
  {pay : PaymentRequest → Except ProviderError String} {s s' : σ} {trace : List (Exchange interface)}
  {shop : Shop} {moment : Moment} {user : UserId} {channel : Channel OrderPlaced}
  {docs : List (String × ByteArray)}

/-! ## Whatever the outside -/

theorem runs_readDocument_fetched [Document α] {key : String} {r : Except ShopError (Option α)}
    (run : Program.Runs serve (readDocument α key).run s trace r s') :
    ∃ answer : Except StorageError (Option ByteArray), trace = [⟨.storage (.get key), answer⟩] ∧
      ((∃ e, answer = .error e ∧ r = .error (.storage e)) ∨ (answer = .ok none ∧ r = .ok none) ∨
        ∃ data, answer = .ok (some data) ∧ ((∃ a, Document.decode data = .ok a ∧ r = .ok (some a)) ∨
          ∃ reason, (Document.decode data : Except Unreadable α) = .error reason ∧
            r = .error (.storage (.corrupt key reason)))) := by
  rcases Program.runs_except_bind_iff.1 run with
    ⟨e, rfl, hget⟩ | ⟨first, second, found, s₁, rfl, hget, hrest⟩
  · obtain ⟨answer, rfl, he⟩ := runs_onStorage_answer hget
    obtain ⟨cause, rfl, rfl⟩ := Program.mapError_eq_error_iff.1 he.symm
    exact ⟨_, rfl, .inl ⟨cause, rfl, rfl⟩⟩
  · obtain ⟨answer, rfl, hok⟩ := runs_onStorage_answer hget
    obtain rfl := Program.mapError_eq_ok_iff.1 hok.symm
    cases found with
    | none =>
      obtain ⟨rfl, rfl, -⟩ := Program.runs_pure_iff.1 hrest
      exact ⟨_, rfl, .inr (.inl ⟨rfl, rfl⟩)⟩
    | some data =>
      cases hdecode : (Document.decode data : Except Unreadable α) with
      | ok a =>
        simp only [hdecode] at hrest
        obtain ⟨rfl, rfl, -⟩ := Program.runs_pure_iff.1 hrest
        exact ⟨_, rfl, .inr (.inr ⟨data, rfl, .inl ⟨a, hdecode, rfl⟩⟩)⟩
      | error reason =>
        simp only [hdecode] at hrest
        obtain ⟨rfl, rfl, -⟩ := Program.runs_throw_iff.1 hrest
        exact ⟨_, rfl, .inr (.inr ⟨data, rfl, .inr ⟨reason, hdecode, rfl⟩⟩)⟩

/-- Fetching one order never fails. -/
theorem runs_readableOrder_fetched {key : String} {r : Except ShopError (Option Order)}
    (run : Program.Runs serve (readableOrder key).run s trace r s') :
    ∃ fetched : FetchedDocument, fetched.1 = key ∧ trace = [fetched.exchange] ∧ r = .ok fetched.order? := by
  obtain ⟨first, second, read, s₁, rfl, hread, hrest⟩ := Program.runs_bind_iff.1 run
  obtain ⟨answer, rfl, hanswer⟩ := runs_readDocument_fetched hread
  refine ⟨(key, answer), rfl, ?_⟩
  rcases hanswer with ⟨e, rfl, rfl⟩ | ⟨rfl, rfl⟩ | ⟨data, rfl, ⟨order, hdecode, rfl⟩ | ⟨reason, hdecode, rfl⟩⟩
  all_goals
    obtain ⟨rfl, rfl, -⟩ := Program.runs_done_iff.1 hrest
    refine ⟨rfl, ?_⟩
  · rfl
  · rfl
  · simp only [FetchedDocument.order?, hdecode]
    rfl
  · simp only [FetchedDocument.order?, hdecode]
    rfl

/-- By induction on the keys: each is fetched by one call, and its answer decides about it alone. -/
theorem runs_mapM_fetched {keys : List String} {r : Except ShopError (List (Option Order))}
    (run : Program.Runs serve (keys.mapM readableOrder).run s trace r s') :
    ∃ fetched : List FetchedDocument, fetched.map Prod.fst = keys ∧ trace = fetched.map FetchedDocument.exchange ∧
      r = .ok (fetched.map FetchedDocument.order?) := by
  induction keys generalizing s s' trace r with
  | nil =>
    obtain ⟨rfl, rfl, -⟩ := Program.runs_pure_iff.1 run
    exact ⟨[], rfl, rfl, rfl⟩
  | cons key keys ih =>
    rw [List.mapM_cons] at run
    rcases Program.runs_except_bind_iff.1 run with
      ⟨e, rfl, hfirst⟩ | ⟨first, rest, found, s₁, rfl, hfirst, hrest⟩
    · obtain ⟨_, -, -, he⟩ := runs_readableOrder_fetched hfirst
      cases he
    · obtain ⟨one, rfl, rfl, hfound⟩ := runs_readableOrder_fetched hfirst
      cases hfound
      rcases Program.runs_except_bind_iff.1 hrest with
        ⟨e, rfl, hothers⟩ | ⟨second, third, others, s₂, rfl, hothers, hdone⟩
      · obtain ⟨_, -, -, he⟩ := ih hothers
        cases he
      · obtain ⟨fetched, rfl, rfl, hokay⟩ := ih hothers
        cases hokay
        obtain ⟨rfl, rfl, -⟩ := Program.runs_pure_iff.1 hdone
        exact ⟨one :: fetched, rfl, by simp, rfl⟩

/-- The history of a buyer is told by the listing and the answers to the fetches, whatever they are. -/
theorem runs_orders_fetched {r : Except ShopError (List Order)}
    (run : Program.Runs serve (orders user).run s trace r s') : HistoryFrom user trace r := by
  rcases Program.runs_except_bind_iff.1 run with
    ⟨e, rfl, hlist⟩ | ⟨first, second, keys, s₁, rfl, hlist, hrest⟩
  · obtain ⟨answer, rfl, he⟩ := runs_onStorage_answer hlist
    obtain ⟨cause, rfl, rfl⟩ := Program.mapError_eq_error_iff.1 he.symm
    exact .unlisted cause
  · obtain ⟨answer, rfl, hok⟩ := runs_onStorage_answer hlist
    obtain rfl := Program.mapError_eq_ok_iff.1 hok.symm
    rcases Program.runs_except_bind_iff.1 hrest with
      ⟨e, rfl, hread⟩ | ⟨third, fourth, read, s₂, rfl, hread, hdone⟩
    · obtain ⟨_, -, -, he⟩ := runs_mapM_fetched hread
      cases he
    · obtain ⟨fetched, rfl, rfl, hokay⟩ := runs_mapM_fetched hread
      cases hokay
      obtain ⟨rfl, rfl, -⟩ := Program.runs_pure_iff.1 hdone
      rw [List.append_nil]
      refine .told (pairwise_mergeSort_id _) ?_
      rw [List.filterMap_map, Function.id_comp]
      exact List.mergeSort_perm _ _

/-- The number behind the greatest one among some keys, if there is one left. -/
def numberAfter (keys : List String) : Except ShopError OrderId :=
  match OrderId.ofNat? ((orderNumbering.greatest? keys).getD 0 + 1) with
  | some id => .ok id
  | none => .error (.overflow .add)

/-- Only which keys with a number there are decides. -/
theorem numberAfter_congr {keys keys' : List String}
    (h : ∀ key, orderNumbering.number? key ≠ none → (key ∈ keys ↔ key ∈ keys')) :
    numberAfter keys = numberAfter keys' := by
  have hgreatest : orderNumbering.greatest? keys = orderNumbering.greatest? keys' :=
    Storage.Numbering.greatest?_congr h
  unfold numberAfter
  rw [hgreatest]

/-- The number for an order is told by the listing. -/
theorem runs_nextOrderId_fetched {r : Except ShopError OrderId}
    (run : Program.Runs serve (nextOrderId user).run s trace r s') :
    (∃ e, trace = [⟨.storage (.list (numberedStart user)), .error e⟩] ∧ r = .error (.storage e)) ∨
      ∃ keys, trace = [⟨.storage (.list (numberedStart user)), .ok keys⟩] ∧ r = numberAfter keys := by
  rcases Program.runs_except_bind_iff.1 run with
    ⟨e, rfl, hlist⟩ | ⟨first, second, keys, s₁, rfl, hlist, hrest⟩
  · obtain ⟨answer, rfl, he⟩ := runs_onStorage_answer hlist
    obtain ⟨cause, rfl, rfl⟩ := Program.mapError_eq_error_iff.1 he.symm
    exact .inl ⟨cause, rfl, rfl⟩
  · obtain ⟨answer, rfl, hok⟩ := runs_onStorage_answer hlist
    obtain rfl := Program.mapError_eq_ok_iff.1 hok.symm
    refine .inr ⟨keys, ?_⟩
    dsimp only at hrest
    unfold numberAfter
    rw [← toNat_lastId keys]
    split at hrest
    · next id hid =>
      obtain ⟨rfl, rfl, -⟩ := Program.runs_pure_iff.1 hrest
      rw [OrderId.next?_eq_ok_iff.1 hid]
      exact ⟨rfl, rfl⟩
    · next cause hid =>
      obtain ⟨rfl, rfl, -⟩ := Program.runs_throw_iff.1 hrest
      obtain ⟨rfl, hnone⟩ := OrderId.next?_eq_error_iff.1 hid
      rw [hnone]
      exact ⟨rfl, rfl⟩

/-- The order that is placed has the number that was found. -/
theorem number_of_placed {order : Order} {message : String}
    (run : Program.Runs serve (placeOrder shop moment user).run s trace (.ok (.placed order message)) s') :
    ∃ held first s₁ second s₂, Program.Runs serve (cart user).run s first (.ok held) s₁ ∧
      Program.Runs serve (nextOrderId user).run s₁ second (.ok order.id) s₂ := by
  generalize hr : (.ok (.placed order message) : Except ShopError Placement) = r at run
  cases runs_placeOrder_parts run with
  | unread | emptyCart | unnumbered => cases hr
  | @settled first second third fourth held id resolution r s₁ s₂ s₃ s' read filled number resolves commits =>
    cases r with
    | error e => cases hr
    | ok u =>
      cases hr
      obtain ⟨payType, invoice, horder⟩ := apply_eq resolution (shop.draft moment user held id)
      refine ⟨held, first, s₁, second, s₂, read, ?_⟩
      rw [horder]
      exact number

/-! ## Documents that hold still -/

/-- What a storage tells of the documents right in the folder of the orders of a buyer. To look at them
changes nothing. -/
structure Holds (storage : Outside Storage.interface σ) (user : UserId) (t : σ)
    (docs : List (String × ByteArray)) : Prop where
  get_same : ∀ {key a t'}, storage (.get key) t a t' → t' = t
  list_same : ∀ {start a t'}, storage (.list start) t a t' → t' = t
  distinct : (docs.map Prod.fst).Nodup
  /-- They lie right in this folder. -/
  shown : ∀ document ∈ docs, Memory.shows (ordersListing user "") document.1 = true
  listed : ∀ {start : String} {keys : List String} {t'},
    Listing.parse (ordersFolder user ++ "/" ++ start) = .ok (ordersListing user start) →
      storage (.list (ordersFolder user ++ "/" ++ start)) t (.ok keys) t' →
        keys.Nodup ∧ ∀ key, key ∈ keys ↔
          key ∈ docs.map Prod.fst ∧ Memory.shows (ordersListing user start) key = true
  fetched : ∀ {key data found t'}, (key, data) ∈ docs → storage (.get key) t (.ok found) t' →
    found = some data

theorem mem_failures_iff {request : Storage.Call} {e : StorageError} :
    (request, e) ∈ failures trace ↔ ⟨.storage request, .error e⟩ ∈ trace := by
  rw [failures, List.mem_filterMap]
  constructor
  · rintro ⟨⟨call, a⟩, hmem, hfailed⟩
    cases call with
    | storage other =>
      cases a with
      | error cause =>
        cases hfailed
        exact hmem
      | ok => cases hfailed
    | pay | announce => cases hfailed
  · intro hmem
    exact ⟨_, hmem, rfl⟩

theorem unfetched?_eq_true_iff {key : String} :
    unfetched? trace key = true ↔ ∃ e, ⟨.storage (.get key), .error e⟩ ∈ trace := by
  rw [unfetched?, List.any_eq_true]
  constructor
  · rintro ⟨⟨request, e⟩, hmem, hkey⟩
    cases request with
    | get other =>
      rw [beq_iff_eq.1 hkey] at hmem
      exact ⟨e, mem_failures_iff.1 hmem⟩
    | put | delete | list => cases hkey
  · rintro ⟨e, hmem⟩
    exact ⟨_, mem_failures_iff.2 hmem, beq_self_eq_true key⟩

theorem mem_exchanges_iff {keys : List String} {fetched : List FetchedDocument} {start key : String}
    {answer : Except StorageError (Option ByteArray)} :
    (⟨.storage (.get key), answer⟩ : Exchange interface) ∈
        ⟨.storage (.list start), .ok keys⟩ :: fetched.map FetchedDocument.exchange ↔ (key, answer) ∈ fetched := by
  rw [List.mem_cons, List.mem_map]
  constructor
  · rintro (heq | ⟨⟨other, told⟩, hmem, heq⟩)
    · cases heq
    · cases heq
      exact hmem
  · intro hmem
    exact .inr ⟨_, hmem, rfl⟩

theorem not_mem_exchanges {keys : List String} {fetched : List FetchedDocument} {start other : String}
    {e : StorageError} :
    (⟨.storage (.list other), .error e⟩ : Exchange interface) ∉
      ⟨.storage (.list start), .ok keys⟩ :: fetched.map FetchedDocument.exchange := by
  rw [List.mem_cons, List.mem_map]
  rintro (heq | ⟨_, -, heq⟩) <;> cases heq

namespace Holds

variable {t : σ}

/-- A look at the storage is answered as it is, and leaves it so. -/
theorem served {request : Call} {answer : request.Answer} {s₁ : σ × Channel OrderPlaced}
    (holds : Holds storage user t docs) (served : ServedBy storage pay request (t, channel) answer s₁)
    (look : Looks ⟨request, answer⟩) :
    s₁ = (t, channel) ∧ ∀ call told, (⟨.storage call, told⟩ : Exchange interface) = ⟨request, answer⟩ →
      storage call t told t := by
  cases look with
  | get key =>
    cases served with
    | storage served =>
      obtain rfl := holds.get_same served
      refine ⟨rfl, fun call told heq => ?_⟩
      cases heq
      exact served
  | list start =>
    cases served with
    | storage served =>
      obtain rfl := holds.list_same served
      refine ⟨rfl, fun call told heq => ?_⟩
      cases heq
      exact served

/-- So are all looks of a run. -/
theorem passes {s' : σ × Channel OrderPlaced} (holds : Holds storage user t docs)
    (passes : Program.Passes (ServedBy storage pay) (t, channel) trace s')
    (looks : ∀ exchange ∈ trace, Looks exchange) :
    s' = (t, channel) ∧
      ∀ call told, (⟨.storage call, told⟩ : Exchange interface) ∈ trace → storage call t told t := by
  induction trace with
  | nil =>
    cases passes
    exact ⟨rfl, fun _ _ hmem => absurd hmem List.not_mem_nil⟩
  | cons exchange trace ih =>
    cases passes with
    | cons served rest =>
      obtain ⟨rfl, hfirst⟩ := holds.served served (looks _ List.mem_cons_self)
      obtain ⟨rfl, hrest⟩ := ih rest fun exchange hmem => looks exchange (List.mem_cons_of_mem _ hmem)
      refine ⟨rfl, fun call told hmem => ?_⟩
      rcases List.mem_cons.1 hmem with heq | hmem
      · exact hfirst call told heq
      · exact hrest call told hmem

/-- The listing of the whole folder shows each document once. -/
theorem perm_listed {keys : List String} {t' : σ} (holds : Holds storage user t docs)
    (served : storage (.list (ordersFolder user ++ "/")) t (.ok keys) t') :
    keys.Perm (docs.map Prod.fst) := by
  have hparse := parse_ordersListing user "" (by decide) (by decide)
  rw [← String.append_empty (s := ordersFolder user ++ "/")] at served
  obtain ⟨hnodup, hmem⟩ := holds.listed hparse served
  refine (List.perm_ext_iff_of_nodup hnodup holds.distinct).2 fun key => ?_
  rw [hmem]
  refine and_iff_left_of_imp fun hkey => ?_
  obtain ⟨document, hdocument, rfl⟩ := List.mem_map.1 hkey
  exact holds.shown document hdocument

/-- The order in a document, unless it could not be fetched or read. -/
def order? (docs : List (String × ByteArray)) (trace : List (Exchange interface)) (key : String) :
    Option Order :=
  if unfetched? trace key then none
  else (docs.lookup key).bind fun data => (Document.decode data).toOption

/-- What was fetched tells the order in the document. -/
theorem order?_of_fetched {fetched : List FetchedDocument} {one : FetchedDocument} (holds : Holds storage user t docs)
    (served : ∀ call told, (⟨.storage call, told⟩ : Exchange interface) ∈ trace → storage call t told t)
    (distinct : (fetched.map Prod.fst).Nodup) (known : ∃ data, (one.1, data) ∈ docs)
    (htrace : ∀ key answer,
      (⟨.storage (.get key), answer⟩ : Exchange interface) ∈ trace ↔ (key, answer) ∈ fetched)
    (hone : one ∈ fetched) : one.order? = order? docs trace one.1 := by
  obtain ⟨key, answer⟩ := one
  obtain ⟨data, hdocument⟩ := known
  have hserved := served _ _ ((htrace _ _).2 hone)
  cases answer with
  | error e =>
    have hunfetched : unfetched? trace key = true := unfetched?_eq_true_iff.2 ⟨e, (htrace _ _).2 hone⟩
    rw [order?, if_pos hunfetched]
    rfl
  | ok found =>
    obtain rfl := holds.fetched hdocument hserved
    have hfetched : ¬ unfetched? trace key = true := by
      -- each key is fetched once, and this one with success
      intro hunfetched
      obtain ⟨e, hmem⟩ := unfetched?_eq_true_iff.1 hunfetched
      have hsame := List.inj_on_of_nodup_map distinct ((htrace _ _).1 hmem) hone rfl
      cases hsame
    rw [order?, if_neg hfetched, Table.lookup_of_mem holds.distinct hdocument]
    rfl

/-- The history of a buyer, document by document. -/
theorem historyOf {r : Except ShopError (List Order)} {s' : σ × Channel OrderPlaced}
    (holds : Holds storage user t docs)
    (run : Program.Runs (ServedBy storage pay) (orders user).run (t, channel) trace r s') :
    s' = (t, channel) ∧ HistoryOf user docs trace r := by
  obtain ⟨rfl, hserved⟩ := holds.passes run.passes ((LookOnly.orders user).looks_of_mem run)
  refine ⟨rfl, ?_⟩
  cases runs_orders_fetched run with
  | unlisted e => exact .unlisted rfl
  | @told fetched found sorted same =>
    generalize htrace : _ :: _ = trace at hserved
    have hperm : (fetched.map Prod.fst).Perm (docs.map Prod.fst) :=
      holds.perm_listed (hserved _ _ (htrace ▸ List.mem_cons_self))
    have hget : ∀ key answer,
        (⟨.storage (.get key), answer⟩ : Exchange interface) ∈ trace ↔ (key, answer) ∈ fetched := by
      intro key answer
      rw [← htrace]
      exact mem_exchanges_iff
    have horders : fetched.filterMap FetchedDocument.order? = (fetched.map Prod.fst).filterMap (order? docs trace) := by
      rw [List.filterMap_map]
      refine List.filterMap_congr fun one hone => ?_
      obtain ⟨document, hdocument, hkey⟩ :=
        List.mem_map.1 (hperm.mem_iff.1 (List.mem_map_of_mem hone))
      refine holds.order?_of_fetched hserved (hperm.nodup_iff.2 holds.distinct) ⟨document.2, ?_⟩ hget hone
      rwa [← hkey]
    have hdocs : docs.filterMap (fun document =>
        if unfetched? trace document.1 then none else (Document.decode document.2).toOption) =
          (docs.map Prod.fst).filterMap (order? docs trace) := by
      rw [List.filterMap_map]
      refine List.filterMap_congr fun document hdocument => ?_
      rw [Function.comp_apply, order?, Table.lookup_of_mem holds.distinct hdocument]
      rfl
    refine .told (fun e hmem => ?_) sorted ?_
    · rw [mem_failures_iff, ← htrace] at hmem
      exact not_mem_exchanges hmem
    · rw [hdocs]
      rw [horders] at same
      exact same.trans (hperm.filterMap _)

/-- The number for an order is told by the keys of the documents alone, if they can be listed. -/
theorem numberAfter_eq {r : Except ShopError OrderId} {s' : σ × Channel OrderPlaced}
    (holds : Holds storage user t docs)
    (run : Program.Runs (ServedBy storage pay) (nextOrderId user).run (t, channel) trace r s') :
    (failures trace ≠ [] ∧ ∃ e, r = .error (.storage e)) ∨ r = numberAfter (docs.map Prod.fst) := by
  obtain ⟨rfl, hserved⟩ := holds.passes run.passes ((LookOnly.nextOrderId user).looks_of_mem run)
  rcases runs_nextOrderId_fetched run with ⟨e, rfl, rfl⟩ | ⟨keys, rfl, rfl⟩
  · exact .inl ⟨List.cons_ne_nil _ _, e, rfl⟩
  · obtain ⟨-, hmem⟩ := holds.listed (parse_numberedStart user) (hserved _ _ List.mem_cons_self)
    refine .inr (numberAfter_congr fun key hkey => ?_)
    rw [hmem]
    refine and_iff_left_of_imp fun hknown => ?_
    obtain ⟨document, hdocument, rfl⟩ := List.mem_map.1 hknown
    obtain ⟨name, hname, hslash, -⟩ := shows_ordersListing_iff.1 (holds.shown document hdocument)
    rw [hname] at hkey ⊢
    exact shows_ordersListing_iff.2 ⟨name, rfl, hslash, Storage.Numbering.before_prefix hslash hkey⟩

/-- An order that is placed has this number. -/
theorem numberAfter_eq_of_placed {order : Order} {message : String} {s' : σ × Channel OrderPlaced}
    (holds : Holds storage user t docs)
    (run : Program.Runs (ServedBy storage pay) (placeOrder shop moment user).run (t, channel) trace
      (.ok (.placed order message)) s') : numberAfter (docs.map Prod.fst) = .ok order.id := by
  obtain ⟨held, first, s₁, second, s₂, hread, hnumber⟩ := number_of_placed run
  obtain ⟨rfl, -⟩ := holds.passes hread.passes ((LookOnly.cart user).looks_of_mem hread)
  rcases holds.numberAfter_eq hnumber with ⟨-, e, he⟩ | hid
  · cases he
  · exact hid.symm

end Holds

end Storefront.Shop
