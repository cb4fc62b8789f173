import Mathlib.Logic.Relation
import Storefront.Proofs.Channel
import Storefront.Proofs.Shop.Immutable
import Storefront.Proofs.Shop.Parts

/-!
# The events of placed orders

While a shop works, the handler of its events may at any time take the oldest one that waits, or go away. An
operation announces an order last of all, when the order is stored and its cart is gone, and then nothing can
fail any more. So what is offered is what placements return, in the same order. What the handler does makes a
difference to which of these events find room, and to nothing else.
-/

namespace Storefront.Shop

open Relation (ReflTransGen)
open Storage (Memory Contract)

/-! ## A shop and the handler of its events -/

/-- An event that is offered, with what is stored and what waits at this time. -/
structure Offer where
  event : OrderPlaced
  documents : Memory
  channel : Channel OrderPlaced

/-- Does the event enter the channel? -/
def Offer.enters (offer : Offer) : Bool := offer.channel.hasRoom

/-- The order of the event is stored, and the cart that it was made from is not. -/
def Offer.Backed (offer : Offer) : Prop :=
  offer.documents.get? (orderKey offer.event.order.user offer.event.order.id) =
      some (Document.encode offer.event.order) ∧
    offer.documents.get? (cartKey offer.event.order.user) = none

/-- What a shop works on, with the handler beside it. -/
structure Stage where
  documents : Memory
  channel : Channel OrderPlaced
  /-- The events that the handler has taken, the first one first. -/
  received : List OrderPlaced
  /-- The events that were offered, the first one first. -/
  offers : List Offer

/-- The events that have entered the channel. -/
def Stage.entered (s : Stage) : List OrderPlaced := (s.offers.filter Offer.enters).map Offer.event

/-- What the handler may do by itself. -/
inductive Handles : Stage → Stage → Prop where
  /-- It takes the oldest event that waits. -/
  | receives {s : Stage} {event : OrderPlaced} {channel : Channel OrderPlaced}
    (taken : s.channel.receive = some (event, channel)) :
    Handles s { s with channel := channel, received := s.received ++ [event] }
  /-- It goes away, and the events that wait are lost. -/
  | leaves (s : Stage) : Handles s { s with channel := s.channel.dropHandler }

/-- How the calls of a shop are answered beside the handler. -/
inductive Answers (mayFail : Storage.Call → Prop) : Outside interface Stage where
  /-- The storage keeps its contract. -/
  | storage {request : Storage.Call} {s : Stage} {m : Memory} {a : request.Answer}
    (kept : Contract mayFail request s.documents a m) :
    Answers mayFail (.storage request) s a { s with documents := m }
  /-- A provider gives any answer. -/
  | pay (request : PaymentRequest) (a : Except ProviderError String) (s : Stage) :
    Answers mayFail (.pay request) s a s
  | announce (event : OrderPlaced) (s : Stage) :
    Answers mayFail (.announce event) s ()
      { s with
        channel := World.offerAll s.channel event
        offers := s.offers ++ [⟨event, s.documents, s.channel⟩] }

/-- Before each call the handler may do what it likes. -/
def Interleaved (mayFail : Storage.Call → Prop) : Outside interface Stage := fun request s a s' =>
  ∃ s₁, ReflTransGen Handles s s₁ ∧ Answers mayFail request s₁ a s'

/-- What was asked of a shop whose only producer offers events to a channel of some length, the last request
first, while the handler did what it liked, and the stage to which this led. At first anything may be
stored. -/
inductive Attendance (shop : Shop) (buffer : Nat) : List Entry → Stage → Prop where
  | start {channel : Channel OrderPlaced} (opened : Channel.new buffer = .ok channel) (m : Memory) :
    Attendance shop buffer [] ⟨m, channel.subscribe, [], []⟩
  | handled {past : List Entry} {s s' : Stage} (before : Attendance shop buffer past s)
    (handles : Handles s s') : Attendance shop buffer past s'
  | next {past : List Entry} {s s' : Stage} {entry : Entry} (before : Attendance shop buffer past s)
    (run : Program.Runs (Interleaved anyFailure)
      (entry.request.perform shop entry.moment entry.user).run s entry.trace entry.result s')
    (after : entry.after = ⟨s'.documents, s'.channel⟩) : Attendance shop buffer (entry :: past) s'

/-- The order that the operation behind a request has placed, and its message, if that is what it returned. -/
def Entry.placement? (shop : Shop) (entry : Entry) : Option OrderPlaced :=
  match entry.returned? shop with
  | some (.ok (.placement (.placed order message))) => some ⟨order, message⟩
  | _ => none

/-- What placements have returned, the first one first. -/
def placements (shop : Shop) : List Entry → List OrderPlaced
  | [] => []
  | entry :: past => placements shop past ++ (entry.placement? shop).toList

variable {α : Type} {mayFail : Storage.Call → Prop} {shop : Shop} {buffer : Nat} {moment : Moment}
  {user : UserId} {s s' t : Stage} {trace : List (Exchange interface)} {past : List Entry}

/-! ## The channel -/

/-- What holds of the channel all along. -/
structure Tended (buffer : Nat) (s : Stage) : Prop where
  /-- It has the length that was asked for. -/
  capacity : s.channel.capacity = max 1 buffer
  /-- The shop is its only producer. -/
  producers : s.channel.producers = 1
  /-- What has entered was taken or waits, unless it was lost with the handler. -/
  taken : s.received ++ s.channel.queue <+: s.entered
  /-- While the handler is there nothing is lost. -/
  complete : s.channel.isOpen = true → s.received ++ s.channel.queue = s.entered
  /-- An event is dropped only when the queue is full or the handler is gone. -/
  dropped : ∀ offer ∈ s.offers, offer.enters = false →
    offer.channel.queue.length = max 1 buffer ∨ offer.channel.isOpen = false

theorem Tended.start {channel : Channel OrderPlaced} (opened : Channel.new buffer = .ok channel) (m : Memory) :
    Tended buffer ⟨m, channel.subscribe, [], []⟩ := by
  unfold Channel.new at opened
  split at opened
  · cases opened
    exact ⟨rfl, rfl, List.nil_prefix, fun _ => rfl, fun _ hmem => absurd hmem List.not_mem_nil⟩
  · cases opened

theorem Tended.handles (h : Tended buffer s) (moved : Handles s s') : Tended buffer s' := by
  cases moved with
  | receives taken =>
    obtain ⟨hqueue, hcapacity, hopen, hproducers⟩ := Channel.of_receive_eq_some taken
    have htaken := h.taken
    have hcomplete := h.complete
    rw [hqueue, ← List.singleton_append, ← List.append_assoc] at htaken hcomplete
    exact ⟨hcapacity.trans h.capacity, hproducers.trans h.producers, htaken,
      fun hopen' => hcomplete (hopen.symm.trans hopen'), h.dropped⟩
  | leaves =>
    refine ⟨h.capacity, h.producers, ?_, nofun, h.dropped⟩
    show s.received ++ [] <+: s.entered
    rw [List.append_nil]
    exact (List.prefix_append _ _).trans h.taken

theorem Tended.answers {request : Call} {a : request.Answer} (h : Tended buffer s)
    (answered : Answers mayFail request s a s') : Tended buffer s' := by
  cases answered with
  | storage => exact ⟨h.capacity, h.producers, h.taken, h.complete, h.dropped⟩
  | pay => exact h
  | announce event =>
    have honce : World.offerAll s.channel event = s.channel.offer event := by
      rw [World.offerAll, h.producers]
      rfl
    have hentered : ({ s with offers := s.offers ++ [⟨event, s.documents, s.channel⟩] } : Stage).entered =
        s.entered ++ if s.channel.hasRoom then [event] else [] := by
      unfold Stage.entered
      rw [List.filter_append, List.map_append, List.filter_singleton]
      show _ ++ List.map Offer.event (bif s.channel.hasRoom then _ else _) = _
      cases s.channel.hasRoom <;> rfl
    rw [honce]
    cases hroom : s.channel.hasRoom with
    | true =>
      -- there is room only while the handler is there, and up to then nothing was lost
      have hopen : s.channel.isOpen = true := (Bool.and_eq_true_iff.1 hroom).1
      have hall : s.received ++ (s.channel.offer event).queue = s.entered ++ [event] := by
        rw [Channel.queue_offer_of_hasRoom hroom, ← List.append_assoc, h.complete hopen]
      rw [if_pos hroom, ← hall] at hentered
      refine ⟨Channel.capacity_offer.trans h.capacity, Channel.producers_offer.trans h.producers,
        hentered ▸ List.prefix_refl _, fun _ => hentered.symm, fun offer hmem hlost => ?_⟩
      rcases List.mem_append.1 hmem with hmem | hmem
      · exact h.dropped offer hmem hlost
      · cases List.mem_singleton.1 hmem
        exact absurd hroom (by rw [show s.channel.hasRoom = false from hlost]; exact Bool.false_ne_true)
    | false =>
      -- the event is dropped, which leaves the channel as it was
      rw [hroom, if_neg Bool.false_ne_true, List.append_nil] at hentered
      rw [Channel.offer_of_not_hasRoom hroom]
      refine ⟨h.capacity, h.producers, hentered ▸ h.taken, fun hopen => hentered ▸ h.complete hopen,
        fun offer hmem hlost => ?_⟩
      rcases List.mem_append.1 hmem with hmem | hmem
      · exact h.dropped offer hmem hlost
      · cases List.mem_singleton.1 hmem
        rw [← h.capacity]
        exact Channel.full_or_closed_of_not_hasRoom hroom

theorem Tended.moves (h : Tended buffer s) (moved : ReflTransGen Handles s s') : Tended buffer s' := by
  induction moved with
  | refl => exact h
  | tail _ step ih => exact ih.handles step

/-- Whatever the handler and the outside do meanwhile. -/
theorem Tended.passes (h : Tended buffer s) (passed : Program.Passes (Interleaved mayFail) s trace s') :
    Tended buffer s' :=
  passed.invariant (P := Tended buffer)
    (fun ⟨_, moved, answered⟩ htended => (htended.moves moved).answers answered) h

/-! ## What the handler leaves alone -/

/-- A channel without producers. -/
def mute : Channel OrderPlaced := ⟨1, Nat.one_pos, [], Nat.zero_le 1, false, 0⟩

/-- The documents, with nobody to hear of events. -/
def Stage.muted (s : Stage) : Scene := ⟨s.documents, mute⟩

/-- By itself the handler touches neither the documents nor what was offered. -/
theorem Handles.same (h : ReflTransGen Handles s s') :
    s'.documents = s.documents ∧ s'.offers = s.offers := by
  induction h with
  | refl => exact ⟨rfl, rfl⟩
  | tail _ step ih => cases step <;> exact ih

theorem Interleaved.muted {request : Call} {a : request.Answer} (h : Interleaved mayFail request s a s') :
    Serves mayFail request s.muted a s'.muted := by
  obtain ⟨s₁, moved, answered⟩ := h
  have hsame : s₁.muted = s.muted := congrArg (Scene.mk · mute) (Handles.same moved).1
  rw [← hsame]
  cases answered with
  | storage kept => exact .storage kept mute
  | pay request a => exact .pay request a _
  | announce event => exact .announce event (Stage.muted _)

/-- So a run beside the handler is a run with nobody to hear of events. -/
theorem runs_muted {operation : Operation α} {r : Except ShopError α}
    (run : Program.Runs (Interleaved mayFail) operation.run s trace r s') :
    Runs mayFail operation s.muted trace r s'.muted :=
  run.image Stage.muted fun _ _ _ _ => Interleaved.muted

/-- And any run on the same documents may take place beside the handler. -/
theorem exists_interleaved {operation : Operation α} {r : Except ShopError α} {c c' : Scene}
    (run : Runs mayFail operation c trace r c') (same : c.documents = s.documents) :
    ∃ s', Program.Runs (Interleaved mayFail) operation.run s trace r s' ∧ s'.documents = c'.documents := by
  have hstep : ∀ request (c : Scene) (t : Stage) a c', c.documents = t.documents →
      Serves mayFail request c a c' →
      ∃ t', Interleaved mayFail request t a t' ∧ c'.documents = t'.documents := by
    intro request c t a c' hsame hserved
    cases hserved with
    | @storage _ m _ _ kept =>
      obtain rfl : m = t.documents := hsame
      exact ⟨_, ⟨t, .refl, .storage kept⟩, rfl⟩
    | pay request a => exact ⟨t, ⟨t, .refl, .pay request a t⟩, hsame⟩
    | announce event => exact ⟨_, ⟨t, .refl, .announce event t⟩, hsame⟩
  obtain ⟨s', hrun, hsame⟩ := run.simulate hstep same
  exact ⟨s', hrun, hsame.symm⟩

/-- What a call leaves stored is told by its answer. -/
theorem documents_eq_of_answers {request : Call} {a : request.Answer} {t' : Stage}
    (h : Interleaved mayFail request s a s') (h' : Interleaved mayFail request t a t')
    (same : s.documents = t.documents) : s'.documents = t'.documents := by
  obtain ⟨s₁, moved, answered⟩ := h
  obtain ⟨t₁, moved', answered'⟩ := h'
  have hsame : s₁.documents = t₁.documents :=
    (Handles.same moved).1.trans (same.trans (Handles.same moved').1.symm)
  cases answered with
  | storage kept =>
    cases answered' with
    | storage kept' =>
      rw [hsame] at kept
      exact kept.documents_eq kept'
  | pay | announce =>
    cases answered'
    exact hsame

theorem documents_eq_of_passes {t' : Stage} (h : Program.Passes (Interleaved mayFail) s trace s')
    (h' : Program.Passes (Interleaved mayFail) t trace t') (same : s.documents = t.documents) :
    s'.documents = t'.documents := by
  induction h generalizing t with
  | nil =>
    cases h'
    exact same
  | cons served _ ih =>
    cases h' with
    | cons served' rest' => exact ih rest' (documents_eq_of_answers served served' same)

/-! ## What is offered -/

theorem Interleaved.offers_eq {request : Call} {a : request.Answer} (h : Interleaved mayFail request s a s')
    (silent : ∀ event, request ≠ .announce event) : s'.offers = s.offers := by
  obtain ⟨s₁, moved, answered⟩ := h
  rw [← (Handles.same moved).2]
  cases answered with
  | storage | pay => rfl
  | announce event => exact absurd rfl (silent event)

/-- Where nothing is announced nothing is offered. -/
theorem offers_eq_of_passes (h : Program.Passes (Interleaved mayFail) s trace s')
    (silent : announced trace = []) : s'.offers = s.offers := by
  induction h with
  | nil => rfl
  | @cons request answer _ _ _ _ served _ ih =>
    cases request with
    | announce event => cases silent
    | storage | pay => exact (ih silent).trans (served.offers_eq fun _ h => by cases h)

/-- What is announced last of all is offered once, on what is stored in the end. -/
theorem offers_eq_of_last {event : OrderPlaced}
    (h : Program.Passes (Interleaved mayFail) s (trace ++ [⟨.announce event, ()⟩]) s')
    (silent : announced trace = []) :
    ∃ channel, s'.offers = s.offers ++ [⟨event, s'.documents, channel⟩] := by
  obtain ⟨s₁, hbefore, hlast⟩ := Program.passes_append_iff.1 h
  rw [← offers_eq_of_passes hbefore silent]
  cases hlast with
  | cons served rest =>
    cases rest
    obtain ⟨s₂, moved, answered⟩ := served
    rw [← (Handles.same moved).2]
    cases answered
    exact ⟨_, rfl⟩

/-- What an operation offers: the order that it has placed, once, or nothing. -/
inductive Offering (shop : Shop) (moment : Moment) (user : UserId) (s : Stage)
    (trace : List (Exchange interface)) : Except ShopError Response → Stage → Prop where
  /-- No order was placed, and nothing is offered. -/
  | silent {r : Except ShopError Response} {s' : Stage} (silent : announced trace = [])
    (unplaced : ∀ order message, r ≠ .ok (.placement (.placed order message)))
    (offers : s'.offers = s.offers) : Offering shop moment user s trace r s'
  /-- The order that was placed is offered with all that is stored in the end. -/
  | placed {order : Order} {message : String} {s' : Stage} {channel : Channel OrderPlaced}
    (next : NextOrder shop moment user s.documents order message)
    (announced : announced trace = [⟨order, message⟩])
    (documents : s'.documents =
      (s.documents.put (orderKey user order.id) (Document.encode order)).erase (cartKey user))
    (offers : s'.offers = s.offers ++ [⟨⟨order, message⟩, s'.documents, channel⟩]) :
    Offering shop moment user s trace (.ok (.placement (.placed order message))) s'

theorem next_of_placed {order : Order} {message : String} {c c' : Scene}
    (h : Placing mayFail shop moment user c trace (.ok (.placed order message)) c') :
    NextOrder shop moment user c.documents order message ∧ c'.documents =
      (c.documents.put (orderKey user order.id) (Document.encode order)).erase (cartKey user) := by
  cases h with
  | placed next => exact ⟨next, rfl⟩

theorem offering_of_placeOrder {r : Except ShopError Placement}
    (run : Program.Runs (Interleaved mayFail) (placeOrder shop moment user).run s trace r s') :
    Offering shop moment user s trace (r.map .placement) s' := by
  rcases announces_of_placeOrder run with
    ⟨hsilent, hunplaced⟩ | ⟨order, message, before, rfl, hsilent, rfl⟩
  · refine .silent hsilent (fun order message hr => ?_) (offers_eq_of_passes run.passes hsilent)
    cases r with
    | error e => cases hr
    | ok placement =>
      cases hr
      exact hunplaced _ _ rfl
  · obtain ⟨channel, hoffers⟩ := offers_eq_of_last run.passes hsilent
    obtain ⟨next, hdocuments⟩ := next_of_placed (runs_placeOrder (runs_muted run))
    refine .placed next ?_ hdocuments hoffers
    rw [announced_append, hsilent]
    rfl

/-- An operation that calls nothing but the storage places no order. -/
theorem unplaced_of_direct {request : Request} {r : Except ShopError Response}
    (hdirect : request.direct ≠ .place)
    (run : Program.Runs (Interleaved mayFail) (request.direct.perform shop moment user).run s trace r s') :
    ∀ order message, r ≠ .ok (.placement (.placed order message)) := by
  have hmap : ∀ {β : Type} {operation : Operation β} {f : β → Response},
      (∀ b order message, f b ≠ .placement (.placed order message)) →
      Program.Runs (Interleaved mayFail) (f <$> operation).run s trace r s' →
      ∀ order message, r ≠ .ok (.placement (.placed order message)) := by
    intro β operation f hf hrun order message hr
    obtain ⟨r₀, hr₀, -⟩ := Program.runs_except_map_iff.1 hrun
    rw [hr₀] at hr
    cases r₀ with
    | error e => cases hr
    | ok b => exact hf b order message (Except.ok.inj hr)
  cases hoperation : request.direct with
  | place => exact absurd hoperation hdirect
  | add sku | cart | orders | fetch path =>
    rw [hoperation] at run
    exact hmap (fun _ _ _ h => by cases h) run

theorem offering_of_runs {request : Request} {r : Except ShopError Response}
    (run : Program.Runs (Interleaved mayFail) (request.direct.perform shop moment user).run s trace r s') :
    Offering shop moment user s trace r s' := by
  by_cases hplace : request.direct = .place
  · rw [hplace] at run
    obtain ⟨r₀, rfl, hplaced⟩ := Program.runs_except_map_iff.1 run
    exact offering_of_placeOrder hplaced
  · have honly := (Request.direct_cases shop moment user request).resolve_left hplace
    have hsilent := announced_of_onStorage (honly.onStorage_of_mem run)
    exact .silent hsilent (unplaced_of_direct hplace run) (offers_eq_of_passes run.passes hsilent)

/-! ## All that was offered -/

/-- What was offered is what was placed. -/
structure OffersPlaced (shop : Shop) (past : List Entry) (s : Stage) : Prop where
  /-- What placements have returned was offered, and nothing else, in the same order. -/
  offered : s.offers.map Offer.event = placements shop past
  /-- A request announces what its operation has placed. -/
  announced : ∀ entry ∈ past, announced entry.trace = (entry.placement? shop).toList
  /-- Each event was offered when its order was stored and the cart gone. -/
  backed : ∀ offer ∈ s.offers, offer.Backed
  /-- The order is still stored. -/
  kept : ∀ offer ∈ s.offers, s.documents.get? (orderKey offer.event.order.user offer.event.order.id) =
    some (Document.encode offer.event.order)
  /-- No order was offered twice. -/
  distinct : (s.offers.map fun offer => orderKey offer.event.order.user offer.event.order.id).Nodup

theorem OffersPlaced.next {entry : Entry} (h : OffersPlaced shop past s)
    (run : Program.Runs (Interleaved anyFailure) (entry.request.perform shop entry.moment entry.user).run s
      entry.trace entry.result s') : OffersPlaced shop (entry :: past) s' := by
  obtain ⟨r, -, hdirect⟩ := runs_perform_direct run
  -- the page does not tell what was returned, but the calls do
  have hreturned : entry.returned? shop = some r := hdirect.replay_eq
  have hkept : ∀ offer ∈ s.offers, s'.documents.get?
      (orderKey offer.event.order.user offer.event.order.id) = some (Document.encode offer.event.order) :=
    fun offer hmem => (runs_perform (runs_muted run)).keeps_orders (isOrders_orderKey _ _)
      (h.kept offer hmem)
  cases offering_of_runs hdirect with
  | silent silent unplaced offers =>
    have hnone : entry.placement? shop = none := by
      unfold Entry.placement?
      rw [hreturned]
      split
      · next heq => exact absurd (Option.some.inj heq) (unplaced _ _)
      · rfl
    refine ⟨?_, ?_, ?_, ?_, ?_⟩
    · rw [placements, hnone, offers, h.offered, Option.toList_none, List.append_nil]
    · intro e he
      rcases List.mem_cons.1 he with rfl | he
      · rw [silent, hnone, Option.toList_none]
      · exact h.announced e he
    · rw [offers]
      exact h.backed
    · rw [offers]
      exact hkept
    · rw [offers]
      exact h.distinct
  | @placed order message _ channel next announced documents offers =>
    have hplaced : entry.placement? shop = some ⟨order, message⟩ := by
      unfold Entry.placement?
      rw [hreturned]
    have hstored : s'.documents.get? (orderKey order.user order.id) = some (Document.encode order) := by
      rw [documents, next.user_eq, Memory.get?_erase_of_ne (cartKey_ne_orderKey _ _ _).symm]
      exact Memory.get?_put_self _ _ _
    have hgone : s'.documents.get? (cartKey order.user) = none := by
      rw [documents, next.user_eq]
      exact Memory.get?_erase_self _ _
    refine ⟨?_, ?_, ?_, ?_, ?_⟩
    · rw [placements, hplaced, offers, List.map_append, h.offered]
      rfl
    · intro e he
      rcases List.mem_cons.1 he with rfl | he
      · rw [announced, hplaced]
        rfl
      · exact h.announced e he
    · intro offer hmem
      rw [offers] at hmem
      rcases List.mem_append.1 hmem with hmem | hmem
      · exact h.backed offer hmem
      · cases List.mem_singleton.1 hmem
        exact ⟨hstored, hgone⟩
    · intro offer hmem
      rw [offers] at hmem
      rcases List.mem_append.1 hmem with hmem | hmem
      · exact hkept offer hmem
      · cases List.mem_singleton.1 hmem
        exact hstored
    · rw [offers, List.map_append, List.nodup_append]
      refine ⟨h.distinct, List.nodup_singleton _, ?_⟩
      -- the order went where nothing was stored
      rintro key hold key' hnew rfl
      have hkey : key = orderKey order.user order.id := List.mem_singleton.1 hnew
      obtain ⟨offer, hmem, rfl⟩ := List.mem_map.1 hold
      have hbefore := h.kept offer hmem
      rw [hkey, next.user_eq, next.fresh] at hbefore
      cases hbefore

theorem Attendance.invariants (h : Attendance shop buffer past s) :
    Tended buffer s ∧ OffersPlaced shop past s := by
  induction h with
  | start opened m =>
    exact ⟨.start opened m, rfl, fun _ he => absurd he List.not_mem_nil,
      fun _ he => absurd he List.not_mem_nil, fun _ he => absurd he List.not_mem_nil, List.nodup_nil⟩
  | handled _ handles ih =>
    obtain ⟨htended, hplaced⟩ := ih
    obtain ⟨hdocuments, hoffers⟩ := Handles.same (.single handles)
    refine ⟨htended.handles handles, ?_, hplaced.announced, ?_, ?_, ?_⟩
    · rw [hoffers]
      exact hplaced.offered
    · rw [hoffers]
      exact hplaced.backed
    · rw [hoffers, hdocuments]
      exact hplaced.kept
    · rw [hoffers]
      exact hplaced.distinct
  | next _ run _ ih => exact ⟨ih.1.passes run.passes, ih.2.next run⟩

theorem OffersPlaced.entered (h : OffersPlaced shop past s) :
    s.entered.Sublist (placements shop past) ∧ s.entered.Nodup := by
  have hsub : s.entered.Sublist (s.offers.map Offer.event) := List.filter_sublist.map _
  have hdistinct : (s.offers.map Offer.event).Nodup := by
    refine List.Nodup.of_map (fun event => orderKey event.order.user event.order.id) ?_
    rw [List.map_map]
    exact h.distinct
  exact ⟨h.offered ▸ hsub, hdistinct.sublist hsub⟩

/-- A stage that is come to while more is asked for, after some calls and whatever the handler has done
since. -/
def Meanwhile (s t : Stage) : Prop :=
  ∃ trace s₁, Program.Passes (Interleaved anyFailure) s trace s₁ ∧ ReflTransGen Handles s₁ t

/-- Whatever is stored at first, whatever fails and whatever the handler does, the events that are offered are
the orders and messages that placements have returned, in the same order, each once, and no other request
announces anything. So those that enter the channel are some of them. Each is offered when its order is stored
and its cart gone. At all times the handler has taken, in their order, the first of the events that have
entered, the others wait or are lost with the handler, no more of them wait than the channel is long, and an
event is dropped only if so many wait or the handler is gone. What an operation returns and leaves stored does
not depend on the channel: on any stage with the same documents it can make the same calls, and where these
are answered alike it returns and leaves the same. -/
theorem events_mirror_orders (h : Attendance shop buffer past s) :
    (∀ entry ∈ past, announced entry.trace = (entry.placement? shop).toList) ∧
    s.offers.map Offer.event = placements shop past ∧
    s.entered.Sublist (placements shop past) ∧ s.entered.Nodup ∧
    (∀ offer ∈ s.offers, offer.Backed) ∧
    (∀ t, Meanwhile s t → Tended buffer t ∧ t.channel.queue.length ≤ max 1 buffer) ∧
    ∀ t : Stage, t.documents = s.documents → ∀ (request : Request) moment user,
      (∀ trace r s',
        Program.Runs (Interleaved anyFailure) (request.perform shop moment user).run s trace r s' →
        ∃ t', Program.Runs (Interleaved anyFailure) (request.perform shop moment user).run t trace r t' ∧
          t'.documents = s'.documents) ∧
      ∀ trace r r' s' t',
        Program.Runs (Interleaved anyFailure) (request.perform shop moment user).run s trace r s' →
        Program.Runs (Interleaved anyFailure) (request.perform shop moment user).run t trace r' t' →
        r = r' ∧ s'.documents = t'.documents := by
  obtain ⟨htended, hplaced⟩ := h.invariants
  obtain ⟨hentered, hdistinct⟩ := hplaced.entered
  refine ⟨hplaced.announced, hplaced.offered, hentered, hdistinct, hplaced.backed, ?_, ?_⟩
  · rintro t ⟨trace, s₁, passed, moved⟩
    have hthen := (htended.passes passed).moves moved
    exact ⟨hthen, hthen.capacity ▸ t.channel.bounded⟩
  · intro t hsame request moment user
    refine ⟨fun trace r s' run => exists_interleaved (runs_muted run) hsame.symm,
      fun trace r r' s' t' run run' => ⟨?_, ?_⟩⟩
    · exact Option.some.inj (run.replay_eq.symm.trans run'.replay_eq)
    · exact documents_eq_of_passes run.passes run'.passes hsame.symm

/-- The sample shop with a cart that is placed, and a channel for which no length was asked. -/
theorem events_mirror_orders_sample :
    ∃ past s event, Attendance Sample.shop 0 past s ∧ placements Sample.shop past = [event] ∧
      s.offers.map Offer.event = [event] ∧ (∀ offer ∈ s.offers, offer.Backed) ∧
      s.channel.queue.length ≤ 1 := by
  obtain ⟨channel, hopened⟩ : ∃ channel : Channel OrderPlaced, Channel.new 0 = .ok channel := ⟨_, rfl⟩
  have hstart : Attendance Sample.shop 0 [] ⟨Sample.filled.documents, channel.subscribe, [], []⟩ :=
    .start hopened _
  obtain ⟨trace, order, message, s', hplace, -⟩ := Sample.exists_placement
  have hrequest : Runs (fun _ => False) (Request.place.perform Sample.shop Sample.moment Sample.buyer)
      Sample.filled trace (.ok (.placement (.placed order message))) s' :=
    Program.runs_except_map_iff.2 ⟨_, rfl, hplace⟩
  have hsame : Sample.filled.documents =
      (⟨Sample.filled.documents, channel.subscribe, [], []⟩ : Stage).documents := rfl
  obtain ⟨s, hrun, -⟩ := exists_interleaved (hrequest.mono fun _ hno => hno.elim) hsame
  have h : Attendance Sample.shop 0
      [⟨Sample.buyer, Sample.moment, .place, trace, _, ⟨s.documents, s.channel⟩⟩] s :=
    .next hstart hrun rfl
  have hplacements : placements Sample.shop
      [⟨Sample.buyer, Sample.moment, .place, trace, .ok (.placement (.placed order message)),
        ⟨s.documents, s.channel⟩⟩] = [⟨order, message⟩] := by
    have hreturned : (Request.place.direct.perform Sample.shop Sample.moment Sample.buyer).run.replay trace =
        some (.ok (.placement (.placed order message))) := hrun.replay_eq
    simp only [placements, Entry.placement?, Entry.returned?, hreturned]
    rfl
  obtain ⟨-, hoffered, -, -, hbacked, hmeanwhile, -⟩ := events_mirror_orders h
  rw [hplacements] at hoffered
  exact ⟨_, s, _, h, hplacements, hoffered, hbacked, (hmeanwhile s ⟨[], s, .nil s, .refl⟩).2⟩

end Storefront.Shop
