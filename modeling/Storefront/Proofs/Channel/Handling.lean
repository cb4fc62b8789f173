import Mathlib.Data.List.Perm.Basic
import Mathlib.Logic.Relation
import Storefront.Channel.Handling
import Storefront.Proofs.Channel

/-!
# Every accepted event is handled once

However the jobs of a handler take turns, the handler comes to its end, and by then it has received the events
of its channel in their order and started the handling of each of them once. One whose handling fails takes
nothing from the others.
-/

namespace Storefront

variable {α β : Type} {handle : α → Option β} {events : List α}

namespace Handling

variable {h next : Handling α β}

/-! ## The end of a handler -/

/-- The moves that a handler makes from here, by itself. -/
def Phase.weight : Phase → Nat
  | .receiving => 2
  | .collecting => 3
  | .joining => 1
  | .done => 0

/-- How many moves are left. An event costs five: it is taken, its job starts, ends and is collected, and the
handler turns back to the channel. -/
def weight (h : Handling α β) : Nat :=
  5 * h.channel.queue.length + 3 * h.waiting.length + 2 * h.running.length + h.uncollected +
    h.phase.weight

theorem Moves.weight (m : Moves handle h next) : next.weight + 1 = h.weight := by
  cases m with
  | take receiving taken =>
    obtain ⟨hqueue, -⟩ := Channel.of_receive_eq_some taken
    simp only [Handling.weight, Phase.weight, receiving, hqueue, List.length_append, List.length_cons,
      List.length_nil]
    omega
  | collect looking some_ended =>
    simp only [Handling.weight]
    omega
  | resume collecting none_ended => simp [Handling.weight, Phase.weight, collecting]
  | close receiving empty gone => simp [Handling.weight, Phase.weight, receiving]
  | finish joining none_waits none_runs none_ended => simp [Handling.weight, Phase.weight, joining]
  | start waits =>
    simp only [Handling.weight, waits, List.length_append, List.length_cons, List.length_nil]
    omega
  | complete runs =>
    simp only [Handling.weight, runs, List.length_append, List.length_cons]
    omega

/-- No handler moves for ever. -/
theorem wellFounded_moves : WellFounded fun next h : Handling α β => Moves handle h next :=
  Subrelation.wf (fun m => Nat.lt_of_succ_le (Nat.le_of_eq m.weight)) (measure weight).wf

/-! ## What becomes of the events -/

/-- What is put behind the first of two lists is one more of both. -/
theorem perm_put {xs ys zs : List α} (event : α) (h : (xs ++ ys).Perm zs) :
    (xs ++ [event] ++ ys).Perm (zs ++ [event]) := by
  have hfront : (xs ++ [event] ++ ys).Perm (event :: (xs ++ ys)) := by
    rw [List.append_assoc]
    exact List.perm_middle
  exact hfront.trans ((h.cons event).trans (List.perm_append_singleton event zs).symm)

/-- What goes from the first of two lists behind the second stays among both. -/
theorem perm_move {before behind ys zs : List α} {event : α}
    (h : (before ++ event :: behind ++ ys).Perm zs) : (before ++ behind ++ (ys ++ [event])).Perm zs := by
  have hback : (before ++ behind ++ (ys ++ [event])).Perm (event :: (before ++ behind ++ ys)) := by
    rw [← List.append_assoc]
    exact List.perm_append_singleton _ _
  exact (hback.trans (List.perm_middle.symm.append_right ys)).trans h

/-- A handler that is to handle these events, somewhere on its way. -/
structure Working (handle : α → Option β) (events : List α) (h : Handling α β) : Prop where
  alone : h.channel.producers = 0
  /-- Each event is received in its turn. -/
  queued : h.received ++ h.channel.queue = events
  /-- What was received waits for its start or was started. -/
  waiting : (h.waiting ++ h.started).Perm h.received
  /-- What was started runs or has ended. -/
  running : (h.running ++ h.ended).Perm h.started
  results : h.results = h.ended.filterMap handle
  closed : h.phase = .joining ∨ h.phase = .done → h.channel.queue = []
  settled : h.phase = .done → h.waiting = [] ∧ h.running = []

theorem exists_begin {c : Channel α} (hopen : c.isOpen = true) : ∃ first : Handling α β, begin c = some first :=
  ⟨_, if_pos hopen⟩

theorem begin_of_closed {c : Channel α} (hclosed : c.isOpen = false) :
    (begin c : Option (Handling α β)) = none := by
  rw [begin, hclosed, if_neg Bool.false_ne_true]

theorem of_begin_eq_some {c : Channel α} (hbegin : begin c = some h) :
    c.isOpen = true ∧ h = ⟨c, .receiving, [], [], [], [], [], [], 0⟩ := by
  rw [begin] at hbegin
  split at hbegin
  · next hopen =>
    cases hbegin
    exact ⟨hopen, rfl⟩
  · cases hbegin

theorem Working.of_begin {c : Channel α} (gone : c.producers = 0) (hbegin : begin c = some h) :
    Working handle c.queue h := by
  obtain ⟨-, rfl⟩ := of_begin_eq_some hbegin
  exact ⟨gone, rfl, .refl _, .refl _, rfl, by simp, by simp⟩

/-- No move loses an event or takes one twice. -/
theorem Working.move (w : Working handle events h) (m : Moves handle h next) : Working handle events next := by
  obtain ⟨alone, queued, waiting, running, results, closed, settled⟩ := w
  cases m with
  | take receiving taken =>
    obtain ⟨hqueue, -, -, hproducers⟩ := Channel.of_receive_eq_some taken
    refine ⟨hproducers.trans alone, ?_, perm_put _ waiting, running, results, by simp, by simp⟩
    rw [← queued, hqueue, List.append_assoc, List.singleton_append]
  | collect looking some_ended => exact ⟨alone, queued, waiting, running, results, closed, settled⟩
  | resume collecting none_ended => exact ⟨alone, queued, waiting, running, results, by simp, by simp⟩
  | close receiving empty gone =>
    exact ⟨alone, queued, waiting, running, results, fun _ => empty, by simp⟩
  | finish joining none_waits none_runs none_ended =>
    exact ⟨alone, queued, waiting, running, results, fun _ => closed (.inl joining),
      fun _ => ⟨none_waits, none_runs⟩⟩
  | @start before behind event waits =>
    refine ⟨alone, queued, perm_move (waits ▸ waiting), perm_put event running, results, closed,
      fun done => ?_⟩
    simp [(settled done).1] at waits
  | @complete before behind event runs =>
    refine ⟨alone, queued, waiting, perm_move (runs ▸ running), ?_, closed, fun done => ?_⟩
    · rw [results, List.filterMap_append]
      cases hhandle : handle event <;> simp [hhandle]
    · simp [(settled done).2] at runs

/-- A handler that is not done has something to do, or one of its jobs has. -/
theorem Working.goes_on (w : Working handle events h) (undone : h.phase ≠ .done) :
    ∃ next, Moves handle h next := by
  cases hphase : h.phase with
  | receiving =>
    cases htaken : h.channel.receive with
    | none => exact ⟨_, .close hphase (Channel.receive_eq_none_iff.1 htaken) w.alone⟩
    | some taken => exact ⟨_, .take hphase htaken⟩
  | collecting =>
    rcases Nat.eq_zero_or_pos h.uncollected with hnone | hsome
    · exact ⟨_, .resume hphase hnone⟩
    · exact ⟨_, .collect (.inl hphase) hsome⟩
  | joining =>
    rcases hwaiting : h.waiting with _ | ⟨event, behind⟩
    · rcases hrunning : h.running with _ | ⟨event, behind⟩
      · rcases Nat.eq_zero_or_pos h.uncollected with hnone | hsome
        · exact ⟨_, .finish hphase hwaiting hrunning hnone⟩
        · exact ⟨_, .collect (.inr hphase) hsome⟩
      · exact ⟨_, @Moves.complete _ _ _ h [] behind event hrunning⟩
    · exact ⟨_, @Moves.start _ _ _ h [] behind event hwaiting⟩
  | done => exact absurd hphase undone

/-- A handler that is done has received its events in their order. -/
theorem Working.received_of_done (w : Working handle events h) (done : h.phase = .done) :
    h.received = events := by
  rw [← w.queued, w.closed (.inr done), List.append_nil]

/-- It has started the handling of each of them once. -/
theorem Working.started_of_done (w : Working handle events h) (done : h.phase = .done) :
    h.started.Perm events := by
  have hperm := w.waiting
  rwa [(w.settled done).1, List.nil_append, w.received_of_done done] at hperm

/-- What is left behind is what the handling of each of them leaves behind by itself. -/
theorem Working.results_of_done (w : Working handle events h) (done : h.phase = .done) :
    h.results.Perm (events.filterMap handle) := by
  have hended := w.running
  rw [(w.settled done).2, List.nil_append] at hended
  rw [w.results]
  exact (hended.trans (w.started_of_done done)).filterMap handle

open Relation (ReflTransGen)

theorem Working.moves (w : Working handle events h) (ms : ReflTransGen (Moves handle) h next) :
    Working handle events next := by
  induction ms with
  | refl => exact w
  | tail _ m ih => exact ih.move m

/-- What a handler does that has these events before it, whatever turns it and its jobs take. -/
structure Handles (handle : α → Option β) (events : List α) (first : Handling α β) : Prop where
  /-- It cannot move for ever. -/
  ends : Acc (fun next h => Moves handle h next) first
  /-- It does not stop before it is done. -/
  goes_on : ∀ h, ReflTransGen (Moves handle) first h → h.phase ≠ .done → ∃ next, Moves handle h next
  /-- The events come in the order in which they were accepted. -/
  received : ∀ h, ReflTransGen (Moves handle) first h → h.phase = .done → h.received = events
  /-- The handling of each of them is started once. -/
  started : ∀ h, ReflTransGen (Moves handle) first h → h.phase = .done → h.started.Perm events
  /-- Each event whose handling does not fail is handled. -/
  results : ∀ h, ReflTransGen (Moves handle) first h → h.phase = .done →
    h.results.Perm (events.filterMap handle)

theorem Working.handles (w : Working handle events h) : Handles handle events h where
  ends := wellFounded_moves.apply h
  goes_on _ ms := (w.moves ms).goes_on
  received _ ms := (w.moves ms).received_of_done
  started _ ms := (w.moves ms).started_of_done
  results _ ms := (w.moves ms).results_of_done

/-! ## One event after the other -/

/-- A handler that is about to take an event while no job is there. -/
structure Idle (h : Handling α β) : Prop where
  receiving : h.phase = .receiving
  none_waits : h.waiting = []
  none_runs : h.running = []
  none_ended : h.uncollected = 0
  alone : h.channel.producers = 0
  there : h.channel.isOpen = true

/-- A handler may handle an event to the end before it takes the next one. -/
theorem Idle.handle_next {event : α} {c : Channel α} (idle : Idle h)
    (taken : h.channel.receive = some (event, c)) :
    ∃ next, ReflTransGen (Moves handle) h next ∧ Idle next ∧ next.channel = c ∧
      next.results = h.results ++ (handle event).toList := by
  obtain ⟨channel, phase, received, waiting, started, running, ended, results, uncollected⟩ := h
  obtain ⟨rfl, rfl, rfl, rfl, alone, there⟩ := idle
  obtain ⟨-, -, hopen, hproducers⟩ := Channel.of_receive_eq_some taken
  have take := ReflTransGen.single (@Moves.take _ _ handle _ _ _ rfl taken)
  have start := take.tail (@Moves.start _ _ _ _ [] [] event rfl)
  have complete := start.tail (@Moves.complete _ _ _ _ [] [] event rfl)
  have collect := complete.tail (.collect (.inl rfl) Nat.one_pos)
  have resume := collect.tail (.resume rfl rfl)
  exact ⟨_, resume, ⟨rfl, rfl, rfl, rfl, hproducers.trans alone, hopen.trans there⟩, rfl, rfl⟩

theorem Idle.of_begin {c : Channel α} (gone : c.producers = 0) (hbegin : begin c = some h) :
    Idle h ∧ h.channel = c ∧ h.results = [] := by
  obtain ⟨hopen, rfl⟩ := of_begin_eq_some hbegin
  exact ⟨⟨rfl, rfl, rfl, rfl, gone, hopen⟩, rfl, rfl⟩

/-- So in the end it leaves behind what it makes of all events at once. -/
theorem Idle.exists_done (idle : Idle h) :
    ∃ last, ReflTransGen (Moves handle) h last ∧ last.phase = .done ∧
      last.results = h.results ++ h.channel.drain handle := by
  -- The induction is on the events that wait. The handler is idle again after each of them.
  generalize hqueue : h.channel.queue = queue
  induction queue generalizing h with
  | nil =>
    have close := ReflTransGen.single (@Moves.close _ _ handle _ idle.receiving hqueue idle.alone)
    have finish := close.tail (.finish rfl idle.none_waits idle.none_runs idle.none_ended)
    refine ⟨_, finish, rfl, ?_⟩
    rw [Channel.drain, if_pos idle.there, hqueue, List.filterMap_nil, List.append_nil]
  | cons event rest ih =>
    obtain ⟨c, taken, hrest⟩ := Channel.exists_receive hqueue
    obtain ⟨next, moves, idle', rfl, hnext⟩ := idle.handle_next taken
    obtain ⟨last, rests, done, hlast⟩ := ih idle' hrest
    refine ⟨last, moves.trans rests, done, ?_⟩
    rw [hlast, hnext, Channel.drain_of_receive handle idle.there taken, List.append_assoc]

end Handling

/-! ## Steps and handler -/

namespace Channel

variable {buffer : Nat} {c : Channel α} {steps : List (Step α)}

/-- What is promised of a channel that was made with the length `buffer`, after these steps. -/
structure Delivers (buffer : Nat) (c : Channel α) (handle : α → Option β) (steps : List (Step α)) : Prop where
  /-- A producer that does not wait is told yes exactly if the handler is there and there is room. -/
  tried : ∀ producer event, ((c.after steps).perform (.tryPublish producer event)).1 = .flag true ↔
    .dropHandler ∉ steps ∧ (c.after steps).queue.length < max 1 buffer
  /-- A producer that waits for room is done at once exactly if there is room or nobody to wait for. -/
  published : ∀ producer event, ((c.after steps).perform (.publish producer event)).1 = .flag true ↔
    .dropHandler ∈ steps ∨ (c.after steps).queue.length < max 1 buffer
  /-- An event that would have to wait, or for which there is no handler, leaves no trace. -/
  traceless : ∀ producer event,
    .dropHandler ∈ steps ∨ max 1 buffer ≤ (c.after steps).queue.length →
    ((c.after steps).perform (.publish producer event)).2 = c.after steps
  /-- What was accepted waits, whichever producers it came from, in the order in which it was accepted. -/
  queued : .dropHandler ∉ steps → (c.after steps).queue = c.accepted steps
  /-- The handler handles exactly what was accepted, once the producers are gone. -/
  handled : .dropHandler ∉ steps → ∃ first : Handling α β,
    Handling.begin (c.after steps).dropProducers = some first ∧
      Handling.Handles handle (c.accepted steps) first ∧
      (c.after steps).drain handle = (c.accepted steps).filterMap handle ∧
      ∃ last, Relation.ReflTransGen (Handling.Moves handle) first last ∧ last.phase = .done ∧
        last.results = (c.after steps).drain handle
  /-- Without a handler nothing is handled. -/
  dropped : .dropHandler ∈ steps →
    (Handling.begin (c.after steps).dropProducers : Option (Handling α β)) = none ∧
      (c.after steps).drain handle = []

/-- A new channel has room and a handler. -/
theorem of_new_eq_ok (h : new buffer = .ok c) :
    buffer ≤ greatestCapacity ∧ c.capacity = max 1 buffer ∧ c.queue = [] ∧ c.isOpen = true := by
  rw [new] at h
  split at h
  · next hsmall =>
    cases h
    exact ⟨hsmall, rfl, rfl, rfl⟩
  · cases h

theorem exists_new (h : buffer ≤ greatestCapacity) : ∃ c : Channel α, new buffer = .ok c := ⟨_, if_pos h⟩

/-- A channel of that capacity with a handler and nothing in it delivers. -/
theorem delivers (hcapacity : c.capacity = max 1 buffer) (hempty : c.queue = []) (hopen : c.isOpen = true)
    (handle : α → Option β) (steps : List (Step α)) : Delivers buffer c handle steps := by
  have hthere : (c.after steps).isOpen = true ↔ .dropHandler ∉ steps := by
    rw [isOpen_after, and_iff_right hopen]
  have hgone : (c.after steps).isOpen = false ↔ .dropHandler ∈ steps := by
    rw [← Bool.not_eq_true, hthere, not_not]
  have hroom : (c.after steps).capacity = max 1 buffer := capacity_after.trans hcapacity
  have hqueue (kept : .dropHandler ∉ steps) : (c.after steps).queue = c.accepted steps := by
    rw [queue_after hopen kept, hempty, List.nil_append]
  refine ⟨fun producer event => ?_, fun producer event => ?_, fun producer event h => ?_, hqueue,
    fun kept => ?_, fun dropped => ?_⟩
  · rw [perform, Answer.flag.injEq, hasRoom_iff, hthere, hroom]
  · rw [perform, Answer.flag.injEq, returnsAtOnce_iff, hgone, hroom]
  · have hnone : (c.after steps).hasRoom = false := by
      rw [← Bool.not_eq_true, hasRoom_iff, hthere, hroom]
      rintro ⟨kept, hlt⟩
      exact h.elim kept (Nat.not_le.2 hlt)
    exact offer_of_not_hasRoom hnone
  · obtain ⟨first, hbegin⟩ := Handling.exists_begin (c := (c.after steps).dropProducers) (hthere.2 kept)
    refine ⟨first, hbegin, ?_, ?_, ?_⟩
    · exact hqueue kept ▸ (Handling.Working.of_begin rfl hbegin).handles
    · rw [drain, if_pos (hthere.2 kept), hqueue kept]
    · obtain ⟨idle, hchannel, hresults⟩ := Handling.Idle.of_begin rfl hbegin
      have hdone := @Handling.Idle.exists_done _ _ handle _ idle
      rw [hresults, hchannel, List.nil_append] at hdone
      exact hdone
  · have hclosed := hgone.2 dropped
    exact ⟨Handling.begin_of_closed hclosed, by rw [drain, hclosed, if_neg Bool.false_ne_true]⟩

/-- What is promised of channels of a length: one can be made, and it delivers after all steps, whatever the
handler does with an event. -/
def Promised (α β : Type) (buffer : Nat) : Prop :=
  ∃ c : Channel α, new buffer = .ok c ∧
    ∀ (handle : α → Option β) (steps : List (Step α)), Delivers buffer c handle steps

/-- What is promised holds for every length that a queue can have, and for no other one. -/
theorem promised_iff (buffer : Nat) : Promised α β buffer ↔ buffer ≤ greatestCapacity := by
  constructor
  · rintro ⟨c, hnew, -⟩
    exact (of_new_eq_ok hnew).1
  · intro hsmall
    obtain ⟨c, hnew⟩ := exists_new hsmall
    obtain ⟨-, hcapacity, hempty, hopen⟩ := of_new_eq_ok hnew
    exact ⟨c, hnew, delivers hcapacity hempty hopen⟩

/-- The first length that is too great. -/
theorem not_promised_too_long : ¬Promised String String 2305843009213693952 := by
  rintro ⟨c, hnew, -⟩
  exact absurd (of_new_eq_ok hnew).1 (by decide)

end Channel

end Storefront
