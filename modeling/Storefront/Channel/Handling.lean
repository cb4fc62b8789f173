import Storefront.Channel

/-!
# Handlers at work

A handler takes one event after the other from its channel and sets up a job for each, in which the handling of
the event runs by itself. Jobs start, run and end in any order. Between two events the handler collects the
jobs that have ended, and once the channel is closed and empty it waits for all that are left.
-/

namespace Storefront

/-- Where a handler is. -/
inductive Handling.Phase where
  /-- It is about to take an event. -/
  | receiving
  /-- It has set up a job and collects those that have ended. -/
  | collecting
  /-- The channel is closed and empty, and the handler waits for its jobs. -/
  | joining
  | done
  deriving DecidableEq

/-- A handler at work on events, each of which may leave something behind when it is handled. -/
structure Handling (α β : Type) where
  channel : Channel α
  phase : Handling.Phase
  /-- The events that were taken from the channel, the first one first. -/
  received : List α
  /-- The events whose jobs have not started yet. -/
  waiting : List α
  /-- The events whose handling was started, in that order. -/
  started : List α
  /-- The events whose handling runs. -/
  running : List α
  /-- The events whose handling has come to its end or has failed, in that order. -/
  ended : List α
  /-- What the handling of the events has left behind. -/
  results : List β
  /-- How many jobs have ended and were not collected. -/
  uncollected : Nat

namespace Handling

variable {α β : Type}

/-- A handler that starts on a channel, if it was not dropped. -/
def begin (c : Channel α) : Option (Handling α β) :=
  if c.isOpen then some ⟨c, .receiving, [], [], [], [], [], [], 0⟩ else none

/-- One move of a handler or of one of its jobs. -/
inductive Moves (handle : α → Option β) : Handling α β → Handling α β → Prop where
  /-- The handler takes an event and sets up a job for it. -/
  | take {h : Handling α β} {event : α} {c : Channel α} (receiving : h.phase = .receiving)
      (taken : h.channel.receive = some (event, c)) :
      Moves handle h
        { h with
          channel := c, phase := .collecting, received := h.received ++ [event],
          waiting := h.waiting ++ [event] }
  /-- The handler collects a job that has ended. -/
  | collect {h : Handling α β} (looking : h.phase = .collecting ∨ h.phase = .joining)
      (some_ended : 0 < h.uncollected) : Moves handle h { h with uncollected := h.uncollected - 1 }
  /-- No other job has ended, and the handler turns to the channel again. -/
  | resume {h : Handling α β} (collecting : h.phase = .collecting) (none_ended : h.uncollected = 0) :
      Moves handle h { h with phase := .receiving }
  /-- The channel is empty and all producers are gone. -/
  | close {h : Handling α β} (receiving : h.phase = .receiving) (empty : h.channel.queue = [])
      (gone : h.channel.producers = 0) : Moves handle h { h with phase := .joining }
  /-- No job is left. -/
  | finish {h : Handling α β} (joining : h.phase = .joining) (none_waits : h.waiting = [])
      (none_runs : h.running = []) (none_ended : h.uncollected = 0) :
      Moves handle h { h with phase := .done }
  /-- A job starts the handling of its event. -/
  | start {h : Handling α β} {before behind : List α} {event : α}
      (waits : h.waiting = before ++ event :: behind) :
      Moves handle h
        { h with
          waiting := before ++ behind, started := h.started ++ [event], running := h.running ++ [event] }
  /-- A job ends. One whose handling fails leaves nothing behind. -/
  | complete {h : Handling α β} {before behind : List α} {event : α}
      (runs : h.running = before ++ event :: behind) :
      Moves handle h
        { h with
          running := before ++ behind, ended := h.ended ++ [event],
          results := h.results ++ (handle event).toList, uncollected := h.uncollected + 1 }

end Handling

end Storefront
