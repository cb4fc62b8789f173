/-!
# Event channels

A queue of bounded length between producers of events and one handler. Producers never wait: an event
for which there is no room, or no handler any more, is lost. The handler runs when all producers are
gone and takes the events in the order in which they were accepted.
-/

namespace Storefront

/-- The length of a queue that is too great. -/
structure CapacityError where
  /-- The length that was asked for. -/
  capacity : Nat
  deriving DecidableEq

/-- A queue of events. -/
structure Channel (α : Type) where
  /-- How many events the queue may hold. -/
  capacity : Nat
  /-- There is room for at least one event. -/
  capacity_pos : 0 < capacity
  /-- The events that wait, the oldest first. -/
  queue : List α
  bounded : queue.length ≤ capacity
  /-- Is the handler still there? -/
  isOpen : Bool
  /-- How many producers there are. -/
  producers : Nat

namespace Channel

/-- The greatest length of a queue, 2^61 - 1. -/
def greatestCapacity : Nat := 2305843009213693951

variable {α β : Type}

/-- A new channel with a handler and no producer. A length of nothing is taken as one. -/
def new (buffer : Nat) : Except CapacityError (Channel α) :=
  if buffer ≤ greatestCapacity then
    .ok ⟨max 1 buffer, by omega, [], by simp, true, 0⟩
  else .error ⟨buffer⟩

/-- The channel with one more producer, if the handler is still there. -/
def subscribe (c : Channel α) : Channel α :=
  if c.isOpen then { c with producers := c.producers + 1 } else c

/-- The channel with another producer made from one that exists. -/
def clone (c : Channel α) : Channel α := { c with producers := c.producers + 1 }

/-- Would an event be accepted? -/
def hasRoom (c : Channel α) : Bool := c.isOpen && c.queue.length < c.capacity

/-- The channel after an event was offered. -/
def offer (c : Channel α) (event : α) : Channel α :=
  if h : c.queue.length < c.capacity then
    if c.isOpen then
      { c with queue := c.queue ++ [event], bounded := by simp only [List.length_append, List.length_singleton]; omega }
    else c
  else c

/-- Would publishing an event return at once? So it does where there is room, and where nobody is
there to wait for. -/
def returnsAtOnce (c : Channel α) : Bool := !c.isOpen || c.hasRoom

/-- The channel without its handler. The events that wait are lost. -/
def dropHandler (c : Channel α) : Channel α :=
  { c with queue := [], bounded := Nat.zero_le _, isOpen := false }

/-- The oldest event that waits, and the channel once the handler has taken it. -/
def receive (c : Channel α) : Option (α × Channel α) :=
  match h : c.queue with
  | [] => none
  | event :: rest =>
    have bounded : rest.length ≤ c.capacity := by
      have hbounded := c.bounded
      rw [h, List.length_cons] at hbounded
      omega
    some (event, { c with queue := rest, bounded := bounded })

/-- The channel when all producers are gone. -/
def dropProducers (c : Channel α) : Channel α := { c with producers := 0 }

/-- What is done with a channel before its handler runs. Producers go by their numbers. -/
inductive Step (α : Type) where
  /-- The handler is asked for one more producer. -/
  | subscribe
  /-- Another producer is made from one that exists. -/
  | clone (producer : Nat)
  /-- An event is offered by a producer that does not wait. -/
  | tryPublish (producer : Nat) (event : α)
  /-- An event is offered by a producer that waits for room. Where it would wait, it gives up. -/
  | publish (producer : Nat) (event : α)
  | dropHandler
  deriving DecidableEq

/-- What a step answers. -/
inductive Answer where
  /-- How many producers there are. -/
  | producers (count : Nat)
  | flag (value : Bool)
  deriving DecidableEq

/-- Takes a step. A producer that does not wait is told whether its event was accepted, one that waits for
room is seen to be done at once or not. -/
def perform (c : Channel α) : Step α → Answer × Channel α
  | .subscribe => (.producers c.subscribe.producers, c.subscribe)
  | .clone _ => (.producers c.clone.producers, c.clone)
  | .tryPublish _ event => (.flag c.hasRoom, c.offer event)
  | .publish _ event => (.flag c.returnsAtOnce, c.offer event)
  | .dropHandler => (.flag c.isOpen, c.dropHandler)

/-- The channel after these steps. -/
def after (c : Channel α) (steps : List (Step α)) : Channel α :=
  steps.foldl (fun c step => (c.perform step).2) c

/-- What the handler makes of the events when all producers are gone. Each event is handled by itself,
and one whose handling fails leaves nothing behind. -/
def drain (c : Channel α) (handle : α → Option β) : List β :=
  if c.isOpen then c.queue.filterMap handle else []

/-- The text under which too great a length is reported. -/
def tooLongText : String :=
  "a semaphore may not have more than MAX_PERMITS permits (" ++ toString greatestCapacity ++ ")"

end Channel

end Storefront
