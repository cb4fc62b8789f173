import Storefront.Channel

/-!
# What becomes of events

An event that finds room waits behind those that are there, and any other one is lost. The handler takes the
events in the order in which they came in.
-/

namespace Storefront.Channel

variable {α β : Type} {c c' : Channel α} {event : α}

theorem hasRoom_iff : c.hasRoom = true ↔ c.isOpen = true ∧ c.queue.length < c.capacity := by
  rw [hasRoom, Bool.and_eq_true, decide_eq_true_iff]

theorem returnsAtOnce_iff :
    c.returnsAtOnce = true ↔ c.isOpen = false ∨ c.queue.length < c.capacity := by
  cases hopen : c.isOpen <;> simp [returnsAtOnce, hasRoom, hopen]

theorem queue_offer_of_hasRoom (h : c.hasRoom = true) : (c.offer event).queue = c.queue ++ [event] := by
  obtain ⟨hopen, hroom⟩ := Bool.and_eq_true_iff.1 h
  unfold offer
  rw [dif_pos (of_decide_eq_true hroom), if_pos hopen]

theorem offer_of_not_hasRoom (h : c.hasRoom = false) : c.offer event = c := by
  unfold offer
  split
  · next hroom =>
    split
    · next hopen => simp [hasRoom, hopen, hroom] at h
    · rfl
  · rfl

/-- An event for which there is no room finds a full queue or no handler. -/
theorem full_or_closed_of_not_hasRoom (h : c.hasRoom = false) :
    c.queue.length = c.capacity ∨ c.isOpen = false := by
  rcases Bool.and_eq_false_iff.1 h with hclosed | hfull
  · exact .inr hclosed
  · exact .inl (Nat.le_antisymm c.bounded (Nat.le_of_not_lt (of_decide_eq_false hfull)))

@[simp] theorem capacity_offer : (c.offer event).capacity = c.capacity := by
  unfold offer
  split
  · split <;> rfl
  · rfl

@[simp] theorem isOpen_offer : (c.offer event).isOpen = c.isOpen := by
  unfold offer
  split
  · split <;> rfl
  · rfl

@[simp] theorem producers_offer : (c.offer event).producers = c.producers := by
  unfold offer
  split
  · split <;> rfl
  · rfl

/-- What is taken is the first event of the queue. -/
theorem of_receive_eq_some (h : c.receive = some (event, c')) :
    c.queue = event :: c'.queue ∧ c'.capacity = c.capacity ∧ c'.isOpen = c.isOpen ∧
      c'.producers = c.producers := by
  unfold receive at h
  split at h
  · cases h
  · next hqueue =>
    cases h
    exact ⟨hqueue, rfl, rfl, rfl⟩

theorem receive_eq_none_iff : c.receive = none ↔ c.queue = [] := by
  unfold receive
  split <;> simp_all

theorem exists_receive {rest : List α} (h : c.queue = event :: rest) :
    ∃ c', c.receive = some (event, c') ∧ c'.queue = rest := by
  cases hreceive : c.receive with
  | none => rw [receive_eq_none_iff.1 hreceive] at h; cases h
  | some taken =>
    have htaken := (of_receive_eq_some hreceive).1
    rw [h] at htaken
    cases htaken
    exact ⟨_, rfl, rfl⟩

/-- A handler that has one event after the other handles what it would if it took them all at once. -/
theorem drain_of_receive (handle : α → Option β) (hopen : c.isOpen = true)
    (h : c.receive = some (event, c')) : c.drain handle = (handle event).toList ++ c'.drain handle := by
  obtain ⟨hqueue, -, hsame, -⟩ := of_receive_eq_some h
  rw [drain, drain, hsame, if_pos hopen, if_pos hopen, hqueue, List.filterMap_cons]
  cases handle event <;> rfl

/-! ## Steps -/

section Steps

variable {step : Step α} {steps : List (Step α)}

/-- The event that a step brings into the channel, as its answer tells. A producer that does not wait is told
yes; one that waits for room is done at once, but so it is too when the handler is gone. -/
def accepts (c : Channel α) : Step α → Option α
  | .tryPublish producer event =>
    if (c.perform (.tryPublish producer event)).1 = .flag true then some event else none
  | .publish producer event =>
    if c.isOpen ∧ (c.perform (.publish producer event)).1 = .flag true then some event else none
  | _ => none

/-- The events that the steps bring into the channel, in the order of the steps. -/
def accepted (c : Channel α) : List (Step α) → List α
  | [] => []
  | step :: rest => (c.accepts step).toList ++ (c.perform step).2.accepted rest

@[simp] theorem capacity_perform : (c.perform step).2.capacity = c.capacity := by
  cases step with
  | subscribe =>
    rw [perform, subscribe]
    split <;> rfl
  | clone => rfl
  | tryPublish => exact capacity_offer
  | publish => exact capacity_offer
  | dropHandler => rfl

/-- Only dropping the handler closes the channel, and nothing opens it again. -/
theorem isOpen_perform :
    (c.perform step).2.isOpen = true ↔ c.isOpen = true ∧ .dropHandler ≠ step := by
  cases step with
  | subscribe =>
    rw [perform, subscribe]
    split <;> simp_all
  | clone => simp [perform, clone]
  | tryPublish => simp [perform]
  | publish => simp [perform]
  | dropHandler => simp [perform, dropHandler]

theorem accepts_tryPublish {producer : Nat} :
    c.accepts (.tryPublish producer event) = if c.hasRoom then some event else none := by
  simp [accepts, perform]

theorem accepts_publish {producer : Nat} :
    c.accepts (.publish producer event) = if c.hasRoom then some event else none := by
  cases hopen : c.isOpen <;> simp [accepts, perform, returnsAtOnce, hasRoom, hopen]

/-- What is accepted waits behind what was there. -/
theorem queue_perform (hopen : c.isOpen = true) (hkept : .dropHandler ≠ step) :
    (c.perform step).2.queue = c.queue ++ (c.accepts step).toList := by
  have offered (event : α) :
      (c.offer event).queue = c.queue ++ (if c.hasRoom then some event else none).toList := by
    cases hroom : c.hasRoom with
    | false => simp [offer_of_not_hasRoom hroom]
    | true => simp [queue_offer_of_hasRoom hroom]
  cases step with
  | subscribe => simp [perform, subscribe, hopen, accepts]
  | clone => simp [perform, clone, accepts]
  | tryPublish => rw [accepts_tryPublish]; exact offered _
  | publish => rw [accepts_publish]; exact offered _
  | dropHandler => exact absurd rfl hkept

@[simp] theorem capacity_after : (c.after steps).capacity = c.capacity := by
  induction steps generalizing c with
  | nil => rfl
  | cons step rest ih => exact ih.trans capacity_perform

theorem isOpen_after : (c.after steps).isOpen = true ↔ c.isOpen = true ∧ .dropHandler ∉ steps := by
  induction steps generalizing c with
  | nil => simp [after]
  | cons step rest ih =>
    rw [List.mem_cons, not_or, ← and_assoc, ← ne_eq, ← isOpen_perform]
    exact ih

/-- While the handler is there, everything that was accepted waits. -/
theorem queue_after (hopen : c.isOpen = true) (hkept : .dropHandler ∉ steps) :
    (c.after steps).queue = c.queue ++ c.accepted steps := by
  induction steps generalizing c with
  | nil => exact (List.append_nil _).symm
  | cons step rest ih =>
    obtain ⟨hstep, hrest⟩ := not_or.1 (mt List.mem_cons.2 hkept)
    have hopen' : (c.perform step).2.isOpen = true := isOpen_perform.2 ⟨hopen, hstep⟩
    rw [accepted, ← List.append_assoc, ← queue_perform hopen hstep]
    exact ih hopen' hrest

end Steps

end Storefront.Channel
