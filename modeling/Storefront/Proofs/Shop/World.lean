import Storefront.Proofs.Shop.Scene

/-!
# Runs in a model of the outside

A world whose storage is in memory answers the calls of a shop as the contract says, so that whatever
holds of all runs of an operation holds of the run that a world makes.
-/

namespace Storefront.Shop

open Storage (Memory)

/-- A world keeps its documents in memory, and this is its scene. -/
structure World.Shows (w : World) (s : Scene) : Prop where
  backend : w.storage.backend = .memory s.documents
  channel : w.channel = s.channel

/-- Two worlds have the same faults and the same providers. -/
structure World.Alike (w w' : World) : Prop where
  faults : w'.storage.faults = w.storage.faults
  pay : w'.pay = w.pay

theorem World.Alike.trans {w w' w'' : World} (h : w.Alike w') (h' : w'.Alike w'') : w.Alike w'' :=
  ⟨h'.faults.trans h.faults, h'.pay.trans h.pay⟩

/-- A call may fail in a world if a message is set for it. -/
def World.mayFail (w : World) (c : Storage.Call) : Prop :=
  (w.storage.faults.message? c).isSome = true

variable {α : Type} {w w' : World} {s : Scene}

theorem World.Alike.mayFail_eq (h : w.Alike w') : w'.mayFail = w.mayFail := by
  funext c
  rw [World.mayFail, World.mayFail, h.faults]

/-! ## One call -/

/-- A call for which a message is set fails. -/
theorem World.answer_failed {request : Storage.Call} {message : String}
    (hfault : w.storage.faults.message? request = some message) :
    World.answer (.storage request) w =
      (.error (.file request.key (.other message)),
        { w with storage := { w.storage with calls := request :: w.storage.calls } }) := by
  have hanswer : Storage.Recorded.answer request w.storage =
      (.error (.file request.key (.other message)),
        { w.storage with calls := request :: w.storage.calls }) := by
    unfold Storage.Recorded.answer
    simp only [hfault]
  simp only [World.answer, StateT.run, hanswer]

theorem World.answer_memory {request : Storage.Call} {m : Memory}
    (hbackend : w.storage.backend = .memory m)
    (hfault : w.storage.faults.message? request = none) :
    World.answer (.storage request) w =
      ((Memory.answer request m).1,
        { w with storage := { w.storage with
            backend := .memory (Memory.answer request m).2
            calls := request :: w.storage.calls } }) := by
  have hanswer : Storage.Recorded.answer request w.storage =
      ((Memory.answer request m).1,
        { w.storage with
            backend := .memory (Memory.answer request m).2
            calls := request :: w.storage.calls }) := by
    unfold Storage.Recorded.answer
    simp only [hfault, hbackend]
    rfl
  simp only [World.answer, StateT.run, hanswer]
  rfl

/-- Answering a call shows as the contract says, and changes neither faults nor providers. -/
theorem World.answer_serves (h : w.Shows s) (request : Call) :
    ∃ s', Serves w.mayFail request s (World.answer request w).1 s' ∧
      (World.answer request w).2.Shows s' ∧ w.Alike (World.answer request w).2 := by
  obtain ⟨m, channel⟩ := s
  obtain ⟨hbackend, hchannel⟩ := h
  cases request with
  | storage request =>
    cases hfault : w.storage.faults.message? request with
    | none =>
      rw [World.answer_memory hbackend hfault]
      exact ⟨⟨_, channel⟩, .storage (.obeyed request m) channel, ⟨rfl, hchannel⟩, ⟨rfl, rfl⟩⟩
    | some message =>
      have hmay : w.mayFail request := by
        rw [World.mayFail, hfault]
        rfl
      rw [World.answer_failed hfault]
      exact ⟨⟨m, channel⟩, .storage (.failed hmay m _) channel, ⟨hbackend, hchannel⟩, ⟨rfl, rfl⟩⟩
  | pay request => exact ⟨_, .pay request _ _, ⟨hbackend, hchannel⟩, ⟨rfl, rfl⟩⟩
  | announce event =>
    refine ⟨_, .announce event _, ⟨hbackend, ?_⟩, ⟨rfl, rfl⟩⟩
    show World.offerAll w.channel event = World.offerAll channel event
    rw [hchannel]

/-! ## Whole runs -/

/-- What a world makes of a program. -/
abbrev World.exec (p : Program interface α) (w : World) : α × World :=
  (Program.run World.answer p).run w

theorem World.exec_call {request : Call} {next : request.Answer → Program interface α} :
    w.exec (.call request next) =
      (World.answer request w).2.exec (next (World.answer request w).1) := rfl

/-- Whatever a world makes of a program is a run of it. -/
theorem World.exec_runs (p : Program interface α) (h : w.Shows s) :
    ∃ trace s', Program.Runs (Serves w.mayFail) p s trace (w.exec p).1 s' ∧
      (w.exec p).2.Shows s' ∧ w.Alike (w.exec p).2 := by
  induction p generalizing w s with
  | done a => exact ⟨[], s, .done a s, h, ⟨rfl, rfl⟩⟩
  | call request next ih =>
    obtain ⟨s₁, hserved, hshows, halike⟩ := World.answer_serves h request
    obtain ⟨trace, s', hruns, hshows', halike'⟩ := ih (World.answer request w).1 hshows
    rw [halike.mayFail_eq] at hruns
    exact ⟨_, s', .call hserved hruns, hshows', halike.trans halike'⟩

/-- Whatever a world makes of an operation is a run of it. -/
theorem World.run_runs (operation : Operation α) (h : w.Shows s) :
    ∃ trace s', Runs w.mayFail operation s trace (w.run operation).1 s' ∧
      (w.run operation).2.Shows s' ∧ w.Alike (w.run operation).2 :=
  World.exec_runs operation.run h

end Storefront.Shop
