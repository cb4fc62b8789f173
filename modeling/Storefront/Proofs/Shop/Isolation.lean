import Storefront.Proofs.Shop.Books
import Storefront.Proofs.Shop.Confined
import Storefront.Proofs.Shop.World

/-!
# Isolation of buyers

What a buyer gets, and what is stored for this buyer in the end, is the same whether other buyers have
used the shop in between or not. Two things make it so: a request of this buyer is answered alike by any
two worlds that hold the same for the buyer, and a request of another one leaves a world that holds the
same. The channel of announcements, which all of them fill, plays no part.
-/

namespace Storefront.Shop

open Storage (Memory)

/-- A request of a buyer at a moment. -/
structure Step where
  user : UserId
  moment : Moment
  request : Request

/-- Serves requests one after the other; gives each outcome with its buyer. -/
def World.serve (shop : Shop) : List Step → World → List (UserId × Except ShopError Response) × World
  | [], w => ([], w)
  | step :: rest, w =>
    let (outcome, w) := w.run (step.request.perform shop step.moment step.user)
    let (outcomes, w) := serve shop rest w
    ((step.user, outcome) :: outcomes, w)

/-- Two worlds keep their documents in memory, hold the same for a buyer and have the same faults and
providers. Their channels may differ, and so may all that belongs to others. -/
structure World.Agree (user : UserId) (w w' : World) : Prop where
  /-- What they hold. -/
  documents : ∃ m m', w.storage.backend = .memory m ∧ w'.storage.backend = .memory m' ∧
    SameFor user m m'
  /-- How calls fail and providers answer. -/
  alike : w.Alike w'

variable {α : Type} {user other : UserId} {m m' : Memory} {w w' w'' : World} {shop : Shop}

/-! ## One call -/

theorem SameFor.put (h : SameFor user m m') (key : String) (data : ByteArray) :
    SameFor user (m.put key data) (m'.put key data) := by
  intro k hk
  by_cases heq : k = key
  · rw [heq, Memory.get?_put_self, Memory.get?_put_self]
  · rw [Memory.get?_put_of_ne heq, Memory.get?_put_of_ne heq, h k hk]

theorem SameFor.erase (h : SameFor user m m') (key : String) :
    SameFor user (m.erase key) (m'.erase key) := by
  intro k hk
  by_cases heq : k = key
  · rw [heq, Memory.get?_erase_self, Memory.get?_erase_self]
  · rw [Memory.get?_erase_of_ne heq, Memory.get?_erase_of_ne heq, h k hk]

/-- A call that is about a buyer is answered alike where the same is held for this buyer. -/
theorem Own.answer_memory {request : Storage.Call} {expected : request.Answer → Prop}
    (h : Own (Owns user) user (.storage request) expected) (hsame : SameFor user m m') :
    (Memory.answer request m').1 = (Memory.answer request m).1 ∧
      expected (Memory.answer request m).1 ∧
      SameFor user (Memory.answer request m).2 (Memory.answer request m').2 := by
  cases h with
  | @get key owns =>
    simp only [Memory.answer]
    cases Storage.readKey key with
    | error e => exact ⟨rfl, trivial, hsame⟩
    | ok path => exact ⟨congrArg Except.ok (hsame key owns), trivial, hsame⟩
  | @put key owns data =>
    simp only [Memory.answer]
    cases Storage.readKey key with
    | error e => exact ⟨rfl, trivial, hsame⟩
    | ok path => exact ⟨rfl, trivial, hsame.put key data⟩
  | @delete key owns =>
    simp only [Memory.answer]
    cases Storage.readKey key with
    | error e => exact ⟨rfl, trivial, hsame⟩
    | ok path =>
      refine ⟨congrArg Except.ok ?_, trivial, hsame.erase key⟩
      rw [Memory.contains, Memory.contains, hsame key owns]
  | @list text start parsed =>
    rw [Memory.answer_list parsed, Memory.answer_list parsed]
    refine ⟨congrArg Except.ok (Memory.listed_congr fun key hkey => by rw [hsame key (owns_of_shows hkey)]),
      ?_, hsame⟩
    intro keys hkeys key hkey
    cases hkeys
    exact owns_of_shows (Memory.mem_listed_iff.1 hkey).2

/-- So it is in worlds that agree on the buyer, and they go on agreeing. -/
theorem Own.answer_agree {request : Call} {expected : request.Answer → Prop}
    (h : Own (Owns user) user request expected) (hagree : World.Agree user w w') :
    (World.answer request w').1 = (World.answer request w).1 ∧
      expected (World.answer request w).1 ∧
      World.Agree user (World.answer request w).2 (World.answer request w').2 := by
  obtain ⟨⟨m, m', hm, hm', hsame⟩, halike⟩ := hagree
  cases request with
  | storage request =>
    cases hfault : w.storage.faults.message? request with
    | none =>
      have hfault' : w'.storage.faults.message? request = none := by
        rw [halike.faults, hfault]
      obtain ⟨hanswer, hexpected, hsame'⟩ := h.answer_memory hsame
      rw [World.answer_memory hm hfault, World.answer_memory hm' hfault']
      exact ⟨hanswer, hexpected, ⟨_, _, rfl, rfl, hsame'⟩, ⟨halike.faults, halike.pay⟩⟩
    | some message =>
      have hfault' : w'.storage.faults.message? request = some message := by
        rw [halike.faults, hfault]
      rw [World.answer_failed hfault, World.answer_failed hfault']
      refine ⟨rfl, ?_, ⟨m, m', hm, hm', hsame⟩, ⟨halike.faults, halike.pay⟩⟩
      cases h with
      | get | put | delete => trivial
      | list =>
        intro keys hkeys
        cases hkeys
  | pay request =>
    refine ⟨congrFun halike.pay request, ?_, ⟨m, m', hm, hm', hsame⟩, ⟨halike.faults, halike.pay⟩⟩
    cases h
    trivial
  | announce event =>
    refine ⟨rfl, ?_, ⟨m, m', hm, hm', hsame⟩, ⟨halike.faults, halike.pay⟩⟩
    cases h
    trivial

/-! ## One request -/

/-- A program whose calls are about a buyer comes to the same in worlds that agree on the buyer. -/
theorem exec_agree {kind : α → Prop} {p : Program interface α}
    (h : Program.Asks (Own (Owns user) user) kind p) (hagree : World.Agree user w w') :
    (w'.exec p).1 = (w.exec p).1 ∧ World.Agree user (w.exec p).2 (w'.exec p).2 := by
  induction h generalizing w w' with
  | done => exact ⟨rfl, hagree⟩
  | @call request next expected allows _ ih =>
    obtain ⟨hanswer, hexpected, hagree'⟩ := allows.answer_agree hagree
    have hrest := ih _ hexpected hagree'
    rw [World.exec_call, World.exec_call, hanswer]
    exact hrest

/-- What a buyer asks for comes to the same in worlds that agree on the buyer. -/
theorem run_perform_agree (shop : Shop) (hagree : World.Agree user w w') (moment : Moment) (request : Request) :
    (w'.run (request.perform shop moment user)).1 = (w.run (request.perform shop moment user)).1 ∧
      World.Agree user (w.run (request.perform shop moment user)).2
        (w'.run (request.perform shop moment user)).2 :=
  exec_agree (Confined.perform (covers_owns user) request) hagree

/-- What another buyer asks for leaves the world in agreement. -/
theorem run_perform_of_ne (shop : Shop) (hagree : World.Agree user w w') (hne : other ≠ user) (moment : Moment)
    (request : Request) :
    World.Agree user (w.run (request.perform shop moment other)).2 w' := by
  obtain ⟨⟨m, m', hm, hm', hsame⟩, halike⟩ := hagree
  obtain ⟨trace, s', hruns, hshows, halike'⟩ :=
    World.run_runs (s := ⟨m, w.channel⟩) (request.perform shop moment other) ⟨hm, rfl⟩
  have hkept := ((runs_perform hruns).sameFor hne).symm
  exact ⟨⟨_, m', hshows.backend, hm', hkept.trans hsame⟩,
    ⟨halike.faults.trans halike'.faults.symm, halike.pay.trans halike'.pay.symm⟩⟩

/-! ## All requests -/

/-- The outcomes of a buyer, and what is stored for the buyer in the end, are those of the run from
which the requests of all other buyers are taken out. -/
theorem buyers_isolated (shop : Shop) (steps : List Step) (user : UserId)
    (hagree : World.Agree user w w') :
    (World.serve shop (steps.filter (·.user = user)) w').1 =
        (World.serve shop steps w).1.filter (·.1 = user) ∧
      World.Agree user (World.serve shop steps w).2
        (World.serve shop (steps.filter (·.user = user)) w').2 := by
  induction steps generalizing w w' with
  | nil => exact ⟨rfl, hagree⟩
  | cons step steps ih =>
    by_cases huser : step.user = user
    · subst huser
      obtain ⟨houtcome, hagree'⟩ := run_perform_agree shop hagree step.moment step.request
      obtain ⟨houtcomes, hagree''⟩ := ih hagree'
      rw [List.filter_cons_of_pos (by simp)]
      simp only [World.serve]
      rw [List.filter_cons_of_pos (by simp), houtcome, houtcomes]
      exact ⟨rfl, hagree''⟩
    · have hagree' := run_perform_of_ne shop hagree huser step.moment step.request
      obtain ⟨houtcomes, hagree''⟩ := ih hagree'
      rw [List.filter_cons_of_neg (by simpa using huser)]
      simp only [World.serve]
      rw [List.filter_cons_of_neg (by simpa using huser)]
      exact ⟨houtcomes, hagree''⟩

/-- A world with an empty storage in which nothing fails. -/
def Sample.world : World where
  storage := ⟨.memory .empty, .none, []⟩
  pay _ := .ok "address"
  requests := []
  channel := Sample.scene.channel

/-- A buyer whose id is the name of a folder. -/
def Sample.secondBuyer : UserId := ⟨"orders", by decide⟩

/-- Two buyers who take turns. -/
def Sample.steps : List Step :=
  [⟨Sample.buyer, Sample.moment, .fetch ["addtocart", "A"]⟩, ⟨Sample.secondBuyer, Sample.moment, .add "A"⟩,
    ⟨Sample.secondBuyer, Sample.moment, .place⟩, ⟨Sample.buyer, Sample.moment, .place⟩]

/-- The second buyer leaves no trace for the first. -/
theorem buyers_isolated_sample :
    (World.serve Sample.shop (Sample.steps.filter (·.user = Sample.buyer)) Sample.world).1 =
        (World.serve Sample.shop Sample.steps Sample.world).1.filter (·.1 = Sample.buyer) ∧
      World.Agree Sample.buyer (World.serve Sample.shop Sample.steps Sample.world).2
        (World.serve Sample.shop (Sample.steps.filter (·.user = Sample.buyer)) Sample.world).2 := by
  have hagree : World.Agree Sample.buyer Sample.world Sample.world :=
    ⟨⟨.empty, .empty, rfl, rfl, .refl _ _⟩, ⟨rfl, rfl⟩⟩
  exact buyers_isolated Sample.shop Sample.steps Sample.buyer hagree

end Storefront.Shop
