import Storefront.Program

/-!
# Runs of a program

A program is run by an outside that has a state. `Program.Runs` holds of a run: the program, the state
before it, the calls that it made with the answers it got, its value, and the state after it. Which
answers and which next states a call may have is told by a relation, so that an outside may choose.
-/

namespace Storefront

/-- A call together with its answer. -/
abbrev Exchange (I : Interface) : Type := (request : I.Call) × I.Answer request

/-- Which answers and which next states a call may have in a state. -/
abbrev Outside (I : Interface) (σ : Type) : Type :=
  (request : I.Call) → σ → I.Answer request → σ → Prop

namespace Program

variable {I : Interface} {σ α β ε : Type} {serve : Outside I σ}

/-- A run of a program from its first to its last call. -/
inductive Runs (serve : Outside I σ) : Program I α → σ → List (Exchange I) → α → σ → Prop where
  | done (a : α) (s : σ) : Runs serve (done a) s [] a s
  /-- The outside answers a call and the program goes on. -/
  | call {request : I.Call} {next : I.Answer request → Program I α} {s s₁ s₂ : σ}
    {answer : I.Answer request} {trace : List (Exchange I)} {a : α}
    (served : serve request s answer s₁) (rest : Runs serve (next answer) s₁ trace a s₂) :
    Runs serve (call request next) s (⟨request, answer⟩ :: trace) a s₂

theorem runs_done_iff {a b : α} {s s' : σ} {trace : List (Exchange I)} :
    Runs serve (done a) s trace b s' ↔ trace = [] ∧ b = a ∧ s' = s := by
  constructor
  · intro h
    cases h
    exact ⟨rfl, rfl, rfl⟩
  · rintro ⟨rfl, rfl, rfl⟩
    exact .done _ _

theorem runs_call_iff {request : I.Call} {next : I.Answer request → Program I α} {s s' : σ}
    {trace : List (Exchange I)} {a : α} :
    Runs serve (call request next) s trace a s' ↔
      ∃ answer rest s₁, trace = ⟨request, answer⟩ :: rest ∧ serve request s answer s₁ ∧
        Runs serve (next answer) s₁ rest a s' := by
  constructor
  · intro h
    cases h with
    | call served rest => exact ⟨_, _, _, rfl, served, rest⟩
  · rintro ⟨answer, rest, s₁, rfl, served, hrest⟩
    exact .call served hrest

/-- What runs on one outside runs on another one that can follow every call, in states that are related. -/
theorem Runs.simulate {τ : Type} {serve' : Outside I τ} {R : σ → τ → Prop}
    (hstep : ∀ request s t answer s', R s t → serve request s answer s' →
      ∃ t', serve' request t answer t' ∧ R s' t')
    {p : Program I α} {s s' : σ} {t : τ} {trace : List (Exchange I)} {a : α}
    (h : Runs serve p s trace a s') (hR : R s t) : ∃ t', Runs serve' p t trace a t' ∧ R s' t' := by
  induction h generalizing t with
  | done a s => exact ⟨t, .done a t, hR⟩
  | call served _ ih =>
    obtain ⟨t₁, hserved, hR₁⟩ := hstep _ _ _ _ _ hR served
    obtain ⟨t', hrest, hR'⟩ := ih hR₁
    exact ⟨t', .call hserved hrest, hR'⟩

/-- A run of one outside is a run of another one if each call is, with its states seen through a function. -/
theorem Runs.image {τ : Type} {serve' : Outside I τ} (f : σ → τ)
    (himp : ∀ request s answer s', serve request s answer s' → serve' request (f s) answer (f s'))
    {p : Program I α} {s s' : σ} {trace : List (Exchange I)} {a : α}
    (h : Runs serve p s trace a s') : Runs serve' p (f s) trace a (f s') := by
  induction h with
  | done a s => exact .done a (f s)
  | call served _ ih => exact .call (himp _ _ _ _ served) ih

/-- An outside that may answer in more ways has the same runs and more. -/
theorem Runs.mono {serve' : Outside I σ}
    (himp : ∀ request s answer s', serve request s answer s' → serve' request s answer s')
    {p : Program I α} {s s' : σ} {trace : List (Exchange I)} {a : α}
    (h : Runs serve p s trace a s') : Runs serve' p s trace a s' := h.image id himp

/-- A program comes to an end if every call has an answer. -/
theorem exists_runs (htotal : ∀ request s, ∃ answer s', serve request s answer s') (p : Program I α) (s : σ) :
    ∃ trace a s', Runs serve p s trace a s' := by
  induction p generalizing s with
  | done a => exact ⟨[], a, s, .done a s⟩
  | call request next ih =>
    obtain ⟨answer, s₁, hserved⟩ := htotal request s
    obtain ⟨trace, a, s₂, hrest⟩ := ih answer s₁
    exact ⟨_, a, s₂, .call hserved hrest⟩

/-- A run of a sequence is a run of its first part followed by a run of its second. -/
theorem runs_bind_iff {p : Program I α} {f : α → Program I β} {s s' : σ}
    {trace : List (Exchange I)} {b : β} :
    Runs serve (p >>= f) s trace b s' ↔
      ∃ first second a s₁, trace = first ++ second ∧ Runs serve p s first a s₁ ∧
        Runs serve (f a) s₁ second b s' := by
  induction p generalizing s trace with
  | done a =>
    constructor
    · intro h
      exact ⟨[], trace, a, s, rfl, .done a s, h⟩
    · rintro ⟨first, second, a', s₁, rfl, h₁, h₂⟩
      cases h₁
      exact h₂
  | call request next ih =>
    constructor
    · intro h
      cases h with
      | call served rest =>
        obtain ⟨first, second, a, s₁, rfl, h₁, h₂⟩ := (ih _).1 rest
        exact ⟨_, second, a, s₁, rfl, .call served h₁, h₂⟩
    · rintro ⟨first, second, a, s₁, rfl, h₁, h₂⟩
      cases h₁ with
      | call served rest => exact .call served ((ih _).2 ⟨_, second, a, s₁, rfl, rest, h₂⟩)

/-! ## Calls without a program -/

/-- The outside answers calls one after the other, whoever makes them. -/
inductive Passes (serve : Outside I σ) : σ → List (Exchange I) → σ → Prop where
  | nil (s : σ) : Passes serve s [] s
  | cons {request : I.Call} {answer : I.Answer request} {s s₁ s₂ : σ} {trace : List (Exchange I)}
    (served : serve request s answer s₁) (rest : Passes serve s₁ trace s₂) :
    Passes serve s (⟨request, answer⟩ :: trace) s₂

theorem Runs.passes {p : Program I α} {s s' : σ} {trace : List (Exchange I)} {a : α}
    (h : Runs serve p s trace a s') : Passes serve s trace s' := by
  induction h with
  | done a s => exact .nil s
  | call served _ ih => exact .cons served ih

theorem passes_append_iff {s s' : σ} {first second : List (Exchange I)} :
    Passes serve s (first ++ second) s' ↔ ∃ s₁, Passes serve s first s₁ ∧ Passes serve s₁ second s' := by
  induction first generalizing s with
  | nil =>
    refine ⟨fun h => ⟨s, .nil s, h⟩, ?_⟩
    rintro ⟨s₁, hnil, h⟩
    cases hnil
    exact h
  | cons exchange first ih =>
    constructor
    · intro h
      cases h with
      | cons served rest =>
        obtain ⟨s₁, hfirst, hsecond⟩ := ih.1 rest
        exact ⟨s₁, .cons served hfirst, hsecond⟩
    · rintro ⟨s₁, hfirst, hsecond⟩
      cases hfirst with
      | cons served rest => exact .cons served (ih.2 ⟨s₁, rest, hsecond⟩)

/-- What holds of a state and is kept by every call holds after all of them. -/
theorem Passes.invariant {P : σ → Prop}
    (hstep : ∀ {request s answer s'}, serve request s answer s' → P s → P s')
    {s s' : σ} {trace : List (Exchange I)} (h : Passes serve s trace s') (hs : P s) : P s' := by
  induction h with
  | nil => exact hs
  | cons served _ ih => exact ih (hstep served hs)

/-! ## Following a trace -/

/-- What a program ends with if its calls are answered as in a trace. Nothing if it makes other calls. -/
def replay [DecidableEq I.Call] : Program I α → List (Exchange I) → Option α
  | done a, [] => some a
  | call request next, exchange :: rest =>
    if h : exchange.1 = request then (next (h ▸ exchange.2)).replay rest else none
  | done _, _ :: _ | call _ _, [] => none

/-- A run ends with what its trace tells. -/
theorem Runs.replay_eq [DecidableEq I.Call] {p : Program I α} {s s' : σ} {trace : List (Exchange I)} {a : α}
    (h : Runs serve p s trace a s') : p.replay trace = some a := by
  induction h with
  | done a s => rfl
  | call served _ ih => rw [replay, dif_pos rfl, ih]

/-! ## The calls of a program -/

/-- A program makes none but allowed calls, as long as each is answered in a way that is expected, and
then ends with a value of some kind. -/
inductive Asks (allowed : (request : I.Call) → (I.Answer request → Prop) → Prop) (kind : α → Prop) :
    Program I α → Prop where
  | done {a : α} (of_kind : kind a) : Asks allowed kind (done a)
  /-- The program makes an allowed call. -/
  | call {request : I.Call} {next : I.Answer request → Program I α} {expected : I.Answer request → Prop}
    (allows : allowed request expected)
    (rest : ∀ answer, expected answer → Asks allowed kind (next answer)) :
    Asks allowed kind (call request next)

/-- What a sequence asks for is what its parts ask for. -/
theorem Asks.bind {allowed : (request : I.Call) → (I.Answer request → Prop) → Prop}
    {kind : α → Prop} {kind' : β → Prop} {p : Program I α} {f : α → Program I β}
    (hp : Asks allowed kind p) (hf : ∀ a, kind a → Asks allowed kind' (f a)) :
    Asks allowed kind' (p >>= f) := by
  induction hp with
  | done of_kind => exact hf _ of_kind
  | call allows _ ih => exact .call allows ih

theorem Asks.mono {allowed allowed' : (request : I.Call) → (I.Answer request → Prop) → Prop}
    (himp : ∀ {request expected}, allowed request expected → allowed' request expected)
    {kind : α → Prop} {p : Program I α} (h : Asks allowed kind p) : Asks allowed' kind p := by
  induction h with
  | done of_kind => exact .done of_kind
  | call allows _ ih => exact .call (himp allows) ih

/-- Where an allowed call may be answered in any way, what holds of all such calls with their answers
holds of those in a run. -/
theorem Asks.forall_mem {allowed : (request : I.Call) → (I.Answer request → Prop) → Prop}
    {P : Exchange I → Prop}
    (hallowed : ∀ {request expected}, allowed request expected →
      ∀ answer, expected answer ∧ P ⟨request, answer⟩)
    {kind : α → Prop} {p : Program I α} {s s' : σ} {trace : List (Exchange I)} {a : α}
    (h : Asks allowed kind p) (run : Runs serve p s trace a s') : ∀ exchange ∈ trace, P exchange := by
  induction h generalizing s trace with
  | done =>
    obtain ⟨rfl, -, -⟩ := runs_done_iff.1 run
    exact fun _ hmem => absurd hmem List.not_mem_nil
  | call allows _ ih =>
    obtain ⟨answer, rest, s₁, rfl, -, hrest⟩ := runs_call_iff.1 run
    obtain ⟨hexpected, hcall⟩ := hallowed allows answer
    intro exchange hmem
    rcases List.mem_cons.1 hmem with rfl | hmem
    · exact hcall
    · exact ih answer hexpected hrest exchange hmem

/-! ## Programs that may fail -/

theorem mapError_eq_ok_iff {δ : Type} {f : ε → δ} {x : Except ε α} {a : α} :
    x.mapError f = .ok a ↔ x = .ok a := by
  cases x with
  | ok b => exact ⟨fun h => congrArg _ (Except.ok.inj h), fun h => congrArg _ (Except.ok.inj h)⟩
  | error e => exact ⟨nofun, nofun⟩

theorem mapError_eq_error_iff {δ : Type} {f : ε → δ} {x : Except ε α} {d : δ} :
    x.mapError f = .error d ↔ ∃ e, x = .error e ∧ f e = d := by
  cases x with
  | ok b => exact ⟨nofun, nofun⟩
  | error e =>
    constructor
    · intro h
      exact ⟨e, rfl, Except.error.inj h⟩
    · rintro ⟨_, ⟨⟩, rfl⟩
      rfl

theorem runs_pure_iff {a : α} {r : Except ε α} {s s' : σ} {trace : List (Exchange I)} :
    Runs serve (pure a : ExceptT ε (Program I) α).run s trace r s' ↔
      trace = [] ∧ r = .ok a ∧ s' = s := runs_done_iff

theorem runs_throw_iff {e : ε} {r : Except ε α} {s s' : σ} {trace : List (Exchange I)} :
    Runs serve (throw e : ExceptT ε (Program I) α).run s trace r s' ↔
      trace = [] ∧ r = .error e ∧ s' = s := runs_done_iff

/-- A run of a sequence that may fail either fails in its first part or goes on with its value. -/
theorem runs_except_bind_iff {x : ExceptT ε (Program I) α} {f : α → ExceptT ε (Program I) β}
    {s s' : σ} {trace : List (Exchange I)} {r : Except ε β} :
    Runs serve (x >>= f).run s trace r s' ↔
      (∃ e, r = .error e ∧ Runs serve x.run s trace (.error e) s') ∨
        ∃ first second a s₁, trace = first ++ second ∧ Runs serve x.run s first (.ok a) s₁ ∧
          Runs serve (f a).run s₁ second r s' := by
  rw [ExceptT.run_bind, runs_bind_iff]
  constructor
  · rintro ⟨first, second, a, s₁, rfl, h₁, h₂⟩
    cases a with
    | ok a => exact .inr ⟨first, second, a, s₁, rfl, h₁, h₂⟩
    | error e =>
      obtain ⟨rfl, rfl, rfl⟩ := runs_done_iff.1 h₂
      exact .inl ⟨e, rfl, by simpa using h₁⟩
  · rintro (⟨e, rfl, h⟩ | ⟨first, second, a, s₁, rfl, h₁, h₂⟩)
    · exact ⟨trace, [], .error e, s', by simp, h, .done _ _⟩
    · exact ⟨first, second, .ok a, s₁, rfl, h₁, h₂⟩

/-- A run whose value is taken through a function is a run of what gives the value. -/
theorem runs_except_map_iff {x : ExceptT ε (Program I) α} {f : α → β} {s s' : σ}
    {trace : List (Exchange I)} {r : Except ε β} :
    Runs serve (f <$> x).run s trace r s' ↔
      ∃ r₀ : Except ε α, r = r₀.map f ∧ Runs serve x.run s trace r₀ s' := by
  rw [map_eq_pure_bind, runs_except_bind_iff]
  constructor
  · rintro (⟨e, rfl, h⟩ | ⟨first, second, a, s₁, rfl, h, hdone⟩)
    · exact ⟨.error e, rfl, h⟩
    · obtain ⟨rfl, rfl, rfl⟩ := runs_pure_iff.1 hdone
      exact ⟨.ok a, rfl, by rwa [List.append_nil]⟩
  · rintro ⟨r₀, rfl, h⟩
    cases r₀ with
    | error e => exact .inl ⟨e, rfl, h⟩
    | ok a => exact .inr ⟨trace, [], a, s', (List.append_nil _).symm, h, runs_pure_iff.2 ⟨rfl, rfl, rfl⟩⟩

/-- A run in which the value is put through a function that may fail is a run of what gives the value. -/
theorem runs_except_bind_done_iff {x : ExceptT ε (Program I) α} {f : α → Except ε β} {s s' : σ}
    {trace : List (Exchange I)} {r : Except ε β} :
    Runs serve (x >>= fun a => ExceptT.mk (done (f a))).run s trace r s' ↔
      ∃ r₀ : Except ε α, r = r₀.bind f ∧ Runs serve x.run s trace r₀ s' := by
  rw [runs_except_bind_iff]
  constructor
  · rintro (⟨e, rfl, h⟩ | ⟨first, second, a, s₁, rfl, h, hdone⟩)
    · exact ⟨.error e, rfl, h⟩
    · obtain ⟨rfl, rfl, rfl⟩ := runs_done_iff.1 hdone
      exact ⟨.ok a, rfl, by rwa [List.append_nil]⟩
  · rintro ⟨r₀, rfl, h⟩
    cases r₀ with
    | error e => exact .inl ⟨e, rfl, h⟩
    | ok a => exact .inr ⟨trace, [], a, s', (List.append_nil _).symm, h, .done _ _⟩

end Program

end Storefront
