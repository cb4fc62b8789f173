/-!
# Programs

What the shop does is written once, as a tree of calls to the outside: `Program I α` makes calls of an
interface `I`, goes on with each answer, and ends with a value. A program is run by whoever answers
its calls, be it a model of the outside or the machine itself, in any monad.
-/

namespace Storefront

/-- The calls that a program may make and the answers it gets. -/
structure Interface where
  /-- A call with its arguments. -/
  Call : Type
  /-- What comes back. -/
  Answer : Call → Type

/-- A program that makes calls of an interface and ends with a value. -/
inductive Program (I : Interface) (α : Type) where
  /-- The program has ended. -/
  | done (value : α)
  /-- The program makes a call and goes on with its answer. -/
  | call (request : I.Call) (next : I.Answer request → Program I α)

namespace Program

variable {I : Interface} {α β γ : Type}

/-- A program followed by another that depends on its value. -/
protected def bind : Program I α → (α → Program I β) → Program I β
  | done a, f => f a
  | call request next, f => call request fun answer => (next answer).bind f

instance : Monad (Program I) where
  pure := done
  bind := Program.bind

/-- The program of one call. -/
def ask (request : I.Call) : Program I (I.Answer request) := call request done

/-- Runs a program, given the answer to each call. -/
def run {m : Type → Type} [Monad m] (answer : (request : I.Call) → m (I.Answer request)) :
    Program I α → m α
  | done a => pure a
  | call request next => do
    let a ← answer request
    run answer (next a)

@[simp] theorem done_bind (a : α) (f : α → Program I β) : (done a >>= f) = f a := rfl

@[simp] theorem call_bind (request : I.Call) (next : I.Answer request → Program I α)
    (f : α → Program I β) :
    (call request next >>= f) = call request fun answer => next answer >>= f := rfl

theorem bind_done (p : Program I α) : (p >>= done) = p := by
  induction p with
  | done a => rfl
  | call request next ih => exact congrArg (call request) (funext ih)

theorem bind_assoc (p : Program I α) (f : α → Program I β) (g : β → Program I γ) :
    (p >>= f >>= g) = (p >>= fun a => f a >>= g) := by
  induction p with
  | done a => rfl
  | call request next ih => exact congrArg (call request) (funext ih)

instance : LawfulMonad (Program I) :=
  LawfulMonad.mk' _ bind_done (fun _ _ => rfl) bind_assoc

/-- Running a sequence of programs is running them in sequence. -/
theorem run_bind {m : Type → Type} [Monad m] [LawfulMonad m]
    (answer : (request : I.Call) → m (I.Answer request)) (p : Program I α)
    (f : α → Program I β) : (p >>= f).run answer = (p.run answer >>= fun a => (f a).run answer) := by
  induction p with
  | done a => simp [run]
  | call request next ih => simp [run, ih]

end Program

end Storefront
