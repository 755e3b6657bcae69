import LifecycleOperator.Fault

/-!
# Programs

A program asks the world outside for one thing after the other, and ends with a
result or with a fault.  What it asks next may depend on every answer so far.  A
program says nothing about how its calls are answered: it can be run against
anything that answers them, and it can be translated into a program that asks
for something else.
-/

namespace LifecycleOperator

/-- What can be asked for, and what the answers look like. -/
structure Interface where
  Call : Type
  Answer : Call → Type

/-- A program that asks through an interface and ends with a result or a fault. -/
inductive Program (interface : Interface) (α : Type) where
  | done (outcome : Except Fault α)
  | ask (call : interface.Call) (next : interface.Answer call → Program interface α)

namespace Program

variable {interface : Interface} {α β : Type}

/-- Continue with the result of a program; a fault ends both. -/
def bind : Program interface α → (α → Program interface β) → Program interface β
  | .done (.ok result), next => next result
  | .done (.error fault), _ => .done (.error fault)
  | .ask call continuation, next =>
      .ask call fun answer => (continuation answer).bind next

/-- A program that ends with a result, or continues from another one's. -/
instance : Monad (Program interface) where
  pure result := .done (.ok result)
  bind := bind

/-- Continue where a program ends with a fault. -/
def recover : Program interface α → (Fault → Program interface α) → Program interface α
  | .done (.ok result), _ => .done (.ok result)
  | .done (.error fault), next => next fault
  | .ask call continuation, next =>
      .ask call fun answer => (continuation answer).recover next

/-- Programs end with faults and recover from them. -/
instance : MonadExceptOf Fault (Program interface) where
  throw fault := .done (.error fault)
  tryCatch := recover

/-- A result or a fault that is known without asking. -/
def ofExcept (outcome : Except Fault α) : Program interface α := .done outcome

/-- Turn the way in which a program ends into its result. -/
def attempt : Program interface α → Program interface (Except Fault α)
  | .done outcome => .done (.ok outcome)
  | .ask call next => .ask call fun answer => (next answer).attempt

@[simp] theorem pure_eq (result : α) :
    (pure result : Program interface α) = .done (.ok result) := rfl

@[simp] theorem throw_eq (fault : Fault) :
    (throw fault : Program interface α) = .done (.error fault) := rfl

/-- A program that has ended well goes on with what follows. -/
@[simp] theorem done_ok_bind (result : α) (next : α → Program interface β) :
    (Program.done (.ok result) >>= next) = next result := rfl

/-- A program that has failed does not go on. -/
@[simp] theorem done_error_bind (fault : Fault) (next : α → Program interface β) :
    (Program.done (.error fault) >>= next) = .done (.error fault) := rfl

/-- A question is asked before anything that follows. -/
@[simp] theorem ask_bind
    (call : interface.Call) (continuation : interface.Answer call → Program interface α)
    (next : α → Program interface β) :
    (Program.ask call continuation >>= next) =
      .ask call fun answer => continuation answer >>= next := rfl

/-- The outcome of a program that has ended becomes its result. -/
@[simp] theorem attempt_done (outcome : Except Fault α) :
    (Program.done outcome : Program interface α).attempt = .done (.ok outcome) := rfl

/-- A question is asked by an attempt too. -/
@[simp] theorem attempt_ask
    (call : interface.Call) (next : interface.Answer call → Program interface α) :
    (Program.ask call next).attempt = .ask call fun answer => (next answer).attempt := rfl

theorem bind_pure_self (program : Program interface α) : program >>= pure = program := by
  induction program with
  | done outcome => cases outcome <;> rfl
  | ask call next inductionStep =>
      exact congrArg (Program.ask call) (funext inductionStep)

/-- It does not matter how a sequence is put in brackets. -/
theorem bind_assoc_self
    {γ : Type} (program : Program interface α) (next : α → Program interface β)
    (last : β → Program interface γ) :
    program >>= next >>= last = program >>= fun result => next result >>= last := by
  induction program with
  | done outcome => cases outcome <;> rfl
  | ask call continuation inductionStep =>
      exact congrArg (Program.ask call) (funext inductionStep)

/-- Programs are put together in the way of every monad. -/
instance : LawfulMonad (Program interface) :=
  LawfulMonad.mk' (Program interface) bind_pure_self (fun _ _ => rfl) bind_assoc_self

/-! ## Running -/

/-- A call with its answer. -/
structure Exchange (interface : Interface) where
  call : interface.Call
  answer : interface.Answer call

/-- Turn the way in which a program ends into its result, together with what it asked. -/
def recorded :
    Program interface α → Program interface (Except Fault α × List (Exchange interface))
  | .done outcome => pure (outcome, [])
  | .ask call next =>
      .ask call fun answer =>
        (next answer).recorded >>= fun (outcome, rest) =>
          pure (outcome, ⟨call, answer⟩ :: rest)

/-- Answers calls out of a state, which the call may change. -/
abbrev Responder (interface : Interface) (σ : Type) :=
  (call : interface.Call) → σ → interface.Answer call × σ

/-- What becomes of a program that is run. -/
structure Run (interface : Interface) (σ α : Type) where
  outcome : Except Fault α
  state : σ
  /-- The calls that it made, with their answers. -/
  transcript : List (Exchange interface)

def run {σ : Type} (respond : Responder interface σ) :
    Program interface α → σ → Run interface σ α
  | .done outcome, state => ⟨outcome, state, []⟩
  | .ask call next, state =>
      let (answer, after) := respond call state
      let rest := run respond (next answer) after
      ⟨rest.outcome, rest.state, ⟨call, answer⟩ :: rest.transcript⟩

/--
Run a program until it ends or until its state does not permit it to go on; how it
ended, if it did, and the state that it left.
-/
def runWhile {σ : Type} (mayGoOn : σ → Bool) (respond : Responder interface σ) :
    Program interface α → σ → Option (Except Fault α) × σ
  | .done outcome, state => (some outcome, state)
  | .ask call next, state =>
      if mayGoOn state then
        let (answer, after) := respond call state
        runWhile mayGoOn respond (next answer) after
      else (none, state)

/-- Answer the calls of one interface by programs over another one. -/
abbrev Translator (source target : Interface) (σ : Type) :=
  (call : source.Call) → σ → Program target (source.Answer call × σ)

/-- Replace every call of a program by what answers it. -/
def translate {source target : Interface} {σ : Type}
    (implement : Translator source target σ) :
    Program source α → σ → Program target (Except Fault α × σ)
  | .done outcome, state => pure (outcome, state)
  | .ask call next, state =>
      implement call state >>= fun (answer, after) => translate implement (next answer) after

section Translation

variable {source target : Interface} {σ : Type} (implement : Translator source target σ)

/-- A program that has ended asks for nothing else either. -/
@[simp] theorem translate_done (outcome : Except Fault α) (state : σ) :
    (Program.done outcome : Program source α).translate implement state =
      .done (.ok (outcome, state)) := rfl

/-- A question is answered by the program that stands for it. -/
@[simp] theorem translate_ask
    (call : source.Call) (next : source.Answer call → Program source α) (state : σ) :
    (Program.ask call next).translate implement state =
      implement call state >>= fun answered =>
        (next answered.1).translate implement answered.2 := rfl

end Translation

variable {σ : Type} (respond : Responder interface σ)

/-- A program that has ended leaves the state alone. -/
@[simp] theorem run_done (outcome : Except Fault α) (state : σ) :
    (Program.done outcome).run respond state = ⟨outcome, state, []⟩ := rfl

/-- A question is answered by the responder, which may change the state. -/
@[simp] theorem run_ask
    (call : interface.Call) (next : interface.Answer call → Program interface α)
    (state : σ) :
    (Program.ask call next).run respond state =
      let rest := (next (respond call state).1).run respond (respond call state).2
      ⟨rest.outcome, rest.state, ⟨call, (respond call state).1⟩ :: rest.transcript⟩ := rfl

/-- A program that continues another one is run where that one left the state. -/
theorem run_bind
    (program : Program interface α) (next : α → Program interface β) (state : σ) :
    (program >>= next).run respond state =
      let first := program.run respond state
      match first.outcome with
      | .ok result =>
          let rest := (next result).run respond first.state
          ⟨rest.outcome, rest.state, first.transcript ++ rest.transcript⟩
      | .error fault => ⟨.error fault, first.state, first.transcript⟩ := by
  induction program generalizing state with
  | done outcome => cases outcome <;> rfl
  | ask call continuation inductionStep =>
      simp only [ask_bind, run_ask, inductionStep]
      cases ((continuation (respond call state).1).run respond (respond call state).2).outcome <;>
        rfl

end Program

end LifecycleOperator
