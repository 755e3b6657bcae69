import LifecycleOperator.Proofs.Program.Transcript
import Mathlib.Data.List.Forall2

/-!
# Programs that do not care about some answers

Some calls are made for others to know, and what is answered to them is of no use to the
program.  A program disregards them if it goes on in the same way whatever it is
answered.  Two worlds that answer all other calls alike cannot be told apart by it: it
asks the same questions in the same order, is answered the same wherever that matters,
and ends in the same way.

The two worlds need not have states of one type, and their states need not be equal; all
that is asked for is a relation between them that every call preserves.
-/

namespace LifecycleOperator
namespace Program

variable {interface : Interface} {α β σ τ : Type}

/-- A program goes on in the same way, whatever it is answered to calls that are idle. -/
def Disregards (idle : interface.Call → Prop) : Program interface α → Prop
  | .done _ => True
  | .ask call next =>
      (idle call → ∀ answer other, next answer = next other) ∧
        ∀ answer, (next answer).Disregards idle

variable {idle : interface.Call → Prop}

/-- The answer to a call that is not idle may matter. -/
theorem disregards_ask
    {call : interface.Call}
    {next : interface.Answer call → Program interface α}
    (matters : ¬ idle call)
    (continues : ∀ answer, (next answer).Disregards idle) :
    (Program.ask call next).Disregards idle :=
  ⟨fun isIdle => absurd isIdle matters, continues⟩

/-- A composed program disregards what its parts disregard. -/
theorem Disregards.bind
    {program : Program interface α}
    {next : α → Program interface β}
    (first : program.Disregards idle)
    (others : ∀ result, (next result).Disregards idle) :
    (program >>= next).Disregards idle := by
  induction program with
  | done outcome =>
      cases outcome with
      | ok result => exact others result
      | error fault => trivial
  | ask call continuation inductionHypothesis =>
      obtain ⟨unmoved, continues⟩ := first
      rw [ask_bind]
      refine ⟨?_, fun answer => inductionHypothesis answer (continues answer)⟩
      intro isIdle answer other
      exact congrArg (· >>= next) (unmoved isIdle answer other)

/-! ## Worlds that cannot be told apart -/

/-- Two exchanges are the same but for the answer to a call that is idle. -/
inductive Exchange.Resembles (idle : interface.Call → Prop) :
    Exchange interface → Exchange interface → Prop
  | same (exchange : Exchange interface) : Resembles idle exchange exchange
  | idly (call : interface.Call) (isIdle : idle call)
      (answer other : interface.Answer call) :
      Resembles idle ⟨call, answer⟩ ⟨call, other⟩

/-- What is read off entries that correspond is the same, if it is for any two of them. -/
theorem map_eq_of_forall₂
    {γ δ ε : Type} {relation : γ → δ → Prop} {read : γ → ε} {readOther : δ → ε}
    {entries : List γ} {others : List δ}
    (correspond : List.Forall₂ relation entries others)
    (same : ∀ entry other, relation entry other → read entry = readOther other) :
    entries.map read = others.map readOther := by
  rw [← List.forall₂_eq_eq_eq, List.forall₂_map_left_iff, List.forall₂_map_right_iff]
  exact correspond.imp same

/-- The same questions are asked. -/
theorem map_call_of_resembles
    {transcript other : List (Exchange interface)}
    (resembles : List.Forall₂ (Exchange.Resembles idle) transcript other) :
    transcript.map Exchange.call = other.map Exchange.call := by
  apply map_eq_of_forall₂ resembles
  intro exchange twin alike
  cases alike <;> rfl

/-- What is not idle is answered the same. -/
theorem filter_of_resembles
    [DecidablePred idle]
    {transcript other : List (Exchange interface)}
    (resembles : List.Forall₂ (Exchange.Resembles idle) transcript other) :
    transcript.filter (fun exchange => ¬ idle exchange.call) =
      other.filter fun exchange => ¬ idle exchange.call := by
  induction resembles with
  | nil => rfl
  | cons head tail inductionHypothesis =>
      rw [List.filter_cons, List.filter_cons, inductionHypothesis]
      cases head with
      | same exchange => rfl
      | idly call isIdle answer other => simp [isIdle]

/-- Two worlds answer all calls alike that are not idle, out of states that stay alike. -/
structure Agrees (idle : interface.Call → Prop) (alike : σ → τ → Prop)
    (respond : Responder interface σ) (other : Responder interface τ) : Prop where
  answers : ∀ {call state twin}, ¬ idle call → alike state twin →
    (respond call state).1 = (other call twin).1
  follows : ∀ {call state twin}, alike state twin →
    alike (respond call state).2 (other call twin).2

/-- Two runs have gone in the same way but for the answers to calls that are idle. -/
structure Run.Resembles (idle : interface.Call → Prop) (alike : σ → τ → Prop)
    (run : Run interface σ α) (twin : Run interface τ α) : Prop where
  outcome : run.outcome = twin.outcome
  transcript : List.Forall₂ (Exchange.Resembles idle) run.transcript twin.transcript
  state : alike run.state twin.state

/-- Programs one after the other, each from where the one before it has left the state. -/
def runEach (respond : Responder interface σ) :
    List (Program interface α) → σ → List (Run interface σ α)
  | [], _ => []
  | program :: rest, state =>
      let run := program.run respond state
      run :: runEach respond rest run.state

section Worlds

variable {alike : σ → τ → Prop} {respond : Responder interface σ}
  {other : Responder interface τ} {state : σ} {twin : τ}

/-- Worlds that agree are not told apart by a program that disregards the rest. -/
theorem Disregards.run_resembles
    {program : Program interface α}
    (disregards : program.Disregards idle)
    (agrees : Agrees idle alike respond other)
    (start : alike state twin) :
    Run.Resembles idle alike (program.run respond state) (program.run other twin) := by
  induction program generalizing state twin with
  | done outcome => exact ⟨rfl, .nil, start⟩
  | ask call next inductionHypothesis =>
      obtain ⟨unmoved, continues⟩ := disregards
      have after : alike (respond call state).2 (other call twin).2 := agrees.follows start
      -- Either the answers are the same, or they make no difference.
      have ⟨exchange, same⟩ : Exchange.Resembles idle ⟨call, (respond call state).1⟩
            ⟨call, (other call twin).1⟩ ∧
          next (respond call state).1 = next (other call twin).1 := by
        by_cases isIdle : idle call
        · exact ⟨.idly call isIdle _ _, unmoved isIdle _ _⟩
        · rw [agrees.answers isIdle start]
          exact ⟨.same _, rfl⟩
      have rest := inductionHypothesis _ (continues (respond call state).1) after
      simp only [run_ask, ← same]
      exact ⟨rest.outcome, .cons exchange rest.transcript, rest.state⟩

/-- Nor are they told apart by any number of such programs. -/
theorem runEach_resembles
    {programs : List (Program interface α)}
    (disregard : ∀ program ∈ programs, program.Disregards idle)
    (agrees : Agrees idle alike respond other)
    (start : alike state twin) :
    List.Forall₂ (Run.Resembles idle alike)
      (runEach respond programs state) (runEach other programs twin) := by
  induction programs generalizing state twin with
  | nil => exact .nil
  | cons program rest inductionHypothesis =>
      rw [List.forall_mem_cons] at disregard
      have first := disregard.1.run_resembles agrees start
      exact .cons first (inductionHypothesis disregard.2 first.state)

end Worlds

end Program
end LifecycleOperator
