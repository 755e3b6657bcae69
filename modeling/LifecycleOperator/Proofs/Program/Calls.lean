import LifecycleOperator.Proofs.Program.Transcript

/-!
# The calls of a program

Which calls a program makes, and after how many of them it ends, can often be told
without knowing the answers.  Both are read off the program along its structure, and
hold of every part of every run: also of a run that is broken off, or that takes
turns with other programs.
-/

namespace LifecycleOperator
namespace Program

variable {interface : Interface} {α β : Type}

/-- A program makes only permitted calls, whatever it is answered. -/
def Asks (permitted : interface.Call → Prop) : Program interface α → Prop
  | .done _ => True
  | .ask call next => permitted call ∧ ∀ answer, (next answer).Asks permitted

@[simp] theorem asks_done
    (permitted : interface.Call → Prop)
    (outcome : Except Fault α) :
    (Program.done outcome : Program interface α).Asks permitted := trivial

@[simp] theorem asks_ask
    {permitted : interface.Call → Prop}
    {call : interface.Call}
    {next : interface.Answer call → Program interface α} :
    (Program.ask call next).Asks permitted ↔
      permitted call ∧ ∀ answer, (next answer).Asks permitted := Iff.rfl

/-- A composed program makes only permitted calls if its parts do. -/
theorem Asks.bind
    {permitted : interface.Call → Prop}
    {program : Program interface α}
    {next : α → Program interface β}
    (first : program.Asks permitted)
    (others : ∀ result, (next result).Asks permitted) :
    (program >>= next).Asks permitted := by
  induction program with
  | done outcome =>
      cases outcome with
      | ok result => exact others result
      | error fault => trivial
  | ask call continuation inductionHypothesis =>
      rw [asks_ask] at first
      rw [ask_bind, asks_ask]
      refine ⟨first.1, ?_⟩
      intro answer
      exact inductionHypothesis answer (first.2 answer)

/-- A program ends after at most so many calls, whatever it is answered. -/
def EndsWithin : Program interface α → Nat → Prop
  | .done _, _ => True
  | .ask _ next, calls => 0 < calls ∧ ∀ answer, (next answer).EndsWithin (calls - 1)

@[simp] theorem endsWithin_ask
    {call : interface.Call}
    {next : interface.Answer call → Program interface α}
    {calls : Nat} :
    (Program.ask call next).EndsWithin calls ↔
      0 < calls ∧ ∀ answer, (next answer).EndsWithin (calls - 1) := Iff.rfl

/-- More calls than needed may be allowed. -/
theorem EndsWithin.mono
    {program : Program interface α}
    {few many : Nat}
    (ends : program.EndsWithin few)
    (fewer : few ≤ many) :
    program.EndsWithin many := by
  induction program generalizing few many with
  | done outcome => trivial
  | ask call next inductionHypothesis =>
      obtain ⟨positive, rest⟩ := ends
      refine ⟨by omega, ?_⟩
      intro answer
      exact inductionHypothesis answer (rest answer) (by omega)

/-- The calls of the parts of a program add up. -/
theorem EndsWithin.bind
    {program : Program interface α}
    {next : α → Program interface β}
    {first others : Nat}
    (ends : program.EndsWithin first)
    (continues : ∀ result, (next result).EndsWithin others) :
    (program >>= next).EndsWithin (first + others) := by
  induction program generalizing first with
  | done outcome =>
      cases outcome with
      | ok result => exact (continues result).mono (by omega)
      | error fault => trivial
  | ask call continuation inductionHypothesis =>
      obtain ⟨positive, rest⟩ := ends
      rw [ask_bind, endsWithin_ask]
      refine ⟨by omega, ?_⟩
      intro answer
      have shorter := inductionHypothesis answer (rest answer)
      exact shorter.mono (by omega)

/-! ## Parts of runs -/

/--
A program asks these questions, one after the other, and has then still this to do,
if they are answered in this way.
-/
inductive Leads :
    Program interface α → List (Exchange interface) → Program interface α → Prop
  | here (program : Program interface α) : Leads program [] program
  | ask
      (call : interface.Call)
      (next : interface.Answer call → Program interface α)
      (answer : interface.Answer call)
      (rest : List (Exchange interface))
      (last : Program interface α)
      (follows : Leads (next answer) rest last) :
      Leads (.ask call next) (⟨call, answer⟩ :: rest) last

namespace Leads

variable {program last : Program interface α} {transcript : List (Exchange interface)}

/-- One more question is asked. -/
theorem concat
    {call : interface.Call}
    {next : interface.Answer call → Program interface α}
    (leads : program.Leads transcript (.ask call next))
    (answer : interface.Answer call) :
    program.Leads (transcript ++ [⟨call, answer⟩]) (next answer) := by
  generalize left : Program.ask call next = middle at leads
  induction leads with
  | here program =>
      subst left
      exact .ask call next answer [] (next answer) (.here (next answer))
  | ask other continuation given rest last follows inductionHypothesis =>
      exact .ask other continuation given _ _ (inductionHypothesis left)

/-- A program that is led to its end follows the whole transcript. -/
theorem yields
    {outcome : Except Fault α}
    (leads : program.Leads transcript (.done outcome)) :
    program.Yields transcript outcome := by
  generalize left : Program.done outcome = middle at leads
  induction leads with
  | here program =>
      subst left
      exact .done outcome
  | ask call next answer rest last follows inductionHypothesis =>
      exact .ask call next answer rest outcome (inductionHypothesis left)

/-- All calls on the way are permitted. -/
theorem asks
    {permitted : interface.Call → Prop}
    (leads : program.Leads transcript last)
    (asks : program.Asks permitted) :
    ∀ exchange ∈ transcript, permitted exchange.call := by
  induction leads with
  | here program => simp
  | ask call next answer rest last follows inductionHypothesis =>
      rw [asks_ask] at asks
      have others := inductionHypothesis (asks.2 answer)
      intro exchange member
      rcases List.mem_cons.mp member with rfl | inRest
      · exact asks.1
      · exact others exchange inRest

/-- A program that is not at its end has made fewer calls than it may make. -/
theorem length_lt
    {calls : Nat}
    {call : interface.Call}
    {next : interface.Answer call → Program interface α}
    (leads : program.Leads transcript (.ask call next))
    (ends : program.EndsWithin calls) :
    transcript.length < calls := by
  generalize left : Program.ask call next = middle at leads
  induction leads generalizing calls with
  | here program =>
      subst left
      exact ends.1
  | ask other continuation given rest last follows inductionHypothesis =>
      obtain ⟨positive, shorter⟩ := ends
      have bound := inductionHypothesis (shorter given) left
      rw [List.length_cons]
      omega

end Leads

/-- A transcript that is followed to its end is followed all the way. -/
theorem Yields.leads
    {program : Program interface α}
    {transcript : List (Exchange interface)}
    {outcome : Except Fault α}
    (yields : program.Yields transcript outcome) :
    program.Leads transcript (.done outcome) := by
  induction yields with
  | done outcome => exact .here _
  | ask call next answer rest outcome follows inductionHypothesis =>
      exact .ask call next answer rest _ inductionHypothesis

end Program
end LifecycleOperator
