import LifecycleOperator.Proofs.Program.Calls

/-!
# Calls that heed earlier answers

Some calls are to be made only after certain answers.  Whether a program keeps to this is
read off its structure: for every call that it may make, in whatever way it came there, the
exchanges that led to it have to warrant the call.  What holds of the calls of a program
without regard to the answers holds with regard to them as well.
-/

namespace LifecycleOperator
namespace Program

variable {interface : Interface} {α β : Type}

/--
After some exchanges, a program makes only calls that are warranted by all exchanges
before them, whatever it is answered.
-/
def Heeds (warranted : List (Exchange interface) → interface.Call → Prop) :
    Program interface α → List (Exchange interface) → Prop
  | .done _, _ => True
  | .ask call next, earlier =>
      warranted earlier call ∧
        ∀ answer, (next answer).Heeds warranted (earlier ++ [⟨call, answer⟩])

section Heeds

variable {warranted : List (Exchange interface) → interface.Call → Prop}
  {earlier : List (Exchange interface)}

@[simp] theorem heeds_ask
    {call : interface.Call}
    {next : interface.Answer call → Program interface α} :
    (Program.ask call next).Heeds warranted earlier ↔
      warranted earlier call ∧
        ∀ answer, (next answer).Heeds warranted (earlier ++ [⟨call, answer⟩]) := Iff.rfl

/-- Calls that are always warranted heed all answers. -/
theorem Asks.heeds
    {permitted : interface.Call → Prop}
    {program : Program interface α}
    (asks : program.Asks permitted)
    (always : ∀ earlier call, permitted call → warranted earlier call) :
    program.Heeds warranted earlier := by
  induction program generalizing earlier with
  | done outcome => trivial
  | ask call next inductionHypothesis =>
      refine ⟨always earlier call asks.1, ?_⟩
      intro answer
      exact inductionHypothesis answer (asks.2 answer)

/-- A composed program heeds the answers to its first part in what follows. -/
theorem Heeds.bind
    {program : Program interface α}
    {next : α → Program interface β}
    (first : program.Heeds warranted earlier)
    (others : ∀ result transcript, program.Yields transcript (.ok result) →
      (next result).Heeds warranted (earlier ++ transcript)) :
    (program >>= next).Heeds warranted earlier := by
  induction program generalizing earlier with
  | done outcome =>
      cases outcome with
      | error fault => trivial
      | ok result => simpa using others result [] (.done (.ok result))
  | ask call continuation inductionHypothesis =>
      rw [ask_bind, heeds_ask]
      refine ⟨first.1, ?_⟩
      intro answer
      apply inductionHypothesis answer (first.2 answer)
      intro result transcript yields
      rw [List.append_assoc, List.singleton_append]
      exact others result _ (.ask call continuation answer transcript _ yields)

/-- What a program has still to do heeds what has been answered on the way. -/
theorem Leads.heeds
    {program last : Program interface α} {transcript : List (Exchange interface)}
    (leads : program.Leads transcript last)
    (heeds : program.Heeds warranted earlier) :
    last.Heeds warranted (earlier ++ transcript) := by
  induction leads generalizing earlier with
  | here program => simpa using heeds
  | ask call next answer rest last follows inductionHypothesis =>
      have after := inductionHypothesis (heeds.2 answer)
      rwa [List.append_assoc, List.singleton_append] at after

end Heeds

end Program
end LifecycleOperator
