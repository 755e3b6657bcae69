import LifecycleOperator.Program.Basic

/-!
# Transcripts of programs

What a program asks depends on what it is answered.  A transcript of a program is
a list of calls with answers that the program follows to its end, whoever gives
the answers.  Every run has such a transcript, so that what holds of all
transcripts holds against every world outside.

The transcripts of a composed program are taken apart along its structure: this
is how the later modules learn all that a part of a pass can do.
-/

namespace LifecycleOperator
namespace Program

variable {interface : Interface} {α β : Type}

/--
A program asks these questions, one after the other, and ends with this outcome if
they are answered in this way.
-/
inductive Yields :
    Program interface α → List (Exchange interface) → Except Fault α → Prop
  | done (outcome : Except Fault α) : Yields (.done outcome) [] outcome
  | ask
      (call : interface.Call)
      (next : interface.Answer call → Program interface α)
      (answer : interface.Answer call)
      (rest : List (Exchange interface))
      (outcome : Except Fault α)
      (follows : Yields (next answer) rest outcome) :
      Yields (.ask call next) (⟨call, answer⟩ :: rest) outcome

/-- Every run follows its program. -/
theorem run_yields
    {σ : Type}
    (respond : Responder interface σ)
    (program : Program interface α)
    (state : σ) :
    program.Yields (program.run respond state).transcript
      (program.run respond state).outcome := by
  induction program generalizing state with
  | done outcome => exact .done outcome
  | ask call next inductionHypothesis =>
      exact .ask call next _ _ _
        (inductionHypothesis (respond call state).1 (respond call state).2)

theorem yields_done_iff
    {given outcome : Except Fault α}
    {transcript : List (Exchange interface)} :
    (Program.done given : Program interface α).Yields transcript outcome ↔
      transcript = [] ∧ outcome = given := by
  constructor
  · intro yields
    cases yields
    exact ⟨rfl, rfl⟩
  · rintro ⟨rfl, rfl⟩
    exact .done outcome

theorem yields_ask_iff
    {call : interface.Call}
    {next : interface.Answer call → Program interface α}
    {transcript : List (Exchange interface)}
    {outcome : Except Fault α} :
    (Program.ask call next).Yields transcript outcome ↔
      ∃ answer rest, transcript = ⟨call, answer⟩ :: rest ∧
        (next answer).Yields rest outcome := by
  constructor
  · intro yields
    cases yields with
    | ask _ _ answer rest _ follows => exact ⟨answer, rest, rfl, follows⟩
  · rintro ⟨answer, rest, rfl, follows⟩
    exact .ask call next answer rest outcome follows

/-- Answered in the same way, a program ends at the same place, and in the same way. -/
theorem Yields.unique
    {program : Program interface α}
    {front other back rest : List (Exchange interface)}
    {outcome ended : Except Fault α}
    (yields : program.Yields front outcome)
    (again : program.Yields other ended)
    (same : front ++ back = other ++ rest) :
    front = other ∧ outcome = ended := by
  induction yields generalizing other with
  | done outcome =>
      obtain ⟨rfl, rfl⟩ := yields_done_iff.mp again
      exact ⟨rfl, rfl⟩
  | ask call next answer later outcome follows inductionHypothesis =>
      obtain ⟨reply, later', rfl, goesOn⟩ := yields_ask_iff.mp again
      obtain ⟨sameExchange, sameRest⟩ := List.cons.inj same
      cases sameExchange
      obtain ⟨rfl, rfl⟩ := inductionHypothesis goesOn sameRest
      exact ⟨rfl, rfl⟩

theorem Yields.outcome_unique
    {program : Program interface α}
    {transcript : List (Exchange interface)}
    {outcome ended : Except Fault α}
    (yields : program.Yields transcript outcome)
    (again : program.Yields transcript ended) :
    outcome = ended :=
  (yields.unique again (rfl : transcript ++ [] = transcript ++ [])).2

/--
A composed program fails in its first part, or goes through it and then through
what follows.
-/
theorem yields_bind_iff
    {program : Program interface α}
    {next : α → Program interface β}
    {transcript : List (Exchange interface)}
    {outcome : Except Fault β} :
    (program >>= next).Yields transcript outcome ↔
      (∃ fault, program.Yields transcript (.error fault) ∧
        outcome = .error fault) ∨
      ∃ result front back, program.Yields front (.ok result) ∧
        (next result).Yields back outcome ∧ transcript = front ++ back := by
  induction program generalizing transcript with
  | done given =>
      cases given with
      | error fault =>
          simp only [done_error_bind, yields_done_iff, Except.error.injEq]
          constructor
          · rintro ⟨rfl, rfl⟩
            exact .inl ⟨fault, ⟨rfl, rfl⟩, rfl⟩
          · rintro (⟨_, ⟨rfl, rfl⟩, rfl⟩ | ⟨_, _, _, ⟨_, impossible⟩, _⟩)
            · exact ⟨rfl, rfl⟩
            · cases impossible
      | ok result =>
          simp only [done_ok_bind, yields_done_iff, Except.ok.injEq]
          constructor
          · intro yields
            exact .inr ⟨result, [], transcript, ⟨rfl, rfl⟩, yields, rfl⟩
          · rintro (⟨_, ⟨_, impossible⟩, _⟩ | ⟨_, _, back, ⟨rfl, rfl⟩, yields, rfl⟩)
            · cases impossible
            · exact yields
  | ask call continuation inductionHypothesis =>
      simp only [ask_bind, yields_ask_iff, inductionHypothesis]
      constructor
      · rintro ⟨answer, rest, rfl, ⟨fault, yields, ends⟩ |
          ⟨result, front, back, first, second, rfl⟩⟩
        · exact .inl ⟨fault, ⟨answer, rest, rfl, yields⟩, ends⟩
        · exact .inr ⟨result, ⟨call, answer⟩ :: front, back,
            ⟨answer, front, rfl, first⟩, second, rfl⟩
      · rintro (⟨fault, ⟨answer, rest, rfl, yields⟩, ends⟩ |
          ⟨result, front, back, ⟨answer, rest, rfl, first⟩, second, rfl⟩)
        · exact ⟨answer, rest, rfl, .inl ⟨fault, yields, ends⟩⟩
        · exact ⟨answer, rest ++ back, rfl, .inr ⟨result, rest, back, first, second, rfl⟩⟩

/-- A program that always comes to a result is followed by what follows. -/
theorem yields_bind_iff_of_ok
    {program : Program interface α}
    {next : α → Program interface β}
    {ways : List (Exchange interface) → α → Prop}
    (goes : ∀ {transcript outcome}, program.Yields transcript outcome ↔
      ∃ result, outcome = .ok result ∧ ways transcript result)
    {transcript : List (Exchange interface)}
    {outcome : Except Fault β} :
    (program >>= next).Yields transcript outcome ↔
      ∃ result front back, transcript = front ++ back ∧ ways front result ∧
        (next result).Yields back outcome := by
  rw [yields_bind_iff]
  constructor
  · rintro (⟨fault, fails, -⟩ | ⟨result, front, back, first, second, rfl⟩)
    · obtain ⟨_, impossible, -⟩ := goes.mp fails
      cases impossible
    · obtain ⟨_, same, way⟩ := goes.mp first
      obtain rfl := Except.ok.inj same
      exact ⟨result, front, back, rfl, way, second⟩
  · rintro ⟨result, front, back, rfl, way, second⟩
    exact .inr ⟨result, front, back, goes.mpr ⟨result, rfl, way⟩, second, rfl⟩

end Program
end LifecycleOperator
