import LifecycleOperator.Program.Basic
import Mathlib.Data.List.Forall2

/-!
# Programs that cannot be told apart

Two programs are twins if they ask for what counts as the same, and go on as twins
whenever what they are answered counts as the same.  What counts as the same is for a
likeness to say: of calls, and of calls with their answers.  Two worlds accord with a
likeness if they answer like calls alike and their states stay related.  In such worlds
twins go the same way, whatever there is that the likeness passes over.
-/

namespace LifecycleOperator
namespace Program

variable {interface : Interface} {α β σ τ : Type}

/-- What counts as the same. -/
structure Likeness (interface : Interface) where
  calls : interface.Call → interface.Call → Prop
  /-- Of calls with their answers. -/
  exchanges : Exchange interface → Exchange interface → Prop

/-- Two programs ask for the same, and go on in the same way after the same answers. -/
inductive Twins (likeness : Likeness interface) :
    Program interface α → Program interface α → Prop
  | done (outcome : Except Fault α) : Twins likeness (.done outcome) (.done outcome)
  | ask {call other : interface.Call}
      {next : interface.Answer call → Program interface α}
      {nextOther : interface.Answer other → Program interface α}
      (asked : likeness.calls call other)
      (continues : ∀ answer reply, likeness.exchanges ⟨call, answer⟩ ⟨other, reply⟩ →
        Twins likeness (next answer) (nextOther reply)) :
      Twins likeness (.ask call next) (.ask other nextOther)

variable {likeness : Likeness interface}

/-- Programs that are put together from twins are twins. -/
theorem Twins.bind
    {program twin : Program interface α}
    {next nextTwin : α → Program interface β}
    (first : program.Twins likeness twin)
    (others : ∀ result, (next result).Twins likeness (nextTwin result)) :
    (program >>= next).Twins likeness (twin >>= nextTwin) := by
  induction first with
  | done outcome =>
      cases outcome with
      | ok result => exact others result
      | error fault => exact .done _
  | ask asked _ inductionHypothesis => exact .ask asked inductionHypothesis

/-! ## Worlds in accord -/

/-- Two worlds answer like calls alike, out of states that stay related. -/
def Accord (likeness : Likeness interface) (related : σ → τ → Prop)
    (respond : Responder interface σ) (other : Responder interface τ) : Prop :=
  ∀ ⦃call callOther state twin⦄, likeness.calls call callOther → related state twin →
    likeness.exchanges ⟨call, (respond call state).1⟩ ⟨callOther, (other callOther twin).1⟩ ∧
      related (respond call state).2 (other callOther twin).2

/-- Two runs have gone the same way, as far as a likeness tells. -/
structure Run.Twins (likeness : Likeness interface) (related : σ → τ → Prop)
    (run : Run interface σ α) (twin : Run interface τ α) : Prop where
  outcome : run.outcome = twin.outcome
  transcript : List.Forall₂ likeness.exchanges run.transcript twin.transcript
  state : related run.state twin.state

/-- In worlds that are in accord twins go the same way. -/
theorem Twins.run
    {related : σ → τ → Prop} {respond : Responder interface σ} {other : Responder interface τ}
    {program twin : Program interface α} {state : σ} {stateTwin : τ}
    (twins : program.Twins likeness twin)
    (accord : Accord likeness related respond other)
    (start : related state stateTwin) :
    Run.Twins likeness related (program.run respond state) (twin.run other stateTwin) := by
  induction twins generalizing state stateTwin with
  | done outcome => exact ⟨rfl, .nil, start⟩
  | ask asked _ inductionHypothesis =>
      obtain ⟨exchange, after⟩ := accord asked start
      have rest := inductionHypothesis _ _ exchange after
      exact ⟨rest.outcome, .cons exchange rest.transcript, rest.state⟩

end Program
end LifecycleOperator
