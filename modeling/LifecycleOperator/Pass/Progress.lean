import LifecycleOperator.Fault

/-!
# Progress

What a step or a pass says about whether it has to be taken up again soon, and
how steps that are taken one after the other are put together.
-/

namespace LifecycleOperator

/-- Whether there is anything left to wait for. -/
inductive Progress
  | complete
  | requeue
  deriving DecidableEq, Repr, Inhabited

namespace Progress

def name : Progress → String
  | .complete => "Done"
  | .requeue => "Requeue"

/--
Take steps in their order, up to the first one that is not complete.  The monad
is whatever the steps work in; a step that fails ends the sequence as well.
-/
def sequence {m : Type → Type} [Monad m] : List (m Progress) → m Progress
  | [] => pure .complete
  | step :: rest => do
      match ← step with
      | .complete => sequence rest
      | .requeue => pure .requeue

end Progress

end LifecycleOperator
