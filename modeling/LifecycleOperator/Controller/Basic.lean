import LifecycleOperator.Console.Diagnostics
import LifecycleOperator.Program.Basic

/-!
# The controller

The controller passes over one installation after the other.  Every pass is
counted, and what it ended with decides when the installation is passed over
again.  The controller itself is a program: it reads the clock, waits, has an
installation passed over and shows its diagnostics.
-/

namespace LifecycleOperator

/-- One millisecond, in nanoseconds. -/
def millisecond : Nat := 1000000

namespace Pass

/-- One pass over an installation as it was listed. -/
def visit (installation : Installation) : Pass Phase :=
  reconcile installation.namespaceName installation.anyName

end Pass

/-- What the controller keeps from pass to pass. -/
structure Controller where
  /-- When an unfinished installation is passed over again, in milliseconds. -/
  requeue : Nat
  diagnostics : Diagnostics

namespace Controller

/-! ## Counting -/

/-- A controller that has not passed over anything. -/
def first (requeue : Nat) (moment : Timestamp) : Controller :=
  ⟨requeue, ⟨moment, .initial⟩⟩

def started (controller : Controller) (moment : Timestamp) : Controller :=
  { controller with diagnostics := ⟨moment, controller.diagnostics.metrics.started⟩ }

def count (installation : Installation) (metrics : Metrics) : Except Fault Phase → Metrics
  | .ok phase => metrics.reached installation phase
  | .error fault => metrics.failed installation fault

/-- A pass over an installation ends; none of them is traced. -/
def ended
    (controller : Controller) (installation : Installation) (milliseconds : Nat)
    (outcome : Except Fault Phase) : Controller :=
  let measured := controller.diagnostics.metrics.ended milliseconds 0
  { controller with
    diagnostics :=
      { controller.diagnostics with metrics := count installation measured outcome } }

/-- When the installation is passed over again. -/
def action (controller : Controller) : Except Fault Phase → Action
  | .ok phase => .ofProgress controller.requeue phase.progress
  | .error fault => .ofFault controller.requeue fault

/-! ## Turns -/

/-- What the controller asks for. -/
inductive Call
  /-- Read the clock, in nanoseconds. -/
  | now
  | pause (nanoseconds : Nat)
  | present (diagnostics : Diagnostics)
  | pass (installation : Installation)

/-- The answer to a call; only a pass can fail. -/
@[reducible] def Call.Answer : Call → Type
  | .now => Nat
  | .pause _ => Unit
  | .present _ => Unit
  | .pass _ => Except Fault Phase

@[reducible] def interface : Interface where
  Call := Call
  Answer := Call.Answer

def now : Program interface Nat := .ask .now pure

def pause (nanoseconds : Nat) : Program interface Unit := .ask (.pause nanoseconds) pure

def present (diagnostics : Diagnostics) : Program interface Unit :=
  .ask (.present diagnostics) pure

/-- Have an installation passed over; whether that fails is an answer. -/
def pass (installation : Installation) : Program interface (Except Fault Phase) :=
  .ask (.pass installation) pure

/-- Take a turn: one pass over an installation, with all that is counted. -/
def turn (controller : Controller) (installation : Installation) :
    Program interface (Except Fault Phase × Controller) := do
  let begin ← now
  let started := controller.started ⟨begin⟩
  present started.diagnostics
  let outcome ← pass installation
  let ended := started.ended installation (((← now) - begin) / millisecond) outcome
  present ended.diagnostics
  return (outcome, ended)

end Controller

end LifecycleOperator
