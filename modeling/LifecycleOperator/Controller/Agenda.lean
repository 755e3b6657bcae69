import LifecycleOperator.Controller.Basic

/-!
# The agenda of the controller

Every installation that is to be passed over again stands on the agenda with the
moment at which it is due.  The controller attends to the earliest one, and to
the one that was put down first if several are due at once.
-/

namespace LifecycleOperator

/-- An installation that is to be passed over. -/
structure Appointment where
  /-- When it is due, in nanoseconds. -/
  due : Nat
  installation : Installation

/-- The installations that are to be passed over, from the one that is due first. -/
abbrev Agenda := List Appointment

namespace Agenda

/-- Put an appointment down behind all that are due at the same time. -/
def insert (appointment : Appointment) : Agenda → Agenda
  | [] => [appointment]
  | other :: rest =>
      if other.due ≤ appointment.due then other :: insert appointment rest
      else appointment :: other :: rest

def ofInstallations (moment : Nat) (installations : List Installation) : Agenda :=
  installations.map fun installation => ⟨moment, installation⟩

/-- The least time between two passes over an installation, in milliseconds. -/
def shortestPause : Nat := 1

/-- Put an installation down as an action says. -/
def plan (agenda : Agenda) (moment : Nat) (installation : Installation) : Action → Agenda
  | .awaitChange => agenda
  | .requeueAfter milliseconds =>
      agenda.insert
        ⟨moment + max milliseconds shortestPause * millisecond, installation⟩

end Agenda

namespace Controller

/-- Wait until a moment; one that has passed is not waited for. -/
def waitUntil (moment : Nat) : Program interface Unit := do
  let left := moment - (← now)
  if left = 0 then return
  pause left

/--
Attend to an agenda for a number of turns, or until nothing is left on it.  An
installation whose pass does not ask for another one is left alone.
-/
def attend : Nat → Controller → Agenda → Program interface Controller
  | 0, controller, _ => pure controller
  | _ + 1, controller, [] => pure controller
  | turns + 1, controller, appointment :: agenda => do
      waitUntil appointment.due
      let (outcome, controller) ← controller.turn appointment.installation
      let planned :=
        Agenda.plan agenda (← now) appointment.installation (controller.action outcome)
      attend turns controller planned

end Controller

end LifecycleOperator
