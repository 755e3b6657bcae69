import LifecycleOperator.Api.Rehearsal
import LifecycleOperator.Controller.Agenda
import LifecycleOperator.Store.Operation

/-!
# Rehearsals of the controller

The controller above the interface of a cluster in memory.  The clock moves only
when the controller waits, so that a pass takes no time.
-/

namespace LifecycleOperator
namespace Controller

/-- All that the controller meets. -/
structure Rehearsal where
  /-- The clock, in nanoseconds. -/
  now : Nat
  /-- The cluster, the releases and the probes. -/
  world : Api.Rehearsal
  /-- The diagnostics that were shown last. -/
  shown : Diagnostics
  /-- What passes asked for, with the answers. -/
  exchanges : List Pass.Exchange

namespace Rehearsal

/-- Nothing is shown but what a controller begins with. -/
def first (world : Api.Rehearsal) (controller : Controller) : Rehearsal :=
  ⟨0, world, controller.diagnostics, []⟩

def server (rehearsal : Rehearsal) : Api.Server := rehearsal.world.server

def withServer (rehearsal : Rehearsal) (server : Api.Server) : Rehearsal :=
  { rehearsal with world := { rehearsal.world with server } }

def withScenery (rehearsal : Rehearsal) (scenery : Scenery) : Rehearsal :=
  { rehearsal with world := { rehearsal.world with scenery } }

/-- Forget what happened so far, but not what came of it. -/
def rested (rehearsal : Rehearsal) : Rehearsal :=
  { rehearsal with exchanges := [], world := { rehearsal.world with arrivals := [] } }

def perform {α : Type} (rehearsal : Rehearsal) (part : Pass α) : Except Fault α × Rehearsal :=
  let run := part.run Api.Rehearsal.respond rehearsal.world
  (run.outcome,
    { rehearsal with
      world := run.state
      exchanges := rehearsal.exchanges ++ run.transcript })

def respond : Program.Responder interface Rehearsal
  | .now, rehearsal => (rehearsal.now, rehearsal)
  | .pause nanoseconds, rehearsal =>
      ((), { rehearsal with now := rehearsal.now + nanoseconds })
  | .present diagnostics, rehearsal => ((), { rehearsal with shown := diagnostics })
  | .pass installation, rehearsal => rehearsal.perform (Pass.visit installation)

/-- List the installations of the cluster, which has to know of installations. -/
def listed (rehearsal : Rehearsal) : Except Fault (List Installation) × Rehearsal :=
  let (response, world) := rehearsal.world.send Api.checkRequest
  let (list, _) := world.send Api.listRequest
  (Api.listed response *> Api.listed list, { rehearsal with world })

/-- Let a controller take a turn; what its pass ended with, and the controller behind it. -/
def turn
    (rehearsal : Rehearsal) (controller : Controller) (installation : Installation) :
    Except Fault Phase × Controller × Rehearsal :=
  let run := (controller.turn installation).run respond rehearsal
  match run.outcome with
  | .ok (outcome, controller) => (outcome, controller, run.state)
  | .error fault => (.error fault, controller, run.state)

/-- Let a controller attend to installations until a moment. -/
def runUntil
    (rehearsal : Rehearsal) (moment : Nat) (controller : Controller)
    (installations : List Installation) : Rehearsal :=
  let turns := (moment / millisecond + 1) * installations.length
  ((controller.attend turns (.ofInstallations 0 installations)).runWhile
    (fun rehearsal => decide (rehearsal.now < moment)) respond rehearsal).2

end Rehearsal
end Controller
end LifecycleOperator
