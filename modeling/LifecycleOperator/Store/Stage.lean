import LifecycleOperator.Store.Operation
import LifecycleOperator.Store.Rehearsal

/-!
# Stages

A stage is a rehearsal over which several passes, or parts of passes, are run.  It
remembers what was put there or was to be created, and the events so far.
-/

namespace LifecycleOperator

/-- A rehearsal with what happened so far. -/
structure Stage where
  rehearsal : Rehearsal
  /-- The keys of what was put there or was to be created, from the last one. -/
  keys : List Key
  events : List Event

namespace Stage

/-- Nothing is there and nothing has happened. -/
def first (scenery : Scenery) : Stage := ⟨⟨.empty, .none, scenery⟩, [], []⟩

def withScenery (stage : Stage) (scenery : Scenery) : Stage :=
  { stage with rehearsal := { stage.rehearsal with scenery } }

def withMishaps (stage : Stage) (mishaps : Mishaps) : Stage :=
  { stage with rehearsal := { stage.rehearsal with mishaps } }

def insert {kind : Kind} (stage : Stage) (namespaceName : String) (object : Object kind) :
    Stage :=
  { stage with
    rehearsal :=
      { stage.rehearsal with store := stage.rehearsal.store.insert namespaceName object }
    keys := ⟨kind, namespaceName, object.metadata.name.getD ""⟩ :: stage.keys }

/-- Run a part of a pass; how it ended, what it asked for, and the stage behind it. -/
def perform {α : Type} (stage : Stage) (part : Pass α) :
    Except Fault α × List Pass.Exchange × Stage :=
  let run := part.run Rehearsal.respond stage.rehearsal
  let attempted := run.transcript.filterMap Pass.Exchange.creation?
  (run.outcome, run.transcript,
    { rehearsal := run.state
      keys := attempted.reverse ++ stage.keys
      events := stage.events ++ run.transcript.filterMap Pass.Exchange.event? })

end Stage

end LifecycleOperator
