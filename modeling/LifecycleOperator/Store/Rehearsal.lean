import LifecycleOperator.Pass.Call
import LifecycleOperator.Store.Response

/-!
# Rehearsals

A rehearsal is a cluster in memory that can be told how its calls are to fail,
together with the releases and the answers of the health probe that a pass is to
meet.  A pass that is run against a rehearsal does all that it does against a
cluster.
-/

namespace LifecycleOperator

/-- The releases and probes that a pass meets. -/
structure Scenery where
  releases : List (String × Except Fault Manifest)
  /-- What the next probes answer; further ones succeed. -/
  probes : List (Except Fault Bool)

namespace Scenery

/-- No releases, and whatever is probed is healthy. -/
def bare : Scenery := ⟨[], []⟩

instance : Inhabited Scenery := ⟨bare⟩

def release (scenery : Scenery) (url : String) : Except Fault Manifest :=
  (scenery.releases.lookup url).getD (.error (.methodFailed "Get" 404 url))

def probe (scenery : Scenery) : Except Fault Bool × Scenery :=
  match scenery.probes with
  | [] => (.ok true, scenery)
  | answer :: rest => (answer, { scenery with probes := rest })

end Scenery

/-- Which calls of a rehearsal fail. -/
structure Mishaps where
  /-- Objects, by kind and name, that cannot be looked up. -/
  unreadable : List (Kind × String)
  /-- Objects, by kind and name, that must not be created. -/
  denied : List (Kind × String)
  /-- Objects, by kind and name, that another writer creates just before. -/
  overtaken : List (Kind × String)
  keepsObjects : Bool
  keepsStatus : Bool
  forbidsEvents : Bool
  deriving Inhabited

namespace Mishaps

def none : Mishaps := ⟨[], [], [], false, false, false⟩

/-- What is to become of a call. -/
def verdict (mishaps : Mishaps) : ClusterCall → Verdict
  | .lookup kind _ name =>
      if mishaps.unreadable.contains (kind, name) then
        .refuse (.other s!"cannot get {kind.name}/{name}")
      else .carryOut
  | .create kind _ object =>
      let name := object.metadata.name.getD ""
      if mishaps.denied.contains (kind, name) then
        .refuse (.other s!"admission denied {kind.name}/{name}")
      else if mishaps.overtaken.contains (kind, name) then .tooLate
      else .carryOut
  | .replace _ _ name _ =>
      if mishaps.keepsObjects then .refuse (.other s!"conflict on {name}") else .carryOut
  | .patchStatus _ _ _ =>
      if mishaps.keepsStatus then .refuse (.other "status update rejected") else .carryOut
  | .publish _ _ =>
      if mishaps.forbidsEvents then .refuse (.other "events are forbidden") else .carryOut

/-- Another writer overtakes the creation of an object only once. -/
def after (mishaps : Mishaps) : ClusterCall → Mishaps
  | .create kind _ object =>
      let mark := (kind, object.metadata.name.getD "")
      if mishaps.denied.contains mark then mishaps
      else { mishaps with overtaken := mishaps.overtaken.filter (· != mark) }
  | _ => mishaps

end Mishaps

/-- A cluster in memory, with all that a pass meets. -/
structure Rehearsal where
  store : Store
  mishaps : Mishaps
  scenery : Scenery
  deriving Inhabited

namespace Rehearsal

def respond : Program.Responder Pass.interface Rehearsal
  | .fetchRelease url, rehearsal => (rehearsal.scenery.release url, rehearsal)
  | .probe, rehearsal =>
      let (answer, scenery) := rehearsal.scenery.probe
      (answer, { rehearsal with scenery })
  | .cluster call, rehearsal =>
      let (answer, store) := rehearsal.store.respond call (rehearsal.mishaps.verdict call)
      (answer, { rehearsal with store, mishaps := rehearsal.mishaps.after call })

end Rehearsal

end LifecycleOperator
