import LifecycleOperator.Api.Rehearsal
import LifecycleOperator.Operator.Basic
import LifecycleOperator.Rest.Rehearsal

/-!
# Rehearsals of the operator

The operator above the interface of a cluster in memory and a web service that
answers what it is told to.  The requests are counted, so that the operator can
be interrupted after a number of them.
-/

namespace LifecycleOperator
namespace Operator

/-- All that the operator meets. -/
structure Rehearsal where
  server : Api.Server
  /-- The web service, and the clock. -/
  web : Web.Rehearsal
  /-- The requests that arrived at the cluster, from the last one. -/
  arrivals : List Api.Arrival

namespace Rehearsal

/-- Whether a request only follows what becomes of the installations. -/
def isWatch (request : ApiRequest) : Bool :=
  request.method == Api.listRequest.method && request.path == Api.listRequest.path

/-- Answer a call; requests that only watch are not taken down. -/
def respond : Program.Responder Wire.interface Rehearsal
  | .cluster request, rehearsal =>
      let (response, server) := rehearsal.server.respond request
      let arrival : Api.Arrival := ⟨request, rehearsal.server.isRuled request⟩
      let arrivals :=
        if isWatch request then rehearsal.arrivals else arrival :: rehearsal.arrivals
      (response, { rehearsal with server, arrivals })
  | .web request, rehearsal =>
      let (answer, web) := rehearsal.web.send request
      (answer, { rehearsal with web })
  | .now, rehearsal => (rehearsal.web.now, rehearsal)
  | .pause nanoseconds, rehearsal =>
      ((), { rehearsal with web := { rehearsal.web with now := rehearsal.web.now + nanoseconds } })

def count (rehearsal : Rehearsal) : Nat :=
  rehearsal.arrivals.length + rehearsal.web.arrivals.length

/-- Run the operator until a number of requests arrived; interrupted, it ends well. -/
def runUntil (rehearsal : Rehearsal) (requests : Nat) (program : Wire Unit) :
    Except Fault Unit × Rehearsal :=
  let (outcome, after) :=
    program.runWhile
      (fun rehearsal => rehearsal.count = 0 || decide (rehearsal.count < requests))
      respond rehearsal
  (outcome.getD (.ok ()), after)

end Rehearsal
end Operator
end LifecycleOperator
