import LifecycleOperator.Api.Message
import LifecycleOperator.Fault
import LifecycleOperator.Program.Basic
import LifecycleOperator.Rest.Message

/-!
# The wire

All that the operator does to the world in the end: requests to the interface of
the cluster, requests to web services, reading the clock and waiting.
-/

namespace LifecycleOperator
namespace Wire

/-- What is done to the world. -/
inductive Call
  /-- Send a request to the interface of the cluster. -/
  | cluster (request : ApiRequest)
  /-- Send a request to a web service. -/
  | web (request : WebRequest)
  /-- Read the clock, in nanoseconds. -/
  | now
  | pause (nanoseconds : Nat)

/-- What comes back; only web services may give no answer at all. -/
@[reducible] def Call.Answer : Call → Type
  | .cluster _ => ApiResponse
  | .web _ => Except TransportFault WebResponse
  | .now => Nat
  | .pause _ => Unit

/-- The interface of the operator to the world. -/
@[reducible] def interface : Interface where
  Call := Call
  Answer := Call.Answer

end Wire

/-- A program that acts on the world. -/
abbrev Wire (α : Type) := Program Wire.interface α

namespace Wire

def now : Wire Nat := .ask .now pure

end Wire

end LifecycleOperator
