import LifecycleOperator.Operator.Wire

/-!
# Rehearsals of web services

One web service that answers what it is told to, and no other services.  The
clock moves only when something waits.
-/

namespace LifecycleOperator
namespace Web

/-- What a service does with a request. -/
inductive Reaction
  | respond (response : WebResponse)
  | hangUp
  deriving DecidableEq, Repr, Inhabited

/-- How a service chooses what it does. -/
inductive Plan
  /-- One reaction after the other, and then one for everything else. -/
  | inTurn (reactions : List Reaction) (otherwise : Reaction)
  /-- By what is asked for; it hangs up on everything else. -/
  | byTarget (reactions : List (String × Reaction))
  deriving Repr, Inhabited

namespace Plan

def next : Plan → WebRequest → Reaction × Plan
  | .inTurn (reaction :: rest) otherwise, _ => (reaction, .inTurn rest otherwise)
  | .inTurn [] otherwise, _ => (otherwise, .inTurn [] otherwise)
  | .byTarget reactions, request =>
      ((reactions.lookup request.url.target).getD .hangUp, .byTarget reactions)

end Plan

/-- A service in memory. -/
structure Rehearsal where
  /-- The authority under which the service is reached. -/
  authority : String
  plan : Plan
  /-- The clock, in nanoseconds. -/
  now : Nat
  /-- The requests that arrived, from the last one. -/
  arrivals : List WebRequest

namespace Rehearsal

/-- A value without blanks around it, which do not travel. -/
def trimBlanks (value : String) : String :=
  let isBlank (character : Char) : Bool := character == ' ' || character == '\t'
  String.ofList ((value.toList.dropWhile isBlank).reverse.dropWhile isBlank).reverse

def arriving (request : WebRequest) : WebRequest :=
  { request with
    headers := request.headers.map fun (name, value) => (name, trimBlanks value) }

def send (rehearsal : Rehearsal) (request : WebRequest) :
    Except TransportFault WebResponse × Rehearsal :=
  let noAnswer : Except TransportFault WebResponse := .error (.noAnswer request.url.text)
  if request.url.scheme != "http" || request.url.authority != rehearsal.authority then
    (noAnswer, rehearsal)
  else
    let (reaction, plan) := rehearsal.plan.next request
    let after := { rehearsal with plan, arrivals := arriving request :: rehearsal.arrivals }
    match reaction with
    | .respond response => (.ok response, after)
    | .hangUp => (noAnswer, after)

/-- Act on a world in which there is no cluster. -/
def respond : Program.Responder Wire.interface Rehearsal
  | .cluster _, rehearsal => (⟨503, ""⟩, rehearsal)
  | .web request, rehearsal => rehearsal.send request
  | .now, rehearsal => (rehearsal.now, rehearsal)
  | .pause nanoseconds, rehearsal => ((), { rehearsal with now := rehearsal.now + nanoseconds })

end Rehearsal
end Web
end LifecycleOperator
