import LifecycleOperator.Json.Member
import LifecycleOperator.Pass.Phase

/-!
# Passes as documents

What is told about a pass: its events, how far it came, and when the next one is
due.
-/

namespace LifecycleOperator

open Json.Member

namespace Event

def toJson (event : Event) : Json :=
  Json.ofFields
    [("type", .string event.severity.text), ("reason", .string event.reason),
      ("note", .string event.note), ("action", .string event.action),
      ("secondary", Json.ofOption ObjectReference.toJson event.secondary)]

end Event

namespace Progress

def toJson (progress : Progress) : Json := .string progress.name

end Progress

namespace JobObservation

/-- Write what is seen of the configurator. -/
def toJson : JobObservation → Json
  | .absent => .string "Absent"
  | .running => .string "Running"
  | .succeeded pods => Json.ofFields [("Succeeded", Json.ofInt pods)]

end JobObservation

namespace Gate

def toJson : Gate → Json
  | .opened => .string "Open"
  | .closed progress => Json.ofFields [("Closed", progress.toJson)]

end Gate

namespace Phase

def toJson (phase : Phase) : Json :=
  let health : List (String × Json) :=
    match phase with
    | .steady isHealthy => [("ishtar_healthy", .bool isHealthy)]
    | _ => []
  Json.ofFields <|
    [("phase", .string phase.label), ("progress", phase.progress.toJson)] ++ health

end Phase

namespace Action

/-- Write when the next pass is due. -/
def toJson : Action → Json
  | .awaitChange => .string "await_change"
  | .requeueAfter milliseconds => Json.ofFields [("requeue_ms", Json.ofInt milliseconds)]

end Action

end LifecycleOperator
