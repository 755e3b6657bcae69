/-!
# Identity

How the operator calls itself: towards services, in the events that it
publishes, and by the pod that it runs in.
-/

namespace LifecycleOperator

/-- Who publishes an event. -/
structure Reporter where
  controller : String
  instanceName : String
  deriving DecidableEq, Repr, Inhabited

namespace Identity

/-- The name under which the operator is installed as a program. -/
def programName : String := "operator"

def domain : List String := ["alm", "accantosystems", "com"]

/-- The labels of the name of a program towards services. -/
def labels (program : String) : List String :=
  if program = programName then "controller" :: domain else domain

/-- The name of a program towards services. -/
def client (program : String) : String :=
  ".".intercalate (labels program)

/-- The first two labels of a name within the domain, joined; otherwise the product alone. -/
def short (program : String) : String :=
  match labels program with
  | role :: product :: _ :: _ :: _ => product ++ "-" ++ role
  | _ => "alm"

/-- Who publishes the events of a program in a pod. -/
def reporter (program : String) (pod : Option String) : Reporter :=
  ⟨short program, pod.getD "unknown"⟩

end Identity

end LifecycleOperator
