import LifecycleOperator.Cluster.Object

/-!
# Events

What the operator tells about its work.  Events are informative: nothing depends
on whether they are published.
-/

namespace LifecycleOperator

/-- Whether an event is to be worried about. -/
inductive Severity
  | normal
  | warning
  deriving DecidableEq, Repr, Inhabited

namespace Severity

def text : Severity → String
  | .normal => "Normal"
  | .warning => "Warning"

end Severity

/-- An event about an installation. -/
structure Event where
  /-- Whether the event is to be worried about. -/
  severity : Severity
  reason : String
  note : String
  action : String
  /-- The object that the event is about as well. -/
  secondary : Option ObjectReference
  deriving DecidableEq, Repr, Inhabited

namespace Event

def created
    (instanceName kind name : String) (child : Option ObjectReference) : Event where
  severity := .normal
  reason := s!"Reconciling `{instanceName}` ALM"
  note := s!"Creating `{name}` {kind} for `{instanceName}` ALM"
  action := s!"Creating `{name}` {kind}"
  secondary := child

def adopted (instanceName secret : String) (child : Option ObjectReference) : Event where
  severity := .normal
  reason := s!"Reconciling `{instanceName}` ALM"
  note := s!"`{instanceName}` ALM is now the controller of `{secret}` Secret"
  action := s!"Owning `{secret}` Secret"
  secondary := child

def rolloutComplete (instanceName : String) (services : Nat) : Event where
  severity := .normal
  reason := s!"Reconciling `{instanceName}` ALM"
  note := s!"All {services} services of `{instanceName}` ALM are deployed"
  action := "Rollout complete"
  secondary := none

def unhealthy (instanceName : String) : Event where
  severity := .warning
  reason := s!"Monitoring `{instanceName}` ALM"
  note := s!"ishtar of `{instanceName}` ALM does not report UP"
  action := "Checking ishtar health"
  secondary := none

end Event

end LifecycleOperator
