import LifecycleOperator.Pass.Bootstrap

/-!
# Phases

A pass takes an installation one step further: the configurator is started, then
waited for, then everything is rolled out, and from then on only the health of
what is installed is followed.  How the next pass is scheduled depends on the
phase in which a pass leaves the installation, or on why it failed.
-/

namespace LifecycleOperator

/-- Where a pass leaves an installation. -/
inductive Phase
  | gone
  | jobCreated
  | jobRunning
  | rollout (progress : Progress)
  | steady (isHealthy : Bool)
  deriving DecidableEq, Repr, Inhabited

namespace Phase

/-- Whether there is anything left to wait for. -/
def progress : Phase → Progress
  | .jobRunning => .requeue
  | .rollout progress => progress
  | .gone | .jobCreated | .steady _ => .complete

/-- The label under which passes are counted. -/
def label : Phase → String
  | .gone => "gone"
  | .jobCreated => "job_created"
  | .jobRunning => "job_running"
  | .rollout _ => "rollout"
  | .steady _ => "steady"

end Phase

/-- When the next pass is due. -/
inductive Action
  | awaitChange
  | requeueAfter (milliseconds : Nat)
  deriving DecidableEq, Repr, Inhabited

namespace Action

/-- The time after which any other failure is taken up again, in milliseconds. -/
def patience : Nat := 5 * 60 * 1000

def ofProgress (requeue : Nat) : Progress → Action
  | .complete => .awaitChange
  | .requeue => .requeueAfter requeue

def ofFault (requeue : Nat) (fault : Fault) : Action :=
  match fault with
  | .statusUpdate _ => .awaitChange
  | fault => .requeueAfter (if fault.isExternal then requeue else patience)

end Action

namespace Pass

/-- Resolve the profile of an installation against the release that it names. -/
def resolve (installation : Installation) : Pass DeploymentProfile := do
  return installation.specification.profile
    (← fetchRelease installation.specification.release)

def install (installation : Installation) : Pass Phase := do
  let profile ← resolve installation
  let gate ←
    if installation.specification.configurator.run then gate installation profile
    else pure .opened
  match gate with
  | .opened => return .rollout (← rollout installation profile)
  | .closed .complete => return .jobCreated
  | .closed .requeue => return .jobRunning

/-- Write the status of an installation; a failure to do so is told apart. -/
def updateStatus (namespaceName name : String) (status : Status) : Pass Unit :=
  askCluster (.patchStatus namespaceName name status) fun
    | .ok _ => pure ()
    | .error fault => throw (.statusUpdate fault)

/-- Follow the health of what is installed. -/
def follow (installation : Installation) (namespaceName name : String) : Pass Phase := do
  let isHealthy ← probe
  if isHealthy then pure () else record installation (.unhealthy name)
  updateStatus namespaceName name ⟨isHealthy⟩
  return .steady isHealthy

/-- One pass over the installation of a name. -/
def reconcile (namespaceName name : String) : Pass Phase := do
  match ← lookup .installation namespaceName name with
  | none => return .gone
  | some installation =>
      match ← lookup .deployment namespaceName markerDeployment with
      | none => install installation
      | some _ => follow installation namespaceName name

end Pass

end LifecycleOperator
