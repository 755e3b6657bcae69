import LifecycleOperator.Pass.Ensure
import LifecycleOperator.Pass.Progress
import LifecycleOperator.Resource.Build

/-!
# Rollout

The services are rolled out in a fixed order.  For each of them a ConfigMap, the
workload, an Ingress if the service is exposed, and a Service are made sure of,
in this order.  A service that cannot be rolled out ends the rollout.
-/

namespace LifecycleOperator
namespace Pass

/-- Make sure of the workload of a service; a Job does not keep running. -/
def ensureWorkload (installation : Installation) (service : ServiceProfile) :
    Pass Ensured :=
  match service.workload with
  | .deployment =>
      ensure .deployment installation service.name
        (.ok (Resource.deployment installation service))
  | .statefulSet =>
      ensure .statefulSet installation service.name
        (.ok (Resource.statefulSet installation service))
  | .job => throw (.other (service.name ++ " is not a long running service"))

/-- Make sure of all objects of a service. -/
def rollOutService (installation : Installation) (service : ServiceProfile) :
    Pass Progress := do
  let _ ← ensure .configMap installation (installation.serviceMapName service.name)
    (.ok (Resource.configMap
      (Configuration.serviceData installation.specification service)))
  let _ ← ensureWorkload installation service
  match service.ingress with
  | some profile =>
      let _ ← ensure .ingress installation profile.name
        (.ok (Resource.ingress installation service profile))
  | none => pure ()
  let _ ← ensure .service installation service.name (.ok (Resource.service service))
  return .complete

/-- The service of a name, which has to be in the profile. -/
def requireService (profile : DeploymentProfile) (name : String) :
    Except Fault ServiceProfile :=
  match profile.find? name with
  | some service => .ok service
  | none => .error (.other ("no " ++ name ++ " in the deployment profile"))

/-- Roll all services out, and tell when that is done. -/
def rollout (installation : Installation) (profile : DeploymentProfile) :
    Pass Progress := do
  let services ← Program.ofExcept (rolloutOrder.mapM (requireService profile))
  match ← Progress.sequence (services.map (rollOutService installation)) with
  | .complete =>
      record installation (.rolloutComplete installation.anyName services.length)
      return .complete
  | .requeue => return .requeue

end Pass
end LifecycleOperator
