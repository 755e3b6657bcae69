import LifecycleOperator.Cluster.Event

/-!
# Calls on the cluster

The handful of things that the operator does with a cluster: it looks objects
up, creates and replaces them, sets the status of an installation and publishes
events.  Any of these calls may fail.
-/

namespace LifecycleOperator

/-- What the operator asks of the cluster. -/
inductive ClusterCall
  | lookup (kind : Kind) (namespaceName name : String)
  /-- Create an object under its own name. -/
  | create (kind : Kind) (namespaceName : String) (object : Object kind)
  /-- Put an object in the place of another one. -/
  | replace (kind : Kind) (namespaceName name : String) (object : Object kind)
  /-- Set the status of an installation, and nothing else of it. -/
  | patchStatus (namespaceName name : String) (status : Status)
  | publish (installation : Installation) (event : Event)

namespace ClusterCall

/-- What a call results in when it succeeds. -/
@[reducible] def Result : ClusterCall → Type
  | .lookup kind _ _ => Option (Object kind)
  | .create kind _ _ => Object kind
  | .replace kind _ _ _ => Object kind
  | .patchStatus _ _ _ => Unit
  | .publish _ _ => Unit

end ClusterCall

end LifecycleOperator
