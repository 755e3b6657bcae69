import LifecycleOperator.Cluster.Call
import LifecycleOperator.Program.Basic
import LifecycleOperator.Release.Manifest

/-!
# Calls of a pass

All that a pass over an installation asks of the world: what it does with the
cluster, release manifests, and the health of what is installed.  Any of these
calls may fail.
-/

namespace LifecycleOperator
namespace Pass

/-- What a pass asks for. -/
inductive Call
  | cluster (call : ClusterCall)
  | fetchRelease (url : String)
  | probe

/-- What a call results in when it succeeds. -/
@[reducible] def Call.Result : Call → Type
  | .cluster call => call.Result
  | .fetchRelease _ => Manifest
  | .probe => Bool

/-- The interface of a pass to the world. -/
@[reducible] def interface : Interface where
  Call := Call
  Answer call := Except Fault call.Result

end Pass

/-- A part of a pass. -/
abbrev Pass (α : Type) := Program Pass.interface α

namespace Pass

/-- Make a call, and go on with its answer, whether it succeeds or fails. -/
def askCluster
    (call : ClusterCall) (next : Except Fault call.Result → Pass α) : Pass α :=
  .ask (.cluster call) next

/-- Look an object up; there may be none. -/
def lookup (kind : Kind) (namespaceName name : String) : Pass (Option (Object kind)) :=
  askCluster (.lookup kind namespaceName name) .done

/-- Create an object under its own name. -/
def create (kind : Kind) (namespaceName : String) (object : Object kind) :
    Pass (Object kind) :=
  askCluster (.create kind namespaceName object) .done

/-- Put an object in the place of another one. -/
def replace (kind : Kind) (namespaceName name : String) (object : Object kind) :
    Pass (Object kind) :=
  askCluster (.replace kind namespaceName name object) .done

def patchStatus (namespaceName name : String) (status : Status) : Pass Unit :=
  askCluster (.patchStatus namespaceName name status) .done

def publish (installation : Installation) (event : Event) : Pass Unit :=
  askCluster (.publish installation event) .done

/-- Publish an event; nothing depends on whether that works. -/
def record (installation : Installation) (event : Event) : Pass Unit :=
  askCluster (.publish installation event) fun _ => pure ()

def fetchRelease (url : String) : Pass Manifest :=
  .ask (.fetchRelease url) .done

/-- Probe the health of what is installed. -/
def probe : Pass Bool :=
  .ask .probe .done

end Pass

end LifecycleOperator
