import LifecycleOperator.Cluster.Call
import LifecycleOperator.Fault
import LifecycleOperator.Store.Basic

/-!
# Calls on a store

How a store answers the calls on a cluster.  Every call is either carried out,
or refused with some fault, or, if it creates an object, it comes too late
because another writer has just created that object.
-/

namespace LifecycleOperator

/-- What is to become of a call. -/
inductive Verdict
  | carryOut
  | refuse (fault : Fault)
  | tooLate
  deriving DecidableEq, Repr, Inhabited

namespace Store

/-- The fault of creating an object whose name is taken. -/
def taken {kind : Kind} (namespaceName : String) (object : Object kind) : Fault :=
  .alreadyExists kind.name namespaceName (object.metadata.name.getD "")

/-- Create an object, unless its name is taken. -/
def create {kind : Kind} (store : Store) (namespaceName : String) (object : Object kind) :
    Except Fault (Object kind) × Store :=
  match store.find? ⟨kind, namespaceName, object.metadata.name.getD ""⟩ with
  | some _ => (.error (taken namespaceName object), store)
  | none => (.ok object, store.insert namespaceName object)

def patchStatus (store : Store) (namespaceName name : String) (status : Status) :
    Except Fault Unit × Store :=
  match store.find? ⟨.installation, namespaceName, name⟩ with
  | none => (.error (.other s!"ALM {namespaceName}/{name} not found"), store)
  | some installation =>
      (.ok (),
        store.put ⟨.installation, namespaceName, name⟩
          (Installation.withStatus installation status))

/-- Carry a call out; events leave no trace. -/
def carryOut (store : Store) : (call : ClusterCall) → Except Fault call.Result × Store
  | .lookup kind namespaceName name =>
      (.ok (store.find? ⟨kind, namespaceName, name⟩), store)
  | .create _ namespaceName object => store.create namespaceName object
  | .replace _ namespaceName _ object => (.ok object, store.insert namespaceName object)
  | .patchStatus namespaceName name status => store.patchStatus namespaceName name status
  | .publish _ _ => (.ok (), store)

/-- Another writer creates the object of a call. -/
def overtake (store : Store) : (call : ClusterCall) → Except Fault call.Result × Store
  | .create _ namespaceName object =>
      (.error (taken namespaceName object), store.insert namespaceName object)
  | call => store.carryOut call

/-- Answer a call as a verdict says. -/
def respond (store : Store) (call : ClusterCall) : Verdict → Except Fault call.Result × Store
  | .carryOut => store.carryOut call
  | .refuse fault => (.error fault, store)
  | .tooLate => store.overtake call

end Store

end LifecycleOperator
