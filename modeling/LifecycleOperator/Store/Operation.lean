import LifecycleOperator.Pass.Call
import LifecycleOperator.Store.Basic

/-!
# Records of what was done

What the transcript of a run says about the operations that succeeded, the
events that were published, the releases that were asked for and the probes that
were made.
-/

namespace LifecycleOperator

/-- An operation on a store that succeeded. -/
inductive Operation
  | get (kind : Kind) (name : String)
  | create (kind : Kind) (name : String)
  | replace (kind : Kind) (name : String)
  | patchStatus (name : String)
  deriving DecidableEq, Repr, Inhabited

namespace Operation

/-- Whether an operation changes what is stored. -/
def isMutation : Operation → Bool
  | .get _ _ => false
  | _ => true

/-- Kind and name of what an operation created. -/
def created? : Operation → Option (Kind × String)
  | .create kind name => some (kind, name)
  | _ => none

/-- The words for an operation, ending with the name. -/
def words : Operation → List String
  | .get kind name => ["get", kind.name, name]
  | .create kind name => ["create", kind.name, name]
  | .replace kind name => ["replace", kind.name, name]
  | .patchStatus name => ["patch_status", name]

def ofCall? : ClusterCall → Option Operation
  | .lookup kind _ name => some (.get kind name)
  | .create kind _ object => some (.create kind (object.metadata.name.getD ""))
  | .replace kind _ name _ => some (.replace kind name)
  | .patchStatus _ name _ => some (.patchStatus name)
  | .publish _ _ => none

end Operation

namespace Pass

/-- A call of a pass with its answer. -/
abbrev Exchange := Program.Exchange Pass.interface

namespace Exchange

def succeeded (exchange : Exchange) : Bool :=
  match exchange.answer with
  | .ok _ => true
  | .error _ => false

def operation? (exchange : Exchange) : Option Operation :=
  match exchange.call with
  | .cluster call => if exchange.succeeded then Operation.ofCall? call else none
  | _ => none

def event? (exchange : Exchange) : Option Event :=
  match exchange.call with
  | .cluster (.publish _ event) => if exchange.succeeded then some event else none
  | _ => none

/-- The address from which a release was asked for. -/
def fetched? (exchange : Exchange) : Option String :=
  match exchange.call with
  | .fetchRelease url => some url
  | _ => none

def isProbe (exchange : Exchange) : Bool :=
  match exchange.call with
  | .probe => true
  | _ => false

/-- The key under which an object was to be created. -/
def creation? (exchange : Exchange) : Option Key :=
  match exchange.call with
  | .cluster (.create kind namespaceName object) =>
      some ⟨kind, namespaceName, object.metadata.name.getD ""⟩
  | _ => none

/-- Whether an object was looked up and is not there. -/
def isMiss : Exchange → Bool
  | ⟨.cluster (.lookup _ _ _), .ok none⟩ => true
  | _ => false

end Exchange

end Pass

end LifecycleOperator
