import LifecycleOperator.Pass.Call

/-!
# Creation of what is absent

An object that an installation owns is created if there is none of its name, and
is left alone otherwise, whatever it holds.  Losing the race for a name to
another writer is as good as finding the name taken.
-/

namespace LifecycleOperator

/-- How an object came to be there. -/
inductive Ensured
  | created
  | alreadyPresent
  deriving DecidableEq, Repr, Inhabited

namespace Ensured

def name : Ensured → String
  | .created => "Created"
  | .alreadyPresent => "AlreadyPresent"

end Ensured

namespace Object

/--
The object under a name in the namespace of its owner.  An owner that can be
referred to becomes its only owner.
-/
def placedFor {kind : Kind} (object : Object kind) (owner : Installation) (name : String) :
    Object kind :=
  { object with
    metadata :=
      { object.metadata with
        name := some name
        namespaceName := some owner.namespaceName
        ownerReferences :=
          match owner.ownerReference? with
          | some reference => some [reference]
          | none => object.metadata.ownerReferences } }

end Object

namespace Pass

/-- Create an object, unless its name turns out to be taken. -/
def createPlaced
    (kind : Kind) (owner : Installation) (name : String) (object : Object kind) :
    Pass Ensured :=
  askCluster (.create kind owner.namespaceName object) fun
    | .ok created => do
        record owner (.created owner.anyName kind.name name (some created.reference))
        return .created
    | .error (.alreadyExists _ _ _) => return .alreadyPresent
    | .error fault => throw fault

/-- Make sure that there is an object of a name; what is built is used only if there is none. -/
def ensure
    (kind : Kind) (owner : Installation) (name : String)
    (build : Except Fault (Object kind)) : Pass Ensured := do
  match ← lookup kind owner.namespaceName name with
  | some _ => return .alreadyPresent
  | none =>
      let object ← Program.ofExcept build
      createPlaced kind owner name (object.placedFor owner name)

end Pass

end LifecycleOperator
