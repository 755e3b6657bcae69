import LifecycleOperator.Cluster.Kind
import LifecycleOperator.Json.Printer

/-!
# Requests to the cluster

What is sent to the interface of the cluster and what comes back.
-/

namespace LifecycleOperator

/-- A request to the interface of the cluster. -/
structure ApiRequest where
  method : String
  path : String
  body : Option Json

/-- The response of the interface of the cluster. -/
structure ApiResponse where
  code : Nat
  body : String
  deriving DecidableEq, Repr, Inhabited

namespace ApiResponse

def isRefusal (response : ApiResponse) : Bool :=
  400 ≤ response.code && response.code < 600

end ApiResponse

namespace Kind

/-- The path of the objects of a kind in a namespace. -/
def path (kind : Kind) (namespaceName : String) : String :=
  kind.root ++ "/namespaces/" ++ namespaceName ++ "/" ++ kind.plural

/-- The path of the objects of a kind in all namespaces. -/
def everywherePath (kind : Kind) : String :=
  kind.root ++ "/" ++ kind.plural

end Kind

end LifecycleOperator
