/-!
# Kinds of objects

The kinds of namespaced objects that the operator reads or writes, with the
names under which the interface of the cluster knows them.
-/

namespace LifecycleOperator

/-- A kind of namespaced object. -/
inductive Kind
  | installation
  | deployment
  | statefulSet
  | job
  | configMap
  | secret
  | service
  | ingress
  deriving DecidableEq, Repr, Inhabited

namespace Kind

def all : List Kind :=
  [.installation, .deployment, .statefulSet, .job, .configMap, .secret, .service, .ingress]

def name : Kind → String
  | .installation => "ALM"
  | .deployment => "Deployment"
  | .statefulSet => "StatefulSet"
  | .job => "Job"
  | .configMap => "ConfigMap"
  | .secret => "Secret"
  | .service => "Service"
  | .ingress => "Ingress"

def ofName? (name : String) : Option Kind :=
  all.find? fun kind => kind.name == name

/-- The group of a kind, empty for the core of the cluster. -/
def group : Kind → String
  | .installation => "com.accantosystems"
  | .deployment | .statefulSet => "apps"
  | .job => "batch"
  | .configMap | .secret | .service => ""
  | .ingress => "networking.k8s.io"

/-- The version of the interface of a kind. -/
def version : Kind → String
  | .installation => "v1alpha1"
  | _ => "v1"

def apiVersion (kind : Kind) : String :=
  if kind.group.isEmpty then kind.version else kind.group ++ "/" ++ kind.version

/-- The name of a kind within a path. -/
def plural : Kind → String
  | .installation => "alms"
  | .deployment => "deployments"
  | .statefulSet => "statefulsets"
  | .job => "jobs"
  | .configMap => "configmaps"
  | .secret => "secrets"
  | .service => "services"
  | .ingress => "ingresses"

/-- The path under which the group of a kind is served. -/
def root (kind : Kind) : String :=
  if kind.group.isEmpty then "/api/" ++ kind.version
  else "/apis/" ++ kind.apiVersion

end Kind

end LifecycleOperator
