import LifecycleOperator.Cluster.Kind
import LifecycleOperator.Cluster.Metadata
import LifecycleOperator.Installation.Spec

/-!
# Objects

An object of the cluster has metadata and a body.  The body of an installation
is its specification and its status; the bodies of the other kinds are kept as
they are, because the operator only writes them as a whole or looks at a single
field.
-/

namespace LifecycleOperator

/-- What an installation holds besides its metadata. -/
structure InstallationBody where
  specification : Specification
  /-- What the operator last saw. -/
  status : Option Status
  deriving DecidableEq, Repr, Inhabited

namespace Kind

/-- The fields of the body of a kind that is kept as it is; others are not known. -/
def bodyNames : Kind → List String
  | .installation => []
  | .deployment | .statefulSet | .job | .service | .ingress => ["spec", "status"]
  | .configMap => ["binaryData", "data", "immutable"]
  | .secret => ["data", "immutable", "stringData", "type"]

/-- What an object of a kind holds besides its metadata. -/
@[reducible] def Body : Kind → Type
  | .installation => InstallationBody
  | _ => Entries Json

end Kind

/-- An object of a kind. -/
structure Object (kind : Kind) where
  /-- Name, place and ownership. -/
  metadata : Metadata
  body : kind.Body

/-- An installation, the object that this operator is about. -/
abbrev Installation := Object .installation

/-- A reference to an object, with the fields that are known. -/
structure ObjectReference where
  apiVersion : Option String
  kind : Option String
  name : Option String
  namespaceName : Option String
  uid : Option String
  deriving DecidableEq, Repr, Inhabited

namespace ObjectReference

/-- Write a reference, without the fields that are not set. -/
def toJson (reference : ObjectReference) : Json :=
  let text (name : String) (value : Option String) : List (String × Json) :=
    (value.map fun value => (name, Json.string value)).toList
  Json.ofFields <|
    text "apiVersion" reference.apiVersion ++ text "kind" reference.kind ++
    text "name" reference.name ++ text "namespace" reference.namespaceName ++
    text "uid" reference.uid

end ObjectReference

namespace Object

def bodyFields : {kind : Kind} → kind.Body → List (String × Json)
  | .installation, body =>
      ("spec", body.specification.toJson) ::
        (body.status.map fun status => ("status", status.toJson)).toList
  | .deployment, body | .statefulSet, body | .job, body | .configMap, body
  | .secret, body | .service, body | .ingress, body => body

def toJson {kind : Kind} (object : Object kind) : Json :=
  Json.ofFields <|
    bodyFields object.body ++
    [("apiVersion", .string kind.apiVersion), ("kind", .string kind.name),
      ("metadata", object.metadata.toJson)]

def reference {kind : Kind} (object : Object kind) : ObjectReference where
  apiVersion := some kind.apiVersion
  kind := some kind.name
  name := object.metadata.name
  namespaceName := object.metadata.namespaceName
  uid := object.metadata.uid

/-- The name, or what a name would be generated from. -/
def anyName {kind : Kind} (object : Object kind) : String :=
  object.metadata.anyName

/-- The namespace, empty when there is none. -/
def namespaceName {kind : Kind} (object : Object kind) : String :=
  object.metadata.namespaceName.getD ""

/-- A field of the body of an object that is kept as it is. -/
def bodyField {kind : Kind} (object : Object kind) (name : String) : Option Json :=
  Entries.get? (bodyFields object.body) name

end Object

namespace Decoder

/-- An installation; its status may be missing or null. -/
def installation (depth : Nat) : Decoder Installation := fun document => do
  let members ← members ["metadata", "spec", "status"] document
  let metadata ← required (metadata (depth - 1)) members "metadata"
  let specification ← required Specification.decode members "spec"
  let status ←
    match Entries.get? members "status", document with
    | some document, _ => nullable Status.decode document
    | none, .array _ => none
    | none, _ => some none
  return ⟨metadata, ⟨specification, status⟩⟩

/-- Whether the value of a field of a body has the form that the field calls for. -/
def isFitting (name : String) : Json → Bool
  | .object members =>
      if name == "spec" || name == "status" then true
      else
        ["binaryData", "data", "stringData"].contains name &&
          members.all fun member => member.2.string?.isSome
  | .bool _ => name == "immutable"
  | .string _ => name == "type"
  | _ => false

/-- The fields of an object of another kind; kind and version must fit if they are given. -/
def rawBody (kind : Kind) (depth : Nat) : Decoder (Metadata × Entries Json) :=
  fun document => do
    let members ← fields document
    let givenKind ← defaulted string kind.name members "kind"
    let givenVersion ← defaulted string kind.apiVersion members "apiVersion"
    let metadata ← optional (metadata (depth - 1)) members "metadata"
    let own := members.filter fun member => kind.bodyNames.contains member.1
    let body ← own.mapM fun (name, document) =>
      (optional (value (depth - 1)) [(name, document)] name).bind fun value =>
        match value with
        | none => some []
        | some value => if isFitting name value then some [(name, value)] else none
    if givenKind == kind.name && givenVersion == kind.apiVersion then
      some (metadata.getD .empty, body.flatten)
    else none

/-- The counts of Pods in the status of a Job. -/
def podCounts : List String := ["active", "failed", "ready", "succeeded", "terminating"]

/-- Whether the counts in the status of a Job have the right form. -/
def isJobBody (body : Entries Json) : Bool :=
  match Entries.get? body "status" with
  | none => true
  | some status =>
      let counts : Option (List (Option Int)) := do
        let members ← fields (Document.ofJson status)
        podCounts.mapM fun name => optional signed32 members name
      counts.isSome

def object (depth : Nat) : (kind : Kind) → Decoder (Object kind)
  | .installation => installation depth
  | .deployment => fun document =>
      (rawBody .deployment depth document).map fun (metadata, body) => ⟨metadata, body⟩
  | .statefulSet => fun document =>
      (rawBody .statefulSet depth document).map fun (metadata, body) => ⟨metadata, body⟩
  | .job => fun document =>
      (rawBody .job depth document).bind fun (metadata, body) =>
        if isJobBody body then some ⟨metadata, body⟩ else none
  | .configMap => fun document =>
      (rawBody .configMap depth document).map fun (metadata, body) => ⟨metadata, body⟩
  | .secret => fun document =>
      (rawBody .secret depth document).map fun (metadata, body) => ⟨metadata, body⟩
  | .service => fun document =>
      (rawBody .service depth document).map fun (metadata, body) => ⟨metadata, body⟩
  | .ingress => fun document =>
      (rawBody .ingress depth document).map fun (metadata, body) => ⟨metadata, body⟩

end Decoder

namespace Installation

def specification (installation : Installation) : Specification :=
  installation.body.specification

/--
The reference with which an installation owns other objects.  It needs a name
and an identity; empty ones will do.
-/
def ownerReference? (installation : Installation) : Option OwnerReference :=
  match installation.metadata.name, installation.metadata.uid with
  | some name, some uid =>
      some
        { apiVersion := Kind.installation.apiVersion
          kind := Kind.installation.name
          name, uid
          controller := some true
          blockOwnerDeletion := none }
  | _, _ => none

def withStatus (installation : Installation) (status : Status) : Installation :=
  ⟨installation.metadata, ⟨installation.specification, some status⟩⟩

/-- The name of the Job that runs the configurator. -/
def jobName (installation : Installation) : String :=
  installation.anyName ++ "-lm-configurator"

/-- The name of the ConfigMap that the configurator is set up with. -/
def configuratorMapName (installation : Installation) : String :=
  installation.anyName ++ "-lm-configurator-cm"

/-- The name of the ConfigMap that the configurator imports. -/
def configImportMapName (installation : Installation) : String :=
  installation.anyName ++ "-lm-config-import-cm"

/-- The name of the ConfigMap that feeds the environment of a service. -/
def serviceMapName (installation : Installation) (service : String) : String :=
  installation.anyName ++ "-" ++ service ++ "-cm"

end Installation

/-- The secrets that the configurator produces. -/
def bootstrapSecrets : List String :=
  ["lm-certs", "lm-client-credentials", "lm-keystore", "nimrod-tls", "brent-tls",
    "ishtar-tls"]

/-- The Deployment whose existence marks a completed rollout. -/
def markerDeployment : String := "daytona"

end LifecycleOperator
