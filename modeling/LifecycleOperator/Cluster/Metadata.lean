import LifecycleOperator.Json.Decode

/-!
# Metadata

Name, place and ownership of an object.  What the operator has no use for is
kept as it is.
-/

namespace LifecycleOperator

/-- A reference to an object that owns another one. -/
structure OwnerReference where
  apiVersion : String
  kind : String
  name : String
  uid : String
  /-- Whether the owner is the controller of the object. -/
  controller : Option Bool
  /-- Whether the owner cannot be removed before the object. -/
  blockOwnerDeletion : Option Bool
  deriving DecidableEq, Repr, Inhabited

namespace OwnerReference

def isController (reference : OwnerReference) : Bool :=
  reference.controller == some true

def toJson (reference : OwnerReference) : Json :=
  let optional (name : String) (value : Option Bool) : List (String × Json) :=
    (value.map fun value => (name, Json.bool value)).toList
  Json.ofFields <|
    [("apiVersion", .string reference.apiVersion), ("kind", .string reference.kind),
      ("name", .string reference.name), ("uid", .string reference.uid)] ++
    optional "controller" reference.controller ++
    optional "blockOwnerDeletion" reference.blockOwnerDeletion

end OwnerReference

/-- The metadata of an object. -/
structure Metadata where
  name : Option String
  /-- What a name is generated from. -/
  generateName : Option String
  namespaceName : Option String
  uid : Option String
  ownerReferences : Option (List OwnerReference)
  others : Entries Json
  deriving Repr, Inhabited

namespace Metadata

def empty : Metadata := ⟨none, none, none, none, none, []⟩

/-- The name, or what a name would be generated from. -/
def anyName (metadata : Metadata) : String :=
  (metadata.name.or metadata.generateName).getD ""

/-- The owners; none when the list is not set. -/
def owners (metadata : Metadata) : List OwnerReference :=
  metadata.ownerReferences.getD []

/-- Write metadata, without the fields that are not set. -/
def toJson (metadata : Metadata) : Json :=
  let text (name : String) (value : Option String) : List (String × Json) :=
    (value.map fun value => (name, Json.string value)).toList
  let owners : List (String × Json) :=
    (metadata.ownerReferences.map fun references =>
      ("ownerReferences", Json.array (references.map OwnerReference.toJson))).toList
  Json.ofFields <|
    metadata.others ++ text "name" metadata.name ++
    text "generateName" metadata.generateName ++
    text "namespace" metadata.namespaceName ++ text "uid" metadata.uid ++ owners

end Metadata

namespace Decoder

/-- A value of any form, kept as it is. -/
def value (depth : Nat) : Decoder Json := Document.toJson? depth

/-- A value that passes a check and is kept as it is. -/
def checked (decode : Decoder α) (depth : Nat) : Decoder Json := fun document =>
  (decode document).bind fun _ => value depth document

/-- The members of an object, whatever their names; a repeated one keeps its last value. -/
def fields : Decoder (Entries Document)
  | .object fields =>
      (pairs (fun document => some document) fields).map Entries.ofPairs
  | _ => none

/-- A member that may be missing or null. -/
def optional (decode : Decoder α) (members : Entries Document) (name : String) :
    Option (Option α) :=
  match Entries.get? members name with
  | none => some none
  | some document => nullable decode document

/-- A reference to an owner; texts that are missing are empty. -/
def ownerReference : Decoder OwnerReference := fun document => do
  let members ← fields document
  let apiVersion ← optional string members "apiVersion"
  let kind ← optional string members "kind"
  let name ← optional string members "name"
  let uid ← optional string members "uid"
  let controller ← optional bool members "controller"
  let blockOwnerDeletion ← optional bool members "blockOwnerDeletion"
  return { apiVersion := apiVersion.getD ""
           kind := kind.getD ""
           name := name.getD ""
           uid := uid.getD ""
           controller, blockOwnerDeletion }

/-- How the further fields of metadata have to look. -/
def metadataChecks (depth : Nat) : List (String × Decoder Json) :=
  [("annotations", checked (map string) depth),
    ("creationTimestamp", checked string depth),
    ("deletionGracePeriodSeconds", checked signed64 depth),
    ("deletionTimestamp", checked string depth),
    ("finalizers", checked (list string) depth),
    ("generation", checked signed64 depth),
    ("labels", checked (map string) depth),
    ("managedFields", checked (list fields) depth),
    ("resourceVersion", checked string depth),
    ("selfLink", checked string depth)]

def metadata (depth : Nat) : Decoder Metadata := fun document => do
  let members ← fields document
  let name ← optional string members "name"
  let generateName ← optional string members "generateName"
  let namespaceName ← optional string members "namespace"
  let uid ← optional string members "uid"
  let ownerReferences ← optional (list ownerReference) members "ownerReferences"
  let others ← (metadataChecks depth).mapM fun (field, decode) =>
    (optional decode members field).map fun value =>
      (value.map fun value => (field, value)).toList
  return { name, generateName, namespaceName, uid, ownerReferences
           others := Entries.ofPairs others.flatten }

end Decoder

end LifecycleOperator
