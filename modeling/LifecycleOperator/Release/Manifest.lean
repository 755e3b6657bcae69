import LifecycleOperator.Fault
import LifecycleOperator.Json.Decode
import LifecycleOperator.Text.Space
import LifecycleOperator.Yaml.Node

/-!
# Release manifests

A release manifest lists the version of every service that is shipped together.
Versions are texts, whatever they look like.  A manifest without content lists
nothing.
-/

namespace LifecycleOperator

/-- What a manifest says about one service. -/
structure ServiceRelease where
  version : String
  deriving DecidableEq, Repr, Inhabited

namespace ServiceRelease

/-- The wire names of the fields, in their order. -/
def fieldNames : List String := ["version"]

def toJson (release : ServiceRelease) : Json :=
  Json.ofFields [("version", .string release.version)]

def decode : Decoder ServiceRelease := fun document => do
  let members ← Decoder.members fieldNames document
  let version ← Decoder.defaulted .string "" members "version"
  return { version }

end ServiceRelease

/-- The services that are shipped together. -/
structure Manifest where
  /-- The entries, by their keys. -/
  services : OrderedMap ServiceRelease
  deriving DecidableEq, Inhabited

namespace Manifest

def empty : Manifest := ⟨.empty⟩

/-- The version of a key, empty when the key is missing. -/
def version (manifest : Manifest) (key : String) : String :=
  ((manifest.services.get? key).map ServiceRelease.version).getD ""

def toJson (manifest : Manifest) : Json :=
  .object (manifest.services.entries.map fun entry => (entry.1, entry.2.toJson))

/-- Read a manifest from a JSON document. -/
def decode : Decoder Manifest := fun document =>
  (Decoder.map ServiceRelease.decode document).map Manifest.mk

def scalar? (document : Yaml.Document) (node : Yaml.Node) : Option String :=
  match document.resolve node with
  | .scalar text _ => some text
  | _ => none

/-- The entries of a mapping; a node that was left empty is one without entries. -/
def entries? (document : Yaml.Document) (node : Yaml.Node) :
    Option (List (Yaml.Node × Yaml.Node)) :=
  match document.resolve node with
  | .mapping entries => some entries
  | .scalar "" true => some []
  | _ => none

/-- The version among the entries of a service, which must not be repeated. -/
def version? (document : Yaml.Document) :
    Option String → List (Yaml.Node × Yaml.Node) → Option (Option String)
  | found, [] => some found
  | found, (key, value) :: rest =>
      (scalar? document key).bind fun name =>
        if name == "version" then
          if found.isSome then none
          else (scalar? document value).bind fun text => version? document (some text) rest
        else version? document found rest

def services? (document : Yaml.Document) (node : Yaml.Node) :
    Option (List (String × ServiceRelease)) :=
  (entries? document node).bind fun entries =>
    entries.mapM fun (key, value) =>
      (scalar? document key).bind fun name =>
        (entries? document value).bind fun fields =>
          (version? document none fields).map fun version =>
            (name, ⟨version.getD ""⟩)

def read? (text : String) : Option Manifest :=
  if text.toList.all Text.isSpace then some .empty
  else
    (Yaml.Document.read? text).bind fun document =>
      match document.root with
      | none => some .empty
      | some node => (services? document node).map fun pairs => ⟨.ofPairs pairs⟩

def read (text : String) : Except Fault Manifest :=
  match read? text with
  | some manifest => .ok manifest
  | none => .error (.manifest (.ofMessage "not a release manifest"))

end Manifest

end LifecycleOperator
