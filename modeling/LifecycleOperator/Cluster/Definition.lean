import LifecycleOperator.Cluster.Kind
import LifecycleOperator.Installation.Schema
import LifecycleOperator.Yaml.Printer

/-!
# The definition of installations

What a cluster has to be told before it knows of installations: their names,
their schema, and what is shown when they are listed.
-/

namespace LifecycleOperator
namespace Definition

/-- A column that is shown when installations are listed. -/
structure Column where
  name : String
  type : String
  description : String
  /-- Where it is found in an installation. -/
  path : String
  deriving DecidableEq, Repr, Inhabited

namespace Column

def toJson (column : Column) : Json :=
  Json.ofFields
    [("name", .string column.name), ("type", .string column.type),
      ("description", .string column.description), ("jsonPath", .string column.path)]

end Column

/-- The columns that are shown when installations are listed. -/
def columns : List Column :=
  [⟨"type", "string", "Deployment type", ".spec.deploymentType"⟩,
    ⟨"secure", "boolean", "Security enabled", ".spec.secure"⟩,
    ⟨"healthy", "boolean", "Ishtar health", ".status.ishtarHealthy"⟩]

/-- The names of installations. -/
def names : Json :=
  Json.ofFields
    [("categories", .array []), ("kind", .string Kind.installation.name),
      ("plural", .string Kind.installation.plural), ("shortNames", .array [.string "alm"]),
      ("singular", .string "alm")]

/-- The only version; the status is written apart from the rest. -/
def version : Json :=
  Json.ofFields
    [("name", .string Kind.installation.version), ("served", .bool true),
      ("storage", .bool true),
      ("additionalPrinterColumns", .array (columns.map Column.toJson)),
      ("schema", Json.ofFields [("openAPIV3Schema", Installation.Schema.toJson)]),
      ("subresources", Json.ofFields [("status", .object [])])]

def toJson : Json :=
  Json.ofFields
    [("apiVersion", .string "apiextensions.k8s.io/v1"),
      ("kind", .string "CustomResourceDefinition"),
      ("metadata", Json.ofFields
        [("name", .string (Kind.installation.plural ++ "." ++ Kind.installation.group))]),
      ("spec", Json.ofFields
        [("group", .string Kind.installation.group), ("names", names),
          ("scope", .string "Namespaced"), ("versions", .array [version])])]

/-- The definition as the document that a cluster is given. -/
def document : String := Yaml.document toJson

end Definition
end LifecycleOperator
