import LifecycleOperator.Installation.Spec

/-!
# The schema of an installation

What users may write in an installation, with the words that explain it to them.
Every field of the specification and of the status has the default that reading
it gives as well.
-/

namespace LifecycleOperator

/-- The form of a value, with what is said about it. -/
inductive Schema
  | text (description : String)
  | flag (description : String)
  | structure (description : String) (fields : List (String × Json × Schema))

namespace Schema

mutual

def fields : Schema → List (String × Json)
  | .text description =>
      [("description", .string description), ("type", .string "string")]
  | .flag description =>
      [("description", .string description), ("type", .string "boolean")]
  | .structure description properties =>
      [("description", .string description),
        ("properties", Json.ofFields (propertyFields properties)),
        ("type", .string "object")]

/-- Write the schemas of fields, with the defaults of these. -/
def propertyFields : List (String × Json × Schema) → List (String × Json)
  | [] => []
  | (name, default, schema) :: rest =>
      (name, Json.ofFields (("default", default) :: fields schema)) :: propertyFields rest

end

def toJson (schema : Schema) : Json := Json.ofFields schema.fields

end Schema

namespace Installation.Schema

def jvmOptions : String × Json × Schema :=
  ("JVMOptions", .string "", .text "Extra JVM options")

/-- The version that the user had in mind. -/
def version : String × Json × Schema :=
  ("Version", .string "",
    .text "Version requested by the user (informational, the release manifest wins)")

/-- A text that is empty by default. -/
def textField (name description : String) : String × Json × Schema :=
  (name, .string "", .text description)

def service (name : String) : String × Json × Schema :=
  (name, ServiceOverrides.none.toJson,
    .structure "Per-service overrides of an ALM micro-service" [jvmOptions, version])

def interface : String × Json × Schema :=
  ("nimrod", InterfaceOverrides.none.toJson,
    .structure "Overrides of the nimrod (UI) micro-service"
      [jvmOptions, version,
        textField "ThemesConfigMap" "Name of the ConfigMap holding the UI themes",
        textField "LocalesConfigMap" "Name of the ConfigMap holding the UI locales"])

def configurator : String × Json × Schema :=
  ("configurator", ConfiguratorOverrides.none.toJson,
    .structure "Overrides of the one-shot configurator Job"
      [jvmOptions,
        ("Run", .bool false,
          .flag "Run the configurator Job before rolling out the services")])

def specification : Schema :=
  .structure "Describe an ALM installation"
    [("secure", .bool false, .flag "Enable security on every service"),
      textField "springCloudConfigLabel" "Label used by the spring cloud config server",
      textField "springProfilesActive"
        "Extra spring profiles appended to the computed ones",
      textField "deploymentType"
        "Sizing class: ha, tiny, middle or anything else for standard",
      textField "dockerRepo" "Docker registry prefix of every image",
      textField "release" "URL of the release manifest listing each service version",
      configurator, service "conductor", service "apollo", service "galileo",
      service "talledega", service "daytona", interface, service "ishtar",
      service "relay", service "watchtower", service "doki", service "brent"]

def status : Schema :=
  .structure "The status object of `ALM`"
    [("ishtarHealthy", .bool false, .flag "Last health probe result of ishtar")]

/-- An installation; it may have no status. -/
def toJson : Json :=
  Json.ofFields
    [("description", .string "Custom resource representing an ALM installation"),
      ("properties", Json.ofFields
        [("spec", specification.toJson),
          ("status", Json.ofFields (("nullable", .bool true) :: status.fields))]),
      ("required", .array [.string "spec"]), ("title", .string "ALM"),
      ("type", .string "object")]

end Installation.Schema

end LifecycleOperator
