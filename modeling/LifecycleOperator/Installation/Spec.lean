import LifecycleOperator.Json.Decode

/-!
# What an installation asks for

The specification of an installation, as its users write it, and the status that
the operator reports back.  Every field of the specification has a default.  The
wire names of the fields are fixed by the interface of the cluster.
-/

namespace LifecycleOperator

/-- Overrides of one service. -/
structure ServiceOverrides where
  /-- Extra options of the virtual machine; informational. -/
  jvmOptions : String
  /-- The version that the user had in mind; informational. -/
  version : String
  deriving DecidableEq, Repr, Inhabited

/-- Overrides of the user interface. -/
structure InterfaceOverrides where
  /-- Extra options of the virtual machine; informational. -/
  jvmOptions : String
  /-- The version that the user had in mind; informational. -/
  version : String
  /-- The ConfigMap with the themes, if not empty. -/
  themesConfigMap : String
  /-- The ConfigMap with the locales, if not empty. -/
  localesConfigMap : String
  deriving DecidableEq, Repr, Inhabited

/-- Overrides of the configurator, which runs once before the services. -/
structure ConfiguratorOverrides where
  /-- Extra options of the virtual machine; informational. -/
  jvmOptions : String
  run : Bool
  deriving DecidableEq, Repr, Inhabited

/-- What the user of an installation asks for. -/
structure Specification where
  secure : Bool
  /-- The label that the services ask the configuration server for. -/
  configLabel : String
  activeProfiles : String
  deploymentType : String
  /-- The registry that the images come from. -/
  dockerRepo : String
  release : String
  configurator : ConfiguratorOverrides
  conductor : ServiceOverrides
  apollo : ServiceOverrides
  galileo : ServiceOverrides
  talledega : ServiceOverrides
  daytona : ServiceOverrides
  nimrod : InterfaceOverrides
  ishtar : ServiceOverrides
  relay : ServiceOverrides
  watchtower : ServiceOverrides
  doki : ServiceOverrides
  brent : ServiceOverrides
  deriving DecidableEq, Repr, Inhabited

/-- What the operator last saw of an installation. -/
structure Status where
  /-- Whether the last health probe succeeded. -/
  isHealthy : Bool
  deriving DecidableEq, Repr, Inhabited

namespace ServiceOverrides

def none : ServiceOverrides := ⟨"", ""⟩

/-- The wire names of the fields, in their order. -/
def fieldNames : List String := ["JVMOptions", "Version"]

def toJson (overrides : ServiceOverrides) : Json :=
  Json.ofFields
    [("JVMOptions", .string overrides.jvmOptions), ("Version", .string overrides.version)]

def decode : Decoder ServiceOverrides := fun document => do
  let members ← Decoder.members fieldNames document
  let jvmOptions ← Decoder.defaulted .string "" members "JVMOptions"
  let version ← Decoder.defaulted .string "" members "Version"
  return { jvmOptions, version }

end ServiceOverrides

namespace InterfaceOverrides

def none : InterfaceOverrides := ⟨"", "", "", ""⟩

/-- The wire names of the fields, in their order. -/
def fieldNames : List String :=
  ["JVMOptions", "Version", "ThemesConfigMap", "LocalesConfigMap"]

def toJson (overrides : InterfaceOverrides) : Json :=
  Json.ofFields
    [("JVMOptions", .string overrides.jvmOptions), ("Version", .string overrides.version),
      ("ThemesConfigMap", .string overrides.themesConfigMap),
      ("LocalesConfigMap", .string overrides.localesConfigMap)]

def decode : Decoder InterfaceOverrides := fun document => do
  let members ← Decoder.members fieldNames document
  let jvmOptions ← Decoder.defaulted .string "" members "JVMOptions"
  let version ← Decoder.defaulted .string "" members "Version"
  let themesConfigMap ← Decoder.defaulted .string "" members "ThemesConfigMap"
  let localesConfigMap ← Decoder.defaulted .string "" members "LocalesConfigMap"
  return { jvmOptions, version, themesConfigMap, localesConfigMap }

end InterfaceOverrides

namespace ConfiguratorOverrides

def none : ConfiguratorOverrides := ⟨"", false⟩

/-- The wire names of the fields, in their order. -/
def fieldNames : List String := ["JVMOptions", "Run"]

def toJson (overrides : ConfiguratorOverrides) : Json :=
  Json.ofFields
    [("JVMOptions", .string overrides.jvmOptions), ("Run", .bool overrides.run)]

def decode : Decoder ConfiguratorOverrides := fun document => do
  let members ← Decoder.members fieldNames document
  let jvmOptions ← Decoder.defaulted .string "" members "JVMOptions"
  let run ← Decoder.defaulted .bool false members "Run"
  return { jvmOptions, run }

end ConfiguratorOverrides

namespace Specification

def empty : Specification where
  secure := false
  configLabel := ""
  activeProfiles := ""
  deploymentType := ""
  dockerRepo := ""
  release := ""
  configurator := .none
  conductor := .none
  apollo := .none
  galileo := .none
  talledega := .none
  daytona := .none
  nimrod := .none
  ishtar := .none
  relay := .none
  watchtower := .none
  doki := .none
  brent := .none

/-- The wire names of the fields, in their order. -/
def fieldNames : List String :=
  ["secure", "springCloudConfigLabel", "springProfilesActive", "deploymentType",
    "dockerRepo", "release", "configurator", "conductor", "apollo", "galileo",
    "talledega", "daytona", "nimrod", "ishtar", "relay", "watchtower", "doki", "brent"]

def toJson (specification : Specification) : Json :=
  Json.ofFields
    [("secure", .bool specification.secure),
      ("springCloudConfigLabel", .string specification.configLabel),
      ("springProfilesActive", .string specification.activeProfiles),
      ("deploymentType", .string specification.deploymentType),
      ("dockerRepo", .string specification.dockerRepo),
      ("release", .string specification.release),
      ("configurator", specification.configurator.toJson),
      ("conductor", specification.conductor.toJson),
      ("apollo", specification.apollo.toJson),
      ("galileo", specification.galileo.toJson),
      ("talledega", specification.talledega.toJson),
      ("daytona", specification.daytona.toJson),
      ("nimrod", specification.nimrod.toJson),
      ("ishtar", specification.ishtar.toJson),
      ("relay", specification.relay.toJson),
      ("watchtower", specification.watchtower.toJson),
      ("doki", specification.doki.toJson),
      ("brent", specification.brent.toJson)]

def decode : Decoder Specification := fun document => do
  let members ← Decoder.members fieldNames document
  let service := Decoder.defaulted ServiceOverrides.decode .none members
  let secure ← Decoder.defaulted .bool false members "secure"
  let configLabel ← Decoder.defaulted .string "" members "springCloudConfigLabel"
  let activeProfiles ← Decoder.defaulted .string "" members "springProfilesActive"
  let deploymentType ← Decoder.defaulted .string "" members "deploymentType"
  let dockerRepo ← Decoder.defaulted .string "" members "dockerRepo"
  let release ← Decoder.defaulted .string "" members "release"
  let configurator ←
    Decoder.defaulted ConfiguratorOverrides.decode .none members "configurator"
  let conductor ← service "conductor"
  let apollo ← service "apollo"
  let galileo ← service "galileo"
  let talledega ← service "talledega"
  let daytona ← service "daytona"
  let nimrod ← Decoder.defaulted InterfaceOverrides.decode .none members "nimrod"
  let ishtar ← service "ishtar"
  let relay ← service "relay"
  let watchtower ← service "watchtower"
  let doki ← service "doki"
  let brent ← service "brent"
  return { secure, configLabel, activeProfiles, deploymentType, dockerRepo, release,
           configurator, conductor, apollo, galileo, talledega, daytona, nimrod,
           ishtar, relay, watchtower, doki, brent }

end Specification

namespace Status

/-- The wire names of the fields, in their order. -/
def fieldNames : List String := ["ishtarHealthy"]

def toJson (status : Status) : Json :=
  Json.ofFields [("ishtarHealthy", .bool status.isHealthy)]

def decode : Decoder Status := fun document => do
  let members ← Decoder.members fieldNames document
  let isHealthy ← Decoder.defaulted .bool false members "ishtarHealthy"
  return { isHealthy }

end Status

end LifecycleOperator
