import LifecycleOperator.Json.Member
import LifecycleOperator.Json.Printer
import LifecycleOperator.Release.Profile

/-!
# Profiles as documents

Profiles can be written down and read again.  Whatever a document leaves out is
empty, and a service about whose workload nothing is said is run by a
Deployment.
-/

namespace LifecycleOperator

open Json.Member

namespace Workload

/-- The workload of a word; none of them needs to be named for the usual one. -/
def ofWord? (word : String) : Option Workload :=
  if word.isEmpty then some .deployment else ofName? word

end Workload

namespace IngressProfile

def toJson (ingress : IngressProfile) : Json :=
  Json.ofFields
    [("name", .string ingress.name), ("host", .string ingress.host),
      ("tls_secret", .string ingress.tlsSecret)]

/-- Read an ingress; what is no object is none. -/
def ofJson? (document : Json) : Option IngressProfile :=
  document.fields?.map fun _ =>
    ⟨text document "name", text document "host", text document "tls_secret"⟩

end IngressProfile

namespace Extension

def toJson : Extension → Json
  | .themes themesMap localesMap =>
      Json.ofFields [("Themes", Json.ofFields
        [("themes_config_map", .string themesMap),
          ("locales_config_map", .string localesMap)])]
  | .bootstrap run => Json.ofFields [("Bootstrap", Json.ofFields [("run", .bool run)])]

/-- Read an extension, if there is one. -/
def ofJson? (document : Json) : Option Extension :=
  match document.get? "Themes", document.get? "Bootstrap" with
  | some maps, _ =>
      some (.themes (text maps "themes_config_map") (text maps "locales_config_map"))
  | none, some configurator => some (.bootstrap (flag configurator "run"))
  | none, none => none

end Extension

namespace ServiceProfile

def toJson (service : ServiceProfile) : Json :=
  Json.ofFields
    [("name", .string service.name), ("image", .string service.image),
      ("version", .string service.version), ("port", Json.ofOption Json.ofInt service.port),
      ("workload", .string service.workload.name),
      ("ingress", Json.ofOption IngressProfile.toJson service.ingress),
      ("replicas", Json.ofInt service.sizing.replicas),
      ("cpu_request", .string service.sizing.cpu),
      ("memory_request", .string service.sizing.memory),
      ("heap", .string service.sizing.heap),
      ("extension", Json.ofOption Extension.toJson service.extension)]

/-- Read a profile; there is none with a workload that is not known. -/
def ofJson? (document : Json) : Option ServiceProfile :=
  (Workload.ofWord? (text document "workload")).map fun workload =>
    { name := text document "name"
      image := text document "image"
      version := text document "version"
      port := (get document "port").integer?
      workload
      ingress := IngressProfile.ofJson? (get document "ingress")
      sizing :=
        ⟨int document "replicas" 0, text document "cpu_request",
          text document "memory_request", text document "heap"⟩
      extension := Extension.ofJson? (get document "extension") }

end ServiceProfile

namespace DeploymentProfile

def toJson (profile : DeploymentProfile) : Json :=
  Json.ofFields
    [("class", .string profile.sizingClass.name),
      ("services", .array (profile.services.map ServiceProfile.toJson))]

end DeploymentProfile

end LifecycleOperator
