import LifecycleOperator.Configuration.Data
import LifecycleOperator.Resource.Pod

/-!
# Resources of a service

The objects that are created for a service and for the configurator.  They carry
neither name nor namespace nor owner; whoever creates them adds these.
-/

namespace LifecycleOperator
namespace Resource

def metadataWith (name : String) (value : Json) : Metadata :=
  { Metadata.empty with others := [(name, value)] }

def configMap (data : OrderedMap String) : Object .configMap :=
  ⟨.empty, [("data", Json.ofTexts data)]⟩

def deployment (installation : Installation) (service : ServiceProfile) :
    Object .deployment :=
  ⟨metadataWith "labels" (appLabels service.name),
    [("spec", Json.ofFields
      [("replicas", Json.ofInt service.sizing.replicas),
        ("selector", Json.ofFields [("matchLabels", appLabels service.name)]),
        ("template", (service.pod installation).toJson)])]⟩

def statefulSet (installation : Installation) (service : ServiceProfile) :
    Object .statefulSet :=
  ⟨metadataWith "labels" (appLabels service.name),
    [("spec", Json.ofFields
      [("replicas", Json.ofInt service.sizing.replicas),
        ("serviceName", .string service.name),
        ("selector", Json.ofFields [("matchLabels", appLabels service.name)]),
        ("template", (service.pod installation).toJson)])]⟩

/-- The Service in front of the pods of a service. -/
def service (service : ServiceProfile) : Object .service :=
  ⟨.empty,
    [("spec", Json.ofFields
      [("type", .string "NodePort"),
        ("ports", .array
          [Json.ofFields
            [("name", .string "http"), ("protocol", .string "TCP"),
              ("port", Json.ofInt service.portNumber),
              ("targetPort", Json.ofInt service.portNumber)]]),
        ("selector", appLabels service.name)])]⟩

def ingressAnnotations (secure : Bool) (service : String) : Json :=
  Json.ofFields <|
    [("ingress.kubernetes.io/rewrite-target", .string "/"),
      ("nginx.org/websocket-services", .string service)] ++
    (if secure then
      [("nginx.ingress.kubernetes.io/backend-protocol", .string "HTTPS"),
        ("ingress.kubernetes.io/secure-backends", .string "true")]
    else [])

/-- The Ingress in front of a service. -/
def ingress
    (installation : Installation) (service : ServiceProfile) (profile : IngressProfile) :
    Object .ingress :=
  ⟨metadataWith "annotations"
      (ingressAnnotations installation.specification.secure service.name),
    [("spec", Json.ofFields
      [("tls", .array
          [Json.ofFields
            [("hosts", .array [.string profile.host]),
              ("secretName", .string profile.tlsSecret)]]),
        ("rules", .array
          [Json.ofFields
            [("host", .string profile.host),
              ("http", Json.ofFields
                [("paths", .array
                  [Json.ofFields
                    [("path", .string "/"), ("pathType", .string "Prefix"),
                      ("backend", Json.ofFields
                        [("service", Json.ofFields
                          [("name", .string service.name),
                            ("port", Json.ofFields
                              [("number", Json.ofInt service.portNumber)])])])]])])]])])]⟩

/-- The Job that runs the configurator once. -/
def configuratorJob (installation : Installation) (configurator : ServiceProfile) :
    Object .job :=
  ⟨metadataWith "labels" (appLabels configurator.name),
    [("spec", Json.ofFields
      [("template", (configurator.configuratorPod installation).toJson)])]⟩

/--
The object of a kind that a service needs, if it needs one; the configurator is
the only service that needs a Job.
-/
def ofKind? (installation : Installation) (profile : ServiceProfile) :
    (kind : Kind) → Option (Object kind)
  | .deployment => some (deployment installation profile)
  | .statefulSet => some (statefulSet installation profile)
  | .service => some (service profile)
  | .job => some (configuratorJob installation profile)
  | .ingress => profile.ingress.map (ingress installation profile)
  | .configMap =>
      some (configMap (Configuration.serviceData installation.specification profile))
  | .installation | .secret => none

end Resource
end LifecycleOperator
