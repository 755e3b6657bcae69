import LifecycleOperator.Release.Profile

/-!
# Pods

The pod that runs a service: one container with its environment, and volumes
that are mounted into it.  Volumes and mounts are kept in pairs, so that every
volume is mounted once and every mount has a volume.
-/

namespace LifecycleOperator

/-- What a volume holds. -/
inductive VolumeSource
  | secret (name : String)
  | configMap (name : String)
  | scratch
  deriving DecidableEq, Repr, Inhabited

/-- A volume and the path at which it is mounted. -/
structure MountedVolume where
  name : String
  source : VolumeSource
  path : String
  deriving DecidableEq, Repr, Inhabited

namespace MountedVolume

def volume (mounted : MountedVolume) : Json :=
  let source : String × Json :=
    match mounted.source with
    | .secret name => ("secret", Json.ofFields [("secretName", .string name)])
    | .configMap name => ("configMap", Json.ofFields [("name", .string name)])
    | .scratch => ("emptyDir", .object [])
  Json.ofFields [("name", .string mounted.name), source]

def mount (mounted : MountedVolume) : Json :=
  Json.ofFields [("name", .string mounted.name), ("mountPath", .string mounted.path)]

/-- A secret under its own name. -/
def ofSecret (name path : String) : MountedVolume := ⟨name, .secret name, path⟩

/-- A writable area, and next to it the read-only content of a ConfigMap. -/
def unpacked (name configMap : String) : List MountedVolume :=
  [⟨name, .scratch, "/var/lm/" ++ name⟩,
    ⟨name ++ "binary", .configMap configMap, "/var/lm/" ++ name ++ "binary"⟩]

end MountedVolume

/-- Where the value of an environment variable comes from. -/
inductive EnvironmentSource
  | text (value : String)
  | field (path : String)
  | secretKey (secret key : String)
  deriving DecidableEq, Repr, Inhabited

/-- An environment variable of a container. -/
structure EnvironmentVariable where
  name : String
  source : EnvironmentSource
  deriving DecidableEq, Repr, Inhabited

namespace EnvironmentVariable

def toJson (entry : EnvironmentVariable) : Json :=
  let derived (source : String) (fields : List (String × Json)) : String × Json :=
    ("valueFrom", Json.ofFields [(source, Json.ofFields fields)])
  let value : String × Json :=
    match entry.source with
    | .text value => ("value", .string value)
    | .field path => derived "fieldRef" [("fieldPath", .string path)]
    | .secretKey secret key =>
        derived "secretKeyRef" [("name", .string secret), ("key", .string key)]
  Json.ofFields [("name", .string entry.name), value]

end EnvironmentVariable

/-- A pod with one container. -/
structure Pod where
  /-- The name in the template of the pod. -/
  name : String
  /-- The label that selects the pod, which is the name of the container as well. -/
  app : String
  image : String
  /-- When the image is pulled, if that is said. -/
  pullPolicy : Option String
  /-- The port that the container listens on, if any. -/
  port : Option Int
  environmentMap : String
  environment : List EnvironmentVariable
  cpu : String
  memory : String
  volumes : List MountedVolume
  /-- When the container is restarted, if that is said. -/
  restartPolicy : Option String
  deriving DecidableEq, Repr, Inhabited

/-- The labels of everything that belongs to a service. -/
def appLabels (app : String) : Json :=
  Json.ofFields [("app", .string app)]

namespace Pod

def container (pod : Pod) : Json :=
  let optional (name : String) (value : Option Json) : List (String × Json) :=
    (value.map fun value => (name, value)).toList
  Json.ofFields <|
    [("name", .string pod.app), ("image", .string pod.image),
      ("envFrom", .array
        [Json.ofFields
          [("configMapRef", Json.ofFields [("name", .string pod.environmentMap)])]]),
      ("env", .array (pod.environment.map EnvironmentVariable.toJson)),
      ("resources", Json.ofFields
        [("requests", Json.ofFields
          [("cpu", .string pod.cpu), ("memory", .string pod.memory)])]),
      ("volumeMounts", .array (pod.volumes.map MountedVolume.mount))] ++
    optional "imagePullPolicy" (pod.pullPolicy.map .string) ++
    optional "ports" (pod.port.map fun port => .array
      [Json.ofFields
        [("name", .string "http"), ("protocol", .string "TCP"),
          ("containerPort", Json.ofInt port)]])

def toJson (pod : Pod) : Json :=
  Json.ofFields
    [("metadata", Json.ofFields
        [("name", .string pod.name), ("labels", appLabels pod.app)]),
      ("spec", Json.ofFields <|
        [("containers", .array [pod.container]),
          ("volumes", .array (pod.volumes.map MountedVolume.volume))] ++
        (pod.restartPolicy.map fun policy => ("restartPolicy", .string policy)).toList)]

end Pod

namespace ServiceProfile

def volumes (service : ServiceProfile) (secure : Bool) : List MountedVolume :=
  (if secure then
    [.ofSecret "lm-certs" "/var/lm/certs", .ofSecret "lm-keystore" "/var/lm/keystore"] ++
    (if service.name = "ishtar" then
      [.ofSecret "lm-client-credentials" "/var/lm/bootstrap"] else [])
  else []) ++
  (if service.name = "conductor" then
    [.ofSecret "vault-cert" "/var/lm/vault/certs"] else []) ++
  (match service.extension with
  | some (.themes themes locales) =>
      (if themes.isEmpty then [] else MountedVolume.unpacked "themes" themes) ++
      (if locales.isEmpty then [] else MountedVolume.unpacked "locales" locales)
  | _ => [])

def environment (service : ServiceProfile) (secure : Bool) : List EnvironmentVariable :=
  [⟨"INSTANCE_ID", .field "metadata.name"⟩, ⟨"SERVER_ID", .field "spec.nodeName"⟩] ++
  (if service.name = "conductor" then
    [⟨"eureka_instance_hostname", .text "$\x7bHOSTNAME\x7d.conductor"⟩,
      ⟨"numReplicas", .text (toString service.sizing.replicas)⟩,
      ⟨"secure", .text (if secure then "true" else "false")⟩,
      ⟨"SPRING_CLOUD_CONFIG_SERVER_VAULT_TOKEN", .secretKey "vault-token" "lmToken"⟩,
      ⟨"SPRING_CLOUD_VAULT_TOKEN", .secretKey "vault-token" "lmToken"⟩]
  else [])

def pod (service : ServiceProfile) (installation : Installation) : Pod where
  name := installation.anyName ++ "-" ++ service.name
  app := service.name
  image := service.imageReference installation.specification.dockerRepo
  pullPolicy := none
  port := some service.portNumber
  environmentMap := installation.serviceMapName service.name
  environment := service.environment installation.specification.secure
  cpu := service.sizing.cpu
  memory := service.sizing.memory
  volumes := service.volumes installation.specification.secure
  restartPolicy := none

/-- The pod of the configurator, which is fed by both bootstrap ConfigMaps. -/
def configuratorPod (configurator : ServiceProfile) (installation : Installation) : Pod where
  name := installation.jobName
  app := configurator.name
  image := configurator.imageReference installation.specification.dockerRepo
  pullPolicy := some "Always"
  port := none
  environmentMap := installation.configuratorMapName
  environment :=
    [⟨"NAMESPACE", .field "metadata.namespace"⟩,
      ⟨"VAULT_TOKEN", .secretKey "vault-token" "lmToken"⟩]
  cpu := configurator.sizing.cpu
  memory := configurator.sizing.memory
  volumes :=
    [⟨"lm-configurator", .configMap installation.configuratorMapName,
        "/var/lm-configurator"⟩,
      ⟨"lm-config-import", .configMap installation.configImportMapName,
        "/var/config-import"⟩]
  restartPolicy := some "Never"

end ServiceProfile

end LifecycleOperator
