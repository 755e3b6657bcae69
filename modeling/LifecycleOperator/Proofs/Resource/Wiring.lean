import LifecycleOperator.Proofs.Resource.Reference
import Mathlib.Data.List.Nodup

/-!
# How the resources of a service fit together

A workload, the Service in front of it and the Ingress in front of that find each other by
labels, names and ports, which each of them states on its own.  What they state is read off
the objects as they are written.

The volumes of a pod are chosen among a few whose names and paths are fixed, so that they
never collide, whatever the ConfigMaps are called that the user brings along.
-/

namespace LifecycleOperator

open Json.Member (get list text? get_ofFields)

/-! ## What is written in a template -/

namespace Pod

/-- The labels of the pods. -/
def labels (template : Json) : Json := get (get template "metadata") "labels"

/-- A member of every item in a list of the containers of a pod. -/
def ofContainers (template : Json) (items member : String) : List Json :=
  (list (get template "spec") "containers").flatMap fun container =>
    (list container items).map fun item => get item member

def containerPorts (template : Json) : List Json :=
  ofContainers template "ports" "containerPort"

def mountNames (template : Json) : List Json := ofContainers template "volumeMounts" "name"

def mountPaths (template : Json) : List Json :=
  ofContainers template "volumeMounts" "mountPath"

/-- The names of the variables that are set one by one. -/
def variableNames (template : Json) : List Json := ofContainers template "env" "name"

def volumeNames (template : Json) : List Json :=
  (list (get template "spec") "volumes").map fun volume => get volume "name"

/-- What a pod needs to be accepted: nothing is named twice and every mount has its volume. -/
structure IsConsistent (template : Json) : Prop where
  volumes : (volumeNames template).Nodup
  mounts : mountNames template = volumeNames template
  paths : (mountPaths template).Nodup
  environment : (variableNames template).Nodup

variable (pod : Pod)

theorem labels_toJson : labels pod.toJson = appLabels pod.app := by
  unfold toJson labels
  simp [get_ofFields, List.lookup_cons]

/-- There is one container in a pod, of which everything is read. -/
theorem ofContainers_toJson (items member : String) :
    ofContainers pod.toJson items member =
      (list pod.container items).map fun item => get item member := by
  simp [ofContainers, containers_toJson]

theorem containerPorts_toJson :
    containerPorts pod.toJson = (pod.port.map Json.ofInt).toList := by
  rw [containerPorts, ofContainers_toJson]
  unfold container
  cases pod.pullPolicy <;> cases pod.port <;>
    simp [list, get_ofFields, List.lookup_cons, Json.items?]

theorem volumeMounts_container :
    list pod.container "volumeMounts" = pod.volumes.map MountedVolume.mount := by
  unfold container
  cases pod.pullPolicy <;> cases pod.port <;>
    simp [list, get_ofFields, List.lookup_cons, Json.items?]

theorem env_container :
    list pod.container "env" = pod.environment.map EnvironmentVariable.toJson := by
  unfold container
  cases pod.pullPolicy <;> cases pod.port <;>
    simp [list, get_ofFields, List.lookup_cons, Json.items?]

/-- A volume and its mount have the same name. -/
theorem get_name_volume (mounted : MountedVolume) :
    get mounted.volume "name" = .string mounted.name := by
  unfold MountedVolume.volume
  cases mounted.source <;> simp [get_ofFields, List.lookup_cons]

theorem get_name_variable (entry : EnvironmentVariable) :
    get entry.toJson "name" = .string entry.name := by
  unfold EnvironmentVariable.toJson
  cases entry.source <;> simp [get_ofFields, List.lookup_cons]

theorem volumeNames_toJson :
    volumeNames pod.toJson = (pod.volumes.map MountedVolume.name).map .string := by
  simp [volumeNames, volumes_toJson, get_name_volume]

theorem mountNames_toJson :
    mountNames pod.toJson = (pod.volumes.map MountedVolume.name).map .string := by
  rw [mountNames, ofContainers_toJson, volumeMounts_container]
  simp [MountedVolume.mount, get_ofFields, List.lookup_cons]

theorem mountPaths_toJson :
    mountPaths pod.toJson = (pod.volumes.map MountedVolume.path).map .string := by
  rw [mountPaths, ofContainers_toJson, volumeMounts_container]
  simp [MountedVolume.mount, get_ofFields]

theorem variableNames_toJson :
    variableNames pod.toJson =
      (pod.environment.map EnvironmentVariable.name).map .string := by
  rw [variableNames, ofContainers_toJson, env_container]
  simp [get_name_variable]

/-- A pod is consistent if neither volumes nor paths nor variables are named twice. -/
theorem isConsistent_toJson
    (volumes : (pod.volumes.map MountedVolume.name).Nodup)
    (paths : (pod.volumes.map MountedVolume.path).Nodup)
    (environment : (pod.environment.map EnvironmentVariable.name).Nodup) :
    IsConsistent pod.toJson := by
  have injective : Function.Injective Json.string := fun _ _ same => Json.string.inj same
  constructor
  · rw [volumeNames_toJson]
    exact volumes.map injective
  · rw [mountNames_toJson, volumeNames_toJson]
  · rw [mountPaths_toJson]
    exact paths.map injective
  · rw [variableNames_toJson]
    exact environment.map injective

end Pod

/-! ## The pod of a service -/

namespace ServiceProfile

variable (service : ServiceProfile) (secure : Bool)

/-- The names and the paths of all volumes that a service may have, in their order. -/
def volumePlaces : List (String × String) :=
  [("lm-certs", "/var/lm/certs"), ("lm-keystore", "/var/lm/keystore"),
    ("lm-client-credentials", "/var/lm/bootstrap"), ("vault-cert", "/var/lm/vault/certs"),
    ("themes", "/var/lm/themes"), ("themesbinary", "/var/lm/themesbinary"),
    ("locales", "/var/lm/locales"), ("localesbinary", "/var/lm/localesbinary")]

/-- The volumes of a service are among those that it may have, each once. -/
theorem places_volumes_sublist :
    ((service.volumes secure).map fun mounted => (mounted.name, mounted.path)).Sublist
      volumePlaces := by
  rw [volumes, List.map_append, List.map_append]
  change List.Sublist _ (volumePlaces.take 3 ++ (volumePlaces.drop 3).take 1 ++
    volumePlaces.drop 4)
  refine (List.Sublist.append ?certificates ?vault).append ?overlays
  case certificates =>
    split_ifs <;> decide
  case vault =>
    split_ifs <;> decide
  case overlays =>
    cases service.extension with
    | none => exact List.nil_sublist _
    | some extension =>
        cases extension with
        | bootstrap run => exact List.nil_sublist _
        | themes themes locales =>
            dsimp only
            split_ifs <;> simp [MountedVolume.unpacked, volumePlaces]

theorem nodup_names_volumes : ((service.volumes secure).map MountedVolume.name).Nodup := by
  have sublist := (service.places_volumes_sublist secure).map Prod.fst
  rw [List.map_map] at sublist
  exact sublist.nodup (by decide)

theorem nodup_paths_volumes : ((service.volumes secure).map MountedVolume.path).Nodup := by
  have sublist := (service.places_volumes_sublist secure).map Prod.snd
  rw [List.map_map] at sublist
  exact sublist.nodup (by decide)

theorem nodup_names_environment :
    ((service.environment secure).map EnvironmentVariable.name).Nodup := by
  unfold environment
  split_ifs <;> simp

/-- The pod of a service is consistent, whatever the service and its themes are called. -/
theorem isConsistent_pod (installation : Installation) :
    Pod.IsConsistent (service.pod installation).toJson :=
  Pod.isConsistent_toJson (service.pod installation) (service.nodup_names_volumes _)
    (service.nodup_paths_volumes _) (service.nodup_names_environment _)

end ServiceProfile

/-! ## Workloads, Services and Ingresses -/

namespace Object

/-- The specification of an object, apart from its metadata. -/
def specOf {kind : Kind} (object : Object kind) : Json := (object.bodyField "spec").getD .null

/-- The labels by which a workload knows its pods. -/
def podSelector {kind : Kind} (workload : Object kind) : Json :=
  get (get workload.specOf "selector") "matchLabels"

/-- The Service that gives the pods of a workload their names. -/
def governingService {kind : Kind} (workload : Object kind) : Json :=
  get workload.specOf "serviceName"

/-- The labels of the pods that a Service leads to. -/
def selector (service : Object .service) : Json := get service.specOf "selector"

/-- The ports of a Service, each with the port that it leads to. -/
def ports (service : Object .service) : List (Json × Json) :=
  (list service.specOf "ports").map fun port => (get port "port", get port "targetPort")

/-- The names and the ports of the Services that an Ingress leads to. -/
def backends (ingress : Object .ingress) : List (Json × Json) :=
  (list ingress.specOf "rules").flatMap fun rule =>
    (list (get rule "http") "paths").map fun path =>
      let service := get (get path "backend") "service"
      (get service "name", get (get service "port") "number")

end Object

namespace ServiceProfile

variable (installation : Installation) (service : ServiceProfile)

/-- A workload that fits the other resources of a service. -/
structure FitsWorkload {kind : Kind} (workload : Object kind) : Prop where
  labels : Pod.labels workload.template = appLabels service.name
  /-- The workload knows its pods. -/
  selects : workload.podSelector = Pod.labels workload.template
  /-- The Service leads to the pods. -/
  leads : (Resource.service service).selector = Pod.labels workload.template
  port : Pod.containerPorts workload.template = [Json.ofInt service.portNumber]
  environment : Pod.environmentMaps workload.template =
    [installation.serviceMapName service.name]
  consistent : Pod.IsConsistent workload.template

/-- Every workload around the pod of the service that selects by the label fits. -/
theorem fitsWorkload_of_template {kind : Kind} {workload : Object kind}
    (template : workload.template = (service.pod installation).toJson)
    (selects : workload.podSelector = appLabels service.name) :
    service.FitsWorkload installation workload := by
  have labels : Pod.labels workload.template = appLabels service.name := by
    rw [template, Pod.labels_toJson]
    rfl
  have leads : (Resource.service service).selector = appLabels service.name := by
    simp [Object.selector, Object.specOf, Object.bodyField, Object.bodyFields,
      Resource.service, get_ofFields]
  constructor
  · exact labels
  · rw [selects, labels]
  · rw [leads, labels]
  · rw [template, Pod.containerPorts_toJson]
    rfl
  · rw [template, Pod.environmentMaps_toJson]
    rfl
  · rw [template]
    exact service.isConsistent_pod installation

end ServiceProfile

namespace Resource

variable (installation : Installation) (service : ServiceProfile)

theorem fitsWorkload_deployment :
    service.FitsWorkload installation (deployment installation service) := by
  apply service.fitsWorkload_of_template installation (template_deployment installation service)
  simp [Object.podSelector, Object.specOf, Object.bodyField, Object.bodyFields, deployment,
    get_ofFields, List.lookup_cons]

theorem fitsWorkload_statefulSet :
    service.FitsWorkload installation (statefulSet installation service) := by
  apply service.fitsWorkload_of_template installation (template_statefulSet installation service)
  simp [Object.podSelector, Object.specOf, Object.bodyField, Object.bodyFields, statefulSet,
    get_ofFields, List.lookup_cons]

theorem governingService_statefulSet :
    (statefulSet installation service).governingService = .string service.name := by
  simp [Object.governingService, Object.specOf, Object.bodyField, Object.bodyFields,
    statefulSet, get_ofFields, List.lookup_cons]

theorem ports_service :
    (Resource.service service).ports =
      [(Json.ofInt service.portNumber, Json.ofInt service.portNumber)] := by
  simp [Object.ports, Object.specOf, Object.bodyField, Object.bodyFields, Resource.service,
    get_ofFields, List.lookup_cons, list, Json.items?]

theorem backends_ingress (profile : IngressProfile) :
    (ingress installation service profile).backends =
      [(.string service.name, Json.ofInt service.portNumber)] := by
  simp [Object.backends, Object.specOf, Object.bodyField, Object.bodyFields, ingress,
    get_ofFields, List.lookup_cons, list, Json.items?]

end Resource
end LifecycleOperator
