import LifecycleOperator.Json.Member
import LifecycleOperator.Resource.Build
import LifecycleOperator.Pass.Ensure

/-!
# ConfigMaps that a workload refers to

A workload refers to ConfigMaps by name, deep in the template of its pods: where its
container takes its environment from, and where its volumes are filled from.  The
references are read off the objects as they are written, so that what is said about them
is said about the objects in a store.

Only the specification of a workload counts, and only the data of a ConfigMap; whatever
else becomes of them, the references and what they lead to stay the same.
-/

namespace LifecycleOperator

/-- A member of an object that is written down is the last one of its name. -/
theorem Json.Member.get_ofFields (fields : List (String × Json)) (name : String) :
    get (Json.ofFields fields) name = (fields.reverse.lookup name).getD .null := by
  rw [get, Json.ofFields, Json.get?, Entries.get?_ofPairs]

/-! ## Templates of pods -/

namespace Pod

open Json.Member (get list text? get_ofFields)

/-- The ConfigMaps that the environment of a container is taken from. -/
def environmentMapsIn (container : Json) : List String :=
  (list container "envFrom").filterMap fun source => text? (get source "configMapRef") "name"

/-- The ConfigMaps that the environments of the containers of a pod are taken from. -/
def environmentMaps (template : Json) : List String :=
  (list (get template "spec") "containers").flatMap environmentMapsIn

/-- The ConfigMap that a volume is filled from, if it is. -/
def volumeMap? (volume : Json) : Option String :=
  text? (get volume "configMap") "name"

/-- The ConfigMaps that the volumes of a pod are filled from. -/
def volumeMaps (template : Json) : List String :=
  (list (get template "spec") "volumes").filterMap volumeMap?

variable (pod : Pod)

/-- A container takes its environment from one ConfigMap. -/
theorem environmentMapsIn_container :
    environmentMapsIn pod.container = [pod.environmentMap] := by
  unfold environmentMapsIn container
  cases pod.pullPolicy <;> cases pod.port <;>
    simp [list, text?, get_ofFields, List.lookup_cons, Json.items?, Json.string?]

/-- There is one container in a pod. -/
theorem containers_toJson :
    list (get pod.toJson "spec") "containers" = [pod.container] := by
  unfold toJson
  cases pod.restartPolicy <;> simp [list, get_ofFields, List.lookup_cons, Json.items?]

theorem environmentMaps_toJson : environmentMaps pod.toJson = [pod.environmentMap] := by
  simp [environmentMaps, containers_toJson, environmentMapsIn_container]

theorem volumes_toJson :
    list (get pod.toJson "spec") "volumes" = pod.volumes.map MountedVolume.volume := by
  unfold toJson
  cases pod.restartPolicy <;> simp [list, get_ofFields, List.lookup_cons, Json.items?]

/-- The volumes of the configurator are filled from both of its ConfigMaps. -/
theorem volumeMaps_configuratorPod (installation : Installation)
    (configurator : ServiceProfile) :
    volumeMaps (configurator.configuratorPod installation).toJson =
      [installation.configuratorMapName, installation.configImportMapName] := by
  rw [volumeMaps, volumes_toJson]
  simp [ServiceProfile.configuratorPod, volumeMap?, MountedVolume.volume, text?, get_ofFields,
    Json.string?]

end Pod

/-! ## Workloads -/

/-- Pods are run for an object of the kind. -/
def Kind.isWorkload : Kind → Bool
  | .job | .deployment | .statefulSet => true
  | _ => false

/-- No pods are run for installations and secrets. -/
theorem Kind.ne_of_isWorkload
    {kind : Kind}
    (isWorkload : kind.isWorkload = true) :
    kind ≠ .installation ∧ kind ≠ .secret := by
  cases kind <;> simp [Kind.isWorkload] at isWorkload ⊢

namespace Object

open Json.Member (get)

/-- The template of the pods that are run for a workload. -/
def template {kind : Kind} (workload : Object kind) : Json :=
  get ((workload.bodyField "spec").getD .null) "template"

/--
The ConfigMaps of the operator that an object refers to: those that the environments of its
containers are taken from and, for a Job, those that its volumes are filled from.  What else
the volumes of a service are filled from is brought along by the user.
-/
def references : {kind : Kind} → Object kind → List String
  | .job, workload => Pod.environmentMaps workload.template ++ Pod.volumeMaps workload.template
  | .deployment, workload | .statefulSet, workload => Pod.environmentMaps workload.template
  | _, _ => []

/-- The references of a workload stand in its specification. -/
theorem references_congr {kind : Kind} {workload other : Object kind}
    (same : workload.bodyField "spec" = other.bodyField "spec") :
    workload.references = other.references := by
  cases kind <;> simp only [references, template, same]

/-- A workload refers to the same wherever it is put. -/
@[simp]
theorem references_placedFor {kind : Kind} (workload : Object kind) (owner : Installation)
    (name : String) :
    (workload.placedFor owner name).references = workload.references :=
  references_congr rfl

end Object

namespace Resource

open Json.Member (get get_ofFields)

variable (installation : Installation) (profile : ServiceProfile)

theorem template_deployment :
    (deployment installation profile).template = (profile.pod installation).toJson := by
  simp [Object.template, Object.bodyField, Object.bodyFields, deployment, get_ofFields]

theorem template_statefulSet :
    (statefulSet installation profile).template = (profile.pod installation).toJson := by
  simp [Object.template, Object.bodyField, Object.bodyFields, statefulSet, get_ofFields]

theorem template_configuratorJob :
    (configuratorJob installation profile).template =
      (profile.configuratorPod installation).toJson := by
  simp [Object.template, Object.bodyField, Object.bodyFields, configuratorJob, get_ofFields]

theorem references_deployment :
    (deployment installation profile).references =
      [installation.serviceMapName profile.name] := by
  rw [Object.references, template_deployment, Pod.environmentMaps_toJson]
  rfl

theorem references_statefulSet :
    (statefulSet installation profile).references =
      [installation.serviceMapName profile.name] := by
  rw [Object.references, template_statefulSet, Pod.environmentMaps_toJson]
  rfl

theorem references_configuratorJob :
    (configuratorJob installation profile).references =
      [installation.configuratorMapName, installation.configuratorMapName,
        installation.configImportMapName] := by
  rw [Object.references, template_configuratorJob, Pod.environmentMaps_toJson,
    Pod.volumeMaps_configuratorPod]
  rfl

/-- The data of a ConfigMap is what it was made of. -/
theorem bodyField_data_configMap (data : OrderedMap String) :
    (configMap data).bodyField "data" = some (Json.ofTexts data) := rfl

end Resource
end LifecycleOperator
