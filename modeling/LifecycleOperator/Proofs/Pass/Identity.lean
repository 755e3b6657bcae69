import LifecycleOperator.Release.Profile
import LifecycleOperator.Store.Basic
import Mathlib.Data.List.Nodup

/-!
# Identities of what an installation owns

Every object that is created for an installation is known beforehand by its kind
and by a word: the name of a service, of the configurator, or of an ingress.  The
ConfigMaps and the Job carry the name of the installation in front of the word, all
other objects are named by the word itself.  The names never clash, because kind
and word are read off the key of an object.
-/

namespace LifecycleOperator

/-- What stands for an object of an installation: its kind and a word. -/
structure Slot where
  kind : Kind
  /-- The word that the object is named by. -/
  word : String
  deriving DecidableEq

namespace Installation

/-- The installation `demo` in the namespace `lm`, which may have its configurator run. -/
def demo (run : Bool) : Installation :=
  ⟨{ Metadata.empty with
      name := some "demo"
      namespaceName := some "lm"
      uid := some "alm-uid" },
    ⟨{ Specification.empty with configurator := ⟨"", run⟩ }, none⟩⟩

/-- What a secret of an installation is found by. -/
abbrev secretKey (installation : Installation) (name : String) : Key :=
  ⟨.secret, installation.namespaceName, name⟩

/-- The name of the object that a slot stands for. -/
def slotName (installation : Installation) (slot : Slot) : String :=
  match slot.kind with
  | .configMap => installation.serviceMapName slot.word
  | .job => installation.anyName ++ "-" ++ slot.word
  | _ => slot.word

/-- What the object that a slot stands for is found by. -/
def slotKey (installation : Installation) (slot : Slot) : Key :=
  ⟨slot.kind, installation.namespaceName, installation.slotName slot⟩

/-- The key of an object tells its slot. -/
theorem slotKey_injective (installation : Installation) :
    Function.Injective installation.slotKey := by
  rintro ⟨kind, word⟩ ⟨otherKind, otherWord⟩ equal
  simp only [slotKey, Key.mk.injEq, true_and] at equal
  obtain ⟨rfl, names⟩ := equal
  cases kind <;> simp_all [slotName, serviceMapName, String.append_assoc]

end Installation

namespace ServiceBase

/-- The services that are rolled out, in their order. -/
def rolledOut : List ServiceBase := all.tail

/-- The services are rolled out in the order that is laid down. -/
theorem map_name_rolledOut : rolledOut.map ServiceBase.name = rolloutOrder := rfl

/-- A service is known by its name. -/
theorem find?_name (base : ServiceBase) (known : base ∈ all) :
    all.find? (fun other => other.name == base.name) = some base := by
  revert base
  decide

/-- Every service that is rolled out keeps running. -/
theorem workload_ne_job (base : ServiceBase) (member : base ∈ rolledOut) :
    base.workload ≠ .job := by
  revert base
  decide

/-- The slot of the workload of a service that keeps running. -/
def workloadSlots (base : ServiceBase) : List Slot :=
  match base.workload with
  | .deployment => [⟨.deployment, base.name⟩]
  | .statefulSet => [⟨.statefulSet, base.name⟩]
  | .job => []

/-- The slot of the ingress of a service, if the service is exposed. -/
def ingressSlots (base : ServiceBase) : List Slot :=
  match base.ingress with
  | some profile => [⟨.ingress, profile.name⟩]
  | none => []

/-- The slots of a service: its ConfigMap, its workload, its Ingress and its Service. -/
def slots (base : ServiceBase) : List Slot :=
  ⟨.configMap, base.name⟩ :: base.workloadSlots ++ base.ingressSlots ++
    [⟨.service, base.name⟩]

end ServiceBase

namespace Slot

/-- The slots of all services that are rolled out, in their order. -/
def rollout : List Slot := ServiceBase.rolledOut.flatMap ServiceBase.slots

/-- The slots of what the configurator is set up with, and of its Job. -/
def bootstrap : List Slot :=
  [⟨.configMap, "lm-configurator"⟩, ⟨.configMap, "lm-config-import"⟩,
    ⟨.job, "lm-configurator"⟩]

/-- The slot of the Deployment that marks a completed rollout. -/
def marker : Slot := ⟨.deployment, markerDeployment⟩

/-- No two objects of an installation have the same slot. -/
theorem nodup_bootstrap_append_rollout : (bootstrap ++ rollout).Nodup := by
  decide

/-- The slots that are rolled out before the marker. -/
def beforeMarker : List Slot := rollout.takeWhile (· ≠ marker)

/-- The slots that are rolled out behind the marker. -/
def behindMarker : List Slot := (rollout.dropWhile (· ≠ marker)).tail

/-- The marker stands in the midst of what is rolled out. -/
theorem rollout_eq_append : rollout = beforeMarker ++ marker :: behindMarker := by
  decide

/-- Neither installations nor secrets are rolled out. -/
theorem kind_of_mem_rollout (slot : Slot) (member : slot ∈ rollout) :
    slot.kind ≠ .installation ∧ slot.kind ≠ .secret := by
  revert slot
  decide

end Slot

namespace Installation

/--
What the objects of the services are found by: for each service that is rolled out,
in order, its ConfigMap, its workload, its Ingress if it has one, and its Service.
-/
def rolloutKeys (installation : Installation) : List Key :=
  Slot.rollout.map installation.slotKey

/-- What is rolled out before the marker. -/
def keysBeforeMarker (installation : Installation) : List Key :=
  Slot.beforeMarker.map installation.slotKey

/-- The Deployment whose existence marks a completed rollout. -/
def markerKey (installation : Installation) : Key :=
  ⟨.deployment, installation.namespaceName, markerDeployment⟩

/-- What is rolled out up to the marker, which comes last. -/
def keysUpToMarker (installation : Installation) : List Key :=
  installation.keysBeforeMarker ++ [installation.markerKey]

/-- What is rolled out behind the marker. -/
def keysBehindMarker (installation : Installation) : List Key :=
  Slot.behindMarker.map installation.slotKey

/-- What the objects that start the configurator are found by. -/
def bootstrapKeys (installation : Installation) : List Key :=
  [⟨.configMap, installation.namespaceName, installation.configuratorMapName⟩,
    ⟨.configMap, installation.namespaceName, installation.configImportMapName⟩,
    ⟨.job, installation.namespaceName, installation.jobName⟩]

/-- The objects that start the configurator fill their slots. -/
theorem bootstrapKeys_eq (installation : Installation) :
    installation.bootstrapKeys = Slot.bootstrap.map installation.slotKey := by
  simp [bootstrapKeys, Slot.bootstrap, slotKey, slotName, serviceMapName, jobName,
    configuratorMapName, configImportMapName, String.append_assoc]

/-- The identities of an installation are pairwise distinct. -/
theorem nodup_bootstrapKeys_append_rolloutKeys (installation : Installation) :
    (installation.bootstrapKeys ++ installation.rolloutKeys).Nodup := by
  rw [bootstrapKeys_eq, rolloutKeys, ← List.map_append]
  exact Slot.nodup_bootstrap_append_rollout.map installation.slotKey_injective

/-- The marker is rolled out in the midst of the other objects. -/
theorem rolloutKeys_eq_append (installation : Installation) :
    installation.rolloutKeys =
      installation.keysBeforeMarker ++
        installation.markerKey :: installation.keysBehindMarker := by
  rw [rolloutKeys, Slot.rollout_eq_append, List.map_append, List.map_cons]
  rfl

/-- The marker is among what is rolled out. -/
theorem markerKey_mem_rolloutKeys (installation : Installation) :
    installation.markerKey ∈ installation.rolloutKeys := by
  rw [rolloutKeys_eq_append]
  exact List.mem_append_right _ List.mem_cons_self

/-- What is rolled out behind the marker is rolled out. -/
theorem keysBehindMarker_subset (installation : Installation) :
    installation.keysBehindMarker ⊆ installation.rolloutKeys := by
  rw [rolloutKeys_eq_append]
  intro key member
  exact List.mem_append_right _ (List.mem_cons_of_mem _ member)

/-- The marker comes last up to the marker. -/
theorem markerKey_mem_keysUpToMarker (installation : Installation) :
    installation.markerKey ∈ installation.keysUpToMarker :=
  List.mem_append_right _ (List.mem_singleton_self _)

/-- What is rolled out up to the marker is rolled out. -/
theorem keysUpToMarker_subset (installation : Installation) :
    installation.keysUpToMarker ⊆ installation.rolloutKeys := by
  rw [rolloutKeys_eq_append]
  intro key member
  rcases List.mem_append.mp member with before | isMarker
  · exact List.mem_append_left _ before
  · rw [List.mem_singleton.mp isMarker]
    exact List.mem_append_right _ List.mem_cons_self

/-- No object is rolled out twice. -/
theorem nodup_rolloutKeys (installation : Installation) :
    installation.rolloutKeys.Nodup :=
  (List.nodup_append.mp installation.nodup_bootstrapKeys_append_rolloutKeys).2.1

/-- The marker does not come behind itself. -/
theorem markerKey_not_mem_keysBehindMarker (installation : Installation) :
    installation.markerKey ∉ installation.keysBehindMarker := by
  have distinct := installation.nodup_rolloutKeys
  rw [rolloutKeys_eq_append] at distinct
  exact (List.nodup_cons.mp (List.nodup_append.mp distinct).2.1).1

/-- Neither installations nor secrets are rolled out. -/
theorem kind_of_mem_rolloutKeys
    (installation : Installation)
    {key : Key}
    (member : key ∈ installation.rolloutKeys) :
    key.kind ≠ .installation ∧ key.kind ≠ .secret := by
  obtain ⟨slot, inRollout, rfl⟩ := List.mem_map.mp member
  exact Slot.kind_of_mem_rollout slot inRollout

/-- No object that starts the configurator is rolled out as well. -/
theorem not_mem_rolloutKeys_of_mem_bootstrapKeys
    (installation : Installation)
    {key : Key}
    (bootstrap : key ∈ installation.bootstrapKeys) :
    key ∉ installation.rolloutKeys := by
  intro rollout
  have distinct := installation.nodup_bootstrapKeys_append_rolloutKeys
  exact (List.nodup_append.mp distinct).2.2 key bootstrap key rollout rfl

end Installation
end LifecycleOperator
