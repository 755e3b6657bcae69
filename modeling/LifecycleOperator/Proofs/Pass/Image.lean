import LifecycleOperator.Proofs.Pass.Course
import LifecycleOperator.Proofs.Pass.Footprint
import LifecycleOperator.Proofs.Pass.Wiring
import LifecycleOperator.Proofs.Release.Dependence

/-!
# Images of workloads

The image that a workload runs is put together from the registry of the installation, the
name of the service and the version that the release lists for it.  It is read off the
workload as it is written, so that nothing else has a part in it.
-/

namespace LifecycleOperator

open Json.Member (get list get_ofFields)

/-- The image of a service within a registry, in the version of a release. -/
def imageOf (registry : String) (manifest : Manifest) (service : String) : String :=
  registry ++ "/" ++ service ++ ":" ++ manifest.version (manifestName service)

/-- The images that the containers of a pod run. -/
def Pod.images (template : Json) : List Json :=
  (list (get template "spec") "containers").map fun container => get container "image"

theorem Pod.images_toJson (pod : Pod) : images pod.toJson = [.string pod.image] := by
  have image : get pod.container "image" = .string pod.image := by
    unfold container
    cases pod.pullPolicy <;> cases pod.port <;> simp [get_ofFields, List.lookup_cons]
  rw [images, containers_toJson, List.map_singleton, image]

namespace Object

/-- The pods of a workload belong to a service and run an image. -/
structure Runs {kind : Kind} (workload : Object kind) (service image : String) : Prop where
  labels : Pod.labels workload.template = appLabels service
  images : Pod.images workload.template = [.string image]

theorem runs_of_template
    {kind : Kind} {workload : Object kind} {pod : Pod}
    (template : workload.template = pod.toJson) :
    workload.Runs pod.app pod.image where
  labels := by rw [template, Pod.labels_toJson]
  images := by rw [template, Pod.images_toJson]

/-- A workload runs the same image wherever it is put. -/
theorem Runs.placedFor
    {kind : Kind} {workload : Object kind} {service image : String}
    (runs : workload.Runs service image) (owner : Installation) (name : String) :
    (workload.placedFor owner name).Runs service image :=
  ⟨runs.labels, runs.images⟩

end Object

/-- Every workload that is built for a service runs the image of the service. -/
theorem Resource.runs_of_ofKind?
    {installation : Installation} {service : ServiceProfile}
    {kind : Kind} {workload : Object kind}
    (isWorkload : kind.isWorkload = true)
    (built : ofKind? installation service kind = some workload) :
    workload.Runs service.name
      (service.imageReference installation.specification.dockerRepo) := by
  cases kind with
  | deployment =>
      obtain rfl := Option.some.inj built
      exact Object.runs_of_template (template_deployment installation service)
  | statefulSet =>
      obtain rfl := Option.some.inj built
      exact Object.runs_of_template (template_statefulSet installation service)
  | job =>
      obtain rfl := Option.some.inj built
      exact Object.runs_of_template (template_configuratorJob installation service)
  | installation | configMap | secret | service | ingress => cases isWorkload

/-- The version of a service is the one that the release lists for it. -/
theorem ServiceBase.imageReference_serviceProfile
    {base : ServiceBase} (known : base ∈ all)
    (specification : Specification) (manifest : Manifest) (registry : String) :
    (specification.serviceProfile manifest base).imageReference registry =
      imageOf registry manifest base.name := by
  rw [imageOf, ← releaseKey_eq base known]
  rfl

namespace Pass

/-! ## What a pass creates -/

/-- A workload that is created runs the image of one of the services. -/
def RunsReleased (registry : String) (manifest : Manifest) : Call → Prop
  | .cluster (.create kind _ object) => kind.isWorkload = true →
      ∃ service ∈ serviceNames, object.Runs service (imageOf registry manifest service)
  | _ => True

section Released

variable {installation : Installation} (manifest : Manifest)

/-- What is built for a service of the profile may be created. -/
theorem runsReleased_of_ofKind?
    {base : ServiceBase} (known : base ∈ ServiceBase.all)
    {kind : Kind} {workload : Object kind}
    (built : Resource.ofKind? installation
      (installation.specification.serviceProfile manifest base) kind = some workload)
    (place name : String) :
    RunsReleased installation.specification.dockerRepo manifest
      (.cluster (.create kind place (workload.placedFor installation name))) := by
  intro isWorkload
  have runs := Resource.runs_of_ofKind? isWorkload built
  rw [ServiceBase.imageReference_serviceProfile known] at runs
  refine ⟨base.name, ?_, runs.placedFor installation name⟩
  rw [← ServiceBase.map_name_all]
  exact List.mem_map_of_mem known

/-- A rollout creates nothing that does not run its image. -/
theorem asks_rollout_runsReleased :
    (rollout installation (installation.specification.profile manifest)).Asks
      (RunsReleased installation.specification.dockerRepo manifest) := by
  refine asks_rollout ?_ fun _ => trivial
  intro requirement member
  refine ⟨trivial, ?_, fun _ => trivial⟩
  intro object built
  obtain ⟨service, inOrder, required⟩ := List.mem_flatMap.mp member
  obtain ⟨base, rolledOut, rfl⟩ := List.mem_map.mp inOrder
  obtain ⟨-, name, workload, -, ofKind, placed⟩ :=
    (mayEnsure_of_mem_requirements installation _ requirement required).creates object built
  rw [placed]
  exact runsReleased_of_ofKind? manifest (List.mem_of_mem_tail rolledOut) ofKind _ name

/-- Nor does the start of the configurator. -/
theorem asks_bootstrap_runsReleased :
    (ensureEach installation (bootstrapRequirements installation manifest)).Asks
      (RunsReleased installation.specification.dockerRepo manifest) := by
  apply asks_ensureEach
  intro requirement member
  refine ⟨trivial, ?_, fun _ => trivial⟩
  intro object built
  simp only [bootstrapRequirements, List.mem_cons, List.not_mem_nil, or_false] at member
  rcases member with rfl | rfl | rfl
  · exact fun isWorkload => by cases isWorkload
  · exact fun isWorkload => by cases isWorkload
  · obtain rfl := Except.ok.inj built
    exact runsReleased_of_ofKind? manifest List.mem_cons_self rfl _ _

end Released

/-- Adopting secrets and following the health create nothing. -/
theorem mayAdopt_runsReleased
    (registry : String) (manifest : Manifest) (installation : Installation) :
    MayAdopt (RunsReleased registry manifest) installation where
  looks := fun _ => trivial
  adopts := fun _ _ => trivial
  tells := fun _ => trivial

/--
Every workload that a pass is to create runs the image of a service, in the registry of the
installation that was found and in the version of the release that was fetched.
-/
def PullsReleased (namespaceName name : String) (transcript : List Exchange) : Prop :=
  ∀ kind place (object : Object kind) answer,
    ⟨.cluster (.create kind place object), answer⟩ ∈ transcript → kind.isWorkload = true →
      ∃ installation manifest service,
        found namespaceName name installation ∈ transcript ∧
        ⟨.fetchRelease installation.specification.release, .ok manifest⟩ ∈ transcript ∧
        service ∈ serviceNames ∧
        object.Runs service (imageOf installation.specification.dockerRepo manifest service)

section Courses

variable {namespaceName name : String} {installation : Installation} {manifest : Manifest}

/-- A transcript in which nothing is created pulls nothing. -/
theorem pullsReleased_of_creates_nothing
    {transcript : List Exchange}
    (creates : ∀ kind place (object : Object kind) answer,
      ⟨.cluster (.create kind place object), answer⟩ ∉ transcript) :
    PullsReleased namespaceName name transcript :=
  fun kind place object answer member => absurd member (creates kind place object answer)

/-- Once the release is fetched, all depends on what comes after it. -/
theorem pullsReleased_opening
    {rest : List Exchange}
    (released : ∀ exchange ∈ rest,
      RunsReleased installation.specification.dockerRepo manifest exchange.call) :
    PullsReleased namespaceName name
      (opening namespaceName name installation manifest ++ rest) := by
  intro kind place object answer member isWorkload
  rcases List.mem_append.mp member with inOpening | inRest
  · simp [opening, found, markerLookup] at inOpening
  · obtain ⟨service, listed, runs⟩ := released _ inRest isWorkload
    exact ⟨installation, manifest, service, by simp [opening], by simp [opening], listed, runs⟩

end Courses

/-- Every pass creates such workloads only, whatever it is answered. -/
theorem Course.pullsReleased
    {namespaceName name : String} {transcript : List Exchange} {outcome : Except Fault Phase}
    (course : Course namespaceName name transcript outcome) :
    PullsReleased namespaceName name transcript := by
  cases course with
  | unreadable | gone | markerUnreadable | unreleased =>
      exact pullsReleased_of_creates_nothing (by simp [found, markerLookup])
  | followed installation marker rest _ follows =>
      apply pullsReleased_of_creates_nothing
      cases follows <;> simp [found, markerLookup]
  | jobUnreadable | waiting =>
      exact pullsReleased_opening (List.forall_mem_singleton.mpr trivial)
  | rolledOut installation manifest _ rest _ rolls =>
      exact pullsReleased_opening (rolls.leads.asks (asks_rollout_runsReleased manifest))
  | started installation manifest _ rest _ starts =>
      have released := starts.leads.asks (asks_bootstrap_runsReleased manifest)
      exact pullsReleased_opening (List.forall_mem_cons.mpr ⟨trivial, released⟩)
  | resumed installation manifest _ job _ _ adoption rest _ adopts rolls =>
      have may := mayAdopt_runsReleased installation.specification.dockerRepo manifest installation
      have released := List.forall_mem_append.mpr
        ⟨adopts.leads.asks may.asks_propagateSecrets,
          rolls.leads.asks (asks_rollout_runsReleased manifest)⟩
      exact pullsReleased_opening (List.forall_mem_cons.mpr ⟨trivial, released⟩)

end Pass
end LifecycleOperator
