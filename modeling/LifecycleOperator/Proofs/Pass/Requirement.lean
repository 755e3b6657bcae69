import LifecycleOperator.Pass.Bootstrap
import LifecycleOperator.Proofs.Pass.Ensure
import LifecycleOperator.Proofs.Pass.Identity

/-!
# Requirements

A requirement is an object that has to be there, with what is built when it is
missing.  Starting the configurator and rolling the services out both come down to
making sure of a fixed list of requirements, one after the other: the nested steps
of a rollout are one list, whose keys depend on the name and the place of the
installation alone.
-/

namespace LifecycleOperator

/-- An object that has to be there. -/
structure Requirement where
  kind : Kind
  name : String
  /-- What is built when there is none. -/
  build : Except Fault (Object kind)

namespace Requirement

/-- What the object is found by, in the namespace of its owner. -/
def key (owner : Installation) (requirement : Requirement) : Key :=
  ⟨requirement.kind, owner.namespaceName, requirement.name⟩

end Requirement

namespace ServiceProfile

/-- The workload of a service; a Job does not keep running. -/
def workloadRequirements (installation : Installation) (service : ServiceProfile) :
    List Requirement :=
  match service.workload with
  | .deployment =>
      [⟨.deployment, service.name, .ok (Resource.deployment installation service)⟩]
  | .statefulSet =>
      [⟨.statefulSet, service.name, .ok (Resource.statefulSet installation service)⟩]
  | .job => []

/-- The Ingress of a service, if the service is exposed. -/
def ingressRequirements (installation : Installation) (service : ServiceProfile) :
    List Requirement :=
  match service.ingress with
  | some profile =>
      [⟨.ingress, profile.name, .ok (Resource.ingress installation service profile)⟩]
  | none => []

/-- The objects of a service, in the order in which they are made sure of. -/
def requirements (installation : Installation) (service : ServiceProfile) :
    List Requirement :=
  ⟨.configMap, installation.serviceMapName service.name,
      .ok (Resource.configMap
        (Configuration.serviceData installation.specification service))⟩ ::
    service.workloadRequirements installation ++
    service.ingressRequirements installation ++
    [⟨.service, service.name, .ok (Resource.service service)⟩]

end ServiceProfile

namespace Pass

/-- Make sure of objects, one after the other. -/
def ensureEach (owner : Installation) : List Requirement → Pass Unit
  | [] => pure ()
  | requirement :: rest => do
      let _ ← ensure requirement.kind owner requirement.name requirement.build
      ensureEach owner rest

/-- Two lists of requirements are made sure of one after the other. -/
theorem ensureEach_append (owner : Installation) (first second : List Requirement) :
    ensureEach owner (first ++ second) =
      ensureEach owner first >>= fun _ => ensureEach owner second := by
  induction first with
  | nil => rfl
  | cons requirement first inductionHypothesis =>
      simp only [List.cons_append, ensureEach, inductionHypothesis, bind_assoc]

/-- Rolling a service out makes sure of its objects. -/
theorem rollOutService_eq
    (installation : Installation)
    (service : ServiceProfile)
    (keepsRunning : service.workload ≠ .job) :
    rollOutService installation service =
      ensureEach installation (service.requirements installation) >>= fun _ =>
        pure .complete := by
  unfold rollOutService ensureWorkload ServiceProfile.requirements
    ServiceProfile.workloadRequirements ServiceProfile.ingressRequirements
  cases runs : service.workload with
  | job => exact absurd runs keepsRunning
  | deployment | statefulSet =>
      cases service.ingress <;> simp [ensureEach, bind_assoc]

/-- Rolling services out in turn makes sure of all their objects. -/
theorem sequence_rollOutService_eq
    (installation : Installation)
    (services : List ServiceProfile)
    (keepRunning : ∀ service ∈ services, service.workload ≠ .job) :
    Progress.sequence (services.map (rollOutService installation)) =
      ensureEach installation
        (services.flatMap (ServiceProfile.requirements installation)) >>= fun _ =>
          pure .complete := by
  induction services with
  | nil => rfl
  | cons service services inductionHypothesis =>
      have runs := keepRunning service List.mem_cons_self
      have tail := inductionHypothesis fun other member =>
        keepRunning other (List.mem_cons_of_mem service member)
      simp only [List.map_cons, Progress.sequence, List.flatMap_cons,
        rollOutService_eq installation service runs, tail, ensureEach_append, bind_assoc,
        pure_bind]

/-- The profile of an installation has every service under its name. -/
theorem requireService_profile
    (specification : Specification)
    (manifest : Manifest)
    (base : ServiceBase)
    (known : base ∈ ServiceBase.all) :
    requireService (specification.profile manifest) base.name =
      .ok (specification.serviceProfile manifest base) := by
  have found : (specification.profile manifest).find? base.name =
      some (specification.serviceProfile manifest base) := by
    have named := congrArg (Option.map (specification.serviceProfile manifest))
      (ServiceBase.find?_name base known)
    simpa [DeploymentProfile.find?, Specification.profile, List.find?_map,
      Function.comp_def, Specification.serviceProfile] using named
  simp [requireService, found]

/-- All services that are rolled out are found in a profile. -/
theorem mapM_requireService_profile
    (specification : Specification)
    (manifest : Manifest)
    (bases : List ServiceBase)
    (known : ∀ base ∈ bases, base ∈ ServiceBase.all) :
    (bases.map ServiceBase.name).mapM (requireService (specification.profile manifest)) =
      .ok (bases.map (specification.serviceProfile manifest)) := by
  induction bases with
  | nil => rfl
  | cons base bases inductionHypothesis =>
      have head := requireService_profile specification manifest base
        (known base List.mem_cons_self)
      have tail := inductionHypothesis fun other member =>
        known other (List.mem_cons_of_mem base member)
      simp only [List.map_cons, List.mapM_cons, head, tail]
      rfl

/-- The objects of all services, in the order in which they are made sure of. -/
def rolloutRequirements (installation : Installation) (manifest : Manifest) :
    List Requirement :=
  (ServiceBase.rolledOut.map
    (installation.specification.serviceProfile manifest)).flatMap
      (ServiceProfile.requirements installation)

/-- A rollout makes sure of the objects of all services, and then tells so. -/
theorem rollout_eq (installation : Installation) (manifest : Manifest) :
    rollout installation (installation.specification.profile manifest) =
      ensureEach installation (rolloutRequirements installation manifest) >>= fun _ =>
        record installation
          (.rolloutComplete installation.anyName ServiceBase.rolledOut.length) >>= fun _ =>
            pure .complete := by
  have services := mapM_requireService_profile installation.specification manifest
    ServiceBase.rolledOut fun base member => List.mem_of_mem_tail member
  rw [ServiceBase.map_name_rolledOut] at services
  have sequence := sequence_rollOutService_eq installation
    (ServiceBase.rolledOut.map (installation.specification.serviceProfile manifest)) (by
      intro service member
      obtain ⟨base, inOrder, rfl⟩ := List.mem_map.mp member
      exact ServiceBase.workload_ne_job base inOrder)
  unfold rollout
  rw [services]
  simp only [Program.ofExcept, Program.done_ok_bind, sequence, bind_assoc, pure_bind,
    List.length_map]
  rfl

/-- What the configurator is set up with, and the Job that runs it. -/
def bootstrapRequirements (installation : Installation) (manifest : Manifest) :
    List Requirement :=
  let configurator := installation.specification.serviceProfile manifest
    ⟨configuratorName, "configurator", none, .job, none⟩
  [⟨.configMap, installation.configuratorMapName,
      (Configuration.configuratorData installation.specification.secure).map
        Resource.configMap⟩,
    ⟨.configMap, installation.configImportMapName,
      Configuration.configImportData.map Resource.configMap⟩,
    ⟨.job, installation.jobName, .ok (Resource.configuratorJob installation configurator)⟩]

/-- Starting the configurator makes sure of what it is set up with, and of its Job. -/
theorem startConfigurator_eq (installation : Installation) (manifest : Manifest) :
    startConfigurator installation (installation.specification.profile manifest) =
      ensureEach installation (bootstrapRequirements installation manifest) := by
  have configurator := requireService_profile installation.specification manifest
    ⟨configuratorName, "configurator", none, .job, none⟩ List.mem_cons_self
  unfold startConfigurator
  rw [configurator]
  simp only [Program.ofExcept, Program.done_ok_bind, bootstrapRequirements, ensureEach]

/-! ## Keys -/

/-- The objects of a service fill the slots of the service. -/
theorem map_key_requirements
    (installation : Installation)
    (manifest : Manifest)
    (base : ServiceBase) :
    ((installation.specification.serviceProfile manifest base).requirements
      installation).map (Requirement.key installation) =
        base.slots.map installation.slotKey := by
  rcases base with ⟨name, releaseKey, port, workload, ingress⟩
  cases workload <;> cases ingress <;> rfl

/-- A rollout makes sure of the objects that are to be rolled out, in their order. -/
theorem map_key_rolloutRequirements (installation : Installation) (manifest : Manifest) :
    (rolloutRequirements installation manifest).map (Requirement.key installation) =
      installation.rolloutKeys := by
  simp only [rolloutRequirements, Installation.rolloutKeys, Slot.rollout,
    List.map_flatMap, List.flatMap_map, map_key_requirements]

/-- The configurator is started from the objects that are meant for it, in their order. -/
theorem map_key_bootstrapRequirements (installation : Installation) (manifest : Manifest) :
    (bootstrapRequirements installation manifest).map (Requirement.key installation) =
      installation.bootstrapKeys := rfl

/-! ## What is built -/

/-- Every object of a service can be built, and comes without owners. -/
theorem built_of_mem_requirements
    {installation : Installation} {service : ServiceProfile} {requirement : Requirement}
    (member : requirement ∈ service.requirements installation) :
    ∃ object, requirement.build = .ok object ∧ object.metadata.ownerReferences = none := by
  unfold ServiceProfile.requirements ServiceProfile.workloadRequirements
    ServiceProfile.ingressRequirements at member
  cases runs : service.workload <;> cases exposed : service.ingress <;>
    simp only [runs, exposed, List.cons_append, List.nil_append, List.append_nil,
      List.mem_cons, List.not_mem_nil, or_false] at member
  all_goals
    rcases member with rfl | rfl | rfl | rfl <;> exact ⟨_, rfl, rfl⟩

/-- Whatever is rolled out can be built, and comes without owners. -/
theorem built_of_mem_rolloutRequirements
    {installation : Installation} {manifest : Manifest} {requirement : Requirement}
    (member : requirement ∈ rolloutRequirements installation manifest) :
    ∃ object, requirement.build = .ok object ∧ object.metadata.ownerReferences = none := by
  obtain ⟨service, -, required⟩ := List.mem_flatMap.mp member
  exact built_of_mem_requirements required

/-! ## What making sure of many objects can do -/

/-- What making sure of objects may add: any of them, as it was built for its owner. -/
def PlacedAmong (owner : Installation) (requirements : List Requirement) : Store.Addition :=
  fun key later => ∃ requirement ∈ requirements,
    Placed requirement.kind owner requirement.name requirement.build key later

/--
Making sure of objects either fails at the first of them, or goes on to the others
after it.
-/
theorem yields_ensureEach_cons
    {owner : Installation} {requirement : Requirement} {rest : List Requirement}
    {transcript : List Exchange} {outcome : Except Fault Unit}
    (yields : (ensureEach owner (requirement :: rest)).Yields transcript outcome) :
    (∃ fault, outcome = .error fault ∧
      Ensuring requirement.kind owner requirement.name requirement.build
        transcript (.error fault)) ∨
    ∃ ensured front back, transcript = front ++ back ∧
      Ensuring requirement.kind owner requirement.name requirement.build
        front (.ok ensured) ∧
      (ensureEach owner rest).Yields back outcome := by
  rcases Program.yields_bind_iff.mp yields with
    ⟨fault, first, rfl⟩ | ⟨ensured, front, back, first, others, rfl⟩
  · exact .inl ⟨fault, rfl, yields_ensure first⟩
  · exact .inr ⟨ensured, front, back, rfl, yields_ensure first, others⟩

/-- At most the objects are added, and all that was stored stays as it is. -/
theorem grows_of_yields_ensureEach
    {owner : Installation} {requirements : List Requirement}
    {transcript : List Exchange} {outcome : Except Fault Unit}
    {permitted : ClusterCall → Verdict → Prop} {store after : Store}
    (yields : (ensureEach owner requirements).Yields transcript outcome)
    (explains : Store.Explains permitted store transcript after) :
    Store.Grows (PlacedAmong owner requirements) store after := by
  induction requirements generalizing transcript store with
  | nil =>
      obtain ⟨rfl, -⟩ := Program.yields_done_iff.mp yields
      obtain rfl := explains
      exact .refl after
  | cons requirement rest inductionHypothesis =>
      have placed : ∀ key later,
          Placed requirement.kind owner requirement.name requirement.build key later →
            PlacedAmong owner (requirement :: rest) key later :=
        fun key later placed => ⟨requirement, List.mem_cons_self, placed⟩
      rcases yields_ensureEach_cons yields with
        ⟨fault, -, first⟩ | ⟨ensured, front, back, rfl, first, others⟩
      · exact (first.grows explains).mono placed
      · obtain ⟨middle, explainsFirst, explainsOthers⟩ := Store.explains_append.mp explains
        refine .trans ((first.grows explainsFirst).mono placed) ?_
        refine (inductionHypothesis others explainsOthers).mono ?_
        rintro key later ⟨other, member, placedOther⟩
        exact ⟨other, List.mem_cons_of_mem requirement member, placedOther⟩

/-- If making sure of objects succeeds, they are all there. -/
theorem has_of_yields_ensureEach
    {owner : Installation} {requirements : List Requirement}
    {transcript : List Exchange}
    {permitted : ClusterCall → Verdict → Prop} {store after : Store}
    (truthful : Truthful permitted)
    (yields : (ensureEach owner requirements).Yields transcript (.ok ()))
    (explains : Store.Explains permitted store transcript after) :
    ∀ key ∈ requirements.map (Requirement.key owner), after.Has key := by
  induction requirements generalizing transcript store with
  | nil => simp
  | cons requirement rest inductionHypothesis =>
      rcases yields_ensureEach_cons yields with
        ⟨fault, impossible, -⟩ | ⟨ensured, front, back, rfl, first, others⟩
      · cases impossible
      obtain ⟨middle, explainsFirst, explainsOthers⟩ := Store.explains_append.mp explains
      have grows := grows_of_yields_ensureEach others explainsOthers
      simp only [List.map_cons, List.mem_cons, forall_eq_or_imp]
      exact ⟨grows.has (first.has truthful explainsFirst),
        inductionHypothesis others explainsOthers⟩

/--
If making sure of objects fails, it fails at one of them, after it has succeeded for
those before it.
-/
theorem stopped_of_yields_ensureEach
    {owner : Installation} {requirements : List Requirement}
    {transcript : List Exchange} {fault : Fault}
    (yields : (ensureEach owner requirements).Yields transcript (.error fault)) :
    ∃ done requirement rest front last,
      requirements = done ++ requirement :: rest ∧ transcript = front ++ last ∧
      (ensureEach owner done).Yields front (.ok ()) ∧
      Ensuring requirement.kind owner requirement.name requirement.build
        last (.error fault) := by
  induction requirements generalizing transcript with
  | nil =>
      obtain ⟨-, impossible⟩ := Program.yields_done_iff.mp yields
      cases impossible
  | cons head rest inductionHypothesis =>
      rcases Program.yields_bind_iff.mp yields with
        ⟨_, first, equal⟩ | ⟨ensured, front, back, first, others, rfl⟩
      · cases equal
        exact ⟨[], head, rest, [], transcript, rfl, rfl, .done _, yields_ensure first⟩
      · obtain ⟨done, requirement, left, between, last, rfl, rfl, goesWell, fails⟩ :=
          inductionHypothesis others
        refine ⟨head :: done, requirement, left, front ++ between, last, rfl,
          (List.append_assoc front between last).symm, ?_, fails⟩
        exact Program.yields_bind_iff.mpr
          (.inr ⟨ensured, front, between, first, goesWell, rfl⟩)

end Pass
end LifecycleOperator
