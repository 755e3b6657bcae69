import LifecycleOperator.Proofs.Pass.Sighting
import LifecycleOperator.Proofs.Resource.Wiring

/-!
# How a service is wired up

Rolling a service out makes sure of its objects under names that the objects themselves
refer to: the environment of its pods is taken from the ConfigMap that is made sure of
first, and the Ingress and the StatefulSet name the Service that is made sure of last.  So
what is built for a service fits together, whatever the service is called and wherever it
listens.
-/

namespace LifecycleOperator

/-- The name under which an object of a kind is made sure of for a service, if one is. -/
def ServiceProfile.objectName? (installation : Installation) (service : ServiceProfile) :
    Kind → Option String
  | .configMap => some (installation.serviceMapName service.name)
  | .deployment | .statefulSet | .service => some service.name
  | .ingress => service.ingress.map IngressProfile.name
  | .job | .installation | .secret => none

namespace Pass

variable {installation : Installation} {service : ServiceProfile}

/-- A call about an object of a service, as it is built for it and under its name. -/
def Concerns (installation : Installation) (service : ServiceProfile) : Call → Prop
  | .cluster (.lookup kind namespaceName name) =>
      namespaceName = installation.namespaceName ∧
        service.objectName? installation kind = some name
  | .cluster (.create kind namespaceName object) =>
      namespaceName = installation.namespaceName ∧
        ∃ name built, service.objectName? installation kind = some name ∧
          Resource.ofKind? installation service kind = some built ∧
          object = built.placedFor installation name
  | .cluster (.publish owner _) => owner = installation
  | _ => False

/-- Every object of a service is made sure of as it is built, and under its name. -/
theorem mayEnsure_of_mem_requirements (installation : Installation) (service : ServiceProfile) :
    ∀ requirement ∈ service.requirements installation,
      MayEnsure (Concerns installation service) installation requirement := by
  intro requirement member
  have meant : service.objectName? installation requirement.kind = some requirement.name ∧
      ∃ built, Resource.ofKind? installation service requirement.kind = some built ∧
        requirement.build = .ok built := by
    unfold ServiceProfile.requirements ServiceProfile.workloadRequirements
      ServiceProfile.ingressRequirements at member
    cases runs : service.workload <;> cases exposed : service.ingress <;>
      simp only [runs, exposed, List.cons_append, List.nil_append, List.append_nil,
        List.mem_cons, List.not_mem_nil, or_false] at member
    all_goals
      rcases member with rfl | rfl | rfl | rfl <;>
        simp [ServiceProfile.objectName?, Resource.ofKind?, exposed]
  obtain ⟨named, built, ofKind, builds⟩ := meant
  constructor
  · exact ⟨rfl, named⟩
  · intro object builds'
    obtain rfl : built = object := Except.ok.inj (builds.symm.trans builds')
    exact ⟨rfl, requirement.name, built, named, ofKind, rfl⟩
  · exact fun _ => rfl

/-- Rolling a service out asks for nothing but what concerns the objects of the service. -/
theorem asks_rollOutService :
    (rollOutService installation service).Asks (Concerns installation service) := by
  have may := mayEnsure_of_mem_requirements installation service
  cases runs : service.workload with
  | job =>
      have first := asks_ensure (may _ List.mem_cons_self)
      refine first.bind fun ensured => ?_
      rw [ensureWorkload, runs]
      trivial
  | deployment | statefulSet =>
      rw [rollOutService_eq installation service (by simp [runs])]
      exact (asks_ensureEach may).bind fun _ => trivial

/-- The ConfigMap of a service is looked up before anything else. -/
theorem starts_of_yields_rollOutService
    {transcript : List Exchange} {outcome : Except Fault Progress}
    (yields : (rollOutService installation service).Yields transcript outcome) :
    ∃ answer rest, transcript =
      ⟨.cluster (.lookup .configMap installation.namespaceName
        (installation.serviceMapName service.name)), answer⟩ :: rest := by
  obtain ⟨answer, rest, rfl, -⟩ := Program.yields_ask_iff.mp yields
  exact ⟨answer, rest, rfl⟩

/-- A service is rolled out only if all its objects have been seen; no Job ever is. -/
theorem sees_of_yields_rollOutService
    {transcript : List Exchange}
    (yields : (rollOutService installation service).Yields transcript (.ok .complete)) :
    ∀ key ∈ (service.requirements installation).map (Requirement.key installation),
      Sees transcript key := by
  by_cases keepsRunning : service.workload = .job
  · -- After the ConfigMap there is nothing but the fault.
    have stops : rollOutService installation service =
        ensure .configMap installation (installation.serviceMapName service.name)
          (.ok (Resource.configMap
            (Configuration.serviceData installation.specification service))) >>= fun _ =>
          throw (.other (service.name ++ " is not a long running service")) := by
      simp only [rollOutService, ensureWorkload, keepsRunning]
      rfl
    rw [stops] at yields
    rcases Program.yields_bind_iff.mp yields with ⟨_, _, impossible⟩ | ⟨_, _, _, _, fails, _⟩
    · cases impossible
    · cases (Program.yields_done_iff.mp fails).2
  · rw [rollOutService_eq installation service keepsRunning] at yields
    rcases Program.yields_bind_iff.mp yields with
      ⟨_, _, impossible⟩ | ⟨_, front, back, ensures, ends, rfl⟩
    · cases impossible
    · obtain ⟨rfl, -⟩ := Program.yields_done_iff.mp ends
      rw [List.append_nil]
      exact sees_of_yields_ensureEach ensures

/-- What a run of a rollout makes sure of is what the objects of the service refer to. -/
structure EnsuresReferents (installation : Installation) (service : ServiceProfile)
    (transcript : List Exchange) (outcome : Except Fault Progress) : Prop where
  /-- Every object goes by the name that is meant for it, and is created as it is built. -/
  concerns : ∀ exchange ∈ transcript, Concerns installation service exchange.call
  /-- The ConfigMap comes first, even if the service cannot be rolled out. -/
  starts : ∃ answer rest, transcript =
    ⟨.cluster (.lookup .configMap installation.namespaceName
      (installation.serviceMapName service.name)), answer⟩ :: rest
  /-- A service that is rolled out has its ConfigMap and its Service. -/
  sees : outcome = .ok .complete →
    Sees transcript ⟨.configMap, installation.namespaceName,
        installation.serviceMapName service.name⟩ ∧
      Sees transcript ⟨.service, installation.namespaceName, service.name⟩

theorem ensuresReferents_of_yields
    {transcript : List Exchange} {outcome : Except Fault Progress}
    (yields : (rollOutService installation service).Yields transcript outcome) :
    EnsuresReferents installation service transcript outcome where
  concerns := yields.leads.asks asks_rollOutService
  starts := starts_of_yields_rollOutService yields
  sees complete := by
    subst complete
    have sees := sees_of_yields_rollOutService yields
    exact ⟨sees _ (List.mem_map_of_mem List.mem_cons_self),
      sees _ (List.mem_map_of_mem
        (List.mem_append_right _ List.mem_cons_self))⟩

/--
What is built for a service fits together, whatever the service is called, wherever it
listens and whatever it has: both workloads select their pods by the labels that the
Service leads to, all ports are the same number, the Ingress and the StatefulSet refer to
the Service by the name under which a rollout makes sure of it, and the environment is
taken from the ConfigMap that a rollout makes sure of.
-/
theorem rollOutService_wires (installation : Installation) (service : ServiceProfile) :
    service.FitsWorkload installation (Resource.deployment installation service) ∧
    service.FitsWorkload installation (Resource.statefulSet installation service) ∧
    (Resource.statefulSet installation service).governingService = .string service.name ∧
    (Resource.service service).ports =
      [(Json.ofInt service.portNumber, Json.ofInt service.portNumber)] ∧
    (∀ profile, (Resource.ingress installation service profile).backends =
      [(.string service.name, Json.ofInt service.portNumber)]) ∧
    ∀ transcript outcome, (rollOutService installation service).Yields transcript outcome →
      EnsuresReferents installation service transcript outcome :=
  ⟨Resource.fitsWorkload_deployment installation service,
    Resource.fitsWorkload_statefulSet installation service,
    Resource.governingService_statefulSet installation service,
    Resource.ports_service service,
    Resource.backends_ingress installation service,
    fun _ _ => ensuresReferents_of_yields⟩

/-- A service with themes, behind an Ingress and with a port below zero, is rolled out. -/
theorem rollOutService_wires_themed :
    let service : ServiceProfile :=
      { name := "conductor", image := "ui", version := "2.1.0", port := some (-1)
        workload := .statefulSet
        ingress := some ⟨"conductor-ingress", "ui.lm", "conductor-tls"⟩
        sizing := .standard
        extension := some (.themes "themes" "themes") }
    let run := Outside.calm.perform (rollOutService (Installation.demo false) service) .empty
    run.outcome = .ok .complete ∧
      Sees run.transcript ⟨.service, "lm", "conductor"⟩ ∧
      service.FitsWorkload (Installation.demo false)
        (Resource.statefulSet (Installation.demo false) service) := by
  intro service run
  obtain ⟨-, fits, -, -, -, ensures⟩ :=
    rollOutService_wires (Installation.demo false) service
  have complete : run.outcome = .ok .complete := by decide +kernel
  have yields := Program.run_yields Outside.calm.respond
    (rollOutService (Installation.demo false) service) ⟨.empty, 0⟩
  exact ⟨complete, ((ensures _ _ yields).sees complete).2, fits⟩

end Pass
end LifecycleOperator
