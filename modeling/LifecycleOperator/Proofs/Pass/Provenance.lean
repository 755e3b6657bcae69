import LifecycleOperator.Proofs.Pass.Footprint
import LifecycleOperator.Proofs.Pass.Gating
import LifecycleOperator.Proofs.Pass.Settling
import LifecycleOperator.Proofs.Program.Relay

/-!
# Where the fault of a pass comes from

A pass has no faults of its own: every service is in the profile, none that is rolled
out is a Job, and all that is built can be built.  So a pass that fails has been stopped
by one call, the last one that it made, and ends with what this call raised.  What the
calls raise is a table; secrets that cannot be adopted, events that cannot be told and
names that are taken raise nothing.  When the pass is taken up again can be told from
the same call.
-/

namespace LifecycleOperator
namespace Pass

namespace Exchange

/--
The fault that an exchange raises.  It is the fault of the call, and wrapped once if the
call was to set the status.
-/
def raised? : Exchange → Option Fault
  | ⟨.cluster (.lookup kind _ _), .error fault⟩ => if kind = .secret then none else some fault
  | ⟨.cluster (.create _ _ _), .error (.alreadyExists _ _ _)⟩ => none
  | ⟨.cluster (.create _ _ _), .error fault⟩ => some fault
  | ⟨.cluster (.patchStatus _ _ _), .error fault⟩ => some (.statusUpdate fault)
  | ⟨.fetchRelease _, .error fault⟩ => some fault
  | ⟨.probe, .error fault⟩ => some fault
  | _ => none

/-- Whether the status could not be set. -/
def refusesStatus : Exchange → Bool
  | ⟨.cluster (.patchStatus _ _ _), .error _⟩ => true
  | _ => false

/-- Whether a release could not be fetched, or a probe was not answered. -/
def isUnanswered : Exchange → Bool
  | ⟨.fetchRelease _, .error _⟩ | ⟨.probe, .error _⟩ => true
  | _ => false

/-- Whether the answer is no fault that tells of a status. -/
def isPlain (exchange : Exchange) : Bool :=
  match exchange.answer with
  | .error (.statusUpdate _) => false
  | _ => true

/-- A call that succeeds raises nothing. -/
theorem raised?_ok (call : Call) (result : call.Result) :
    raised? ⟨call, .ok result⟩ = none := by
  match call with
  | .cluster call => cases call <;> rfl
  | .fetchRelease url => rfl
  | .probe => rfl

/-- A status that could not be set raises a fault that tells of it. -/
theorem raised?_of_refusesStatus
    {exchange : Exchange}
    (refuses : exchange.refusesStatus = true) :
    ∃ cause, exchange.raised? = some (.statusUpdate cause) := by
  unfold refusesStatus at refuses
  split at refuses
  · exact ⟨_, rfl⟩
  · cases refuses

/-- What is raised tells of a status just when it was raised by setting one. -/
theorem refusesStatus_iff_of_raised?
    {exchange : Exchange} {fault : Fault}
    (plain : exchange.isPlain = true)
    (raises : exchange.raised? = some fault) :
    exchange.refusesStatus = true ↔ ∃ cause, fault = .statusUpdate cause := by
  obtain ⟨call, answer⟩ := exchange
  cases answer with
  | ok result => simp [raised?_ok] at raises
  | error cause =>
      have notWrapped : ∀ inner, cause ≠ .statusUpdate inner := by
        rintro inner rfl
        cases plain
      match call with
      | .cluster (.patchStatus _ _ _) =>
          cases raises
          simp [refusesStatus]
      | .cluster (.lookup kind _ _) =>
          by_cases hidden : kind = .secret
          · simp [raised?, hidden] at raises
          · simp only [raised?, hidden, if_false, Option.some.injEq] at raises
            simp [refusesStatus, ← raises, notWrapped]
      | .cluster (.create _ _ _) =>
          cases cause <;> cases raises <;> simp [refusesStatus]
          exact notWrapped _ rfl
      | .cluster (.replace _ _ _ _) | .cluster (.publish _ _) => cases raises
      | .fetchRelease _ | .probe =>
          cases raises
          simp [refusesStatus, notWrapped]

end Exchange

/-! ## A pass relays faults -/

/-- A call raises its own fault, if none of its faults is put up with. -/
theorem relays_call
    {call : Call}
    (raises : ∀ fault, Exchange.raised? ⟨call, .error fault⟩ = some fault) :
    (Program.ask call .done : Pass call.Result).Relays Exchange.raised? := by
  apply Program.relays_ask
  · intro answer fault raised
    cases answer with
    | ok result => simp [Exchange.raised?_ok] at raised
    | error cause =>
        rw [raises, Option.some.injEq] at raised
        rw [raised]
  · intro answer tolerated
    cases answer with
    | ok result => trivial
    | error cause =>
        rw [raises] at tolerated
        cases tolerated

/-- A look-up of anything but a secret raises its fault. -/
theorem relays_lookup
    (kind : Kind) (namespaceName name : String)
    (visible : kind ≠ .secret) :
    (lookup kind namespaceName name).Relays Exchange.raised? := by
  apply relays_call
  intro fault
  simp [Exchange.raised?, visible]

/-- Telling an event raises nothing. -/
theorem relays_record (installation : Installation) (event : Event) :
    (record installation event).Relays Exchange.raised? := by
  apply Program.relays_ask_of_tolerated
  · intro answer
    cases answer <;> rfl
  · intro answer
    trivial

/-- Creating an object raises any fault but that its name is taken. -/
theorem relays_createPlaced
    (kind : Kind) (owner : Installation) (name : String) (object : Object kind) :
    (createPlaced kind owner name object).Relays Exchange.raised? := by
  apply Program.relays_ask
  · intro answer fault raises
    cases answer with
    | ok created => cases raises
    | error cause => cases cause <;> cases raises <;> rfl
  · intro answer tolerated
    cases answer with
    | ok created => exact (relays_record owner _).bind fun _ => trivial
    | error cause =>
        cases cause
        case alreadyExists => trivial
        all_goals cases tolerated

/-- That no faults are raised but those of calls is inherited from the parts. -/
theorem inherited_relays : Inherited fun _ part => part.Relays Exchange.raised? :=
  ⟨fun _ => trivial, fun first others => first.bind others⟩

/-- Making sure of an object that can be built raises what its calls raise. -/
theorem relays_ensure
    {kind : Kind} {owner : Installation} {name : String}
    {build : Except Fault (Object kind)}
    (visible : kind ≠ .secret)
    (buildable : ∃ object, build = .ok object) :
    (ensure kind owner name build).Relays Exchange.raised? := by
  obtain ⟨object, rfl⟩ := buildable
  apply inherited_relays.ensure (relays_lookup kind owner.namespaceName name visible)
  · rintro fault ⟨⟩
  · intro object built
    exact relays_createPlaced kind owner name _

/-- Making sure of objects that can be built raises what the calls raise. -/
theorem relays_ensureEach
    {owner : Installation} {requirements : List Requirement}
    (visible : ∀ requirement ∈ requirements, requirement.kind ≠ .secret)
    (buildable : ∀ requirement ∈ requirements, ∃ object, requirement.build = .ok object) :
    (ensureEach owner requirements).Relays Exchange.raised? :=
  inherited_relays.ensureEach fun requirement member =>
    relays_ensure (visible requirement member) (buildable requirement member)

/-- A rollout has no faults of its own. -/
theorem relays_rollout (installation : Installation) (manifest : Manifest) :
    (rollout installation
      (installation.specification.profile manifest)).Relays Exchange.raised? := by
  refine inherited_relays.rollout (relays_ensureEach ?_ ?_) (relays_record installation)
  · intro requirement member
    have isRollout : requirement.key installation ∈ installation.rolloutKeys := by
      rw [← map_key_rolloutRequirements installation manifest]
      exact List.mem_map_of_mem member
    exact (installation.kind_of_mem_rolloutKeys isRollout).2
  · intro requirement member
    obtain ⟨object, built, -⟩ := built_of_mem_rolloutRequirements member
    exact ⟨object, built⟩

/-- What the configurator is set up with can be built. -/
theorem relays_bootstrap (installation : Installation) (manifest : Manifest) :
    (ensureEach installation
      (bootstrapRequirements installation manifest)).Relays Exchange.raised? := by
  apply relays_ensureEach
  · intro requirement member
    simp only [bootstrapRequirements, List.mem_cons, List.not_mem_nil, or_false] at member
    rcases member with rfl | rfl | rfl <;> simp
  · intro requirement member
    exact built_of_mem_bootstrapRequirements member

/-- Adopting a secret raises nothing, whatever becomes of it. -/
theorem relays_propagateSecret
    (installation : Installation) (reference : OwnerReference) (name : String) :
    (propagateSecret installation reference name).Relays Exchange.raised? := by
  apply Program.relays_ask_of_tolerated
  · intro answer
    cases answer <;> rfl
  · intro answer
    match answer with
    | .error fault => trivial
    | .ok none => trivial
    | .ok (some secret) =>
        by_cases isOwned : secret.metadata.isOwnedBy reference.uid
        · simp only [isOwned, if_true]
          trivial
        · simp only [isOwned, Bool.false_eq_true, if_false]
          apply Program.relays_ask_of_tolerated
          · intro answer
            cases answer <;> rfl
          · intro answer
            cases answer with
            | error fault => trivial
            | ok owned => exact relays_record installation _

/-- Driving the configurator has no faults of its own. -/
theorem relays_gate (installation : Installation) (manifest : Manifest) :
    (gate installation
      (installation.specification.profile manifest)).Relays Exchange.raised? :=
  inherited_relays.gate (relays_lookup .job _ _ (by decide))
    (relays_bootstrap installation manifest)
    (inherited_relays.propagateSecrets (relays_propagateSecret installation))

/-- Installing something has no faults of its own. -/
theorem relays_install (installation : Installation) :
    (install installation).Relays Exchange.raised? :=
  inherited_relays.install (relays_call fun _ => rfl) (relays_gate installation)
    (relays_rollout installation)

/-- Following the health has no faults of its own. -/
theorem relays_follow (installation : Installation) (namespaceName name : String) :
    (follow installation namespaceName name).Relays Exchange.raised? := by
  apply inherited_relays.follow (relays_call fun _ => rfl) (relays_record installation)
  intro status
  apply Program.relays_ask
  · intro answer fault raises
    cases answer <;> cases raises
    rfl
  · intro answer tolerated
    cases answer with
    | ok written => trivial
    | error fault => cases tolerated

/-- A pass has no faults of its own. -/
theorem relays_reconcile (namespaceName name : String) :
    (reconcile namespaceName name).Relays Exchange.raised? :=
  inherited_relays.reconcile (relays_lookup .installation _ _ (by decide))
    (relays_lookup .deployment _ _ (by decide)) relays_install fun installation =>
      relays_follow installation namespaceName name

/-! ## Releases and probes -/

/-- Whether something is asked of the cluster. -/
def Call.isCluster : Call → Bool
  | .cluster _ => true
  | .fetchRelease _ | .probe => false

theorem mayInstall_isCluster (installation : Installation) :
    MayInstall (fun call => call.isCluster = true) installation where
  looks := fun _ _ => rfl
  creates := fun _ _ _ => rfl
  adopts := fun _ _ => rfl
  tells := fun _ => rfl

/-- A pass ends before anything is installed, or without finding an installation. -/
structure Reading (transcript : List Exchange) (outcome : Except Fault Phase) : Prop where
  reads : ∀ exchange ∈ transcript, exchange.mutates = false ∧ exchange.call ≠ .probe
  unreported : ∀ isHealthy, outcome ≠ .ok (.steady isHealthy)

/-- A pass has a release, and asks nothing but the cluster from then on. -/
structure Installing (namespaceName name : String) (transcript : List Exchange)
    (outcome : Except Fault Phase) : Prop where
  opens : ∃ installation manifest rest,
    transcript = opening namespaceName name installation manifest ++ rest ∧
      ∀ exchange ∈ rest, exchange.call.isCluster = true
  unreported : ∀ isHealthy, outcome ≠ .ok (.steady isHealthy)

/-- A pass reads only, follows the health of an installation, or installs something. -/
theorem Course.reading_or_following_or_installing
    {namespaceName name : String}
    {transcript : List Exchange} {outcome : Except Fault Phase}
    (course : Course namespaceName name transcript outcome) :
    Reading transcript outcome ∨
    (∃ installation marker rest,
      transcript = found namespaceName name installation ::
        markerLookup namespaceName (.ok (some marker)) :: rest ∧
      Following installation namespaceName name rest outcome) ∨
    Installing namespaceName name transcript outcome := by
  cases course with
  | unreadable | gone | markerUnreadable | unreleased =>
      refine .inl ⟨?_, by simp⟩
      simp [found, markerLookup, Exchange.mutates, Operation.ofCall?, Operation.isMutation]
  | followed installation marker rest _ follows =>
      exact .inr (.inl ⟨installation, marker, rest, rfl, follows⟩)
  | jobUnreadable installation manifest runs fault =>
      refine .inr (.inr ⟨⟨installation, manifest, _, rfl, ?_⟩, by simp⟩)
      simp [jobLookup, Call.isCluster]
  | waiting installation manifest runs job isRunning =>
      refine .inr (.inr ⟨⟨installation, manifest, _, rfl, ?_⟩, by simp⟩)
      simp [jobLookup, Call.isCluster]
  | rolledOut installation manifest runsNot rest ending rolls _ ends =>
      have may := mayInstall_isCluster installation
      have asks := rolls.leads.asks (may.asks_rollout manifest)
      refine .inr (.inr ⟨⟨installation, manifest, _, rfl, asks⟩, ?_⟩)
      rw [ends]
      cases ending <;> simp [Except.map]
  | started installation manifest runs rest ending starts _ ends =>
      have may := mayInstall_isCluster installation
      have asks := starts.leads.asks (may.asks_bootstrap manifest)
      refine .inr (.inr ⟨⟨installation, manifest, _, rfl, ?_⟩, ?_⟩)
      · exact List.forall_mem_cons.mpr ⟨rfl, asks⟩
      · rw [ends]
        cases ending <;> simp [Except.map]
  | resumed installation manifest runs job pods hasSucceeded adoption rest ending adopts rolls
      _ ends =>
      have may := mayInstall_isCluster installation
      have asksAdoption := adopts.leads.asks may.mayAdopt.asks_propagateSecrets
      have asks := rolls.leads.asks (may.asks_rollout manifest)
      refine .inr (.inr ⟨⟨installation, manifest, _, rfl, ?_⟩, ?_⟩)
      · rw [List.forall_mem_cons, List.forall_mem_append]
        exact ⟨rfl, asksAdoption, asks⟩
      · rw [ends]
        cases ending <;> simp [Except.map]

/-- What is asked in the beginning of a pass that installs something is answered. -/
theorem forall_mem_opening
    {property : Exchange → Prop}
    {namespaceName name : String} {installation : Installation} {manifest : Manifest}
    (finds : property (found namespaceName name installation))
    (marks : property (markerLookup namespaceName (.ok none)))
    (fetches : ∀ url, property ⟨.fetchRelease url, .ok manifest⟩) :
    ∀ exchange ∈ opening namespaceName name installation manifest, property exchange := by
  intro exchange member
  simp only [opening, List.mem_cons, List.not_mem_nil, or_false] at member
  rcases member with rfl | rfl | rfl
  · exact finds
  · exact marks
  · exact fetches _

/-- A pass whose release or probe is not answered asks for no change at all. -/
theorem Course.not_mutates
    {namespaceName name : String}
    {transcript : List Exchange} {outcome : Except Fault Phase}
    (course : Course namespaceName name transcript outcome)
    (unanswered : ∃ exchange ∈ transcript, exchange.isUnanswered = true) :
    ∀ exchange ∈ transcript, exchange.mutates = false := by
  rcases course.reading_or_following_or_installing with
    reading | ⟨installation, marker, rest, rfl, follows⟩ | installing
  · exact fun exchange member => (reading.reads exchange member).1
  · cases follows with
    | unanswered fault =>
        simp [found, markerLookup, Exchange.mutates, Operation.ofCall?, Operation.isMutation]
    | healthy | unhealthy =>
        simp [found, markerLookup, Exchange.isUnanswered] at unanswered
  · obtain ⟨installation, manifest, rest, rfl, asks⟩ := installing.opens
    have answered : ∀ exchange ∈ opening namespaceName name installation manifest ++ rest,
        exchange.isUnanswered = false := by
      refine List.forall_mem_append.mpr ⟨forall_mem_opening rfl rfl fun url => rfl, ?_⟩
      intro exchange member
      have asked := asks exchange member
      obtain ⟨call, answer⟩ := exchange
      cases call with
      | cluster call => rfl
      | fetchRelease url => cases asked
      | probe => cases asked
    obtain ⟨exchange, member, isUnanswered⟩ := unanswered
    rw [answered exchange member] at isUnanswered
    cases isUnanswered

/-- What asks for no change leaves every store as it is. -/
theorem unchanged_of_not_mutates
    {permitted : ClusterCall → Verdict → Prop} {store after : Store}
    {transcript : List Exchange}
    (reads : ∀ exchange ∈ transcript, exchange.mutates = false)
    (explains : Store.Explains permitted store transcript after) :
    after = store := by
  induction transcript generalizing store with
  | nil => exact explains
  | cons exchange rest inductionHypothesis =>
      rw [List.forall_mem_cons] at reads
      obtain ⟨middle, answers, explainsRest⟩ := explains
      have same : middle = store := by
        match exchange with
        | ⟨.fetchRelease _, _⟩ | ⟨.probe, _⟩ => exact answers
        | ⟨.cluster (.lookup _ _ _), _⟩ => exact answers.lookup.1
        | ⟨.cluster (.publish _ _), _⟩ => exact answers.publish
        | ⟨.cluster (.create _ _ _), _⟩ | ⟨.cluster (.replace _ _ _ _), _⟩
        | ⟨.cluster (.patchStatus _ _ _), _⟩ =>
            simp [Exchange.mutates, Operation.ofCall?, Operation.isMutation] at reads
      rw [same] at explainsRest
      exact inductionHypothesis reads.2 explainsRest

/-! ## The fault of a pass -/

/-- What is known of a pass that fails. -/
structure Accounted (requeue : Nat) (transcript : List Exchange) (fault : Fault) : Prop where
  /-- The last call, and no other one, has raised the fault. -/
  stopped : Program.StoppedBy Exchange.raised? transcript fault
  /-- A change is waited for just when the status could not be set, for whatever reason. -/
  awaits : Action.ofFault requeue fault = .awaitChange ↔
    ∃ exchange ∈ transcript, exchange.refusesStatus = true
  /-- A failure of a service outside of the cluster is taken up again soon. -/
  requeues : fault.isExternal = true →
    Action.ofFault requeue fault = .requeueAfter requeue
  /-- Any other failure is taken up again after five minutes. -/
  waits : (∀ exchange ∈ transcript, exchange.refusesStatus = false) →
    fault.isExternal = false → Action.ofFault requeue fault = .requeueAfter 300000
  /-- Without a release or an answer of the probe nothing is changed. -/
  unchanged : (∃ exchange ∈ transcript, exchange.isUnanswered = true) →
    (∀ exchange ∈ transcript, exchange.mutates = false) ∧
      ∀ permitted before after,
        Store.Explains permitted before transcript after → after = before

/-- A change is waited for after the faults that tell of a status, and after no other. -/
theorem ofFault_eq_awaitChange_iff (requeue : Nat) (fault : Fault) :
    Action.ofFault requeue fault = .awaitChange ↔ ∃ cause, fault = .statusUpdate cause := by
  unfold Action.ofFault
  split
  · simp
  · rename_i other
    simpa using other

/-- After any other fault the pass is taken up again, soon or later. -/
theorem ofFault_eq_requeueAfter
    (requeue : Nat) {fault : Fault}
    (notWrapped : ¬ ∃ cause, fault = .statusUpdate cause) :
    Action.ofFault requeue fault =
      .requeueAfter (if fault.isExternal then requeue else 300000) := by
  unfold Action.ofFault
  split
  · exact absurd ⟨_, rfl⟩ notWrapped
  · rfl

/-- The status could not be set just when the fault tells of a status. -/
theorem exists_refusesStatus_iff
    {transcript : List Exchange} {fault : Fault}
    (plain : ∀ exchange ∈ transcript, exchange.isPlain = true)
    (stopped : Program.StoppedBy Exchange.raised? transcript fault) :
    (∃ exchange ∈ transcript, exchange.refusesStatus = true) ↔
      ∃ cause, fault = .statusUpdate cause := by
  constructor
  · rintro ⟨exchange, member, refuses⟩
    obtain ⟨cause, raises⟩ := Exchange.raised?_of_refusesStatus refuses
    exact ⟨cause, (stopped.eq_of_mem member raises).symm⟩
  · intro wrapped
    obtain ⟨exchange, member, raises⟩ := stopped.exists_mem
    exact ⟨exchange, member,
      (Exchange.refusesStatus_iff_of_raised? (plain exchange member) raises).mpr wrapped⟩

/--
The fault of a pass.  Whatever answers the calls of a pass, as long as no answer is
itself a fault that tells of a status, a pass that fails ends with what its last call has
raised, and when it is taken up again is told from this call.  A pass ends well just when
no call raises anything.
-/
theorem reconcile_accounted
    {σ : Type}
    (respond : Program.Responder Pass.interface σ)
    (state : σ)
    (namespaceName name : String)
    (requeue : Nat)
    (plain : ∀ exchange ∈ ((reconcile namespaceName name).run respond state).transcript,
      Exchange.isPlain exchange = true) :
    let run := (reconcile namespaceName name).run respond state
    (∀ fault, run.outcome = .error fault → Accounted requeue run.transcript fault) ∧
      ((∃ phase, run.outcome = .ok phase) ↔
        ∀ exchange ∈ run.transcript, Exchange.raised? exchange = none) := by
  intro run
  have yields := Program.run_yields respond (reconcile namespaceName name) state
  have ends := (relays_reconcile namespaceName name).of_yields yields
  constructor
  · intro fault fails
    rcases ends with ⟨phase, succeeds, -⟩ | ⟨other, failsToo, stopped⟩
    · rw [fails] at succeeds
      cases succeeds
    obtain rfl : fault = other := Except.error.inj (fails.symm.trans failsToo)
    have refused := exists_refusesStatus_iff plain stopped
    constructor
    case stopped => exact stopped
    case awaits => rw [ofFault_eq_awaitChange_iff, refused]
    case requeues =>
      intro external
      rw [ofFault_eq_requeueAfter requeue, external]
      · rfl
      · rintro ⟨cause, rfl⟩
        cases external
    case waits =>
      intro written notExternal
      have notWrapped : ¬ ∃ cause, fault = .statusUpdate cause := by
        rw [← refused]
        rintro ⟨exchange, member, refuses⟩
        rw [written exchange member] at refuses
        cases refuses
      rw [ofFault_eq_requeueAfter requeue notWrapped, notExternal]
      rfl
    case unchanged =>
      intro unanswered
      have reads := (yields_reconcile yields).not_mutates unanswered
      exact ⟨reads, fun _ _ _ explains => unchanged_of_not_mutates reads explains⟩
  · rcases ends with ⟨phase, succeeds, quiet⟩ | ⟨fault, fails, stopped⟩
    · exact ⟨fun _ => quiet, fun _ => ⟨phase, succeeds⟩⟩
    · obtain ⟨exchange, member, raises⟩ := stopped.exists_mem
      constructor
      · rintro ⟨phase, succeeds⟩
        rw [fails] at succeeds
        cases succeeds
      · intro quiet
        rw [quiet exchange member] at raises
        cases raises

/-- The world in which no status can be set, as a service in front of the cluster says. -/
def refusingStatus : Outside :=
  { Outside.calm with
    verdict := fun
      | _, .patchStatus _ _ _ => .refuse (.methodFailed "Patch" 503 "upstream is down")
      | _, _ => .carryOut }

/--
A pass over `demo` whose status cannot be set is not taken up again by itself, although
what kept it from being set is a failure of a service outside of the cluster.
-/
theorem reconcile_accounted_refusingStatus :
    let marker : Object .deployment :=
      ⟨{ Metadata.empty with name := some markerDeployment }, []⟩
    let store := (Store.empty.insert "lm" (Installation.demo false)).insert "lm" marker
    let run := (reconcile "lm" "demo").run refusingStatus.respond ⟨store, 0⟩
    let fault := Fault.statusUpdate (.methodFailed "Patch" 503 "upstream is down")
    run.outcome = .error fault ∧ Accounted 10000 run.transcript fault ∧
      Action.ofFault 10000 fault = .awaitChange := by
  refine ⟨by decide +kernel, ?_, rfl⟩
  exact (reconcile_accounted refusingStatus.respond _ "lm" "demo" 10000
    (by decide +kernel)).1 _ (by decide +kernel)

end Pass
end LifecycleOperator
