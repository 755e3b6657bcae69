import LifecycleOperator.Pass.Phase
import LifecycleOperator.Proofs.Pass.Requirement

/-!
# The courses of a pass

A pass over an installation takes one of a few courses, and which one it takes
depends on what it finds: the marker, the release, and the Job of the configurator.
The courses are listed once, each with all that is asked in it and how it ends.
What a pass can do, in whatever world, is then a matter of going through the list.
-/

namespace LifecycleOperator
namespace Pass

/-! ## Rolling out -/

/--
A rollout fails where making sure of its objects fails; otherwise it tells that it
is complete.
-/
theorem yields_rollout
    {installation : Installation} {manifest : Manifest}
    {transcript : List Exchange} {outcome : Except Fault Progress}
    (yields : (rollout installation
      (installation.specification.profile manifest)).Yields transcript outcome) :
    (∃ fault, outcome = .error fault ∧
      (ensureEach installation (rolloutRequirements installation manifest)).Yields
        transcript (.error fault)) ∨
    ∃ front told, outcome = .ok .complete ∧
      transcript = front ++ [⟨.cluster (.publish installation
        (.rolloutComplete installation.anyName ServiceBase.rolledOut.length)), told⟩] ∧
      (ensureEach installation (rolloutRequirements installation manifest)).Yields
        front (.ok ()) := by
  rw [rollout_eq] at yields
  rcases Program.yields_bind_iff.mp yields with
    ⟨fault, fails, rfl⟩ | ⟨_, front, back, goesWell, tells, rfl⟩
  · exact .inl ⟨fault, rfl, fails⟩
  · obtain ⟨told, rest, rfl, ends⟩ := Program.yields_ask_iff.mp tells
    obtain ⟨rfl, rfl⟩ := Program.yields_done_iff.mp ends
    exact .inr ⟨front, told, rfl, rfl, goesWell⟩

/-- A rollout adds at most what it makes sure of, and leaves all that was stored as it is. -/
theorem placedAmong_of_yields_rollout
    {installation : Installation} {manifest : Manifest}
    {transcript : List Exchange} {outcome : Except Fault Progress}
    {permitted : ClusterCall → Verdict → Prop} {store after : Store}
    (yields : (rollout installation
      (installation.specification.profile manifest)).Yields transcript outcome)
    (explains : Store.Explains permitted store transcript after) :
    Store.Grows (PlacedAmong installation (rolloutRequirements installation manifest))
      store after := by
  rcases yields_rollout yields with
    ⟨fault, -, ensures⟩ | ⟨front, told, -, rfl, ensures⟩
  · exact grows_of_yields_ensureEach ensures explains
  · obtain ⟨middle, explainsFront, tells⟩ := Store.explains_append.mp explains
    obtain rfl := tells.publish
    exact grows_of_yields_ensureEach ensures explainsFront

/-! ## Adopting secrets -/

/-- The ways in which adopting a secret can go; none of them is a failure. -/
inductive Adopting (installation : Installation) (reference : OwnerReference) (name : String) :
    List Exchange → Prop
  /-- The secret cannot be looked up. -/
  | unreadable (fault : Fault) :
      Adopting installation reference name
        [⟨.cluster (.lookup .secret installation.namespaceName name), .error fault⟩]
  /-- There is no such secret. -/
  | missing :
      Adopting installation reference name
        [⟨.cluster (.lookup .secret installation.namespaceName name), .ok none⟩]
  /-- The secret has its owner already. -/
  | owned (secret : Object .secret)
      (isOwned : secret.metadata.isOwnedBy reference.uid = true) :
      Adopting installation reference name
        [⟨.cluster (.lookup .secret installation.namespaceName name), .ok (some secret)⟩]
  /-- The secret cannot be written. -/
  | unwritable (secret : Object .secret)
      (notOwned : secret.metadata.isOwnedBy reference.uid = false) (fault : Fault) :
      Adopting installation reference name
        [⟨.cluster (.lookup .secret installation.namespaceName name), .ok (some secret)⟩,
          ⟨.cluster (.replace .secret installation.namespaceName name
            { secret with metadata := secret.metadata.adoptedBy reference }),
            .error fault⟩]
  /-- The secret is adopted, which is then told. -/
  | adopted (secret : Object .secret)
      (notOwned : secret.metadata.isOwnedBy reference.uid = false)
      (answer : Object .secret) (told : Except Fault Unit) :
      Adopting installation reference name
        [⟨.cluster (.lookup .secret installation.namespaceName name), .ok (some secret)⟩,
          ⟨.cluster (.replace .secret installation.namespaceName name
            { secret with metadata := secret.metadata.adoptedBy reference }),
            .ok answer⟩,
          ⟨.cluster (.publish installation
            (.adopted installation.anyName name (some answer.reference))), told⟩]

/-- Adopting a secret goes in one of these ways, and always succeeds. -/
theorem yields_propagateSecret
    {installation : Installation} {reference : OwnerReference} {name : String}
    {transcript : List Exchange} {outcome : Except Fault Unit}
    (yields : (propagateSecret installation reference name).Yields transcript outcome) :
    Adopting installation reference name transcript ∧ outcome = .ok () := by
  obtain ⟨found, rest, rfl, afterLookup⟩ := Program.yields_ask_iff.mp yields
  cases found with
  | error fault =>
      obtain ⟨rfl, rfl⟩ := Program.yields_done_iff.mp afterLookup
      exact ⟨.unreadable fault, rfl⟩
  | ok found =>
      cases found with
      | none =>
          obtain ⟨rfl, rfl⟩ := Program.yields_done_iff.mp afterLookup
          exact ⟨.missing, rfl⟩
      | some secret =>
          simp only at afterLookup
          split at afterLookup
          · rename_i isOwned
            obtain ⟨rfl, rfl⟩ := Program.yields_done_iff.mp afterLookup
            exact ⟨.owned secret isOwned, rfl⟩
          · rename_i notOwned
            have notOwned := Bool.eq_false_iff.mpr notOwned
            obtain ⟨answer, rest, rfl, afterReplacement⟩ :=
              Program.yields_ask_iff.mp afterLookup
            cases answer with
            | error fault =>
                obtain ⟨rfl, rfl⟩ := Program.yields_done_iff.mp afterReplacement
                exact ⟨.unwritable secret notOwned fault, rfl⟩
            | ok answer =>
                obtain ⟨told, rest, rfl, afterEvent⟩ :=
                  Program.yields_ask_iff.mp afterReplacement
                obtain ⟨rfl, rfl⟩ := Program.yields_done_iff.mp afterEvent
                exact ⟨.adopted secret notOwned answer told, rfl⟩

/-- Secrets are adopted one after the other, however each of them goes. -/
inductive AdoptingEach (installation : Installation) (reference : OwnerReference) :
    List String → List Exchange → Prop
  | nil : AdoptingEach installation reference [] []
  | cons {name : String} {rest : List String} {front back : List Exchange}
      (first : Adopting installation reference name front)
      (others : AdoptingEach installation reference rest back) :
      AdoptingEach installation reference (name :: rest) (front ++ back)

/-- Adopting secrets goes in this way, and always succeeds. -/
theorem yields_propagateEach
    {installation : Installation} {reference : OwnerReference} {names : List String}
    {transcript : List Exchange} {outcome : Except Fault Unit}
    (yields : (propagateEach installation reference names).Yields transcript outcome) :
    AdoptingEach installation reference names transcript ∧ outcome = .ok () := by
  induction names generalizing transcript with
  | nil =>
      obtain ⟨rfl, rfl⟩ := Program.yields_done_iff.mp yields
      exact ⟨.nil, rfl⟩
  | cons name rest inductionHypothesis =>
      rcases Program.yields_bind_iff.mp yields with
        ⟨fault, fails, -⟩ | ⟨_, front, back, first, others, rfl⟩
      · cases (yields_propagateSecret fails).2
      · obtain ⟨adopting, succeeds⟩ := inductionHypothesis others
        exact ⟨.cons (yields_propagateSecret first).1 adopting, succeeds⟩

/-- Only an installation that can be referred to adopts its secrets. -/
theorem yields_propagateSecrets
    {installation : Installation}
    {transcript : List Exchange} {outcome : Except Fault Unit}
    (yields : (propagateSecrets installation).Yields transcript outcome) :
    outcome = .ok () ∧
      (installation.ownerReference? = none ∧ transcript = [] ∨
        ∃ reference, installation.ownerReference? = some reference ∧
          AdoptingEach installation reference bootstrapSecrets transcript) := by
  unfold propagateSecrets at yields
  cases owner : installation.ownerReference? with
  | none =>
      simp only [owner] at yields
      obtain ⟨rfl, rfl⟩ := Program.yields_done_iff.mp yields
      exact ⟨rfl, .inl ⟨rfl, rfl⟩⟩
  | some reference =>
      simp only [owner] at yields
      obtain ⟨adopting, succeeds⟩ := yields_propagateEach yields
      exact ⟨succeeds, .inr ⟨reference, rfl, adopting⟩⟩

/-! ## Following the health -/

/-- How a pass ends that has tried to write the status. -/
def reported (isHealthy : Bool) : Except Fault Unit → Except Fault Phase
  | .ok _ => .ok (.steady isHealthy)
  | .error fault => .error (.statusUpdate fault)

/-- The ways in which following the health of an installation can go. -/
inductive Following (installation : Installation) (namespaceName name : String) :
    List Exchange → Except Fault Phase → Prop
  /-- The probe gets no answer. -/
  | unanswered (fault : Fault) :
      Following installation namespaceName name
        [⟨.probe, .error fault⟩] (.error fault)
  /-- All is well, and the status is written. -/
  | healthy (answer : Except Fault Unit)
      (outcome : Except Fault Phase) (ends : outcome = reported true answer) :
      Following installation namespaceName name
        [⟨.probe, .ok true⟩,
          ⟨.cluster (.patchStatus namespaceName name ⟨true⟩), answer⟩]
        outcome
  /-- Not all is well, which is told, and the status is written. -/
  | unhealthy (told : Except Fault Unit) (answer : Except Fault Unit)
      (outcome : Except Fault Phase) (ends : outcome = reported false answer) :
      Following installation namespaceName name
        [⟨.probe, .ok false⟩,
          ⟨.cluster (.publish installation (.unhealthy name)), told⟩,
          ⟨.cluster (.patchStatus namespaceName name ⟨false⟩), answer⟩]
        outcome

/-- Following the health of an installation goes in one of these ways. -/
theorem yields_follow
    {installation : Installation} {namespaceName name : String}
    {transcript : List Exchange} {outcome : Except Fault Phase}
    (yields : (follow installation namespaceName name).Yields transcript outcome) :
    Following installation namespaceName name transcript outcome := by
  obtain ⟨health, rest, rfl, afterProbe⟩ := Program.yields_ask_iff.mp yields
  cases health with
  | error fault =>
      obtain ⟨rfl, rfl⟩ := Program.yields_done_iff.mp afterProbe
      exact .unanswered fault
  | ok isHealthy =>
      cases isHealthy with
      | true =>
          obtain ⟨answer, rest, rfl, afterUpdate⟩ := Program.yields_ask_iff.mp afterProbe
          cases answer <;>
            obtain ⟨rfl, rfl⟩ := Program.yields_done_iff.mp afterUpdate
          · exact .healthy (.error _) _ rfl
          · exact .healthy (.ok _) _ rfl
      | false =>
          obtain ⟨told, rest, rfl, afterEvent⟩ := Program.yields_ask_iff.mp afterProbe
          obtain ⟨answer, rest, rfl, afterUpdate⟩ := Program.yields_ask_iff.mp afterEvent
          cases answer <;>
            obtain ⟨rfl, rfl⟩ := Program.yields_done_iff.mp afterUpdate
          · exact .unhealthy told (.error _) _ rfl
          · exact .unhealthy told (.ok _) _ rfl

/-! ## The whole pass -/

/-- An installation is found. -/
def found (namespaceName name : String) (installation : Installation) : Exchange :=
  ⟨.cluster (.lookup .installation namespaceName name), .ok (some installation)⟩

/-- The marker is looked up. -/
def markerLookup (namespaceName : String)
    (answer : Except Fault (Option (Object .deployment))) : Exchange :=
  ⟨.cluster (.lookup .deployment namespaceName markerDeployment), answer⟩

/-- What the Job of the configurator is found by. -/
def jobKey (installation : Installation) : Key :=
  ⟨.job, installation.namespaceName, installation.jobName⟩

/-- The Job of the configurator is looked up. -/
def jobLookup (installation : Installation)
    (answer : Except Fault (Option (Object .job))) : Exchange :=
  ⟨.cluster (.lookup .job installation.namespaceName installation.jobName), answer⟩

/-- How a pass begins that is to install something. -/
def opening (namespaceName name : String) (installation : Installation) (manifest : Manifest) :
    List Exchange :=
  [found namespaceName name installation, markerLookup namespaceName (.ok none),
    ⟨.fetchRelease installation.specification.release, .ok manifest⟩]

/-- The courses of a pass. -/
inductive Course (namespaceName name : String) : List Exchange → Except Fault Phase → Prop
  /-- The installation cannot be looked up. -/
  | unreadable (fault : Fault) :
      Course namespaceName name
        [⟨.cluster (.lookup .installation namespaceName name), .error fault⟩]
        (.error fault)
  /-- The installation is gone. -/
  | gone :
      Course namespaceName name
        [⟨.cluster (.lookup .installation namespaceName name), .ok none⟩]
        (.ok .gone)
  /-- The marker cannot be looked up. -/
  | markerUnreadable (installation : Installation) (fault : Fault) :
      Course namespaceName name
        [found namespaceName name installation,
          markerLookup namespaceName (.error fault)]
        (.error fault)
  /-- The marker is there, and the health is followed. -/
  | followed (installation : Installation) (marker : Object .deployment)
      (rest : List Exchange) (outcome : Except Fault Phase)
      (follows : Following installation namespaceName name rest outcome) :
      Course namespaceName name
        (found namespaceName name installation ::
          markerLookup namespaceName (.ok (some marker)) :: rest)
        outcome
  /-- The release cannot be fetched. -/
  | unreleased (installation : Installation) (fault : Fault) :
      Course namespaceName name
        [found namespaceName name installation, markerLookup namespaceName (.ok none),
          ⟨.fetchRelease installation.specification.release, .error fault⟩]
        (.error fault)
  /-- There is no configurator to run, and everything is rolled out. -/
  | rolledOut (installation : Installation) (manifest : Manifest)
      (runsNot : installation.specification.configurator.run = false)
      (rest : List Exchange) (ending : Except Fault Progress)
      (rolls : (rollout installation
        (installation.specification.profile manifest)).Yields rest ending)
      (outcome : Except Fault Phase) (ends : outcome = ending.map .rollout) :
      Course namespaceName name
        (opening namespaceName name installation manifest ++ rest) outcome
  /-- The Job of the configurator cannot be looked up. -/
  | jobUnreadable (installation : Installation) (manifest : Manifest)
      (runs : installation.specification.configurator.run = true) (fault : Fault) :
      Course namespaceName name
        (opening namespaceName name installation manifest ++
          [jobLookup installation (.error fault)])
        (.error fault)
  /-- There is no Job yet, and the configurator is started. -/
  | started (installation : Installation) (manifest : Manifest)
      (runs : installation.specification.configurator.run = true)
      (rest : List Exchange) (ending : Except Fault Unit)
      (starts : (ensureEach installation
        (bootstrapRequirements installation manifest)).Yields rest ending)
      (outcome : Except Fault Phase) (ends : outcome = ending.map fun _ => .jobCreated) :
      Course namespaceName name
        (opening namespaceName name installation manifest ++
          jobLookup installation (.ok none) :: rest)
        outcome
  /-- The Job has not succeeded yet, and is waited for. -/
  | waiting (installation : Installation) (manifest : Manifest)
      (runs : installation.specification.configurator.run = true)
      (job : Object .job) (isRunning : JobObservation.ofJob? (some job) = .running) :
      Course namespaceName name
        (opening namespaceName name installation manifest ++
          [jobLookup installation (.ok (some job))])
        (.ok .jobRunning)
  /-- The Job has succeeded: its secrets are adopted, and everything is rolled out. -/
  | resumed (installation : Installation) (manifest : Manifest)
      (runs : installation.specification.configurator.run = true)
      (job : Object .job) (pods : Int)
      (hasSucceeded : JobObservation.ofJob? (some job) = .succeeded pods)
      (adoption rest : List Exchange) (ending : Except Fault Progress)
      (adopts : (propagateSecrets installation).Yields adoption (.ok ()))
      (rolls : (rollout installation
        (installation.specification.profile manifest)).Yields rest ending)
      (outcome : Except Fault Phase) (ends : outcome = ending.map .rollout) :
      Course namespaceName name
        (opening namespaceName name installation manifest ++
          jobLookup installation (.ok (some job)) :: (adoption ++ rest))
        outcome

/-- The Job is looked up, and what is found is what is observed. -/
theorem yields_observeJob
    {installation : Installation}
    {transcript : List Exchange} {outcome : Except Fault JobObservation}
    (yields : (observeJob installation).Yields transcript outcome) :
    ∃ answer, transcript = [jobLookup installation answer] ∧
      outcome = answer.map .ofJob? := by
  obtain ⟨answer, rest, rfl, afterLookup⟩ := Program.yields_ask_iff.mp yields
  cases answer with
  | error fault =>
      obtain ⟨rfl, rfl⟩ := Program.yields_done_iff.mp afterLookup
      exact ⟨.error fault, rfl, rfl⟩
  | ok job =>
      obtain ⟨rfl, rfl⟩ := Program.yields_done_iff.mp afterLookup
      exact ⟨.ok job, rfl, rfl⟩

/-- A Job that is there is not observed as absent. -/
theorem ofJob?_some_ne_absent (job : Object .job) :
    JobObservation.ofJob? (some job) ≠ .absent := by
  simp only [JobObservation.ofJob?]
  split
  · split <;> simp
  · simp

/-- The ways in which driving the configurator can go. -/
inductive Gating (installation : Installation) (manifest : Manifest) :
    List Exchange → Except Fault Gate → Prop
  /-- The Job cannot be looked up. -/
  | unreadable (fault : Fault) :
      Gating installation manifest [jobLookup installation (.error fault)] (.error fault)
  /-- There is no Job yet, and the configurator is started. -/
  | started (rest : List Exchange) (ending : Except Fault Unit)
      (starts : (ensureEach installation
        (bootstrapRequirements installation manifest)).Yields rest ending)
      (outcome : Except Fault Gate)
      (ends : outcome = ending.map fun _ => .closed .complete) :
      Gating installation manifest (jobLookup installation (.ok none) :: rest) outcome
  /-- The Job has not succeeded yet. -/
  | waiting (job : Object .job) (isRunning : JobObservation.ofJob? (some job) = .running) :
      Gating installation manifest [jobLookup installation (.ok (some job))]
        (.ok (.closed .requeue))
  /-- The Job has succeeded, and its secrets are adopted. -/
  | opened (job : Object .job) (pods : Int)
      (hasSucceeded : JobObservation.ofJob? (some job) = .succeeded pods)
      (adoption : List Exchange)
      (adopts : (propagateSecrets installation).Yields adoption (.ok ())) :
      Gating installation manifest
        (jobLookup installation (.ok (some job)) :: adoption) (.ok .opened)

/-- Driving the configurator goes in one of these ways. -/
theorem yields_gate
    {installation : Installation} {manifest : Manifest}
    {transcript : List Exchange} {outcome : Except Fault Gate}
    (yields : (gate installation
      (installation.specification.profile manifest)).Yields transcript outcome) :
    Gating installation manifest transcript outcome := by
  rcases Program.yields_bind_iff.mp yields with
    ⟨fault, fails, rfl⟩ | ⟨observed, front, back, observes, continues, rfl⟩
  · obtain ⟨answer, rfl, equal⟩ := yields_observeJob fails
    cases answer with
    | ok job => cases equal
    | error cause =>
        cases equal
        exact .unreadable fault
  obtain ⟨answer, rfl, equal⟩ := yields_observeJob observes
  match answer with
  | .error cause => cases equal
  | .ok none =>
      cases equal
      rcases Program.yields_bind_iff.mp continues with
        ⟨fault, fails, rfl⟩ | ⟨_, front, last, starts, ends, rfl⟩
      · rw [startConfigurator_eq] at fails
        exact .started back (.error fault) fails _ rfl
      · obtain ⟨rfl, rfl⟩ := Program.yields_done_iff.mp ends
        rw [startConfigurator_eq] at starts
        rw [List.append_nil]
        exact .started front (.ok ()) starts _ rfl
  | .ok (some job) =>
      have seen : JobObservation.ofJob? (some job) = observed :=
        (Except.ok.inj equal).symm
      cases observed with
      | absent => exact absurd seen (ofJob?_some_ne_absent job)
      | running =>
          obtain ⟨rfl, rfl⟩ := Program.yields_done_iff.mp continues
          exact .waiting job seen
      | succeeded pods =>
          rcases Program.yields_bind_iff.mp continues with
            ⟨fault, fails, -⟩ | ⟨_, front, last, adopts, ends, rfl⟩
          · cases (yields_propagateSecrets fails).1
          · obtain ⟨rfl, rfl⟩ := Program.yields_done_iff.mp ends
            rw [List.append_nil]
            exact .opened job pods seen front adopts

/-- A rollout that is part of a pass ends the pass. -/
theorem yields_rollout_phase
    {installation : Installation} {profile : DeploymentProfile}
    {transcript : List Exchange} {outcome : Except Fault Phase}
    (yields : (rollout installation profile >>= fun progress =>
      (pure (.rollout progress) : Pass Phase)).Yields transcript outcome) :
    ∃ ending, outcome = ending.map .rollout ∧
      (rollout installation profile).Yields transcript ending := by
  rcases Program.yields_bind_iff.mp yields with
    ⟨fault, fails, rfl⟩ | ⟨progress, front, back, rolls, ends, rfl⟩
  · exact ⟨.error fault, rfl, fails⟩
  · obtain ⟨rfl, rfl⟩ := Program.yields_done_iff.mp ends
    rw [List.append_nil]
    exact ⟨.ok progress, rfl, rolls⟩

/-- The release is fetched, and makes the profile. -/
theorem yields_resolve
    {installation : Installation}
    {transcript : List Exchange} {outcome : Except Fault DeploymentProfile}
    (yields : (resolve installation).Yields transcript outcome) :
    ∃ answer,
      transcript = [⟨.fetchRelease installation.specification.release, answer⟩] ∧
      outcome = answer.map installation.specification.profile := by
  obtain ⟨answer, rest, rfl, afterFetch⟩ := Program.yields_ask_iff.mp yields
  cases answer with
  | error fault =>
      obtain ⟨rfl, rfl⟩ := Program.yields_done_iff.mp afterFetch
      exact ⟨.error fault, rfl, rfl⟩
  | ok manifest =>
      obtain ⟨rfl, rfl⟩ := Program.yields_done_iff.mp afterFetch
      exact ⟨.ok manifest, rfl, rfl⟩

/-- What a pass does once the gate has said how far the configurator is. -/
def afterGate (installation : Installation) (profile : DeploymentProfile) :
    Gate → Pass Phase
  | .opened => do return .rollout (← rollout installation profile)
  | .closed .complete => return .jobCreated
  | .closed .requeue => return .jobRunning

/-- A pass that is to run the configurator takes one of the courses for that. -/
theorem course_of_yields_gate
    {namespaceName name : String} (installation : Installation) (manifest : Manifest)
    (runs : installation.specification.configurator.run = true)
    {transcript : List Exchange} {outcome : Except Fault Phase}
    (yields : (gate installation (installation.specification.profile manifest) >>=
      afterGate installation (installation.specification.profile manifest)).Yields
        transcript outcome) :
    Course namespaceName name
      (opening namespaceName name installation manifest ++ transcript) outcome := by
  rcases Program.yields_bind_iff.mp yields with
    ⟨fault, fails, rfl⟩ | ⟨state, front, back, gates, continues, rfl⟩
  · cases yields_gate fails with
    | unreadable _ => exact .jobUnreadable installation manifest runs fault
    | started rest ending starts _ ends =>
        cases ending with
        | ok => cases ends
        | error cause =>
            cases ends
            exact .started installation manifest runs rest (.error fault) starts _ rfl
  · cases yields_gate gates with
    | waiting job isRunning =>
        obtain ⟨rfl, rfl⟩ := Program.yields_done_iff.mp continues
        exact .waiting installation manifest runs job isRunning
    | opened job pods hasSucceeded adoption adopts =>
        obtain ⟨ending, ends, rolls⟩ := yields_rollout_phase continues
        exact .resumed installation manifest runs job pods hasSucceeded adoption back
          ending adopts rolls outcome ends
    | started rest ending starts _ ends =>
        cases ending with
        | error cause => cases ends
        | ok =>
            cases ends
            obtain ⟨rfl, rfl⟩ := Program.yields_done_iff.mp continues
            rw [List.append_nil]
            exact .started installation manifest runs rest (.ok ()) starts _ rfl

/-- A pass that is to install something takes one of the courses for that. -/
theorem course_of_yields_install
    {namespaceName name : String} (installation : Installation)
    {transcript : List Exchange} {outcome : Except Fault Phase}
    (yields : (install installation).Yields transcript outcome) :
    Course namespaceName name
      (found namespaceName name installation ::
        markerLookup namespaceName (.ok none) :: transcript)
      outcome := by
  rcases Program.yields_bind_iff.mp yields with
    ⟨fault, fails, rfl⟩ | ⟨profile, front, back, resolves, continues, rfl⟩
  · obtain ⟨answer, rfl, equal⟩ := yields_resolve fails
    cases answer with
    | ok manifest => cases equal
    | error cause =>
        cases equal
        exact .unreleased installation fault
  obtain ⟨answer, rfl, equal⟩ := yields_resolve resolves
  cases answer with
  | error cause => cases equal
  | ok manifest =>
      cases equal
      cases runs : installation.specification.configurator.run with
      | false =>
          simp only [runs, Bool.false_eq_true, if_false, pure_bind] at continues
          obtain ⟨ending, ends, rolls⟩ := yields_rollout_phase continues
          exact .rolledOut installation manifest runs back ending rolls outcome ends
      | true =>
          simp only [runs, if_true] at continues
          exact course_of_yields_gate installation manifest runs continues

/-- Every pass takes one of the courses. -/
theorem yields_reconcile
    {namespaceName name : String}
    {transcript : List Exchange} {outcome : Except Fault Phase}
    (yields : (reconcile namespaceName name).Yields transcript outcome) :
    Course namespaceName name transcript outcome := by
  obtain ⟨sought, rest, rfl, afterLookup⟩ := Program.yields_ask_iff.mp yields
  cases sought with
  | error fault =>
      obtain ⟨rfl, rfl⟩ := Program.yields_done_iff.mp afterLookup
      exact .unreadable fault
  | ok sought =>
      cases sought with
      | none =>
          obtain ⟨rfl, rfl⟩ := Program.yields_done_iff.mp afterLookup
          exact .gone
      | some installation =>
          obtain ⟨marked, rest, rfl, afterMarker⟩ := Program.yields_ask_iff.mp afterLookup
          cases marked with
          | error fault =>
              obtain ⟨rfl, rfl⟩ := Program.yields_done_iff.mp afterMarker
              exact .markerUnreadable installation fault
          | ok marked =>
              cases marked with
              | some marker =>
                  exact .followed installation marker rest outcome
                    (yields_follow afterMarker)
              | none => exact course_of_yields_install installation afterMarker

/-- The beginning of a pass that installs something changes nothing. -/
theorem explains_opening
    {namespaceName name : String} {installation : Installation} {manifest : Manifest}
    {rest : List Exchange} {permitted : ClusterCall → Verdict → Prop} {store after : Store}
    (explains : Store.Explains permitted store
      (opening namespaceName name installation manifest ++ rest) after) :
    store.find? ⟨.installation, namespaceName, name⟩ = some installation ∧
      ¬ store.Has ⟨.deployment, namespaceName, markerDeployment⟩ ∧
      Store.Explains permitted store rest after := by
  obtain ⟨stored, afterLookup⟩ := Store.Explains.lookup explains
  obtain ⟨unmarked, afterMarker⟩ := afterLookup.lookup
  refine ⟨stored _ rfl, ?_, afterMarker.fetchRelease⟩
  simp [Store.Has, unmarked _ rfl]

end Pass
end LifecycleOperator
