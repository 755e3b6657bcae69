import LifecycleOperator.Proofs.Pass.Creation
import LifecycleOperator.Proofs.Store.Outside

/-!
# The gate in front of the rollout

As long as the configurator is to run, nothing is rolled out before its Job has
succeeded.  The order of the exchanges of a pass tells so: whatever the world
answers, a creation that belongs to the rollout comes after a look-up that found
the Job succeeded, and after all secrets were looked up.  While the Job runs the
pass changes nothing, and where there is no Job yet it creates only what the
configurator is started from.
-/

namespace LifecycleOperator
namespace Pass

/-- A Job tells that a positive number of its pods has succeeded. -/
def HasSucceeded (job : Object .job) : Prop :=
  ∃ pods, JobObservation.succeededPods? job = some pods ∧ 0 < pods

/-- What was found when a pass looked at the Job for the first time. -/
def FindsJob
    (installation : Installation) (transcript : List Exchange)
    (answer : Except Fault (Option (Object .job))) : Prop :=
  transcript.find? (fun exchange => exchange.lookedUp? == some (jobKey installation)) =
    some (jobLookup installation answer)

/--
A transcript goes through the gate: nothing is created before the Job was found to
have succeeded, and nothing before all secrets were looked up after that, if the
installation has a name and an identity.
-/
def GoesThroughGate (installation : Installation) (transcript : List Exchange) : Prop :=
  ∃ before job adoption after,
    transcript = before ++ jobLookup installation (.ok (some job)) :: (adoption ++ after) ∧
    HasSucceeded job ∧ creations before = [] ∧ creations adoption = [] ∧
    (installation.metadata.name.isSome → installation.metadata.uid.isSome →
      ∀ name ∈ bootstrapSecrets, ∃ exchange ∈ adoption,
        exchange.lookedUp? = some ⟨.secret, installation.namespaceName, name⟩)

/-- How a pass has to go over an installation that is to run the configurator. -/
structure Gated (installation : Installation) (transcript : List Exchange)
    (outcome : Except Fault Phase) : Prop where
  /-- Whatever is rolled out is rolled out behind the gate. -/
  rollout : ∀ key ∈ creations transcript, key ∈ installation.rolloutKeys →
    GoesThroughGate installation transcript
  /-- While the Job runs nothing is changed, and the pass asks to be taken up again. -/
  waiting : ∀ job, FindsJob installation transcript (.ok (some job)) →
    ¬ HasSucceeded job →
      (∀ exchange ∈ transcript, exchange.mutates = false) ∧ outcome = .ok .jobRunning
  /-- Where there is no Job, only what it is started from is created, in its order. -/
  starting : FindsJob installation transcript (.ok none) →
    (creations transcript).Sublist installation.bootstrapKeys ∧ OnlyCreates transcript

/-- A Job is observed as running just when it has not succeeded. -/
theorem ofJob?_eq_running_iff (job : Object .job) :
    JobObservation.ofJob? (some job) = .running ↔ ¬ HasSucceeded job := by
  unfold JobObservation.ofJob? HasSucceeded
  cases told : JobObservation.succeededPods? job with
  | none => simp [told]
  | some pods =>
      simp only [told, Option.some.injEq, exists_eq_left']
      split
      · rename_i positive
        simp [positive]
      · rename_i notPositive
        simp [notPositive]

/-- A Job that is observed as succeeded has succeeded. -/
theorem hasSucceeded_of_ofJob?
    {job : Object .job} {pods : Int}
    (observed : JobObservation.ofJob? (some job) = .succeeded pods) :
    HasSucceeded job := by
  by_contra hasNot
  rw [(ofJob?_eq_running_iff job).mpr hasNot] at observed
  cases observed

/-- The first look at the Job comes right after the beginning of the pass. -/
theorem findsJob_opening_iff
    {namespaceName name : String} {installation : Installation} {manifest : Manifest}
    {answer seen : Except Fault (Option (Object .job))} {rest : List Exchange} :
    FindsJob installation
      (opening namespaceName name installation manifest ++
        jobLookup installation answer :: rest) seen ↔ seen = answer := by
  have first : (opening namespaceName name installation manifest ++
      jobLookup installation answer :: rest).find?
        (fun exchange => exchange.lookedUp? == some (jobKey installation)) =
          some (jobLookup installation answer) := by
    simp [opening, found, markerLookup, jobLookup, jobKey, Exchange.lookedUp?]
  unfold FindsJob
  rw [first, Option.some.injEq]
  constructor
  · intro equal
    cases equal
    rfl
  · rintro rfl
    rfl

/-- A pass that follows the health never looks at the Job. -/
theorem not_findsJob_of_following
    {installation : Installation} {namespaceName name : String}
    {marked : Except Fault (Option (Object .deployment))}
    {rest : List Exchange} {outcome : Except Fault Phase}
    (follows : Following installation namespaceName name rest outcome)
    (seen : Except Fault (Option (Object .job))) :
    ¬ FindsJob installation
      (found namespaceName name installation :: markerLookup namespaceName marked :: rest)
      seen := by
  cases follows <;>
    simp [FindsJob, found, markerLookup, jobKey, Exchange.lookedUp?]

/-- An installation that was found is the one that was meant. -/
theorem found_injective
    {namespaceName name : String} {first second : Installation}
    (equal : found namespaceName name first = found namespaceName name second) :
    first = second := by
  cases equal
  rfl

/-- A pass that creates nothing and sees nothing of the Job has nothing to keep to. -/
theorem gated_of_unseen
    {installation : Installation} {transcript : List Exchange}
    {outcome : Except Fault Phase}
    (createsNothing : creations transcript = [])
    (unseen : ∀ job, ¬ FindsJob installation transcript (.ok job)) :
    Gated installation transcript outcome where
  rollout := by
    intro key member
    rw [createsNothing] at member
    cases member
  waiting := fun job finds => absurd finds (unseen (some job))
  starting := fun finds => absurd finds (unseen none)

/-- A pass that starts the configurator creates only what it is started from. -/
theorem gated_of_started
    {namespaceName name : String} {installation : Installation} {manifest : Manifest}
    {rest : List Exchange} {ending : Except Fault Unit} {outcome : Except Fault Phase}
    (starts : (ensureEach installation
      (bootstrapRequirements installation manifest)).Yields rest ending) :
    Gated installation
      (opening namespaceName name installation manifest ++
        jobLookup installation (.ok none) :: rest)
      outcome := by
  obtain ⟨sublist, onlyCreates⟩ := creations_of_yields_ensureEach starts
  rw [map_key_bootstrapRequirements] at sublist
  refine ⟨?_, ?_, ?_⟩
  · intro key member isRollout
    have isBootstrap : key ∈ installation.bootstrapKeys := sublist.subset member
    exact absurd isRollout
      (installation.not_mem_rolloutKeys_of_mem_bootstrapKeys isBootstrap)
  · intro job finds
    cases findsJob_opening_iff.mp finds
  · intro finds
    refine ⟨sublist, ?_⟩
    have beginning : OnlyCreates (opening namespaceName name installation manifest ++
        [jobLookup installation (.ok none)]) := by
      simp [OnlyCreates, opening, found, markerLookup, jobLookup, Exchange.mutates,
        Operation.ofCall?, Operation.isMutation]
    simpa using beginning.append onlyCreates

/-- A pass that finds the Job succeeded rolls everything out behind the gate. -/
theorem gated_of_resumed
    {namespaceName name : String} {installation : Installation} {manifest : Manifest}
    {job : Object .job} {pods : Int} {adoption rest : List Exchange}
    {outcome : Except Fault Phase}
    (hasSucceeded : JobObservation.ofJob? (some job) = .succeeded pods)
    (adopts : (propagateSecrets installation).Yields adoption (.ok ())) :
    Gated installation
      (opening namespaceName name installation manifest ++
        jobLookup installation (.ok (some job)) :: (adoption ++ rest))
      outcome := by
  obtain ⟨createsNothing, lookedUp⟩ := looksUp_of_yields_propagateSecrets adopts
  refine ⟨?_, ?_, ?_⟩
  · intro key member isRollout
    exact ⟨opening namespaceName name installation manifest, job, adoption, rest, rfl,
      hasSucceeded_of_ofJob? hasSucceeded, rfl, createsNothing, lookedUp⟩
  · intro other finds hasNot
    cases findsJob_opening_iff.mp finds
    exact absurd (hasSucceeded_of_ofJob? hasSucceeded) hasNot
  · intro finds
    cases findsJob_opening_iff.mp finds

/-- Every course of a pass over an installation that is to run the configurator keeps to the gate. -/
theorem Course.gated
    {namespaceName name : String} {installation : Installation}
    {transcript : List Exchange} {outcome : Except Fault Phase}
    (course : Course namespaceName name transcript outcome)
    (begins : transcript.head? = some (found namespaceName name installation))
    (runs : installation.specification.configurator.run = true) :
    Gated installation transcript outcome := by
  cases course with
  | unreadable fault => cases begins
  | gone => cases begins
  | markerUnreadable other fault =>
      obtain rfl := found_injective (Option.some.inj begins)
      refine gated_of_unseen rfl ?_
      intro job
      simp [FindsJob, found, markerLookup, jobKey, Exchange.lookedUp?]
  | followed other marker rest _ follows =>
      obtain rfl := found_injective (Option.some.inj begins)
      refine gated_of_unseen ?_ fun job => not_findsJob_of_following follows _
      cases follows <;> rfl
  | unreleased other fault =>
      obtain rfl := found_injective (Option.some.inj begins)
      refine gated_of_unseen rfl ?_
      intro job
      simp [FindsJob, found, markerLookup, jobKey, Exchange.lookedUp?]
  | rolledOut other manifest runsNot rest ending rolls _ ends =>
      obtain rfl := found_injective (Option.some.inj begins)
      rw [runs] at runsNot
      cases runsNot
  | jobUnreadable other manifest _ fault =>
      obtain rfl := found_injective (Option.some.inj begins)
      refine gated_of_unseen rfl ?_
      intro job finds
      cases findsJob_opening_iff.mp finds
  | started other manifest _ rest ending starts _ ends =>
      obtain rfl := found_injective (Option.some.inj begins)
      exact gated_of_started starts
  | waiting other manifest _ job isRunning =>
      obtain rfl := found_injective (Option.some.inj begins)
      refine ⟨?_, ?_, ?_⟩
      · intro key member
        cases member
      · intro seen finds hasNot
        refine ⟨?_, rfl⟩
        simp [opening, found, markerLookup, jobLookup, Exchange.mutates,
          Operation.ofCall?, Operation.isMutation]
      · intro finds
        cases findsJob_opening_iff.mp finds
  | resumed other manifest _ job pods hasSucceeded adoption rest ending adopts rolls _ ends =>
      obtain rfl := found_injective (Option.some.inj begins)
      exact gated_of_resumed hasSucceeded adopts

/--
The gate in front of the rollout.  Whatever answers the calls of a pass, the pass
keeps to the gate if it finds an installation that is to run the configurator.
-/
theorem reconcile_gated
    {σ : Type}
    (respond : Program.Responder Pass.interface σ)
    (state : σ)
    (namespaceName name : String)
    (installation : Installation)
    (begins : ((reconcile namespaceName name).run respond state).transcript.head? =
      some (found namespaceName name installation))
    (runs : installation.specification.configurator.run = true) :
    Gated installation
      ((reconcile namespaceName name).run respond state).transcript
      ((reconcile namespaceName name).run respond state).outcome := by
  have course := yields_reconcile
    (Program.run_yields respond (reconcile namespaceName name) state)
  exact course.gated begins runs

/-- The Job of `demo` in the namespace `lm`, of which one pod has succeeded. -/
def demoJob : Object .job :=
  ⟨{ Metadata.empty with name := some "demo-lm-configurator" },
    [("status", Json.ofFields [("succeeded", Json.ofInt 1)])]⟩

/-- A pass over `demo` that finds its Job succeeded rolls out behind the gate. -/
theorem reconcile_gated_demo :
    let store := (Store.empty.insert "lm" (Installation.demo true)).insert "lm" demoJob
    let run := (reconcile "lm" "demo").run Outside.calm.respond ⟨store, 0⟩
    Gated (Installation.demo true) run.transcript run.outcome ∧
      (creations run.transcript).head? = some ⟨.configMap, "lm", "demo-conductor-cm"⟩ := by
  refine ⟨?_, by decide +kernel⟩
  exact reconcile_gated Outside.calm.respond _ "lm" "demo" (Installation.demo true) rfl rfl

end Pass
end LifecycleOperator
