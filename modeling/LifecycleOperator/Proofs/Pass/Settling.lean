import LifecycleOperator.Proofs.Pass.Completion
import LifecycleOperator.Proofs.Pass.Gating

/-!
# Passes where nothing fails

Where no call fails a pass over an installation goes in one of four ways, and which one
it is can be told from the store beforehand: the marker, the Job, and whether the Job
has succeeded.  For each way it is said what becomes of the store.
-/

namespace LifecycleOperator

/-- Putting an object where it is found changes nothing. -/
theorem Store.put_eq_self
    {store : Store} {key : Key} {object : Object key.kind}
    (stored : store.find? key = some object) :
    store.put key object = store := by
  obtain ⟨objects⟩ := store
  unfold put
  unfold find? at stored
  congr 1
  induction objects with
  | nil => cases stored
  | cons head rest inductionHypothesis =>
      unfold putIn
      unfold findIn at stored
      by_cases same : head.key = key
      · obtain ⟨headKey, headObject⟩ := head
        subst same
        simp only [dite_true, Option.some.injEq] at stored
        subst stored
        simp
      · simp only [same, dite_false] at stored
        simp only [same, if_false, inductionHypothesis stored]

/-- Where a status is set without a failure, it is set at the installation. -/
theorem Store.Answers.patchStatus_stored
    {store after : Store} {namespaceName name : String} {status : Status}
    {answer : Except Fault Unit} {installation : Installation}
    (answers : store.Answers Verdict.CarriesOut
      ⟨.cluster (.patchStatus namespaceName name status), answer⟩ after)
    (stored : store.find? ⟨.installation, namespaceName, name⟩ = some installation) :
    answer = .ok () ∧
      after = store.put ⟨.installation, namespaceName, name⟩
        (Installation.withStatus installation status) := by
  obtain ⟨verdict, rfl, responds⟩ := answers
  simp only [respond, carryOut, Store.patchStatus, stored] at responds
  cases responds
  exact ⟨rfl, rfl⟩

namespace Pass

set_option maxRecDepth 100000 in
/-- What the configurator is set up with can be made, whether it is secured or not. -/
theorem isOk_configuratorData (secure : Bool) :
    (Configuration.configuratorData secure).isOk = true := by
  revert secure
  decide +kernel

set_option maxRecDepth 100000 in
/-- What the configurator imports can be made. -/
theorem isOk_configImportData : Configuration.configImportData.isOk = true := by
  decide +kernel

theorem buildable_configMap
    {data : Except Fault (OrderedMap String)}
    (isOk : data.isOk = true) :
    ∃ object, data.map Resource.configMap = .ok object := by
  cases data with
  | error fault => cases isOk
  | ok texts => exact ⟨Resource.configMap texts, rfl⟩

/-- All that the configurator is started from can be built. -/
theorem built_of_mem_bootstrapRequirements
    {installation : Installation} {manifest : Manifest} {requirement : Requirement}
    (member : requirement ∈ bootstrapRequirements installation manifest) :
    ∃ object, requirement.build = .ok object := by
  simp only [bootstrapRequirements, List.mem_cons, List.not_mem_nil, or_false] at member
  rcases member with rfl | rfl | rfl
  · exact buildable_configMap (isOk_configuratorData _)
  · exact buildable_configMap isOk_configImportData
  · exact ⟨_, rfl⟩

/-- The ways in which a pass goes where nothing fails. -/
inductive Settling (installation : Installation) (name : String) (before after : Store)
    (transcript : List Exchange) : Except Fault Phase → Prop
  /-- There is no Job yet, and the configurator is started. -/
  | started
      (runs : installation.specification.configurator.run = true)
      (unmarked : ¬ before.Has installation.markerKey)
      (jobless : ¬ before.Has (jobKey installation))
      (present : ∀ key ∈ installation.bootstrapKeys, after.Has key)
      (untouched : ∀ key, key ∉ installation.bootstrapKeys →
        after.find? key = before.find? key) :
      Settling installation name before after transcript (.ok .jobCreated)
  /-- The Job has not succeeded yet, and is waited for. -/
  | waiting
      (runs : installation.specification.configurator.run = true)
      (unmarked : ¬ before.Has installation.markerKey)
      (job : Object .job) (stored : before.find? (jobKey installation) = some job)
      (unfinished : ¬ HasSucceeded job)
      (unchanged : after = before) :
      Settling installation name before after transcript (.ok .jobRunning)
  /-- There is nothing to wait for, and everything is rolled out. -/
  | rolledOut
      (unmarked : ¬ before.Has installation.markerKey)
      (ready : installation.specification.configurator.run = true →
        ∃ job, before.find? (jobKey installation) = some job ∧ HasSucceeded job)
      (present : ∀ key ∈ installation.rolloutKeys, after.Has key)
      (known : after.find? ⟨.installation, installation.namespaceName, name⟩ =
        before.find? ⟨.installation, installation.namespaceName, name⟩) :
      Settling installation name before after transcript (.ok (.rollout .complete))
  /-- Everything has been rolled out, and the status follows the health. -/
  | followed
      (marked : before.Has installation.markerKey)
      (isHealthy : Bool) (answered : ⟨.probe, .ok isHealthy⟩ ∈ transcript)
      (reported : after = before.put ⟨.installation, installation.namespaceName, name⟩
        (Installation.withStatus installation ⟨isHealthy⟩)) :
      Settling installation name before after transcript (.ok (.steady isHealthy))

section Settling

variable {installation : Installation} {name : String} {before after : Store}
  {transcript : List Exchange} {outcome : Except Fault Phase}

/-- Following the health where nothing fails sets the status to what the probe answers. -/
theorem Following.settles
    (follows : Following installation installation.namespaceName name transcript outcome)
    (stored : before.find? ⟨.installation, installation.namespaceName, name⟩ =
      some installation)
    (smooth : ∀ exchange ∈ transcript, exchange.Smooth)
    (explains : Store.Explains Verdict.CarriesOut before transcript after) :
    ∃ isHealthy, outcome = .ok (.steady isHealthy) ∧
      ⟨.probe, .ok isHealthy⟩ ∈ transcript ∧
      after = before.put ⟨.installation, installation.namespaceName, name⟩
        (Installation.withStatus installation ⟨isHealthy⟩) := by
  cases follows with
  | unanswered fault => exact False.elim (smooth _ List.mem_cons_self)
  | healthy answer _ ends =>
      obtain ⟨last, patches, rfl⟩ := explains.probe
      obtain ⟨rfl, reported⟩ := patches.patchStatus_stored stored
      exact ⟨true, ends, List.mem_cons_self, reported⟩
  | unhealthy told answer _ ends =>
      obtain ⟨last, patches, rfl⟩ := explains.probe.publish
      obtain ⟨rfl, reported⟩ := patches.patchStatus_stored stored
      exact ⟨false, ends, List.mem_cons_self, reported⟩

/-- Starting the configurator where nothing fails leaves all that it is started from. -/
theorem settling_of_starting
    {manifest : Manifest} {ending : Except Fault Unit}
    (runs : installation.specification.configurator.run = true)
    (unmarked : ¬ before.Has installation.markerKey)
    (jobless : ¬ before.Has (jobKey installation))
    (starts : (ensureEach installation
      (bootstrapRequirements installation manifest)).Yields transcript ending)
    (unhindered : failures transcript = [])
    (explains : Store.Explains Verdict.Honest before transcript after)
    {whole : List Exchange} :
    Settling installation name before after whole (ending.map fun _ => .jobCreated) := by
  obtain rfl := ok_of_yields_ensureEach
    (fun _ member => built_of_mem_bootstrapRequirements member) starts unhindered
  have present := has_of_yields_ensureEach truthful_honest starts explains
  rw [map_key_bootstrapRequirements] at present
  refine .started runs unmarked jobless present ?_
  intro key other
  rw [← map_key_bootstrapRequirements installation manifest] at other
  exact find?_of_yields_ensureEach starts explains other

/-- A rollout where nothing fails leaves all that is rolled out. -/
theorem settling_of_rollingOut
    {middle : Store} {manifest : Manifest} {ending : Except Fault Progress}
    (unmarked : ¬ before.Has installation.markerKey)
    (ready : installation.specification.configurator.run = true →
      ∃ job, before.find? (jobKey installation) = some job ∧ HasSucceeded job)
    (rolls : (rollout installation
      (installation.specification.profile manifest)).Yields transcript ending)
    (unhindered : failures transcript = [])
    (explains : Store.Explains Verdict.Honest middle transcript after)
    (known : middle.find? ⟨.installation, installation.namespaceName, name⟩ =
      before.find? ⟨.installation, installation.namespaceName, name⟩)
    {whole : List Exchange} :
    Settling installation name before after whole (ending.map .rollout) := by
  obtain rfl := complete_of_yields_rollout rolls unhindered
  have present := (completes_of_yields_rollout truthful_honest rolls explains).present
  rw [map_key_rolloutRequirements] at present
  refine .rolledOut unmarked ready present ?_
  rw [find?_of_yields_rollout rolls explains
    (installation_not_mem_rolloutKeys installation name)]
  exact known

/-- Every course of a pass on which nothing fails settles in one of these ways. -/
theorem Course.settles
    (course : Course installation.namespaceName name transcript outcome)
    (stored : before.find? ⟨.installation, installation.namespaceName, name⟩ =
      some installation)
    (smooth : ∀ exchange ∈ transcript, exchange.Smooth)
    (explains : Store.Explains Verdict.CarriesOut before transcript after) :
    Settling installation name before after transcript outcome := by
  have unhindered : ∀ rest, rest ⊆ transcript → failures rest = [] := by
    intro rest included
    apply failures_eq_nil_of_smooth
    intro exchange member
    exact smooth exchange (included member)
  cases course with
  | unreadable fault => exact False.elim (smooth _ List.mem_cons_self)
  | gone =>
      obtain ⟨absent, -⟩ := explains.lookup
      rw [absent none rfl] at stored
      cases stored
  | markerUnreadable other fault =>
      exact False.elim (smooth _ (List.mem_cons_of_mem _ List.mem_cons_self))
  | unreleased other fault =>
      exact False.elim (smooth _
        (List.mem_cons_of_mem _ (List.mem_cons_of_mem _ List.mem_cons_self)))
  | jobUnreadable other manifest runs fault =>
      exact False.elim (smooth _ (List.mem_append_right _ List.mem_cons_self))
  | followed other marker rest _ follows =>
      obtain ⟨storedOther, afterLookup⟩ := Store.Explains.lookup explains
      obtain rfl := Option.some.inj ((storedOther _ rfl).symm.trans stored)
      obtain ⟨storedMarker, afterMarker⟩ := afterLookup.lookup
      have marked : before.Has other.markerKey :=
        Store.has_of_find?_eq_some (storedMarker _ rfl)
      have included : ∀ exchange ∈ rest, exchange.Smooth := fun exchange member =>
        smooth exchange (List.mem_cons_of_mem _ (List.mem_cons_of_mem _ member))
      obtain ⟨isHealthy, rfl, answered, reported⟩ :=
        follows.settles stored included afterMarker
      exact .followed marked isHealthy
        (List.mem_cons_of_mem _ (List.mem_cons_of_mem _ answered)) reported
  | rolledOut other manifest runsNot rest ending rolls _ ends =>
      obtain ⟨storedOther, unmarked, afterOpening⟩ := explains_opening explains
      obtain rfl := Option.some.inj (storedOther.symm.trans stored)
      subst ends
      refine settling_of_rollingOut unmarked ?_ rolls
        (unhindered rest (List.subset_append_right _ rest))
        (afterOpening.mono fun _ _ => Verdict.CarriesOut.honest) rfl
      intro runs
      rw [runsNot] at runs
      cases runs
  | started other manifest runs rest ending starts _ ends =>
      obtain ⟨storedOther, unmarked, afterOpening⟩ := explains_opening explains
      obtain rfl := Option.some.inj (storedOther.symm.trans stored)
      subst ends
      obtain ⟨absent, afterJob⟩ := afterOpening.lookup
      have jobless : ¬ before.Has (jobKey other) := by
        simp [Store.Has, jobKey, absent none rfl]
      refine settling_of_starting runs unmarked jobless starts (unhindered rest ?_)
        (afterJob.mono fun _ _ => Verdict.CarriesOut.honest)
      intro exchange member
      exact List.mem_append_right _ (List.mem_cons_of_mem _ member)
  | waiting other manifest runs job isRunning =>
      obtain ⟨storedOther, unmarked, afterOpening⟩ := explains_opening explains
      obtain rfl := Option.some.inj (storedOther.symm.trans stored)
      obtain ⟨storedJob, unchanged⟩ := afterOpening.lookup
      exact .waiting runs unmarked job (storedJob _ rfl)
        ((ofJob?_eq_running_iff job).mp isRunning) unchanged
  | resumed other manifest runs job pods hasSucceeded adoption rest ending adopts rolls _ ends =>
      obtain ⟨storedOther, unmarked, afterOpening⟩ := explains_opening explains
      obtain rfl := Option.some.inj (storedOther.symm.trans stored)
      subst ends
      obtain ⟨storedJob, afterJob⟩ := afterOpening.lookup
      obtain ⟨middle, explainsAdoption, explainsRollout⟩ :=
        Store.explains_append.mp afterJob
      have differ := (differOnlyIn_of_yields_propagateSecrets adopts explainsAdoption).1
      refine settling_of_rollingOut unmarked ?_ rolls (unhindered rest ?_)
        (explainsRollout.mono fun _ _ => Verdict.CarriesOut.honest) (differ _ (by simp))
      · intro runs
        exact ⟨job, storedJob _ rfl, hasSucceeded_of_ofJob? hasSucceeded⟩
      · intro exchange member
        exact List.mem_append_right _
          (List.mem_cons_of_mem _ (List.mem_append_right adoption member))

/-- A pass over an installation settles where nothing fails. -/
theorem settling_reconcile
    {outside : Outside}
    (faultless : outside.Faultless)
    (stored : before.find? ⟨.installation, installation.namespaceName, name⟩ =
      some installation) :
    let run := outside.perform (reconcile installation.namespaceName name) before
    Settling installation name before run.state.store run.transcript run.outcome := by
  intro run
  have course := yields_reconcile (Store.yields_perform outside
    (reconcile installation.namespaceName name) before)
  exact course.settles stored
    (faultless.smooth_perform (reconcile installation.namespaceName name) before)
    (Store.explains_perform faultless.carriesOut
      (reconcile installation.namespaceName name) before)

/-- What becomes of the store does not depend on the status of the installation before. -/
theorem Settling.of_status
    {metadata : Metadata} {specification : Specification} {status other : Option Status}
    (settling : Settling ⟨metadata, ⟨specification, status⟩⟩ name before after
      transcript outcome) :
    Settling ⟨metadata, ⟨specification, other⟩⟩ name before after transcript outcome := by
  cases settling with
  | started runs unmarked jobless present untouched =>
      exact .started runs unmarked jobless present untouched
  | waiting runs unmarked job stored unfinished unchanged =>
      exact .waiting runs unmarked job stored unfinished unchanged
  | rolledOut unmarked ready present known => exact .rolledOut unmarked ready present known
  | followed marked isHealthy answered reported =>
      refine .followed ?_ isHealthy answered ?_
      · exact marked
      · exact reported

end Settling

end Pass
end LifecycleOperator
