import LifecycleOperator.Proofs.Pass.Marker
import LifecycleOperator.Proofs.Pass.Settling
import LifecycleOperator.Proofs.Store.Others

/-!
# Convergence

Where no call fails, and where others touch nothing but the Job of the configurator,
an installation is rolled out within two passes that do something: one that starts the
configurator, and one that finds its Job succeeded.  Passes in between change nothing.
From then on every pass follows the health alone, and changes something only when the
probe answers otherwise than before.
-/

namespace LifecycleOperator
namespace Pass

/-- Others touch nothing but the object of a key, and do not remove it. -/
structure TouchesOnly (key : Key) (before after : Store) : Prop where
  others : ∀ other, other ≠ key → after.find? other = before.find? other
  stays : before.Has key → after.Has key

/-- Passes over an installation without failures, between which others touch only its Job. -/
structure History (namespaceName name : String) (installation : Installation) where
  /-- The world in which each pass is taken. -/
  world : Nat → Outside
  faultless : ∀ number, (world number).Faultless
  /-- The store that each pass starts from. -/
  before : Nat → Store
  touchesJob : ∀ number, TouchesOnly (jobKey installation)
    ((world number).perform (reconcile namespaceName name) (before number)).state.store
    (before (number + 1))

namespace History

variable {namespaceName name : String} {installation : Installation}

/-- One of the passes. -/
def run (history : History namespaceName name installation) (number : Nat) : PassRun :=
  (history.world number).perform (reconcile namespaceName name) (history.before number)

/-- The store that a pass leaves. -/
def after (history : History namespaceName name installation) (number : Nat) : Store :=
  (history.run number).state.store

/-- A pass starts from a store in which the Job has succeeded. -/
def JobDone (history : History namespaceName name installation) (number : Nat) : Prop :=
  ∃ job, (history.before number).find? (jobKey installation) = some job ∧ HasSucceeded job

/-- The installation is there, with whatever status. -/
def Known (name : String) (installation : Installation) (store : Store) : Prop :=
  ∃ status, store.find? ⟨.installation, installation.namespaceName, name⟩ =
    some ⟨installation.metadata, ⟨installation.specification, status⟩⟩

section Steps

variable (history : History installation.namespaceName name installation)
  {number : Nat}

/-- No object is removed, neither by a pass nor by others. -/
theorem has_after {key : Key} (present : (history.before number).Has key) :
    (history.after number).Has key :=
  (Store.explains_perform (history.faultless number).carriesOut
    (reconcile installation.namespaceName name) (history.before number)).has present

theorem has_next {key : Key} (present : (history.after number).Has key) :
    (history.before (number + 1)).Has key := by
  have touches := history.touchesJob number
  by_cases same : key = jobKey installation
  · subst same
    exact touches.stays present
  · exact (Store.has_iff_of_find?_eq (touches.others key same)).mpr present

/-- What is there at some time is there from then on. -/
theorem has_of_le
    {first : Nat} {key : Key}
    (present : (history.before first).Has key)
    (later : first ≤ number) :
    (history.before number).Has key := by
  induction later with
  | refl => exact present
  | step _ inductionHypothesis => exact history.has_next (history.has_after inductionHypothesis)

/-- A pass over an installation that is known settles. -/
theorem settling_of_known (known : Known name installation (history.before number)) :
    Settling installation name (history.before number) (history.after number)
      (history.run number).transcript (history.run number).outcome := by
  obtain ⟨status, stored⟩ := known
  have settling := @settling_reconcile
    ⟨installation.metadata, ⟨installation.specification, status⟩⟩ name
    (history.before number) (history.world number) (history.faultless number) stored
  exact settling.of_status

/-- What is not the Job is found by the next pass as it was left. -/
theorem find?_next (key : Key) (different : key.kind ≠ .job) :
    (history.before (number + 1)).find? key = (history.after number).find? key := by
  apply (history.touchesJob number).others
  rintro rfl
  exact different rfl

/-- An installation that is known stays known. -/
theorem known_next (known : Known name installation (history.before number)) :
    Known name installation (history.before (number + 1)) := by
  have settling := history.settling_of_known known
  obtain ⟨status, stored⟩ := known
  unfold Known
  rw [history.find?_next _ (by simp)]
  generalize (history.run number).outcome = outcome at settling
  cases settling with
  | started _ _ _ _ untouched =>
      refine ⟨status, ?_⟩
      rw [untouched _ (by simp [Installation.bootstrapKeys])]
      exact stored
  | waiting _ _ _ _ _ unchanged =>
      refine ⟨status, ?_⟩
      rw [unchanged]
      exact stored
  | rolledOut _ _ _ same =>
      refine ⟨status, ?_⟩
      rw [same]
      exact stored
  | followed _ isHealthy _ reported =>
      refine ⟨some ⟨isHealthy⟩, ?_⟩
      rw [reported]
      exact Store.find?_put_self _ _ _

/-- An installation that is known at the beginning is known from then on. -/
theorem known_of_known
    (known : Known name installation (history.before 0))
    (number : Nat) :
    Known name installation (history.before number) := by
  induction number with
  | zero => exact known
  | succ number inductionHypothesis => exact history.known_next inductionHypothesis

variable (known : Known name installation (history.before 0))

include known

/-- Where the marker is a pass is steady, and only sets the status. -/
theorem steady_of_marked (marked : (history.before number).Has installation.markerKey) :
    ∃ isHealthy, (history.run number).outcome = .ok (.steady isHealthy) ∧
      ⟨.probe, .ok isHealthy⟩ ∈ (history.run number).transcript ∧
      history.after number =
        (history.before number).put ⟨.installation, installation.namespaceName, name⟩
          (Installation.withStatus installation ⟨isHealthy⟩) := by
  have settling := history.settling_of_known (history.known_of_known known number)
  generalize (history.run number).outcome = outcome at settling
  cases settling with
  | started _ unmarked => exact absurd marked unmarked
  | waiting _ unmarked => exact absurd marked unmarked
  | rolledOut unmarked => exact absurd marked unmarked
  | followed _ isHealthy answered reported => exact ⟨isHealthy, rfl, answered, reported⟩

/-- Where there is neither marker nor Job, the configurator is started. -/
theorem starts_of_jobless
    (runs : installation.specification.configurator.run = true)
    (unmarked : ¬ (history.before number).Has installation.markerKey)
    (jobless : ¬ (history.before number).Has (jobKey installation)) :
    (history.run number).outcome = .ok .jobCreated ∧
      (∀ key ∈ installation.bootstrapKeys, (history.after number).Has key) ∧
      ¬ (history.before (number + 1)).Has installation.markerKey := by
  have settling := history.settling_of_known (history.known_of_known known number)
  generalize (history.run number).outcome = outcome at settling
  cases settling with
  | started _ _ _ present untouched =>
      refine ⟨rfl, present, ?_⟩
      have notStarted : installation.markerKey ∉ installation.bootstrapKeys := by
        simp [Installation.bootstrapKeys, Installation.markerKey]
      have same : (history.before (number + 1)).find? installation.markerKey =
          (history.before number).find? installation.markerKey := by
        rw [history.find?_next _ (by simp [Installation.markerKey]), untouched _ notStarted]
      rw [Store.has_iff_of_find?_eq same]
      exact unmarked
  | waiting _ _ job stored => exact absurd (Store.has_of_find?_eq_some stored) jobless
  | rolledOut _ ready =>
      obtain ⟨job, stored, -⟩ := ready runs
      exact absurd (Store.has_of_find?_eq_some stored) jobless
  | followed marked => exact absurd marked unmarked

/-- As long as the Job has not succeeded, a pass waits for it. -/
theorem waits_of_running
    (runs : installation.specification.configurator.run = true)
    (unmarked : ¬ (history.before number).Has installation.markerKey)
    (hasJob : (history.before number).Has (jobKey installation))
    (unfinished : ¬ history.JobDone number) :
    (history.run number).outcome = .ok .jobRunning ∧
      history.after number = history.before number := by
  have settling := history.settling_of_known (history.known_of_known known number)
  generalize (history.run number).outcome = outcome at settling
  cases settling with
  | started _ _ jobless => exact absurd hasJob jobless
  | waiting _ _ _ _ _ unchanged => exact ⟨rfl, unchanged⟩
  | rolledOut _ ready => exact absurd (ready runs) unfinished
  | followed marked => exact absurd marked unmarked

end Steps

/-- A pass rolls everything out, and from then on every pass is steady. -/
structure RollsOut (history : History namespaceName name installation) (number : Nat) :
    Prop where
  finishes : (history.run number).outcome = .ok (.rollout .complete)
  present : ∀ key ∈ installation.rolloutKeys, (history.after number).Has key
  steady : ∀ later, number < later →
    ∃ isHealthy, (history.run later).outcome = .ok (.steady isHealthy)

/-- Where there is nothing to wait for, everything is rolled out. -/
theorem rollsOut_of_ready
    (history : History installation.namespaceName name installation)
    (known : Known name installation (history.before 0))
    {number : Nat}
    (unmarked : ¬ (history.before number).Has installation.markerKey)
    (ready : installation.specification.configurator.run = true → history.JobDone number) :
    RollsOut history number := by
  have settling := history.settling_of_known (history.known_of_known known number)
  generalize ended : (history.run number).outcome = outcome at settling
  cases settling with
  | started runs _ jobless =>
      obtain ⟨job, stored, -⟩ := ready runs
      exact absurd (Store.has_of_find?_eq_some stored) jobless
  | waiting runs _ job stored unfinished =>
      obtain ⟨other, storedOther, hasSucceeded⟩ := ready runs
      obtain rfl := Option.some.inj (stored.symm.trans storedOther)
      exact absurd hasSucceeded unfinished
  | rolledOut _ _ present =>
      refine ⟨ended, present, ?_⟩
      intro later isLater
      have marked := history.has_of_le
        (history.has_next (present _ installation.markerKey_mem_rolloutKeys)) isLater
      obtain ⟨isHealthy, steady, -⟩ := history.steady_of_marked known marked
      exact ⟨isHealthy, steady⟩
  | followed marked => exact absurd marked unmarked

/-- Until the Job has succeeded, the marker is missing and the Job is there. -/
theorem waiting_of_unfinished
    (history : History installation.namespaceName name installation)
    (known : Known name installation (history.before 0))
    (runs : installation.specification.configurator.run = true)
    (unmarked : ¬ (history.before 0).Has installation.markerKey)
    (jobless : ¬ (history.before 0).Has (jobKey installation))
    {number : Nat}
    (positive : 0 < number)
    (unfinished : ∀ earlier, 0 < earlier → earlier < number → ¬ history.JobDone earlier) :
    ¬ (history.before number).Has installation.markerKey ∧
      (history.before number).Has (jobKey installation) := by
  -- The first pass, which does not wait but starts the configurator, is where this begins.
  induction positive with
  | refl =>
      obtain ⟨-, present, stillUnmarked⟩ :=
        history.starts_of_jobless known runs unmarked jobless
      refine ⟨stillUnmarked, history.has_next (present _ ?_)⟩
      simp [Installation.bootstrapKeys, jobKey]
  | step isLater inductionHypothesis =>
      rename_i number
      obtain ⟨stillUnmarked, hasJob⟩ := inductionHypothesis fun earlier positive isEarlier =>
        unfinished earlier positive (by omega)
      have running := unfinished number isLater (by omega)
      have unchanged := (history.waits_of_running known runs stillUnmarked hasJob running).2
      refine ⟨?_, history.has_next (history.has_after hasJob)⟩
      rw [Store.has_iff_of_find?_eq (history.find?_next _ (by simp [Installation.markerKey])),
        unchanged]
      exact stillUnmarked

/-- What becomes of an installation that is to be set up from the beginning. -/
structure Converges (history : History namespaceName name installation) : Prop where
  /-- Without a configurator to run, the first pass rolls everything out. -/
  direct : installation.specification.configurator.run = false → history.RollsOut 0
  /-- Otherwise the first pass starts the configurator. -/
  starts : installation.specification.configurator.run = true →
    (history.run 0).outcome = .ok .jobCreated ∧
      ∀ key ∈ installation.bootstrapKeys, (history.after 0).Has key
  /-- Passes before the Job has succeeded wait for it, and change nothing. -/
  waits : installation.specification.configurator.run = true →
    ∀ number, 0 < number →
      (∀ earlier, 0 < earlier → earlier ≤ number → ¬ history.JobDone earlier) →
        (history.run number).outcome = .ok .jobRunning ∧
          history.after number = history.before number
  /-- The first pass after the Job has succeeded rolls everything out. -/
  resumes : installation.specification.configurator.run = true →
    ∀ number, 0 < number →
      (∀ earlier, 0 < earlier → earlier < number → ¬ history.JobDone earlier) →
        history.JobDone number → history.RollsOut number
  /-- A steady pass tells what its probe has answered. -/
  probed : ∀ number isHealthy, (history.run number).outcome = .ok (.steady isHealthy) →
    ⟨.probe, .ok isHealthy⟩ ∈ (history.run number).transcript
  /-- A steady pass changes nothing if the probe answers as it did for the one before. -/
  rests : ∀ number isHealthy, (history.run number).outcome = .ok (.steady isHealthy) →
    (history.run (number + 1)).outcome = .ok (.steady isHealthy) →
      history.after (number + 1) = history.before (number + 1)

/-- A steady pass has set the status to what its probe has answered. -/
theorem reported_of_steady
    (history : History installation.namespaceName name installation)
    (known : Known name installation (history.before 0))
    {number : Nat} {isHealthy : Bool}
    (steady : (history.run number).outcome = .ok (.steady isHealthy)) :
    ⟨.probe, .ok isHealthy⟩ ∈ (history.run number).transcript ∧
      history.after number =
        (history.before number).put ⟨.installation, installation.namespaceName, name⟩
          (Installation.withStatus installation ⟨isHealthy⟩) := by
  have settling := history.settling_of_known (history.known_of_known known number)
  rw [steady] at settling
  cases settling with
  | followed _ _ answered reported => exact ⟨answered, reported⟩

/-- A steady pass whose probe answers as it did for the one before changes nothing. -/
theorem unchanged_of_steady
    (history : History installation.namespaceName name installation)
    (known : Known name installation (history.before 0))
    {number : Nat} {isHealthy : Bool}
    (steady : (history.run number).outcome = .ok (.steady isHealthy))
    (steadyNext : (history.run (number + 1)).outcome = .ok (.steady isHealthy)) :
    history.after (number + 1) = history.before (number + 1) := by
  have stored : (history.before (number + 1)).find?
      ⟨.installation, installation.namespaceName, name⟩ =
        some (Installation.withStatus installation ⟨isHealthy⟩) := by
    rw [history.find?_next _ (by simp), (history.reported_of_steady known steady).2]
    exact Store.find?_put_self _ _ _
  rw [(history.reported_of_steady known steadyNext).2]
  exact Store.put_eq_self stored

/--
Where nothing fails an installation converges.  From a store without the marker and
without the Job, whatever else it holds, everything is rolled out by the first pass, or
by the first one that finds the Job succeeded; the passes before that only start the
configurator and wait.  From then on all passes are steady, and none changes anything
unless the health has changed.
-/
theorem converges
    (namespaceName name : String)
    (installation : Installation)
    (located : installation.metadata.namespaceName = some namespaceName)
    (history : History namespaceName name installation)
    (stored : (history.before 0).find? ⟨.installation, namespaceName, name⟩ =
      some installation)
    (unmarked : ¬ (history.before 0).Has installation.markerKey)
    (jobless : ¬ (history.before 0).Has (jobKey installation)) :
    history.Converges := by
  obtain rfl : installation.namespaceName = namespaceName := by
    simp [Object.namespaceName, located]
  have known : Known name installation (history.before 0) :=
    ⟨installation.body.status, stored⟩
  constructor
  case direct =>
    intro runsNot
    refine history.rollsOut_of_ready known unmarked ?_
    intro runs
    rw [runsNot] at runs
    cases runs
  case starts =>
    intro runs
    obtain ⟨created, present, -⟩ := history.starts_of_jobless known runs unmarked jobless
    exact ⟨created, present⟩
  case waits =>
    intro runs number positive unfinished
    obtain ⟨stillUnmarked, hasJob⟩ := history.waiting_of_unfinished known runs unmarked
      jobless positive fun earlier later isEarlier => unfinished earlier later (by omega)
    exact history.waits_of_running known runs stillUnmarked hasJob
      (unfinished number positive (Nat.le_refl number))
  case resumes =>
    intro runs number positive unfinished done
    obtain ⟨stillUnmarked, -⟩ := history.waiting_of_unfinished known runs unmarked jobless
      positive unfinished
    exact history.rollsOut_of_ready known stillUnmarked fun _ => done
  case probed =>
    intro number isHealthy steady
    exact (history.reported_of_steady known steady).1
  case rests =>
    intro number isHealthy steady steadyNext
    exact history.unchanged_of_steady known steady steadyNext

/-- The stores before passes over `demo`, whose Job succeeds after the second one. -/
def demoBefore : Nat → Store
  | 0 => Store.empty.insert "lm" (Installation.demo true)
  | number + 1 =>
      let left := (Outside.calm.perform (reconcile "lm" "demo") (demoBefore number)).state.store
      if number = 1 then left.insert "lm" demoJob else left

/-- Passes over `demo` where nothing fails. -/
def demo : History "lm" "demo" (Installation.demo true) where
  world := fun _ => Outside.calm
  faultless := fun _ => Outside.faultless_calm
  before := demoBefore
  touchesJob := by
    intro number
    rw [demoBefore]
    generalize (Outside.calm.perform (reconcile "lm" "demo")
      (demoBefore number)).state.store = left
    have job : jobKey (Installation.demo true) =
        ⟨.job, "lm", demoJob.metadata.name.getD ""⟩ := by decide
    split
    · refine ⟨?_, fun present => present.insert "lm" demoJob⟩
      intro other different
      apply Store.find?_put_of_ne
      rw [← job]
      exact Ne.symm different
    · exact ⟨fun _ _ => rfl, fun present => present⟩

/-- `demo` is started, waited for and rolled out, and then rests. -/
theorem converges_demo :
    demo.Converges ∧
      (List.range 5).map (fun number => (demo.run number).outcome) =
        [.ok .jobCreated, .ok .jobRunning, .ok (.rollout .complete), .ok (.steady true),
          .ok (.steady true)] := by
  refine ⟨?_, by decide +kernel⟩
  exact converges "lm" "demo" (Installation.demo true) rfl demo rfl (by decide +kernel)
    (by decide +kernel)

end History
end Pass
end LifecycleOperator
