import LifecycleOperator.Proofs.Pass.Requirement
import LifecycleOperator.Pass.Phase

/-!
# How a pass is made up

Much of what is proved of a pass is inherited from its parts: which calls may be made,
which faults are relayed, which answers do not matter.  Whatever succeeds at once has such
a property, and what goes on after a part that has it, with parts that have it, has it as
well.  So a pass has it if its single steps do, and the way down to these steps is the
same for all such properties.
-/

namespace LifecycleOperator
namespace Pass

/-- A property is inherited by what is made up of parts that have it. -/
structure Inherited (holds : ∀ α : Type, Pass α → Prop) : Prop where
  done : ∀ {α : Type} (result : α), holds α (.done (.ok result))
  bind : ∀ {α β : Type} {first : Pass α} {next : α → Pass β},
    holds α first → (∀ result, holds β (next result)) → holds β (first >>= next)

namespace Inherited

variable {holds : ∀ α : Type, Pass α → Prop} (inherited : Inherited holds)
  {installation : Installation} {manifest : Manifest}

include inherited

/-- An object is looked up, and created only if there is none and it can be built. -/
theorem ensure
    {kind : Kind} {owner : Installation} {name : String}
    {build : Except Fault (Object kind)}
    (looks : holds _ (lookup kind owner.namespaceName name))
    (fails : ∀ fault, build = .error fault → holds Ensured (.done (.error fault)))
    (creates : ∀ object, build = .ok object →
      holds _ (createPlaced kind owner name (object.placedFor owner name))) :
    holds _ (Pass.ensure kind owner name build) := by
  apply inherited.bind looks
  intro found
  cases found with
  | some present => exact inherited.done _
  | none =>
      cases build with
      | error fault => exact fails fault rfl
      | ok object => exact creates object rfl

theorem ensureEach
    {owner : Installation} {requirements : List Requirement}
    (ensures : ∀ requirement ∈ requirements,
      holds _ (Pass.ensure requirement.kind owner requirement.name requirement.build)) :
    holds _ (Pass.ensureEach owner requirements) := by
  induction requirements with
  | nil => exact inherited.done ()
  | cons requirement rest inductionHypothesis =>
      rw [List.forall_mem_cons] at ensures
      apply inherited.bind ensures.1
      intro ensured
      exact inductionHypothesis ensures.2

/-- A rollout makes sure of its objects, and tells when it is complete. -/
theorem rollout
    (ensures : holds _ (Pass.ensureEach installation
      (rolloutRequirements installation manifest)))
    (tells : ∀ event, holds _ (record installation event)) :
    holds _ (Pass.rollout installation (installation.specification.profile manifest)) := by
  rw [rollout_eq]
  apply inherited.bind ensures
  intro ensured
  apply inherited.bind (tells _)
  intro told
  exact inherited.done _

theorem propagateSecrets
    (propagates : ∀ reference name, holds _ (propagateSecret installation reference name)) :
    holds _ (Pass.propagateSecrets installation) := by
  unfold Pass.propagateSecrets
  cases installation.ownerReference? with
  | none => exact inherited.done ()
  | some reference =>
      induction bootstrapSecrets with
      | nil => exact inherited.done ()
      | cons name rest inductionHypothesis =>
          apply inherited.bind (propagates reference name)
          intro result
          exact inductionHypothesis

/-- The gate looks at the Job; then it starts the configurator, waits or adopts secrets. -/
theorem gate
    (looks : holds _ (lookup .job installation.namespaceName installation.jobName))
    (starts : holds _ (Pass.ensureEach installation
      (bootstrapRequirements installation manifest)))
    (propagates : holds _ (Pass.propagateSecrets installation)) :
    holds _ (Pass.gate installation (installation.specification.profile manifest)) := by
  apply inherited.bind (inherited.bind looks fun job => inherited.done _)
  intro observation
  cases observation with
  | absent =>
      rw [startConfigurator_eq]
      exact inherited.bind starts fun started => inherited.done _
  | running => exact inherited.done _
  | succeeded pods => exact inherited.bind propagates fun propagated => inherited.done _

/-- Installing fetches the release, passes the gate if there is any, and rolls out. -/
theorem install
    (fetches : holds _ (fetchRelease installation.specification.release))
    (gates : ∀ manifest,
      holds _ (Pass.gate installation (installation.specification.profile manifest)))
    (rolls : ∀ manifest,
      holds _ (Pass.rollout installation (installation.specification.profile manifest))) :
    holds _ (Pass.install installation) := by
  unfold Pass.install resolve
  simp only [bind_assoc, pure_bind]
  apply inherited.bind fetches
  intro manifest
  have rollsOut := inherited.bind (rolls manifest) fun progress =>
    inherited.done (Phase.rollout progress)
  split
  · apply inherited.bind (gates manifest)
    intro gate
    match gate with
    | .opened => exact rollsOut
    | .closed .complete => exact inherited.done _
    | .closed .requeue => exact inherited.done _
  · exact rollsOut

/-- Following the health probes it, tells if it is bad, and sets the status. -/
theorem follow
    {namespaceName name : String}
    (probes : holds _ probe)
    (tells : ∀ event, holds _ (record installation event))
    (updates : ∀ status, holds _ (updateStatus namespaceName name status)) :
    holds _ (Pass.follow installation namespaceName name) := by
  apply inherited.bind probes
  intro isHealthy
  have reports := inherited.bind (updates ⟨isHealthy⟩) fun reported =>
    inherited.done (Phase.steady isHealthy)
  cases isHealthy with
  | true => exact reports
  | false => exact inherited.bind (tells _) fun told => reports

/-- A pass looks at the installation and at its marker, and then installs or follows. -/
theorem reconcile
    {namespaceName name : String}
    (seeks : holds _ (lookup .installation namespaceName name))
    (looks : holds _ (lookup .deployment namespaceName markerDeployment))
    (installs : ∀ installation, holds _ (Pass.install installation))
    (follows : ∀ installation, holds _ (Pass.follow installation namespaceName name)) :
    holds _ (Pass.reconcile namespaceName name) := by
  apply inherited.bind seeks
  intro sought
  cases sought with
  | none => exact inherited.done _
  | some installation =>
      apply inherited.bind looks
      intro marked
      cases marked with
      | none => exact installs installation
      | some marker => exact follows installation

end Inherited
end Pass
end LifecycleOperator
