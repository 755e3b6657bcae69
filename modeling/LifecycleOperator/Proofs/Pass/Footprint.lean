import LifecycleOperator.Proofs.Pass.Sighting

/-!
# What a pass asks for on behalf of an installation

Once a pass has found an installation, all that it asks of the cluster concerns the
namespace of this installation: it looks objects up there, creates some that are no
installations, replaces secrets, tells events of the installation, and at most sets one
status.  Whatever permits these calls permits all that the parts of a pass ask for,
however they are answered.
-/

namespace LifecycleOperator
namespace Pass

/-- All that is asked to adopt the secrets of an installation, and to tell of it, is permitted. -/
structure MayAdopt (permitted : Call → Prop) (installation : Installation) : Prop where
  looks : ∀ name, permitted (.cluster (.lookup .secret installation.namespaceName name))
  adopts : ∀ name secret,
    permitted (.cluster (.replace .secret installation.namespaceName name secret))
  tells : ∀ event, permitted (.cluster (.publish installation event))

namespace MayAdopt

variable {permitted : Call → Prop} {installation : Installation}
  (may : MayAdopt permitted installation)

include may

/-- Adopting a secret asks for what may be asked for. -/
theorem asks_propagateSecret (reference : OwnerReference) (name : String) :
    (propagateSecret installation reference name).Asks permitted := by
  refine ⟨may.looks name, ?_⟩
  intro found
  match found with
  | .error fault => trivial
  | .ok none => trivial
  | .ok (some secret) =>
      by_cases isOwned : secret.metadata.isOwnedBy reference.uid
      · simp [isOwned]
      · simp only [isOwned]
        refine ⟨may.adopts name _, ?_⟩
        intro answer
        match answer with
        | .error fault => trivial
        | .ok owned => exact ⟨may.tells _, fun told => trivial⟩

/-- Adopting secrets asks for what may be asked for. -/
theorem asks_propagateSecrets : (propagateSecrets installation).Asks permitted :=
  (inherited_asks permitted).propagateSecrets may.asks_propagateSecret

/-- Following the health asks for a probe, and sets the status of an installation. -/
theorem asks_follow
    {namespaceName name : String}
    (probes : permitted .probe)
    (updates : ∀ status, permitted (.cluster (.patchStatus namespaceName name status))) :
    (follow installation namespaceName name).Asks permitted := by
  apply (inherited_asks permitted).follow
  · exact ⟨probes, fun answer => trivial⟩
  · intro event
    exact ⟨may.tells event, fun told => trivial⟩
  · intro status
    refine ⟨updates status, ?_⟩
    intro answer
    cases answer <;> trivial

end MayAdopt

/-- All that is asked of the cluster to install something for an installation is permitted. -/
structure MayInstall (permitted : Call → Prop) (installation : Installation) : Prop where
  looks : ∀ kind name,
    permitted (.cluster (.lookup kind installation.namespaceName name))
  creates : ∀ kind object, kind ≠ .installation →
    permitted (.cluster (.create kind installation.namespaceName object))
  adopts : ∀ name secret,
    permitted (.cluster (.replace .secret installation.namespaceName name secret))
  tells : ∀ event, permitted (.cluster (.publish installation event))

namespace MayInstall

variable {permitted : Call → Prop} {installation : Installation}
  (may : MayInstall permitted installation)

include may

theorem mayEnsure
    {requirement : Requirement}
    (different : requirement.kind ≠ .installation) :
    MayEnsure permitted installation requirement where
  looks := may.looks requirement.kind requirement.name
  creates := fun object _ =>
    may.creates requirement.kind (object.placedFor installation requirement.name) different
  tells := may.tells

/-- A rollout asks for what may be asked for. -/
theorem asks_rollout (manifest : Manifest) :
    (rollout installation (installation.specification.profile manifest)).Asks permitted := by
  refine Pass.asks_rollout ?_ may.tells
  intro requirement member
  have isRollout : requirement.key installation ∈ installation.rolloutKeys := by
    rw [← map_key_rolloutRequirements installation manifest]
    exact List.mem_map_of_mem member
  exact may.mayEnsure (installation.kind_of_mem_rolloutKeys isRollout).1

/-- The configurator is started with what may be asked for. -/
theorem asks_bootstrap (manifest : Manifest) :
    (ensureEach installation (bootstrapRequirements installation manifest)).Asks
      permitted := by
  apply asks_ensureEach
  intro requirement member
  apply may.mayEnsure
  simp only [bootstrapRequirements, List.mem_cons, List.not_mem_nil, or_false] at member
  rcases member with rfl | rfl | rfl <;> simp

/-- Who may install something may adopt what belongs to it. -/
theorem mayAdopt : MayAdopt permitted installation where
  looks := may.looks .secret
  adopts := may.adopts
  tells := may.tells

/-- Driving the configurator asks for what may be asked for. -/
theorem asks_gate (manifest : Manifest) :
    (gate installation (installation.specification.profile manifest)).Asks permitted :=
  (inherited_asks permitted).gate
    ⟨may.looks .job installation.jobName, fun _ => trivial⟩
    (may.asks_bootstrap manifest) may.mayAdopt.asks_propagateSecrets

/-- Installing something asks for a release besides. -/
theorem asks_install
    (fetches : ∀ url, permitted (.fetchRelease url)) :
    (install installation).Asks permitted :=
  (inherited_asks permitted).install ⟨fetches _, fun _ => trivial⟩
    may.asks_gate may.asks_rollout

end MayInstall
end Pass
end LifecycleOperator
