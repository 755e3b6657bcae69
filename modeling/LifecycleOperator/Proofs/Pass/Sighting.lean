import LifecycleOperator.Proofs.Pass.Composition
import LifecycleOperator.Proofs.Pass.Course
import LifecycleOperator.Proofs.Program.Calls
import LifecycleOperator.Proofs.Store.Others

/-!
# What the parts of a pass ask for and see

What a part of a pass may ask for, and after how many calls it ends, is known before
anything is answered.  So both hold of parts that are broken off, and of parts that work
on a store at the same time.  A part that makes sure of objects and succeeds has seen
each of them.
-/

namespace LifecycleOperator
namespace Pass

/-! ## Calls -/

/-- All that is asked to make sure of an object is permitted. -/
structure MayEnsure (permitted : Call → Prop) (owner : Installation)
    (requirement : Requirement) : Prop where
  looks : permitted
    (.cluster (.lookup requirement.kind owner.namespaceName requirement.name))
  creates : ∀ object, requirement.build = .ok object →
    permitted (.cluster (.create requirement.kind owner.namespaceName
      (object.placedFor owner requirement.name)))
  tells : ∀ event, permitted (.cluster (.publish owner event))

section Calls

variable {permitted : Call → Prop} {owner : Installation}

/-- What a part may ask for is inherited from its parts. -/
theorem inherited_asks (permitted : Call → Prop) :
    Inherited fun _ part => part.Asks permitted :=
  ⟨fun _ => trivial, fun first others => first.bind others⟩

/-- Making sure of an object looks it up, and creates and tells at most this object. -/
theorem asks_ensure
    {requirement : Requirement}
    (may : MayEnsure permitted owner requirement) :
    (ensure requirement.kind owner requirement.name requirement.build).Asks permitted := by
  apply (inherited_asks permitted).ensure
  · exact ⟨may.looks, fun found => trivial⟩
  · intro fault built
    trivial
  · intro object built
    refine ⟨may.creates object built, ?_⟩
    intro answer
    match answer with
    | .ok created => exact ⟨may.tells _, fun told => trivial⟩
    | .error fault => cases fault <;> trivial

/-- Making sure of objects asks for nothing but what is permitted for each of them. -/
theorem asks_ensureEach
    {requirements : List Requirement}
    (may : ∀ requirement ∈ requirements, MayEnsure permitted owner requirement) :
    (ensureEach owner requirements).Asks permitted :=
  (inherited_asks permitted).ensureEach fun requirement member =>
    asks_ensure (may requirement member)

/-- A rollout asks for what makes sure of its objects, and tells when it is complete. -/
theorem asks_rollout
    {installation : Installation} {manifest : Manifest}
    (may : ∀ requirement ∈ rolloutRequirements installation manifest,
      MayEnsure permitted installation requirement)
    (tells : ∀ event, permitted (.cluster (.publish installation event))) :
    (rollout installation (installation.specification.profile manifest)).Asks permitted :=
  (inherited_asks permitted).rollout (asks_ensureEach may) fun event =>
    ⟨tells event, fun _ => trivial⟩

/-- Making sure of an object takes three calls at most. -/
theorem endsWithin_ensure
    (kind : Kind) (owner : Installation) (name : String)
    (build : Except Fault (Object kind)) :
    (ensure kind owner name build).EndsWithin 3 := by
  refine ⟨by decide, ?_⟩
  intro found
  match found with
  | .error fault => trivial
  | .ok (some object) => trivial
  | .ok none =>
      cases build with
      | error fault => trivial
      | ok object =>
          refine ⟨by decide, ?_⟩
          intro answer
          match answer with
          | .ok created => exact ⟨by decide, fun told => trivial⟩
          | .error fault => cases fault <;> trivial

/-- Making sure of objects takes three calls at most for each of them. -/
theorem endsWithin_ensureEach (owner : Installation) (requirements : List Requirement) :
    (ensureEach owner requirements).EndsWithin (3 * requirements.length) := by
  induction requirements with
  | nil => trivial
  | cons requirement rest inductionHypothesis =>
      have ends := (endsWithin_ensure requirement.kind owner requirement.name
        requirement.build).bind fun _ => inductionHypothesis
      refine ends.mono ?_
      rw [List.length_cons]
      omega

/-- A rollout takes three calls at most for each object, and one to tell so. -/
theorem endsWithin_rollout (installation : Installation) (manifest : Manifest) :
    (rollout installation (installation.specification.profile manifest)).EndsWithin
      (3 * installation.rolloutKeys.length + 1) := by
  have counted : (rolloutRequirements installation manifest).length =
      installation.rolloutKeys.length := by
    rw [← map_key_rolloutRequirements installation manifest, List.length_map]
  rw [rollout_eq, ← counted]
  refine (endsWithin_ensureEach installation _).bind ?_
  intro result
  exact ⟨by decide, fun told => trivial⟩

end Calls

/-! ## Sightings -/

/-- If making sure of an object succeeds, it has been seen. -/
theorem Ensuring.sees
    {kind : Kind} {owner : Installation} {name : String}
    {build : Except Fault (Object kind)}
    {transcript : List Exchange} {ensured : Ensured}
    (ensuring : Ensuring kind owner name build transcript (.ok ensured)) :
    Sees transcript ⟨kind, owner.namespaceName, name⟩ := by
  cases ensuring with
  | present object =>
      exact ⟨_, List.mem_cons_self, .found kind owner.namespaceName name object⟩
  | overtaken object built fault isTaken =>
      exact ⟨_, List.mem_cons_of_mem _ List.mem_cons_self,
        .taken kind owner.namespaceName (object.placedFor owner name) fault isTaken⟩
  | created object built answer told =>
      exact ⟨_, List.mem_cons_of_mem _ List.mem_cons_self,
        .created kind owner.namespaceName (object.placedFor owner name) answer⟩

/-- If making sure of objects succeeds, each of them has been seen. -/
theorem sees_of_yields_ensureEach
    {owner : Installation} {requirements : List Requirement} {transcript : List Exchange}
    (yields : (ensureEach owner requirements).Yields transcript (.ok ())) :
    ∀ key ∈ requirements.map (Requirement.key owner), Sees transcript key := by
  induction requirements generalizing transcript with
  | nil => simp
  | cons requirement rest inductionHypothesis =>
      rcases yields_ensureEach_cons yields with
        ⟨fault, impossible, -⟩ | ⟨ensured, front, back, rfl, first, others⟩
      · cases impossible
      rw [List.map_cons, List.forall_mem_cons]
      refine ⟨first.sees.mono (List.subset_append_left front back), ?_⟩
      intro key member
      exact (inductionHypothesis others key member).mono (List.subset_append_right front back)

/-- A rollout that is complete has seen all that is rolled out. -/
theorem sees_of_yields_rollout
    {installation : Installation} {manifest : Manifest} {transcript : List Exchange}
    (yields : (rollout installation
      (installation.specification.profile manifest)).Yields transcript (.ok .complete)) :
    ∀ key ∈ installation.rolloutKeys, Sees transcript key := by
  rcases yields_rollout yields with ⟨fault, impossible, -⟩ | ⟨front, told, -, rfl, ensures⟩
  · cases impossible
  intro key member
  rw [← map_key_rolloutRequirements installation manifest] at member
  exact (sees_of_yields_ensureEach ensures key member).mono (List.subset_append_left front _)

end Pass
end LifecycleOperator
