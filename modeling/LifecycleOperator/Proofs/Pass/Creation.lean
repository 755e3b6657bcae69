import LifecycleOperator.Proofs.Pass.Course
import LifecycleOperator.Store.Operation

/-!
# What the parts of a pass try to create

Which objects a pass tries to create, and in which order, is read off its
transcript, whether or not the creations succeed.  Making sure of objects tries to
create some of them, in their order; adopting secrets creates nothing, but looks
every secret up, one after the other.
-/

namespace LifecycleOperator
namespace Pass

namespace Exchange

/-- Whether an exchange asks for a change of what is stored. -/
def mutates (exchange : Exchange) : Bool :=
  match exchange.call with
  | .cluster call => (Operation.ofCall? call).any Operation.isMutation
  | _ => false

/-- The key under which an object was looked up. -/
def lookedUp? (exchange : Exchange) : Option Key :=
  match exchange.call with
  | .cluster (.lookup kind namespaceName name) => some ⟨kind, namespaceName, name⟩
  | _ => none

end Exchange

/-- What was to be created in the course of a transcript, in order. -/
def creations (transcript : List Exchange) : List Key :=
  transcript.filterMap Exchange.creation?

/-- What was looked up in the course of a transcript, in order. -/
def lookUps (transcript : List Exchange) : List Key :=
  transcript.filterMap Exchange.lookedUp?

/-- Every change that was asked for is a creation. -/
def OnlyCreates (transcript : List Exchange) : Prop :=
  ∀ exchange ∈ transcript, exchange.mutates = true → exchange.creation?.isSome

@[simp] theorem creations_append (front back : List Exchange) :
    creations (front ++ back) = creations front ++ creations back :=
  List.filterMap_append

@[simp] theorem lookUps_append (front back : List Exchange) :
    lookUps (front ++ back) = lookUps front ++ lookUps back :=
  List.filterMap_append

/-- What creates among what only creates only creates. -/
theorem OnlyCreates.append
    {front back : List Exchange}
    (first : OnlyCreates front)
    (second : OnlyCreates back) :
    OnlyCreates (front ++ back) := by
  intro exchange member
  rcases List.mem_append.mp member with inFront | inBack
  · exact first exchange inFront
  · exact second exchange inBack

/-! ## Making sure of objects -/

/-- Making sure of an object tries to create at most this object. -/
theorem Ensuring.creations_sublist
    {kind : Kind} {owner : Installation} {name : String}
    {build : Except Fault (Object kind)}
    {transcript : List Exchange} {outcome : Except Fault Ensured}
    (ensuring : Ensuring kind owner name build transcript outcome) :
    (creations transcript).Sublist [⟨kind, owner.namespaceName, name⟩] := by
  cases ensuring with
  | unreadable | present | unbuilt => exact List.nil_sublist _
  | overtaken | rejected | created => exact List.Sublist.refl _

/-- Making sure of an object asks for no other change than a creation. -/
theorem Ensuring.onlyCreates
    {kind : Kind} {owner : Installation} {name : String}
    {build : Except Fault (Object kind)}
    {transcript : List Exchange} {outcome : Except Fault Ensured}
    (ensuring : Ensuring kind owner name build transcript outcome) :
    OnlyCreates transcript := by
  cases ensuring <;>
    simp [OnlyCreates, Exchange.mutates, Operation.ofCall?, Operation.isMutation,
      Exchange.creation?]

/-- Making sure of objects tries to create some of them, in their order, and no other. -/
theorem creations_of_yields_ensureEach
    {owner : Installation} {requirements : List Requirement}
    {transcript : List Exchange} {outcome : Except Fault Unit}
    (yields : (ensureEach owner requirements).Yields transcript outcome) :
    (creations transcript).Sublist (requirements.map (Requirement.key owner)) ∧
      OnlyCreates transcript := by
  induction requirements generalizing transcript with
  | nil =>
      obtain ⟨rfl, -⟩ := Program.yields_done_iff.mp yields
      exact ⟨List.Sublist.refl _, by simp [OnlyCreates]⟩
  | cons requirement rest inductionHypothesis =>
      rcases yields_ensureEach_cons yields with
        ⟨fault, -, first⟩ | ⟨ensured, front, back, rfl, first, others⟩
      · refine ⟨first.creations_sublist.trans ?_, first.onlyCreates⟩
        exact List.singleton_sublist.mpr List.mem_cons_self
      · obtain ⟨sublist, onlyCreates⟩ := inductionHypothesis others
        rw [creations_append]
        exact ⟨first.creations_sublist.append sublist, first.onlyCreates.append onlyCreates⟩

/-! ## Adopting secrets -/

section Adoption

variable {installation : Installation} {reference : OwnerReference} {name : String}
  {names : List String} {transcript : List Exchange}

theorem Adopting.creations_eq_nil
    (adopting : Adopting installation reference name transcript) :
    creations transcript = [] := by
  cases adopting <;> rfl

/-- Adopting secrets creates nothing. -/
theorem AdoptingEach.creations_eq_nil
    (adopting : AdoptingEach installation reference names transcript) :
    creations transcript = [] := by
  induction adopting with
  | nil => rfl
  | cons first others inductionHypothesis =>
      rw [creations_append, first.creations_eq_nil, inductionHypothesis, List.nil_append]

/-- Adopting a secret looks it up once. -/
theorem Adopting.lookUps_eq
    (adopting : Adopting installation reference name transcript) :
    lookUps transcript = [installation.secretKey name] := by
  cases adopting <;> rfl

/-- Secrets are looked up one after the other, however each of them goes. -/
theorem AdoptingEach.lookUps_eq
    (adopting : AdoptingEach installation reference names transcript) :
    lookUps transcript = names.map installation.secretKey := by
  induction adopting with
  | nil => rfl
  | cons first others inductionHypothesis =>
      rw [lookUps_append, first.lookUps_eq, inductionHypothesis]
      rfl

end Adoption

/-- An installation with a name and an identity can be referred to. -/
theorem ownerReference?_eq_none_iff (installation : Installation) :
    installation.ownerReference? = none ↔
      installation.metadata.name = none ∨ installation.metadata.uid = none := by
  unfold Installation.ownerReference?
  cases installation.metadata.name <;> cases installation.metadata.uid <;> simp

/--
Adopting the secrets of an installation creates nothing; all of them are looked up
if the installation has a name and an identity.
-/
theorem looksUp_of_yields_propagateSecrets
    {installation : Installation}
    {transcript : List Exchange} {outcome : Except Fault Unit}
    (yields : (propagateSecrets installation).Yields transcript outcome) :
    creations transcript = [] ∧
      (installation.metadata.name.isSome → installation.metadata.uid.isSome →
        ∀ name ∈ bootstrapSecrets, ∃ exchange ∈ transcript,
          exchange.lookedUp? = some ⟨.secret, installation.namespaceName, name⟩) := by
  rcases (yields_propagateSecrets yields).2 with
    ⟨isNone, rfl⟩ | ⟨reference, -, adopts⟩
  · refine ⟨rfl, ?_⟩
    intro named identified
    rcases (ownerReference?_eq_none_iff installation).mp isNone with unnamed | unidentified
    · simp [unnamed] at named
    · simp [unidentified] at identified
  · refine ⟨adopts.creations_eq_nil, fun _ _ name member => List.mem_filterMap.mp ?_⟩
    change installation.secretKey name ∈ lookUps transcript
    rw [adopts.lookUps_eq]
    exact List.mem_map_of_mem member

end Pass
end LifecycleOperator
