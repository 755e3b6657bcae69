import LifecycleOperator.Pass.Ensure
import LifecycleOperator.Proofs.Store.Evolution
import LifecycleOperator.Proofs.Store.Outside

/-!
# What making sure of an object can do

There are six ways in which making sure of an object can go.  They are listed
once, with all that is asked and answered in each of them; what it may do to a
store is read off the list.
-/

namespace LifecycleOperator

/-- A fault that says that a name is taken. -/
def Fault.IsTaken (fault : Fault) : Prop :=
  ∃ kind namespaceName name, fault = .alreadyExists kind namespaceName name

namespace Pass

/-- The ways in which making sure of an object can go. -/
inductive Ensuring
    (kind : Kind) (owner : Installation) (name : String)
    (build : Except Fault (Object kind)) :
    List Exchange → Except Fault Ensured → Prop
  /-- The object cannot be looked up. -/
  | unreadable (fault : Fault) :
      Ensuring kind owner name build
        [⟨.cluster (.lookup kind owner.namespaceName name), .error fault⟩]
        (.error fault)
  /-- The object is there. -/
  | present (object : Object kind) :
      Ensuring kind owner name build
        [⟨.cluster (.lookup kind owner.namespaceName name), .ok (some object)⟩]
        (.ok .alreadyPresent)
  /-- The object is not there and cannot be built. -/
  | unbuilt (fault : Fault) (failed : build = .error fault) :
      Ensuring kind owner name build
        [⟨.cluster (.lookup kind owner.namespaceName name), .ok none⟩]
        (.error fault)
  /-- The object is not there, but its name is taken by the time it is created. -/
  | overtaken (object : Object kind) (built : build = .ok object)
      (fault : Fault) (isTaken : fault.IsTaken) :
      Ensuring kind owner name build
        [⟨.cluster (.lookup kind owner.namespaceName name), .ok none⟩,
          ⟨.cluster (.create kind owner.namespaceName (object.placedFor owner name)),
            .error fault⟩]
        (.ok .alreadyPresent)
  /-- The object is not there and cannot be created. -/
  | rejected (object : Object kind) (built : build = .ok object)
      (fault : Fault) (notTaken : ¬ fault.IsTaken) :
      Ensuring kind owner name build
        [⟨.cluster (.lookup kind owner.namespaceName name), .ok none⟩,
          ⟨.cluster (.create kind owner.namespaceName (object.placedFor owner name)),
            .error fault⟩]
        (.error fault)
  /-- The object is not there and is created, which is then told. -/
  | created (object : Object kind) (built : build = .ok object)
      (answer : Object kind) (told : Except Fault Unit) :
      Ensuring kind owner name build
        [⟨.cluster (.lookup kind owner.namespaceName name), .ok none⟩,
          ⟨.cluster (.create kind owner.namespaceName (object.placedFor owner name)),
            .ok answer⟩,
          ⟨.cluster (.publish owner
            (.created owner.anyName kind.name name (some answer.reference))), told⟩]
        (.ok .created)

/-- Making sure of an object goes in one of these ways. -/
theorem yields_ensure
    {kind : Kind} {owner : Installation} {name : String}
    {build : Except Fault (Object kind)}
    {transcript : List Exchange} {outcome : Except Fault Ensured}
    (yields : (ensure kind owner name build).Yields transcript outcome) :
    Ensuring kind owner name build transcript outcome := by
  obtain ⟨found, rest, rfl, afterLookup⟩ := Program.yields_ask_iff.mp yields
  cases found with
  | error fault =>
      obtain ⟨rfl, rfl⟩ := Program.yields_done_iff.mp afterLookup
      exact .unreadable fault
  | ok found =>
      cases found with
      | some object =>
          obtain ⟨rfl, rfl⟩ := Program.yields_done_iff.mp afterLookup
          exact .present object
      | none =>
          cases build with
          | error fault =>
              obtain ⟨rfl, rfl⟩ := Program.yields_done_iff.mp afterLookup
              exact .unbuilt fault rfl
          | ok object =>
              obtain ⟨answer, rest, rfl, afterCreation⟩ :=
                Program.yields_ask_iff.mp afterLookup
              cases answer with
              | ok answer =>
                  obtain ⟨told, rest, rfl, afterEvent⟩ :=
                    Program.yields_ask_iff.mp afterCreation
                  obtain ⟨rfl, rfl⟩ := Program.yields_done_iff.mp afterEvent
                  exact .created object rfl answer told
              | error fault =>
                  by_cases isTaken : fault.IsTaken
                  · obtain ⟨taken, place, other, rfl⟩ := isTaken
                    obtain ⟨rfl, rfl⟩ := Program.yields_done_iff.mp afterCreation
                    exact .overtaken object rfl _ ⟨taken, place, other, rfl⟩
                  · cases fault
                    case alreadyExists taken place other =>
                      exact absurd ⟨taken, place, other, rfl⟩ isTaken
                    all_goals
                      obtain ⟨rfl, rfl⟩ := Program.yields_done_iff.mp afterCreation
                      exact .rejected object rfl _ isTaken

/-! ## What becomes of a store -/

/-- What making sure of an object may add: what was built, placed for its owner. -/
inductive Placed
    (kind : Kind) (owner : Installation) (name : String)
    (build : Except Fault (Object kind)) : Store.Addition
  | built (object : Object kind) (built : build = .ok object) :
      Placed kind owner name build ⟨kind, owner.namespaceName, name⟩
        (object.placedFor owner name)

/-- Refusals do not pretend that a name is taken. -/
def Truthful (permitted : ClusterCall → Verdict → Prop) : Prop :=
  ∀ call fault, permitted call (.refuse fault) → ¬ fault.IsTaken

namespace Ensuring

variable {kind : Kind} {owner : Installation} {name : String}
  {build : Except Fault (Object kind)} {transcript : List Exchange}
  {permitted : ClusterCall → Verdict → Prop} {store after : Store}

/-- A creation that is tried adds the object, or leaves the store as it is. -/
theorem grows_of_create
    {object : Object kind} {answer : Except Fault (Object kind)}
    (built : build = .ok object)
    (absent : store.find? ⟨kind, owner.namespaceName, name⟩ = none)
    (tried : store.Answers permitted
      ⟨.cluster (.create kind owner.namespaceName (object.placedFor owner name)), answer⟩
      after) :
    Store.Grows (Placed kind owner name build) store after := by
  have placed : Store.Grows (Placed kind owner name build) store
      (store.insert owner.namespaceName (object.placedFor owner name)) :=
    .of_put absent (.built object built)
  cases answer with
  | ok created =>
      obtain ⟨-, -, rfl⟩ := tried.create_ok
      exact placed
  | error fault =>
      rcases tried.create_error with ⟨-, rfl⟩ | ⟨-, -, rfl | rfl⟩
      · exact .refl after
      · exact .refl after
      · exact placed

/-- At most the object is added, and all that was stored stays as it is. -/
theorem grows
    {outcome : Except Fault Ensured}
    (ensuring : Ensuring kind owner name build transcript outcome)
    (explains : Store.Explains permitted store transcript after) :
    Store.Grows (Placed kind owner name build) store after := by
  cases ensuring with
  | unreadable | present | unbuilt =>
      obtain ⟨-, rfl⟩ := explains.lookup
      exact .refl after
  | overtaken object built | rejected object built =>
      obtain ⟨found, last, tried, rfl⟩ := explains.lookup
      exact grows_of_create built (found none rfl) tried
  | created object built answer told =>
      obtain ⟨found, middle, tried, published⟩ := explains.lookup
      obtain rfl := published.publish
      exact grows_of_create built (found none rfl) tried

/-- If it succeeds, there is an object of the name. -/
theorem has
    {ensured : Ensured}
    (truthful : Truthful permitted)
    (ensuring : Ensuring kind owner name build transcript (.ok ensured))
    (explains : Store.Explains permitted store transcript after) :
    after.Has ⟨kind, owner.namespaceName, name⟩ := by
  cases ensuring with
  | present object =>
      obtain ⟨found, rfl⟩ := explains.lookup
      simp [Store.Has, found _ rfl]
  | overtaken object built fault isTaken =>
      obtain ⟨-, last, tried, rfl⟩ := explains.lookup
      rcases tried.create_error with ⟨permit, -⟩ | ⟨-, present, -⟩
      · exact absurd isTaken (truthful _ fault permit)
      · exact present
  | created object built answer told =>
      obtain ⟨-, middle, tried, published⟩ := explains.lookup
      obtain rfl := published.publish
      obtain ⟨-, -, rfl⟩ := tried.create_ok
      simp [Store.Has, Store.insert, Object.placedFor]

/-- If it fails, the store is as it was. -/
theorem unchanged
    {fault : Fault}
    (ensuring : Ensuring kind owner name build transcript (.error fault))
    (explains : Store.Explains permitted store transcript after) :
    after = store := by
  cases ensuring with
  | unreadable | unbuilt => exact explains.lookup.2
  | rejected object built _ notTaken =>
      obtain ⟨-, last, tried, rfl⟩ := explains.lookup
      rcases tried.create_error with ⟨-, rfl⟩ | ⟨rfl, -⟩
      · rfl
      · exact absurd ⟨_, _, _, rfl⟩ notTaken

end Ensuring
end Pass
end LifecycleOperator
