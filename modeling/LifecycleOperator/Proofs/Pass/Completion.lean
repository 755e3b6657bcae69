import LifecycleOperator.Proofs.Pass.Creation
import LifecycleOperator.Proofs.Store.Faultless

/-!
# Completion after failures

Making sure of objects never takes anything back: an attempt that is stopped leaves a
part of what is required, and the next one goes on from there.  Once nothing fails any
more everything that is required is there, and what is there is determined by the
store at the beginning.  So it does not matter how many attempts it took, nor where
they were stopped; and another attempt has nothing left to do.
-/

namespace LifecycleOperator
namespace Pass

/-- All that is required is there, and what was there before has been left as it was. -/
structure Completes (owner : Installation) (requirements : List Requirement)
    (before after : Store) : Prop where
  grows : Store.Grows (PlacedAmong owner requirements) before after
  present : ∀ key ∈ requirements.map (Requirement.key owner), after.Has key

/-! ## The completed store -/

/-- What is placed for a requirement is found by its key. -/
theorem Placed.key_eq
    {kind : Kind} {owner : Installation} {name : String}
    {build : Except Fault (Object kind)} {key : Key} {object : Object key.kind}
    (placed : Placed kind owner name build key object) :
    key = ⟨kind, owner.namespaceName, name⟩ := by
  cases placed with
  | built object built => rfl

/-- What is built is determined. -/
theorem Placed.unique
    {requirement : Requirement} {owner : Installation}
    {one other : Object (requirement.key owner).kind}
    (placed : Placed requirement.kind owner requirement.name requirement.build
      (requirement.key owner) one)
    (placedToo : Placed requirement.kind owner requirement.name requirement.build
      (requirement.key owner) other) :
    one = other := by
  cases placed with
  | built object built =>
      cases placedToo with
      | built objectToo builtToo =>
          rw [built, Except.ok.injEq] at builtToo
          rw [builtToo]

/-- Where no two requirements have the same key, what is placed under a key is determined. -/
theorem placedAmong_unique
    {owner : Installation} {requirements : List Requirement}
    (distinct : (requirements.map (Requirement.key owner)).Nodup)
    {key : Key} {one other : Object key.kind}
    (placed : PlacedAmong owner requirements key one)
    (placedToo : PlacedAmong owner requirements key other) :
    one = other := by
  obtain ⟨requirement, member, placed⟩ := placed
  obtain ⟨second, memberToo, placedToo⟩ := placedToo
  have keys : requirement.key owner = second.key owner :=
    placed.key_eq.symm.trans placedToo.key_eq
  obtain rfl := List.inj_on_of_nodup_map distinct member memberToo keys
  obtain rfl : key = requirement.key owner := placed.key_eq
  exact placed.unique placedToo

namespace Completes

variable {owner : Installation} {requirements : List Requirement}
  {before middle after left right : Store}

/-- It does not matter if a part of the objects is added beforehand. -/
theorem of_grows
    (completes : Completes owner requirements middle after)
    (grows : Store.Grows (PlacedAmong owner requirements) before middle) :
    Completes owner requirements before after :=
  ⟨grows.trans completes.grows, completes.present⟩

/-- Two stores that are completed from the same one hold the same objects. -/
theorem same
    (distinct : (requirements.map (Requirement.key owner)).Nodup)
    (completes : Completes owner requirements before left)
    (completesToo : Completes owner requirements before right) :
    left.Same right := by
  intro key
  -- A key was there before, or it is required, or neither store may have added to it.
  cases former : before.find? key with
  | some object =>
      rw [completes.grows.find? former, completesToo.grows.find? former]
  | none =>
      by_cases required : key ∈ requirements.map (Requirement.key owner)
      · obtain ⟨one, found⟩ :=
          Option.isSome_iff_exists.mp (completes.present key required)
        obtain ⟨other, foundToo⟩ :=
          Option.isSome_iff_exists.mp (completesToo.present key required)
        have placed := completes.grows.added key one former found
        have placedToo := completesToo.grows.added key other former foundToo
        rw [found, foundToo, placedAmong_unique distinct placed placedToo]
      · have notAdded : ∀ object, ¬ PlacedAmong owner requirements key object :=
          fun object placed => required (key_mem_of_placedAmong placed)
        rw [completes.grows.find?_eq_of_not_added notAdded,
          completesToo.grows.find?_eq_of_not_added notAdded]

end Completes

/-! ## Attempts at which nothing fails -/

/-- Making sure of objects that can be built succeeds if no exchange fails. -/
theorem ok_of_yields_ensureEach
    {owner : Installation} {requirements : List Requirement}
    {transcript : List Exchange} {outcome : Except Fault Unit}
    (buildable : ∀ requirement ∈ requirements, ∃ object, requirement.build = .ok object)
    (yields : (ensureEach owner requirements).Yields transcript outcome)
    (unhindered : failures transcript = []) :
    outcome = .ok () := by
  cases outcome with
  | ok result => rfl
  | error fault =>
      obtain ⟨done, requirement, rest, front, last, rfl, rfl, -, fails⟩ :=
        stopped_of_yields_ensureEach yields
      have built := buildable requirement
        (List.mem_append_right done List.mem_cons_self)
      rw [failures_append, fails.failures_of_error built] at unhindered
      simp at unhindered

/-- A rollout is complete if no exchange fails. -/
theorem complete_of_yields_rollout
    {installation : Installation} {manifest : Manifest}
    {transcript : List Exchange} {outcome : Except Fault Progress}
    (yields : (rollout installation
      (installation.specification.profile manifest)).Yields transcript outcome)
    (unhindered : failures transcript = []) :
    outcome = .ok .complete := by
  rcases yields_rollout yields with ⟨fault, -, fails⟩ | ⟨front, told, rfl, -, -⟩
  · have buildable : ∀ requirement ∈ rolloutRequirements installation manifest,
        ∃ object, requirement.build = .ok object := by
      intro requirement member
      obtain ⟨object, built, -⟩ := built_of_mem_rolloutRequirements member
      exact ⟨object, built⟩
    cases ok_of_yields_ensureEach buildable fails unhindered
  · rfl

/-- A rollout that is complete leaves a store that is complete. -/
theorem completes_of_yields_rollout
    {installation : Installation} {manifest : Manifest} {transcript : List Exchange}
    {permitted : ClusterCall → Verdict → Prop} {store after : Store}
    (truthful : Truthful permitted)
    (yields : (rollout installation
      (installation.specification.profile manifest)).Yields transcript (.ok .complete))
    (explains : Store.Explains permitted store transcript after) :
    Completes installation (rolloutRequirements installation manifest) store after := by
  refine ⟨placedAmong_of_yields_rollout yields explains, ?_⟩
  rw [map_key_rolloutRequirements]
  have rollingOut := rollingOut_of_yields_rollout truthful yields explains
  generalize failures transcript = failed at rollingOut
  cases rollingOut with
  | completed present => exact present

/-- Where nothing fails a rollout is complete, and so is the store that it leaves. -/
theorem completes_rollout
    {outside : Outside}
    (faultless : outside.Faultless)
    (installation : Installation)
    (manifest : Manifest)
    (store : Store) :
    let rolled := rollout installation (installation.specification.profile manifest)
    let run := outside.perform rolled store
    run.outcome = .ok .complete ∧
      Completes installation (rolloutRequirements installation manifest)
        store run.state.store := by
  intro rolled run
  have yields : rolled.Yields run.transcript run.outcome :=
    Store.yields_perform outside rolled store
  have unhindered : failures run.transcript = [] :=
    failures_eq_nil_of_smooth (faultless.smooth_perform rolled store)
  have complete : run.outcome = .ok .complete := complete_of_yields_rollout yields unhindered
  rw [complete] at yields
  exact ⟨complete, completes_of_yields_rollout truthful_honest yields
    (Store.explains_perform faultless.honest rolled store)⟩

/-! ## Attempts at which there is nothing left to do -/

/-- Nothing was asked to be changed, and nothing has changed. -/
def Idle (store : Store) (transcript : List Exchange) (after : Store) : Prop :=
  after = store ∧ ∀ exchange ∈ transcript, exchange.mutates = false

/-- Making sure of an object that is there changes nothing. -/
theorem Ensuring.idle
    {kind : Kind} {owner : Installation} {name : String}
    {build : Except Fault (Object kind)}
    {transcript : List Exchange} {outcome : Except Fault Ensured}
    {permitted : ClusterCall → Verdict → Prop} {store after : Store}
    (ensuring : Ensuring kind owner name build transcript outcome)
    (present : store.Has ⟨kind, owner.namespaceName, name⟩)
    (explains : Store.Explains permitted store transcript after) :
    Idle store transcript after := by
  obtain ⟨object, stored⟩ := Option.isSome_iff_exists.mp present
  cases ensuring with
  | unreadable | present =>
      obtain ⟨-, rfl⟩ := explains.lookup
      exact ⟨rfl, by simp [Exchange.mutates, Operation.ofCall?, Operation.isMutation]⟩
  | unbuilt | overtaken | rejected | created =>
      obtain ⟨found, -⟩ := explains.lookup
      rw [found none rfl] at stored
      cases stored

/-- Making sure of objects that are all there changes nothing. -/
theorem idle_of_yields_ensureEach
    {owner : Installation} {requirements : List Requirement}
    {transcript : List Exchange} {outcome : Except Fault Unit}
    {permitted : ClusterCall → Verdict → Prop} {store after : Store}
    (yields : (ensureEach owner requirements).Yields transcript outcome)
    (present : ∀ key ∈ requirements.map (Requirement.key owner), store.Has key)
    (explains : Store.Explains permitted store transcript after) :
    Idle store transcript after := by
  induction requirements generalizing transcript with
  | nil =>
      obtain ⟨rfl, -⟩ := Program.yields_done_iff.mp yields
      obtain rfl := explains
      exact ⟨rfl, by simp⟩
  | cons requirement rest inductionHypothesis =>
      rw [List.map_cons, List.forall_mem_cons] at present
      rcases yields_ensureEach_cons yields with
        ⟨fault, -, first⟩ | ⟨ensured, front, back, rfl, first, others⟩
      · exact first.idle present.1 explains
      · obtain ⟨middle, explainsFirst, explainsOthers⟩ := Store.explains_append.mp explains
        obtain ⟨rfl, changesNothing⟩ := first.idle present.1 explainsFirst
        obtain ⟨rfl, changesNothingElse⟩ :=
          inductionHypothesis others present.2 explainsOthers
        exact ⟨rfl, List.forall_mem_append.mpr ⟨changesNothing, changesNothingElse⟩⟩

/-- A rollout of what is all there changes nothing. -/
theorem idle_of_yields_rollout
    {installation : Installation} {manifest : Manifest}
    {transcript : List Exchange} {outcome : Except Fault Progress}
    {permitted : ClusterCall → Verdict → Prop} {store after : Store}
    (yields : (rollout installation
      (installation.specification.profile manifest)).Yields transcript outcome)
    (present : ∀ key ∈ (rolloutRequirements installation manifest).map
      (Requirement.key installation), store.Has key)
    (explains : Store.Explains permitted store transcript after) :
    Idle store transcript after := by
  rcases yields_rollout yields with
    ⟨fault, -, ensures⟩ | ⟨front, told, -, rfl, ensures⟩
  · exact idle_of_yields_ensureEach ensures present explains
  · obtain ⟨middle, explainsFront, tells⟩ := Store.explains_append.mp explains
    obtain rfl := tells.publish
    obtain ⟨rfl, changesNothing⟩ := idle_of_yields_ensureEach ensures present explainsFront
    refine ⟨rfl, List.forall_mem_append.mpr ⟨changesNothing, ?_⟩⟩
    simp [Exchange.mutates, Operation.ofCall?]

/-! ## One attempt after the other -/

/-- The store that attempts leave, one after the other, each in a world of its own. -/
def afterAttempts {α : Type} (part : Pass α) (worlds : List Outside) (first : Store) :
    Store :=
  worlds.foldl (fun store outside => (outside.perform part store).state.store) first

/-- Attempts to roll out add a part of what is required at most, wherever they stop. -/
theorem grows_afterAttempts
    (installation : Installation)
    (manifest : Manifest)
    (worlds : List Outside)
    (first : Store) :
    Store.Grows (PlacedAmong installation (rolloutRequirements installation manifest)) first
      (afterAttempts
        (rollout installation (installation.specification.profile manifest)) worlds first) := by
  induction worlds generalizing first with
  | nil => exact .refl first
  | cons outside worlds inductionHypothesis =>
      have grows := placedAmong_of_yields_rollout
        (Store.yields_perform outside
          (rollout installation (installation.specification.profile manifest)) first)
        (Store.explains_perform outside.permits_any _ first)
      exact grows.trans (inductionHypothesis _)

/--
A rollout recovers from failures.  Whatever attempts have been made, and whatever
became of each of their calls, an attempt at which nothing fails is complete, and leaves
what a single one would have left at the beginning.  After that there is nothing left to
do: in no world is anything changed, nor asked to be changed.
-/
theorem rollout_recovers
    (installation : Installation)
    (manifest : Manifest)
    (first : Store)
    (worlds : List Outside) :
    let rolled := rollout installation (installation.specification.profile manifest)
    let last := Outside.calm.perform rolled (afterAttempts rolled worlds first)
    let single := Outside.calm.perform rolled first
    last.outcome = .ok .complete ∧ last.state.store.Same single.state.store ∧
      ∀ outside : Outside,
        let further := outside.perform rolled last.state.store
        Idle last.state.store further.transcript further.state.store := by
  intro rolled last single
  obtain ⟨complete, completesRest⟩ := completes_rollout Outside.faultless_calm installation
    manifest (afterAttempts rolled worlds first)
  have completes := completesRest.of_grows
    (grows_afterAttempts installation manifest worlds first)
  have completesAlone :=
    (completes_rollout Outside.faultless_calm installation manifest first).2
  have distinct := installation.nodup_rolloutKeys
  rw [← map_key_rolloutRequirements installation manifest] at distinct
  refine ⟨complete, completes.same distinct completesAlone, ?_⟩
  intro outside
  exact idle_of_yields_rollout (Store.yields_perform outside rolled last.state.store)
    completes.present (Store.explains_perform outside.permits_any rolled last.state.store)

end Pass
end LifecycleOperator
