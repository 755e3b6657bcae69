import LifecycleOperator.Proofs.Pass.Advance
import LifecycleOperator.Proofs.Pass.Creation
import LifecycleOperator.Proofs.Pass.Sighting
import Mathlib.Data.List.Perm.Subperm

/-!
# How a rollout goes through its objects

A rollout takes its objects in their order.  Each is looked up once, and created if it
is not there.  The first object that cannot be looked up, or that is not there and cannot
be created although its name is free, ends the rollout: what comes later is not touched.
So the answers that a rollout gets decide about every call that it makes, and about how
it ends.
-/

namespace LifecycleOperator
namespace Pass

namespace Exchange

/-- The fault with which a call was answered, if it was. -/
def fault? (exchange : Exchange) : Option Fault :=
  match exchange.answer with
  | .ok _ => none
  | .error fault => some fault

/-- Whether an exchange tells of an event. -/
def isPublication (exchange : Exchange) : Bool :=
  match exchange.call with
  | .cluster (.publish _ _) => true
  | _ => false

end Exchange

/-- What was looked up and was not there, in order. -/
def missed (transcript : List Exchange) : List Key :=
  (transcript.filter Exchange.isMiss).filterMap Exchange.lookedUp?

/-- The fault of the first exchange that fails at an object. -/
def faultAt? (transcript : List Exchange) (key : Key) : Option Fault :=
  (transcript.find? fun exchange => exchange.failure? = some key).bind Exchange.fault?

/-- The place of the first object at which an exchange fails; the number of all if none does. -/
def stop (keys : List Key) (transcript : List Exchange) : Nat :=
  keys.findIdx (· ∈ failures transcript)

/-- Objects are made sure of one after the other, up to the first that fails. -/
structure Traverses (keys : List Key) (transcript : List Exchange)
    (outcome : Except Fault Progress) : Prop where
  /-- All objects up to the one that fails are looked up, each once and in their order. -/
  lookUps_eq : lookUps transcript = keys.take (stop keys transcript + 1)
  /-- Just those among them that are not there are to be created, in their order. -/
  creations_eq : creations transcript =
    (keys.take (stop keys transcript + 1)).filter (· ∈ missed transcript)
  /-- Nothing else is asked for, apart from telling of events. -/
  asks : ∀ exchange ∈ transcript, exchange.lookedUp?.isSome ∨ exchange.creation?.isSome ∨
    exchange.isPublication
  /-- The first failure is what all ends with. -/
  fails : ∀ key, keys[stop keys transcript]? = some key →
    ∃ fault, faultAt? transcript key = some fault ∧ outcome = .error fault
  /-- If nothing fails, all is done. -/
  completes : keys[stop keys transcript]? = none → outcome = .ok .complete

@[simp] theorem missed_append (front back : List Exchange) :
    missed (front ++ back) = missed front ++ missed back := by
  rw [missed, List.filter_append, List.filterMap_append, missed, missed]

/-- The first failure is behind what goes well. -/
theorem faultAt?_append
    {front : List Exchange} (goesWell : failures front = []) (back : List Exchange)
    (key : Key) : faultAt? (front ++ back) key = faultAt? back key := by
  have unmet : front.find? (fun exchange => exchange.failure? = some key) = none := by
    rw [List.find?_eq_none]
    intro exchange member
    simp [List.filterMap_eq_nil_iff.mp goesWell exchange member]
  rw [faultAt?, List.find?_append, unmet, Option.none_or]
  rfl

/-- What is missed is looked up. -/
theorem missed_sublist (transcript : List Exchange) :
    (missed transcript).Sublist (lookUps transcript) :=
  List.filter_sublist.filterMap _

/-! ## Making sure of objects -/

namespace Ensuring

variable {kind : Kind} {owner : Installation} {name : String}
  {build : Except Fault (Object kind)} {transcript : List Exchange}
  {outcome : Except Fault Ensured}

/-- An object that is made sure of is looked up once. -/
theorem lookUps_eq (ensuring : Ensuring kind owner name build transcript outcome) :
    lookUps transcript = [⟨kind, owner.namespaceName, name⟩] := by
  cases ensuring <;> rfl

/-- An object that can be built is to be created just when it is missed. -/
theorem creations_eq_missed
    (buildable : ∃ object, build = .ok object)
    (ensuring : Ensuring kind owner name build transcript outcome) :
    creations transcript = missed transcript := by
  cases ensuring with
  | unreadable | present | overtaken | rejected | created => rfl
  | unbuilt fault failed =>
      obtain ⟨object, built⟩ := buildable
      rw [failed] at built
      cases built

/-- Making sure of an object that can be built ends with the fault that is met at it. -/
theorem faultAt?_eq
    {fault : Fault}
    (buildable : ∃ object, build = .ok object)
    (ensuring : Ensuring kind owner name build transcript (.error fault)) :
    faultAt? transcript ⟨kind, owner.namespaceName, name⟩ = some fault := by
  cases ensuring with
  | unreadable => simp [faultAt?, Exchange.failure?, Exchange.fault?]
  | unbuilt _ failed =>
      obtain ⟨object, built⟩ := buildable
      rw [failed] at built
      cases built
  | rejected object built _ notTaken =>
      -- The look-up does not fail, so that the creation is the first exchange that does.
      have fails : Exchange.failure? ⟨.cluster (.create kind owner.namespaceName
          (object.placedFor owner name)), .error fault⟩ =
            some ⟨kind, owner.namespaceName, name⟩ := by
        cases fault
        case alreadyExists => exact absurd ⟨_, _, _, rfl⟩ notTaken
        all_goals rfl
      rw [faultAt?, List.find?_cons_of_neg (by simp [Exchange.failure?]),
        List.find?_cons_of_pos (by simpa using fails)]
      rfl

end Ensuring

section Lists

variable {owner : Installation} {requirements : List Requirement}
  {transcript : List Exchange} {outcome : Except Fault Unit}

/-- If making sure of objects succeeds, all of them have been looked up, in their order. -/
theorem lookUps_of_yields_ensureEach
    (yields : (ensureEach owner requirements).Yields transcript (.ok ())) :
    lookUps transcript = requirements.map (Requirement.key owner) := by
  induction requirements generalizing transcript with
  | nil =>
      obtain ⟨rfl, -⟩ := Program.yields_done_iff.mp yields
      rfl
  | cons requirement rest inductionHypothesis =>
      rcases yields_ensureEach_cons yields with
        ⟨fault, impossible, -⟩ | ⟨ensured, front, back, rfl, first, others⟩
      · cases impossible
      · rw [lookUps_append, first.lookUps_eq, inductionHypothesis others]
        rfl

/-- What can be built is to be created just when it is missed. -/
theorem creations_eq_missed_of_yields_ensureEach
    (buildable : ∀ requirement ∈ requirements, ∃ object, requirement.build = .ok object)
    (yields : (ensureEach owner requirements).Yields transcript outcome) :
    creations transcript = missed transcript := by
  induction requirements generalizing transcript with
  | nil =>
      obtain ⟨rfl, -⟩ := Program.yields_done_iff.mp yields
      rfl
  | cons requirement rest inductionHypothesis =>
      rw [List.forall_mem_cons] at buildable
      rcases yields_ensureEach_cons yields with
        ⟨fault, -, first⟩ | ⟨ensured, front, back, rfl, first, others⟩
      · exact first.creations_eq_missed buildable.1
      · rw [creations_append, missed_append, first.creations_eq_missed buildable.1,
          inductionHypothesis buildable.2 others]

end Lists

/-! ## Rolling out -/

/-- Where nothing is looked up twice, what is missed is a selection of what is looked up. -/
theorem missed_eq_filter
    {reached : List Key} {transcript : List Exchange}
    (lookedUp : lookUps transcript = reached)
    (distinct : reached.Nodup) :
    missed transcript = reached.filter (· ∈ missed transcript) := by
  have sublist := (missed_sublist transcript).filter (· ∈ missed transcript)
  rw [lookedUp, List.filter_eq_self.mpr fun key member => decide_eq_true member] at sublist
  have subset : reached.filter (· ∈ missed transcript) ⊆ missed transcript :=
    fun key member => of_decide_eq_true (List.mem_filter.mp member).2
  exact sublist.eq_of_length_le (List.subperm_of_subset (distinct.filter _) subset).length_le

/-- Where nothing fails, all objects are passed. -/
theorem stop_of_failures_eq_nil
    {keys : List Key} {transcript : List Exchange}
    (unhindered : failures transcript = []) :
    stop keys transcript = keys.length := by
  rw [stop, unhindered]
  exact List.findIdx_eq_length_of_false (by simp)

/-- Where one object fails, all is stopped there. -/
theorem stop_of_failures_eq_singleton
    {done rest : List Key} {key : Key} {transcript : List Exchange}
    (distinct : (done ++ key :: rest).Nodup)
    (failed : failures transcript = [key]) :
    stop (done ++ key :: rest) transcript = done.length := by
  have passed : done.findIdx (· ∈ [key]) = done.length :=
    List.findIdx_eq_length_of_false fun other member => by
      simpa using ((List.nodup_append.mp distinct).2.2 other member key List.mem_cons_self)
  rw [stop, failed, List.findIdx_append, passed, if_neg (Nat.lt_irrefl _), List.findIdx_cons]
  simp

/-- A traversal in which something fails ends there. -/
theorem traverses_of_failure
    {done rest : List Key} {key : Key} {transcript : List Exchange} {fault : Fault}
    (distinct : (done ++ key :: rest).Nodup)
    (lookedUp : lookUps transcript = done ++ [key])
    (created : creations transcript = missed transcript)
    (asks : ∀ exchange ∈ transcript, exchange.lookedUp?.isSome ∨ exchange.creation?.isSome ∨
      exchange.isPublication)
    (failed : failures transcript = [key])
    (met : faultAt? transcript key = some fault) :
    Traverses (done ++ key :: rest) transcript (.error fault) := by
  have stopped := stop_of_failures_eq_singleton distinct failed
  have reached : (done ++ key :: rest).take (done.length + 1) = done ++ [key] := by
    rw [List.take_length_add_append, List.take_one]
    rfl
  have reachedOnce : (done ++ [key]).Nodup := by
    rw [← reached]
    exact distinct.sublist (List.take_sublist _ _)
  constructor
  · rw [lookedUp, stopped, reached]
  · rw [created, stopped, reached]
    exact missed_eq_filter lookedUp reachedOnce
  · exact asks
  · intro other atStop
    rw [stopped, List.getElem?_append_right (Nat.le_refl _), Nat.sub_self,
      List.getElem?_cons_zero, Option.some.injEq] at atStop
    exact ⟨fault, atStop ▸ met, rfl⟩
  · intro past
    rw [stopped, List.getElem?_append_right (Nat.le_refl _), Nat.sub_self] at past
    cases past

/-- A traversal in which nothing fails passes all objects. -/
theorem traverses_of_success
    {keys : List Key} {transcript : List Exchange}
    (distinct : keys.Nodup)
    (lookedUp : lookUps transcript = keys)
    (created : creations transcript = missed transcript)
    (asks : ∀ exchange ∈ transcript, exchange.lookedUp?.isSome ∨ exchange.creation?.isSome ∨
      exchange.isPublication)
    (unhindered : failures transcript = []) :
    Traverses keys transcript (.ok .complete) := by
  have stopped : stop keys transcript = keys.length := stop_of_failures_eq_nil unhindered
  have reached : keys.take (keys.length + 1) = keys :=
    List.take_of_length_le (Nat.le_succ _)
  constructor
  · rw [lookedUp, stopped, reached]
  · rw [created, stopped, reached]
    exact missed_eq_filter lookedUp distinct
  · exact asks
  · intro key atStop
    rw [stopped, List.getElem?_eq_none (Nat.le_refl _)] at atStop
    cases atStop
  · exact fun _ => rfl

/-- A rollout asks for nothing but look-ups, creations and events. -/
theorem asks_of_yields_rollout
    {installation : Installation} {manifest : Manifest}
    {transcript : List Exchange} {outcome : Except Fault Progress}
    (yields : (rollout installation
      (installation.specification.profile manifest)).Yields transcript outcome) :
    ∀ exchange ∈ transcript, exchange.lookedUp?.isSome ∨ exchange.creation?.isSome ∨
      exchange.isPublication := by
  have asks : (rollout installation (installation.specification.profile manifest)).Asks
      fun call => ∀ answer, (Exchange.lookedUp? ⟨call, answer⟩).isSome ∨
        (Exchange.creation? ⟨call, answer⟩).isSome ∨ Exchange.isPublication ⟨call, answer⟩ := by
    refine asks_rollout (fun _ _ => ⟨?_, ?_, ?_⟩) ?_
    · exact fun _ => .inl rfl
    · exact fun _ _ _ => .inr (.inl rfl)
    · exact fun _ _ => .inr (.inr rfl)
    · exact fun _ _ => .inr (.inr rfl)
  exact fun exchange member => yields.leads.asks asks exchange member exchange.answer

/-- A rollout goes through its objects, whatever it is answered. -/
theorem traverses_of_yields_rollout
    {installation : Installation} {manifest : Manifest}
    {transcript : List Exchange} {outcome : Except Fault Progress}
    (yields : (rollout installation
      (installation.specification.profile manifest)).Yields transcript outcome) :
    Traverses installation.rolloutKeys transcript outcome := by
  have asks := asks_of_yields_rollout yields
  have distinct := installation.nodup_rolloutKeys
  have keys := map_key_rolloutRequirements installation manifest
  have buildable : ∀ requirement ∈ rolloutRequirements installation manifest,
      ∃ object, requirement.build = .ok object := fun requirement member =>
    (built_of_mem_rolloutRequirements member).imp fun _ built => built.1
  rcases yields_rollout yields with
    ⟨fault, rfl, fails⟩ | ⟨front, told, rfl, rfl, goesWell⟩
  · have created := creations_eq_missed_of_yields_ensureEach buildable fails
    obtain ⟨done, requirement, rest, front, last, split, rfl, goesWell, stops⟩ :=
      stopped_of_yields_ensureEach fails
    have built := buildable requirement (by simp [split])
    have passed := failures_of_yields_ensureEach_ok goesWell
    rw [split, List.map_append, List.map_cons] at keys
    rw [← keys] at distinct ⊢
    refine traverses_of_failure distinct ?_ created asks ?_ ?_
    · rw [lookUps_append, lookUps_of_yields_ensureEach goesWell, stops.lookUps_eq]
      rfl
    · rw [failures_append, passed, stops.failures_of_error built]
      rfl
    · rw [faultAt?_append passed]
      exact stops.faultAt?_eq built
  · have passed := failures_of_yields_ensureEach_ok goesWell
    have lookedUp := lookUps_of_yields_ensureEach goesWell
    have created := creations_eq_missed_of_yields_ensureEach buildable goesWell
    rw [keys] at lookedUp
    refine traverses_of_success distinct ?_ ?_ asks ?_
    · rw [lookUps_append, lookedUp]
      exact List.append_nil _
    · rw [creations_append, missed_append, created]
      rfl
    · rw [failures_append, passed]
      rfl

/--
A rollout goes through its objects in their order.  Whatever the store holds at the
beginning, whatever its calls are answered and whatever others do meanwhile, it looks up
just the objects up to the first that fails, creates just those among them that are not
there, and ends with the failure.  If nothing fails it is complete, and unless others
remove objects all of them are there.
-/
theorem rollout_traverses
    (installation : Installation)
    (manifest : Manifest)
    {outside : SharedOutside}
    (candid : outside.Permits Verdict.Candid)
    (keeps : ∀ number store (key : Key),
      store.Has key → (outside.meanwhile number store).Has key)
    (store : Store) :
    let keys := installation.rolloutKeys
    let run := outside.perform
      (rollout installation (installation.specification.profile manifest)) store
    Traverses keys run.transcript run.outcome ∧
      (keys[stop keys run.transcript]? = none → ∀ key ∈ keys, run.state.store.Has key) := by
  intro keys run
  have yields := Program.run_yields outside.respond
    (rollout installation (installation.specification.profile manifest)) ⟨store, 0⟩
  have traverses : Traverses keys run.transcript run.outcome :=
    traverses_of_yields_rollout yields
  refine ⟨traverses, ?_⟩
  intro passed key member
  have complete : run.outcome = .ok .complete := traverses.completes passed
  have sees : Sees run.transcript key :=
    sees_of_yields_rollout (complete ▸ yields) key member
  have explains : Store.ExplainsAmid (fun before after => ∀ key : Key, before.Has key →
      after.Has key) store run.transcript run.state.store :=
    Store.explainsAmid_run (fun _ _ present => present) keeps candid
      (rollout installation (installation.specification.profile manifest)) ⟨store, 0⟩
  exact explains.has_of_sees (fun key before after kept => kept key) sees

/--
A world in which another writer is faster with every ConfigMap, and one more puts a
Deployment there, while no StatefulSet is admitted.
-/
def contested : SharedOutside where
  verdict := fun
    | _, .create .configMap _ _ => .tooLate
    | _, .create .statefulSet _ _ => .refuse (.other "admission denied")
    | _, _ => .carryOut
  release _ _ := .ok .empty
  probe _ := .ok true
  meanwhile _ store := store.insert "lm"
    (⟨{ Metadata.empty with name := some markerDeployment }, []⟩ : Object .deployment)

/-- In this world a rollout is stopped at its second object. -/
theorem rollout_traverses_contested :
    let installation := Installation.demo false
    let run := contested.perform
      (rollout installation (installation.specification.profile .empty)) .empty
    let reached : List Key :=
      [⟨.configMap, "lm", "demo-conductor-cm"⟩, ⟨.statefulSet, "lm", "conductor"⟩]
    (Traverses installation.rolloutKeys run.transcript run.outcome ∧
      (installation.rolloutKeys[stop installation.rolloutKeys run.transcript]? = none →
        ∀ key ∈ installation.rolloutKeys, run.state.store.Has key)) ∧
      lookUps run.transcript = reached ∧ creations run.transcript = reached ∧
      run.outcome = .error (.other "admission denied") := by
  refine ⟨?_, by decide +kernel, by decide +kernel, by decide +kernel⟩
  refine rollout_traverses (Installation.demo false) .empty ?_ ?_ .empty
  · intro number call
    cases call with
    | create kind => cases kind <;> simp [Verdict.Candid, contested, Fault.IsTaken]
    | lookup | replace | patchStatus | publish => trivial
  · intro number store key present
    exact present.insert _ _

end Pass
end LifecycleOperator
