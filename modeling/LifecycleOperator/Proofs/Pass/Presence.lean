import LifecycleOperator.Proofs.Pass.Traversal

/-!
# Attempts to make sure of objects

Objects are made sure of again and again: for one owner or another, under one name or
another, and not always with the same idea of what is to be built.  Each attempt may fail
at the look-up, at the building and at the creation, and others are at work on the store in
the meantime.  As long as nothing is removed, an object is created by one attempt at most,
and every attempt that succeeds can count on it from then on.  What is there is left to the
others, whatever would have been built.
-/

namespace LifecycleOperator
namespace SharedOutside

variable {outside : SharedOutside} {store after : Store} {number : Nat}

/-- Others remove nothing, and no name is said to be taken that is free. -/
structure Preserving (outside : SharedOutside) : Prop where
  candid : outside.Permits Verdict.Candid
  keeps : ∀ number store key, store.Has key → (outside.meanwhile number store).Has key

/-- What others make of a store on their own in the course of some calls. -/
def theirs (outside : SharedOutside) : Nat → Store → Store
  | 0, store => store
  | calls + 1, store => outside.meanwhile calls (outside.theirs calls store)

/--
A store becomes another one through the exchanges of a transcript, the first of which has
this number.  Right before each of them others have done their work.
-/
def Tells (outside : SharedOutside) : Nat → Store → List Pass.Exchange → Store → Prop
  | _, store, [], after => after = store
  | number, store, exchange :: rest, after =>
      ∃ middle, (outside.meanwhile number store).Answers Verdict.Candid exchange middle ∧
        outside.Tells (number + 1) middle rest after

/-- The transcript of a run tells what becomes of the store. -/
theorem tells_run
    {α : Type}
    (candid : outside.Permits Verdict.Candid)
    (part : Pass α)
    (moment : Outside.Moment) :
    outside.Tells moment.calls moment.store
      (part.run outside.respond moment).transcript
      (part.run outside.respond moment).state.store := by
  induction part generalizing moment with
  | done outcome => rfl
  | ask call next inductionHypothesis =>
      have answers := Store.answers_respond candid call
        { moment with store := outside.meanwhile moment.calls moment.store }
      have counted : (outside.respond call moment).2.calls = moment.calls + 1 := by
        cases call <;> rfl
      refine ⟨(outside.respond call moment).2.store, answers, ?_⟩
      rw [← counted]
      exact inductionHypothesis _ _

/-- A look-up tells what is there once others have done their work, and changes nothing. -/
theorem Tells.lookup
    {kind : Kind} {namespaceName name : String}
    {answer : Except Fault (Option (Object kind))} {rest : List Pass.Exchange}
    (tells : outside.Tells number store
      (⟨.cluster (.lookup kind namespaceName name), answer⟩ :: rest) after) :
    (∀ found, answer = .ok found →
      (outside.meanwhile number store).find? ⟨kind, namespaceName, name⟩ = found) ∧
      outside.Tells (number + 1) (outside.meanwhile number store) rest after := by
  obtain ⟨middle, answers, others⟩ := tells
  obtain ⟨rfl, found⟩ := answers.lookup
  exact ⟨found, others⟩

end SharedOutside

namespace Pass

/-- How making sure of an object can come to a fault. -/
inductive FailsWith (kind : Kind) (owner : Installation) (name : String)
    (build : Except Fault (Object kind)) (transcript : List Exchange) (fault : Fault) : Prop
  /-- It is the fault of the look-up. -/
  | lookup (answered :
      ⟨.cluster (.lookup kind owner.namespaceName name), .error fault⟩ ∈ transcript)
  /-- The object was missed, and it is the fault of the building. -/
  | building (misses : Misses transcript ⟨kind, owner.namespaceName, name⟩)
      (failed : build = .error fault)
  /-- The object was built, and it is the fault of its creation, which does not say that the
  name is taken. -/
  | creation (object : Object kind) (built : build = .ok object)
      (answered : ⟨.cluster (.create kind owner.namespaceName (object.placedFor owner name)),
        .error fault⟩ ∈ transcript)
      (notTaken : ¬ fault.IsTaken)

/-- Making sure of an object fails just with the fault of one of its steps. -/
theorem Ensuring.eq_error_iff
    {kind : Kind} {owner : Installation} {name : String} {build : Except Fault (Object kind)}
    {transcript : List Exchange} {outcome : Except Fault Ensured} {fault : Fault}
    (ensuring : Ensuring kind owner name build transcript outcome) :
    outcome = .error fault ↔ FailsWith kind owner name build transcript fault := by
  constructor
  · rintro rfl
    cases ensuring with
    | unreadable => exact .lookup List.mem_cons_self
    | unbuilt fault failed => exact .building List.mem_cons_self failed
    | rejected object built fault notTaken =>
        exact .creation object built (List.mem_cons_of_mem _ List.mem_cons_self) notTaken
  · intro fails
    cases fails with
    | lookup answered => cases ensuring <;> simp_all
    | building misses failed => cases ensuring <;> simp_all [Misses]
    | creation object built answered notTaken => cases ensuring <;> simp_all

/-- Where there is an object, it makes no difference what would be built. -/
theorem run_ensure_of_seen
    {σ : Type} {respond : Program.Responder Pass.interface σ} {state : σ}
    {kind : Kind} {owner : Installation} {name : String}
    (seen : (respond (.cluster (.lookup kind owner.namespaceName name)) state).1 ≠ .ok none)
    (build other : Except Fault (Object kind)) :
    (ensure kind owner name build).run respond state =
      (ensure kind owner name other).run respond state := by
  let looksUp : Call := .cluster (.lookup kind owner.namespaceName name)
  change Program.run respond (.ask looksUp _) state = Program.run respond (.ask looksUp _) state
  simp only [Program.run]
  match found : (respond looksUp state).1 with
  | .error fault => rfl
  | .ok (some object) => rfl
  | .ok none => exact absurd found seen

end Pass

/-- An object is stored as it was built, but for its name, its place and its owner. -/
structure Object.StoredFor {kind : Kind} (built : Object kind) (owner : Installation)
    (name : String) (stored : Object kind) : Prop where
  named : stored.metadata.name = some name
  placed : stored.metadata.namespaceName = some owner.namespaceName
  /-- An owner that can be referred to is the only one. -/
  owned : stored.metadata.ownerReferences =
    (owner.ownerReference?.map fun reference => [reference]).or built.metadata.ownerReferences
  same : { stored with
    metadata := { stored.metadata with
      name := built.metadata.name
      namespaceName := built.metadata.namespaceName
      ownerReferences := built.metadata.ownerReferences } } = built

theorem Object.storedFor_placedFor
    {kind : Kind} (built : Object kind) (owner : Installation) (name : String) :
    built.StoredFor owner name (built.placedFor owner name) where
  named := rfl
  placed := rfl
  owned := by
    unfold Object.placedFor
    cases owner.ownerReference? <;> rfl
  same := rfl

/-- An object that is to be made sure of: for whom, and in which world. -/
structure Task where
  owner : Installation
  requirement : Requirement
  outside : SharedOutside

/-- A task that is taken up on a store. -/
structure Attempt extends Task where
  /-- The store before it. -/
  before : Store

namespace Attempt

variable {attempt : Attempt}

/-- What the object is found by. -/
def key (attempt : Attempt) : Key := attempt.requirement.key attempt.owner

/-- Make sure of the object. -/
def run (attempt : Attempt) : Program.Run Pass.interface Outside.Moment Ensured :=
  attempt.outside.perform
    (Pass.ensure attempt.requirement.kind attempt.owner attempt.requirement.name
      attempt.requirement.build)
    attempt.before

/-- The store after it. -/
def after (attempt : Attempt) : Store := attempt.run.state.store

/-- What others would have made of the store in the meantime. -/
def theirs (attempt : Attempt) : Store :=
  attempt.outside.theirs attempt.run.transcript.length attempt.before

/-- The same attempt, but for what is built when there is no object. -/
def building (attempt : Attempt)
    (build : Except Fault (Object attempt.requirement.kind)) : Attempt :=
  { attempt with requirement := { attempt.requirement with build := build } }

/-- The key of an object that the attempt says to have created. -/
def createdKey? (attempt : Attempt) : Option Key :=
  match attempt.run.outcome with
  | .ok .created => some attempt.key
  | _ => none

/-- An attempt goes in one of the six ways. -/
theorem ensuring_run (attempt : Attempt) :
    Pass.Ensuring attempt.requirement.kind attempt.owner attempt.requirement.name
      attempt.requirement.build attempt.run.transcript attempt.run.outcome :=
  Pass.yields_ensure (Program.run_yields _ _ _)

theorem tells_run (candid : attempt.outside.Permits Verdict.Candid) :
    attempt.outside.Tells 0 attempt.before attempt.run.transcript attempt.after :=
  SharedOutside.tells_run candid _ ⟨attempt.before, 0⟩

theorem explainsAmid_run (preserving : attempt.outside.Preserving) :
    Store.ExplainsAmid (fun before after => ∀ key : Key, before.Has key → after.Has key)
      attempt.before attempt.run.transcript attempt.after :=
  Store.explainsAmid_run (fun _ _ present => present) preserving.keeps preserving.candid _
    ⟨attempt.before, 0⟩

/-- What is there before an attempt is there after it. -/
theorem has_after (attempt : Attempt) {key : Key} (preserving : attempt.outside.Preserving)
    (present : attempt.before.Has key) : attempt.after.Has key :=
  (explainsAmid_run preserving).has (fun key _ _ keeps => keeps key) present

/-- An object that is missed was not there before. -/
theorem not_has_of_misses (preserving : attempt.outside.Preserving)
    (misses : Pass.Misses attempt.run.transcript attempt.key) :
    ¬ attempt.before.Has attempt.key :=
  (explainsAmid_run preserving).not_has_of_misses (fun key _ _ keeps => keeps key) misses

theorem present_of_ok (preserving : attempt.outside.Preserving) {ensured : Ensured}
    (succeeds : attempt.run.outcome = .ok ensured) : attempt.after.Has attempt.key := by
  have ensuring := attempt.ensuring_run
  rw [succeeds] at ensuring
  exact (explainsAmid_run preserving).has_of_sees (fun key _ _ keeps => keeps key) ensuring.sees

/-- An object that is there before an attempt is found, if it can be looked up. -/
theorem lookup_ne_none (preserving : attempt.outside.Preserving)
    (present : attempt.before.Has attempt.key) :
    (attempt.outside.respond (.cluster (.lookup attempt.requirement.kind
      attempt.owner.namespaceName attempt.requirement.name)) ⟨attempt.before, 0⟩).1 ≠
        .ok none := by
  intro missed
  have stillPresent := preserving.keeps 0 attempt.before attempt.key present
  have answers := Store.answers_respond preserving.candid
    (.cluster (.lookup attempt.requirement.kind attempt.owner.namespaceName
      attempt.requirement.name)) ⟨attempt.outside.meanwhile 0 attempt.before, 0⟩
  have absent : (attempt.outside.meanwhile 0 attempt.before).find? attempt.key = none :=
    answers.lookup.2 none missed
  simp [Store.Has, absent] at stillPresent

/-- Where there is an object, it makes no difference what would be built. -/
theorem run_building (preserving : attempt.outside.Preserving)
    (present : attempt.before.Has attempt.key)
    (build : Except Fault (Object attempt.requirement.kind)) :
    (attempt.building build).run = attempt.run :=
  Pass.run_ensure_of_seen (lookup_ne_none preserving present) _ _

/-- An object that is there is left to the others. -/
theorem after_eq_theirs_of_has (preserving : attempt.outside.Preserving)
    (present : attempt.before.Has attempt.key) :
    attempt.after = attempt.theirs := by
  have tells := tells_run preserving.candid
  have ensuring := attempt.ensuring_run
  have seen : ¬ Pass.Misses attempt.run.transcript attempt.key :=
    fun misses => not_has_of_misses preserving misses present
  unfold theirs
  generalize attempt.run.transcript = transcript at *
  generalize attempt.run.outcome = outcome at *
  cases ensuring with
  | unreadable | present => exact tells.lookup.2
  | unbuilt | overtaken | rejected | created => exact absurd List.mem_cons_self seen

/-- An attempt that fails leaves the store to the others. -/
theorem after_eq_theirs_of_error (candid : attempt.outside.Permits Verdict.Candid)
    {fault : Fault} (fails : attempt.run.outcome = .error fault) :
    attempt.after = attempt.theirs := by
  have tells := tells_run candid
  have ensuring := attempt.ensuring_run
  rw [fails] at ensuring
  unfold theirs
  generalize attempt.run.transcript = transcript at *
  cases ensuring with
  | unreadable | unbuilt => exact tells.lookup.2
  | rejected object built fault notTaken =>
      obtain ⟨-, middle, tried, rfl⟩ := tells.lookup
      rcases tried.create_error with ⟨-, unmoved⟩ | ⟨rfl, -⟩
      · exact unmoved
      · exact absurd ⟨_, _, _, rfl⟩ notTaken

/-- An attempt that creates its object stores what was built for it. -/
theorem stored_of_created (candid : attempt.outside.Permits Verdict.Candid)
    (creates : attempt.run.outcome = .ok .created) :
    ∃ object, attempt.requirement.build = .ok object ∧
      (attempt.outside.theirs 2 attempt.before).find? attempt.key = none ∧
      attempt.after = attempt.outside.meanwhile 2
        ((attempt.outside.theirs 2 attempt.before).put attempt.key
          (object.placedFor attempt.owner attempt.requirement.name)) := by
  have tells := tells_run candid
  have ensuring := attempt.ensuring_run
  rw [creates] at ensuring
  generalize attempt.run.transcript = transcript at *
  cases ensuring with
  | created object built answer told =>
      obtain ⟨-, middle, tried, last, published, rfl⟩ := tells.lookup
      obtain ⟨absent, -, rfl⟩ := tried.create_ok
      exact ⟨object, built, absent, published.publish⟩

/-- What can be relied upon in a single attempt. -/
structure Reliable (attempt : Attempt) : Prop where
  /-- If it succeeds, the object is there. -/
  present : ∀ ensured, attempt.run.outcome = .ok ensured → attempt.after.Has attempt.key
  /-- An object that is there is left to the others, and nothing is built. -/
  untouched : attempt.before.Has attempt.key →
    attempt.after = attempt.theirs ∧ ∀ build, (attempt.building build).run = attempt.run
  /-- An object is created where there was none, as it was built for this attempt. -/
  created : attempt.run.outcome = .ok .created →
    ∃ object stored, attempt.requirement.build = .ok object ∧
      object.StoredFor attempt.owner attempt.requirement.name stored ∧
      (attempt.outside.theirs 2 attempt.before).find? attempt.key = none ∧
      attempt.after = attempt.outside.meanwhile 2
        ((attempt.outside.theirs 2 attempt.before).put attempt.key stored)
  /-- The faults are those of the look-up, the building and the creation. -/
  fails_iff : ∀ fault, attempt.run.outcome = .error fault ↔
    Pass.FailsWith attempt.requirement.kind attempt.owner attempt.requirement.name
      attempt.requirement.build attempt.run.transcript fault
  /-- An attempt that fails leaves the store to the others. -/
  unchanged : ∀ fault, attempt.run.outcome = .error fault → attempt.after = attempt.theirs

theorem reliable (preserving : attempt.outside.Preserving) : attempt.Reliable where
  present := fun _ => present_of_ok preserving
  untouched := fun present =>
    ⟨after_eq_theirs_of_has preserving present, run_building preserving present⟩
  created := by
    intro creates
    obtain ⟨object, built, absent, stored⟩ := stored_of_created preserving.candid creates
    exact ⟨object, _, built, object.storedFor_placedFor _ _, absent, stored⟩
  fails_iff := fun _ => attempt.ensuring_run.eq_error_iff
  unchanged := fun _ => after_eq_theirs_of_error preserving.candid

theorem createdKey?_eq_some_iff {key : Key} :
    attempt.createdKey? = some key ↔
      attempt.run.outcome = .ok .created ∧ attempt.key = key := by
  unfold createdKey?
  split
  · rename_i creates
    simp [creates]
  · rename_i other
    exact iff_of_false nofun fun created => other created.1

/-- An attempt does not create what is there before it. -/
theorem not_has_of_created (preserving : attempt.outside.Preserving)
    (creates : attempt.run.outcome = .ok .created) :
    ¬ attempt.before.Has attempt.key := by
  have ensuring := attempt.ensuring_run
  rw [creates] at ensuring
  generalize ran : attempt.run.transcript = transcript at ensuring
  cases ensuring with
  | created => exact not_has_of_misses preserving (ran ▸ List.mem_cons_self)

end Attempt

/-- Tasks are taken up one after the other, each on the store that the one before it leaves. -/
def attempts : Store → List Task → List Attempt
  | _, [] => []
  | store, task :: rest =>
      let attempt : Attempt := ⟨task, store⟩
      attempt :: attempts attempt.after rest

/-- What is there in the beginning is there before every attempt. -/
theorem has_before_of_mem_attempts
    {tasks : List Task} {store : Store} {key : Key} {attempt : Attempt}
    (preserving : ∀ task ∈ tasks, task.outside.Preserving)
    (present : store.Has key)
    (member : attempt ∈ attempts store tasks) :
    attempt.before.Has key := by
  induction tasks generalizing store with
  | nil => cases member
  | cons task rest inductionHypothesis =>
      rw [List.forall_mem_cons] at preserving
      cases member with
      | head => exact present
      | tail _ later =>
          exact inductionHypothesis preserving.2
            (Attempt.has_after ⟨task, store⟩ preserving.1 present) later

/-- Each task is taken up in its own world. -/
theorem preserving_of_mem_attempts
    {tasks : List Task} {store : Store} {attempt : Attempt}
    (preserving : ∀ task ∈ tasks, task.outside.Preserving)
    (member : attempt ∈ attempts store tasks) :
    attempt.outside.Preserving := by
  induction tasks generalizing store with
  | nil => cases member
  | cons task rest inductionHypothesis =>
      rw [List.forall_mem_cons] at preserving
      cases member with
      | head => exact preserving.1
      | tail _ later => exact inductionHypothesis preserving.2 later

/-- An object that an attempt has made sure of is there before all later ones. -/
theorem pairwise_attempts
    {tasks : List Task} (preserving : ∀ task ∈ tasks, task.outside.Preserving) (store : Store) :
    (attempts store tasks).Pairwise fun earlier later =>
      ∀ ensured, earlier.run.outcome = .ok ensured → later.before.Has earlier.key := by
  induction tasks generalizing store with
  | nil => exact .nil
  | cons task rest inductionHypothesis =>
      rw [List.forall_mem_cons] at preserving
      refine .cons ?_ (inductionHypothesis preserving.2 _)
      intro later member ensured succeeds
      have present := Attempt.present_of_ok preserving.1 succeeds
      exact has_before_of_mem_attempts preserving.2 present member

/-- What can be relied upon over many attempts. -/
structure Reliable (history : List Attempt) : Prop where
  each : ∀ attempt ∈ history, attempt.Reliable
  /-- No object is created twice. -/
  once : (history.filterMap Attempt.createdKey?).Nodup
  /-- An object that an attempt has made sure of is there from then on. -/
  lasting : history.Pairwise fun earlier later =>
    ∀ ensured, earlier.run.outcome = .ok ensured → later.before.Has earlier.key

/--
However often it is made sure of objects, and whatever fails, what is there is left alone
and no object is created twice.
-/
theorem attempts_reliable (tasks : List Task)
    (preserving : ∀ task ∈ tasks, task.outside.Preserving) (first : Store) :
    Reliable (attempts first tasks) where
  each := fun attempt member => Attempt.reliable (preserving_of_mem_attempts preserving member)
  once := by
    rw [List.Nodup, List.pairwise_filterMap]
    refine (pairwise_attempts preserving first).imp_of_mem ?_
    rintro earlier later - isLater lasting key createdFirst other createdAgain rfl
    obtain ⟨succeeds, rfl⟩ := Attempt.createdKey?_eq_some_iff.mp createdFirst
    obtain ⟨creates, same⟩ := Attempt.createdKey?_eq_some_iff.mp createdAgain
    refine Attempt.not_has_of_created (preserving_of_mem_attempts preserving isLater) creates ?_
    rw [same]
    exact lasting _ succeeds
  lasting := pairwise_attempts preserving first

theorem preserving_contested : Pass.contested.Preserving where
  candid := by
    intro number call
    cases call with
    | create kind => cases kind <;> simp [Verdict.Candid, Pass.contested, Fault.IsTaken]
    | lookup | replace | patchStatus | publish => trivial
  keeps := fun _ _ _ present => present.insert _ _

/-- Attempts that are lost to others, refused, not needed, and that succeed once. -/
theorem attempts_reliable_contested :
    let task (requirement : Requirement) : Task :=
      ⟨Installation.demo false, requirement, Pass.contested⟩
    let built {kind : Kind} (body : kind.Body) : Except Fault (Object kind) :=
      .ok ⟨Metadata.empty, body⟩
    let tasks := [task ⟨.configMap, "demo-cm", built []⟩, task ⟨.statefulSet, "galileo", built []⟩,
      task ⟨.deployment, markerDeployment, .error (.other "boom")⟩,
      task ⟨.service, "daytona", .error (.other "boom")⟩, task ⟨.service, "daytona", built []⟩,
      task ⟨.service, "daytona", built [("spec", .null)]⟩]
    Reliable (attempts .empty tasks) ∧
      (attempts .empty tasks).map (fun attempt => attempt.run.outcome) =
        [.ok .alreadyPresent, .error (.other "admission denied"), .ok .alreadyPresent,
          .error (.other "boom"), .ok .created, .ok .alreadyPresent] := by
  intro task built tasks
  refine ⟨attempts_reliable tasks ?_ .empty, by decide +kernel⟩
  intro other member
  have world : other.outside ∈ List.replicate 6 Pass.contested :=
    List.mem_map_of_mem (f := Task.outside) member
  rw [List.eq_of_mem_replicate world]
  exact preserving_contested

end LifecycleOperator
