import LifecycleOperator.Proofs.Program.Transcript
import LifecycleOperator.Store.Operation
import LifecycleOperator.Store.Response

/-!
# The world outside of a pass

A pass meets a store of objects, releases and a health probe.  Each call on the
store comes to a verdict of its own: it is carried out, refused, or too late.  No
law ties the verdicts, the releases and the answers of the probe to one another,
so that a statement about every world outside covers every pattern of failures.

A transcript explains how a store became another one.  What a single exchange
tells about the stores before and after it is stated here once for each call.
-/

namespace LifecycleOperator

/-- What becomes of the calls that a pass makes, each by its number. -/
structure Outside where
  /-- What is to become of a call on the cluster. -/
  verdict : Nat → ClusterCall → Verdict
  /-- What is found at the address of a release. -/
  release : Nat → String → Except Fault Manifest
  probe : Nat → Except Fault Bool

namespace Outside

/-- A store, and the number of calls that were made so far. -/
structure Moment where
  store : Store
  calls : Nat

/-- Answer the next call. -/
def respond (outside : Outside) : Program.Responder Pass.interface Moment
  | .cluster call, moment =>
      let response := moment.store.respond call (outside.verdict moment.calls call)
      (response.1, ⟨response.2, moment.calls + 1⟩)
  | .fetchRelease url, moment =>
      (outside.release moment.calls url, { moment with calls := moment.calls + 1 })
  | .probe, moment =>
      (outside.probe moment.calls, { moment with calls := moment.calls + 1 })

/-- Run a part of a pass over a store. -/
def perform {α : Type} (outside : Outside) (part : Pass α) (store : Store) :
    Program.Run Pass.interface Moment α :=
  part.run outside.respond ⟨store, 0⟩

/-- The world in which every call succeeds, and in which all is well. -/
def calm : Outside := ⟨fun _ _ => .carryOut, fun _ _ => .ok .empty, fun _ => .ok true⟩

/-- Every call comes to a verdict that is permitted. -/
def Permits (outside : Outside) (permitted : ClusterCall → Verdict → Prop) : Prop :=
  ∀ number call, permitted call (outside.verdict number call)

end Outside

/-- Every verdict may be met. -/
def Verdict.Any (_ : ClusterCall) (_ : Verdict) : Prop := True

/-- Every world outside comes to some verdict. -/
theorem Outside.permits_any (outside : Outside) : outside.Permits Verdict.Any :=
  fun _ _ => trivial

namespace Store

/-- There is an object of a key. -/
def Has (store : Store) (key : Key) : Prop :=
  (store.find? key).isSome

instance (store : Store) (key : Key) : Decidable (store.Has key) :=
  inferInstanceAs (Decidable ((store.find? key).isSome = true))

/-- What is found is there. -/
theorem has_of_find?_eq_some
    {store : Store} {key : Key} {object : Object key.kind}
    (stored : store.find? key = some object) :
    store.Has key := by
  unfold Has
  rw [stored]
  rfl

/-- A store that finds the same under a key has it just when the other one has. -/
theorem has_iff_of_find?_eq
    {store after : Store} {key : Key}
    (same : after.find? key = store.find? key) :
    after.Has key ↔ store.Has key := by
  unfold Has
  rw [same]

/-- A store answers a call in this way, on a permitted verdict, and becomes another one. -/
def Answers (permitted : ClusterCall → Verdict → Prop) (store : Store) :
    Pass.Exchange → Store → Prop
  | ⟨.cluster call, answer⟩, after =>
      ∃ verdict, permitted call verdict ∧ store.respond call verdict = (answer, after)
  | ⟨.fetchRelease _, _⟩, after => after = store
  | ⟨.probe, _⟩, after => after = store

/-- A store becomes another one through the exchanges of a transcript. -/
def Explains (permitted : ClusterCall → Verdict → Prop) :
    Store → List Pass.Exchange → Store → Prop
  | store, [], after => after = store
  | store, exchange :: rest, after =>
      ∃ middle, store.Answers permitted exchange middle ∧
        Explains permitted middle rest after

variable {permitted : ClusterCall → Verdict → Prop} {store after : Store}

@[simp] theorem explains_nil :
    Explains permitted store [] after ↔ after = store := Iff.rfl

@[simp] theorem explains_cons {exchange : Pass.Exchange} {rest : List Pass.Exchange} :
    Explains permitted store (exchange :: rest) after ↔
      ∃ middle, store.Answers permitted exchange middle ∧
        Explains permitted middle rest after := Iff.rfl

/-- More verdicts may be permitted than were met. -/
theorem Explains.mono
    {wider : ClusterCall → Verdict → Prop} {transcript : List Pass.Exchange}
    (explains : Explains permitted store transcript after)
    (permits : ∀ call verdict, permitted call verdict → wider call verdict) :
    Explains wider store transcript after := by
  induction transcript generalizing store with
  | nil => exact explains
  | cons exchange rest inductionHypothesis =>
      obtain ⟨middle, answers, explainsRest⟩ := explains
      refine ⟨middle, ?_, inductionHypothesis explainsRest⟩
      match exchange with
      | ⟨.cluster call, _⟩ =>
          obtain ⟨verdict, permit, responds⟩ := answers
          exact ⟨verdict, permits call verdict permit, responds⟩
      | ⟨.fetchRelease _, _⟩ | ⟨.probe, _⟩ => exact answers

/-- A transcript in two parts leads through a store between them. -/
theorem explains_append {front back : List Pass.Exchange} :
    Explains permitted store (front ++ back) after ↔
      ∃ middle, Explains permitted store front middle ∧
        Explains permitted middle back after := by
  induction front generalizing store with
  | nil => simp
  | cons exchange front inductionHypothesis =>
      simp only [List.cons_append, explains_cons, inductionHypothesis]
      constructor
      · rintro ⟨first, answers, second, explains, rest⟩
        exact ⟨second, ⟨first, answers, explains⟩, rest⟩
      · rintro ⟨second, ⟨first, answers, explains⟩, rest⟩
        exact ⟨first, answers, second, explains, rest⟩

/-- A world answers each call as one of the permitted verdicts says. -/
theorem answers_respond
    {outside : Outside}
    (permits : outside.Permits permitted)
    (call : Pass.Call)
    (moment : Outside.Moment) :
    moment.store.Answers permitted ⟨call, (outside.respond call moment).1⟩
      (outside.respond call moment).2.store := by
  cases call with
  | cluster call =>
      exact ⟨outside.verdict moment.calls call, permits moment.calls call, rfl⟩
  | fetchRelease url => rfl
  | probe => rfl

/-- The transcript of a run explains the store that the run leaves. -/
theorem explains_run
    {α : Type}
    {outside : Outside}
    (permits : outside.Permits permitted)
    (part : Pass α)
    (moment : Outside.Moment) :
    Explains permitted moment.store
      (part.run outside.respond moment).transcript
      (part.run outside.respond moment).state.store := by
  induction part generalizing moment with
  | done outcome => rfl
  | ask call next inductionHypothesis =>
      exact ⟨(outside.respond call moment).2.store, answers_respond permits call moment,
        inductionHypothesis _ _⟩

/-- What is asked in a world outside is a transcript of the part that asks. -/
theorem yields_perform
    {α : Type} (outside : Outside) (part : Pass α) (store : Store) :
    part.Yields (outside.perform part store).transcript
      (outside.perform part store).outcome :=
  Program.run_yields outside.respond part ⟨store, 0⟩

/-- What is asked in a world outside explains the store that is left. -/
theorem explains_perform
    {α : Type} {outside : Outside} (permits : outside.Permits permitted)
    (part : Pass α) (store : Store) :
    Explains permitted store (outside.perform part store).transcript
      (outside.perform part store).state.store :=
  explains_run permits part ⟨store, 0⟩

/-! ## What an exchange tells -/

/-- A look-up that succeeds finds what is there, and no look-up changes anything. -/
theorem Answers.lookup
    {kind : Kind} {namespaceName name : String}
    {answer : Except Fault (Option (Object kind))}
    (answers : store.Answers permitted
      ⟨.cluster (.lookup kind namespaceName name), answer⟩ after) :
    after = store ∧
      ∀ found, answer = .ok found → store.find? ⟨kind, namespaceName, name⟩ = found := by
  obtain ⟨verdict, -, responds⟩ := answers
  cases verdict with
  | carryOut | tooLate =>
      cases responds
      refine ⟨rfl, ?_⟩
      intro found equal
      cases equal
      rfl
  | refuse fault =>
      cases responds
      refine ⟨rfl, ?_⟩
      intro found equal
      cases equal

/-- A creation that succeeds puts the object where there was none. -/
theorem Answers.create_ok
    {kind : Kind} {namespaceName : String} {object created : Object kind}
    (answers : store.Answers permitted
      ⟨.cluster (.create kind namespaceName object), .ok created⟩ after) :
    store.find? ⟨kind, namespaceName, object.metadata.name.getD ""⟩ = none ∧
      created = object ∧ after = store.insert namespaceName object := by
  obtain ⟨verdict, -, responds⟩ := answers
  cases verdict with
  | carryOut =>
      simp only [respond, carryOut, create] at responds
      split at responds
      · cases responds
      · rename_i absent
        cases responds
        exact ⟨absent, rfl, rfl⟩
  | refuse fault => cases responds
  | tooLate => cases responds

/--
A creation that fails was refused and changed nothing, or its name is taken from
then on, be it by what was there before or by another writer who was faster.
-/
theorem Answers.create_error
    {kind : Kind} {namespaceName : String} {object : Object kind} {fault : Fault}
    (answers : store.Answers permitted
      ⟨.cluster (.create kind namespaceName object), .error fault⟩ after) :
    permitted (.create kind namespaceName object) (.refuse fault) ∧ after = store ∨
      fault = taken namespaceName object ∧
        after.Has ⟨kind, namespaceName, object.metadata.name.getD ""⟩ ∧
        (after = store ∨ after = store.insert namespaceName object) := by
  obtain ⟨verdict, permit, responds⟩ := answers
  cases verdict with
  | carryOut =>
      simp only [respond, carryOut, create] at responds
      split at responds
      · rename_i former found
        cases responds
        exact .inr ⟨rfl, by simp [Has, found], .inl rfl⟩
      · cases responds
  | refuse cause =>
      cases responds
      exact .inl ⟨permit, rfl⟩
  | tooLate =>
      cases responds
      exact .inr ⟨rfl, by simp [Has, insert], .inr rfl⟩

/-- A replacement that succeeds puts the object under its own name. -/
theorem Answers.replace_ok
    {kind : Kind} {namespaceName name : String} {object replaced : Object kind}
    (answers : store.Answers permitted
      ⟨.cluster (.replace kind namespaceName name object), .ok replaced⟩ after) :
    after = store.insert namespaceName object := by
  obtain ⟨verdict, -, responds⟩ := answers
  cases verdict with
  | carryOut | tooLate =>
      cases responds
      rfl
  | refuse fault => cases responds

/-- A replacement that fails changes nothing. -/
theorem Answers.replace_error
    {kind : Kind} {namespaceName name : String} {object : Object kind} {fault : Fault}
    (answers : store.Answers permitted
      ⟨.cluster (.replace kind namespaceName name object), .error fault⟩ after) :
    after = store := by
  obtain ⟨verdict, -, responds⟩ := answers
  cases verdict with
  | carryOut | tooLate => cases responds
  | refuse cause =>
      cases responds
      rfl

/-- A replacement changes nothing, or puts the object under its own name. -/
theorem Answers.replace
    {kind : Kind} {namespaceName name : String} {object : Object kind}
    {answer : Except Fault (Object kind)}
    (answers : store.Answers permitted
      ⟨.cluster (.replace kind namespaceName name object), answer⟩ after) :
    after = store ∨ after = store.insert namespaceName object := by
  cases answer with
  | ok replaced => exact .inr answers.replace_ok
  | error fault => exact .inl answers.replace_error

/-- A status that is set is set at the installation, and leaves all else of it alone. -/
theorem Answers.patchStatus
    {namespaceName name : String} {status : Status} {answer : Except Fault Unit}
    (answers : store.Answers permitted
      ⟨.cluster (.patchStatus namespaceName name status), answer⟩ after) :
    after = store ∨
      ∃ installation, store.find? ⟨.installation, namespaceName, name⟩ = some installation ∧
        after = store.put ⟨.installation, namespaceName, name⟩
          (Installation.withStatus installation status) := by
  obtain ⟨verdict, -, responds⟩ := answers
  cases verdict with
  | carryOut | tooLate =>
      simp only [respond, carryOut, overtake, Store.patchStatus] at responds
      split at responds
      · cases responds
        exact .inl rfl
      · rename_i installation found
        cases responds
        exact .inr ⟨installation, found, rfl⟩
  | refuse fault =>
      cases responds
      exact .inl rfl

/-- Events leave no trace in a store. -/
theorem Answers.publish
    {installation : Installation} {event : Event} {answer : Except Fault Unit}
    (answers : store.Answers permitted
      ⟨.cluster (.publish installation event), answer⟩ after) :
    after = store := by
  obtain ⟨verdict, -, responds⟩ := answers
  cases verdict <;> cases responds <;> rfl

/-- What becomes of a store when a call is answered. -/
inductive Effect (store : Store) : Pass.Call → Store → Prop
  /-- The store stays as it is. -/
  | nothing (call : Pass.Call) : Effect store call store
  /-- An object is created, by this call or by another writer who was faster. -/
  | creation (kind : Kind) (namespaceName : String) (object : Object kind) :
      Effect store (.cluster (.create kind namespaceName object))
        (store.insert namespaceName object)
  /-- An object is put in the place of another one. -/
  | replacement (kind : Kind) (namespaceName name : String) (object : Object kind) :
      Effect store (.cluster (.replace kind namespaceName name object))
        (store.insert namespaceName object)
  /-- The status of an installation is set. -/
  | update (namespaceName name : String) (status : Status) (installation : Installation)
      (stored : store.find? ⟨.installation, namespaceName, name⟩ = some installation) :
      Effect store (.cluster (.patchStatus namespaceName name status))
        (store.put ⟨.installation, namespaceName, name⟩
          (Installation.withStatus installation status))

/-- Every answer has one of these effects. -/
theorem Answers.effect
    {exchange : Pass.Exchange}
    (answers : store.Answers permitted exchange after) :
    store.Effect exchange.call after := by
  match exchange with
  | ⟨.fetchRelease _, _⟩ | ⟨.probe, _⟩ =>
      rw [show after = store from answers]
      exact .nothing _
  | ⟨.cluster (.lookup _ _ _), _⟩ =>
      rw [answers.lookup.1]
      exact .nothing _
  | ⟨.cluster (.publish _ _), _⟩ =>
      rw [answers.publish]
      exact .nothing _
  | ⟨.cluster (.create kind namespaceName object), .ok _⟩ =>
      rw [answers.create_ok.2.2]
      exact .creation kind namespaceName object
  | ⟨.cluster (.create kind namespaceName object), .error _⟩ =>
      rcases answers.create_error with ⟨-, rfl⟩ | ⟨-, -, rfl | rfl⟩
      · exact .nothing _
      · exact .nothing _
      · exact .creation kind namespaceName object
  | ⟨.cluster (.replace kind namespaceName name object), _⟩ =>
      rcases answers.replace with rfl | rfl
      · exact .nothing _
      · exact .replacement kind namespaceName name object
  | ⟨.cluster (.patchStatus namespaceName name status), _⟩ =>
      rcases answers.patchStatus with rfl | ⟨installation, stored, rfl⟩
      · exact .nothing _
      · exact .update namespaceName name status installation stored

/-! ## What a transcript tells at its beginning -/

/-- A look-up at the beginning tells what is stored, and the rest starts from there. -/
theorem Explains.lookup
    {kind : Kind} {namespaceName name : String}
    {answer : Except Fault (Option (Object kind))} {rest : List Pass.Exchange}
    (explains : Explains permitted store
      (⟨.cluster (.lookup kind namespaceName name), answer⟩ :: rest) after) :
    (∀ found, answer = .ok found → store.find? ⟨kind, namespaceName, name⟩ = found) ∧
      Explains permitted store rest after := by
  obtain ⟨middle, looked, others⟩ := explains
  obtain ⟨rfl, found⟩ := looked.lookup
  exact ⟨found, others⟩

/-- An event at the beginning changes nothing. -/
theorem Explains.publish
    {installation : Installation} {event : Event} {answer : Except Fault Unit}
    {rest : List Pass.Exchange}
    (explains : Explains permitted store
      (⟨.cluster (.publish installation event), answer⟩ :: rest) after) :
    Explains permitted store rest after := by
  obtain ⟨middle, published, others⟩ := explains
  rw [published.publish] at others
  exact others

/-- A release at the beginning changes nothing. -/
theorem Explains.fetchRelease
    {url : String} {answer : Except Fault Manifest} {rest : List Pass.Exchange}
    (explains : Explains permitted store (⟨.fetchRelease url, answer⟩ :: rest) after) :
    Explains permitted store rest after := by
  obtain ⟨middle, rfl, others⟩ := explains
  exact others

/-- A probe at the beginning changes nothing. -/
theorem Explains.probe
    {answer : Except Fault Bool} {rest : List Pass.Exchange}
    (explains : Explains permitted store (⟨.probe, answer⟩ :: rest) after) :
    Explains permitted store rest after := by
  obtain ⟨middle, rfl, others⟩ := explains
  exact others

end Store
end LifecycleOperator
