import LifecycleOperator.Proofs.Pass.Image
import LifecycleOperator.Proofs.Pass.Marker
import LifecycleOperator.Proofs.Pass.Notes
import LifecycleOperator.Proofs.Program.Indifference

/-!
# Passes over stores that differ in notes

Two stores may hold one installation with different notes and be the same otherwise.  They
answer every call in the same way, but for these notes, and stay alike, whatever becomes of
the call.  As a pass has no regard for notes, it cannot tell the two stores apart.
-/

namespace LifecycleOperator

/-! ## Stores that differ in notes -/

namespace Store

/-- Two stores hold the same, but for the notes of one installation. -/
structure Alike (namespaceName name : String) (left right : Store) : Prop where
  installation :
    (left.find? ⟨.installation, namespaceName, name⟩).map Installation.bare =
      (right.find? ⟨.installation, namespaceName, name⟩).map Installation.bare
  others : ∀ key, key ≠ ⟨.installation, namespaceName, name⟩ → left.find? key = right.find? key

namespace Alike

variable {namespaceName name : String} {left right : Store}
  (alike : Alike namespaceName name left right)

include alike

/-- The installation is in neither of the stores, or in both with notes of its own. -/
theorem absent_or_stored :
    left.find? ⟨.installation, namespaceName, name⟩ = none ∧
        right.find? ⟨.installation, namespaceName, name⟩ = none ∨
      ∃ former later, left.find? ⟨.installation, namespaceName, name⟩ = some former ∧
        right.find? ⟨.installation, namespaceName, name⟩ = some later ∧
        Installation.Alike former later := by
  have same := alike.installation
  cases stored : left.find? ⟨.installation, namespaceName, name⟩ <;>
    cases storedTwin : right.find? ⟨.installation, namespaceName, name⟩ <;>
    simp only [stored, storedTwin, Option.map_none, Option.map_some, reduceCtorEq,
      Option.some.injEq] at same
  · exact .inl ⟨rfl, rfl⟩
  · exact .inr ⟨_, _, rfl, rfl, same⟩

/-- The same objects are there. -/
theorem isSome_find? (key : Key) : (left.find? key).isSome = (right.find? key).isSome := by
  by_cases same : key = ⟨.installation, namespaceName, name⟩
  · subst same
    simpa using congrArg Option.isSome alike.installation
  · rw [alike.others key same]

theorem put (key : Key) (object : Object key.kind) :
    Alike namespaceName name (left.put key object) (right.put key object) := by
  constructor
  · by_cases same : key = ⟨.installation, namespaceName, name⟩
    · subst same
      rw [find?_put_self, find?_put_self]
    · rw [find?_put_of_ne left object same, find?_put_of_ne right object same]
      exact alike.installation
  · intro other different
    by_cases same : key = other
    · subst same
      rw [find?_put_self, find?_put_self]
    · rw [find?_put_of_ne left object same, find?_put_of_ne right object same]
      exact alike.others other different

/-- The installation may be put into both stores with different notes. -/
theorem putInstallation {former later : Installation} (notes : former.Alike later) :
    Alike namespaceName name (left.put ⟨.installation, namespaceName, name⟩ former)
      (right.put ⟨.installation, namespaceName, name⟩ later) where
  installation := by
    rw [find?_put_self, find?_put_self]
    exact congrArg some notes
  others := by
    intro key different
    rw [find?_put_of_ne left former different.symm, find?_put_of_ne right later different.symm]
    exact alike.others key different

/-- What is looked up in both stores is the same, but for the notes of the installation. -/
theorem lookup (kind : Kind) (place other : String) :
    Pass.Exchange.Alike
      ⟨.cluster (.lookup kind place other), .ok (left.find? ⟨kind, place, other⟩)⟩
      ⟨.cluster (.lookup kind place other), .ok (right.find? ⟨kind, place, other⟩)⟩ := by
  by_cases same : (⟨kind, place, other⟩ : Key) = ⟨.installation, namespaceName, name⟩
  · cases same
    rcases alike.absent_or_stored with
      ⟨absent, absentTwin⟩ | ⟨former, later, stored, storedTwin, notes⟩
    · rw [absent, absentTwin]
      exact .same _
    · rw [stored, storedTwin]
      exact .found _ _ _ _ notes
  · rw [alike.others _ same]
    exact .same _

theorem create {kind : Kind} (place : String) (object : Object kind) :
    (left.create place object).1 = (right.create place object).1 ∧
      Alike namespaceName name (left.create place object).2 (right.create place object).2 := by
  have there := alike.isSome_find? ⟨kind, place, object.metadata.name.getD ""⟩
  unfold Store.create
  cases stored : left.find? ⟨kind, place, object.metadata.name.getD ""⟩ <;>
    cases storedTwin : right.find? ⟨kind, place, object.metadata.name.getD ""⟩ <;>
    simp only [stored, storedTwin, Option.isSome_none, Option.isSome_some, reduceCtorEq] at there
  · exact ⟨rfl, alike.put _ _⟩
  · exact ⟨rfl, alike⟩

theorem patchStatus (place other : String) (status : Status) :
    (left.patchStatus place other status).1 = (right.patchStatus place other status).1 ∧
      Alike namespaceName name (left.patchStatus place other status).2
        (right.patchStatus place other status).2 := by
  unfold Store.patchStatus
  by_cases same : (⟨.installation, place, other⟩ : Key) = ⟨.installation, namespaceName, name⟩
  · cases same
    rcases alike.absent_or_stored with
      ⟨absent, absentTwin⟩ | ⟨former, later, stored, storedTwin, notes⟩
    · rw [absent, absentTwin]
      exact ⟨rfl, alike⟩
    · rw [stored, storedTwin]
      exact ⟨rfl, alike.putInstallation (notes.withStatus status)⟩
  · rw [alike.others _ same]
    split
    · exact ⟨rfl, alike⟩
    · exact ⟨rfl, alike.put _ _⟩

/-- Both stores carry a call out in the same way, and stay alike. -/
theorem carryOut (call : ClusterCall) :
    Pass.Exchange.Alike ⟨.cluster call, (left.carryOut call).1⟩
        ⟨.cluster call, (right.carryOut call).1⟩ ∧
      Alike namespaceName name (left.carryOut call).2 (right.carryOut call).2 := by
  cases call with
  | lookup kind place other => exact ⟨alike.lookup kind place other, alike⟩
  | create kind place object =>
      obtain ⟨answer, after⟩ := alike.create place object
      simp only [Store.carryOut, answer]
      exact ⟨.same _, after⟩
  | replace kind place other object => exact ⟨.same _, alike.put _ _⟩
  | patchStatus place other status =>
      obtain ⟨answer, after⟩ := alike.patchStatus place other status
      simp only [Store.carryOut, answer]
      exact ⟨.same _, after⟩
  | publish installation event => exact ⟨.same _, alike⟩

/-- Both stores answer a call in the same way, whatever becomes of it, and stay alike. -/
theorem respond (call : ClusterCall) (verdict : Verdict) :
    Pass.Exchange.Alike ⟨.cluster call, (left.respond call verdict).1⟩
        ⟨.cluster call, (right.respond call verdict).1⟩ ∧
      Alike namespaceName name (left.respond call verdict).2 (right.respond call verdict).2 := by
  cases verdict with
  | carryOut => exact alike.carryOut call
  | refuse fault => exact ⟨.same _, alike⟩
  | tooLate =>
      cases call with
      | create kind place object => exact ⟨.same _, alike.put _ _⟩
      | lookup | replace | patchStatus | publish => exact alike.carryOut _

/-- An event is answered in the same way, whatever the notes of the installation. -/
theorem respond_publish
    {former later : Installation} (notes : former.Alike later) (event : Event)
    (verdict : Verdict) :
    Pass.Exchange.Alike
        ⟨.cluster (.publish former event), (left.respond (.publish former event) verdict).1⟩
        ⟨.cluster (.publish later event), (right.respond (.publish later event) verdict).1⟩ ∧
      Alike namespaceName name (left.respond (.publish former event) verdict).2
        (right.respond (.publish later event) verdict).2 := by
  cases verdict <;> exact ⟨.told _ _ notes event _, alike⟩

end Alike
end Store

/-! ## Passes that differ in notes -/

/-- What becomes of an event does not depend on the notes of the installation. -/
def Outside.Overlooks (outside : Outside) : Prop :=
  ∀ number (left right : Installation) event, left.Alike right →
    outside.verdict number (.publish left event) = outside.verdict number (.publish right event)

namespace Pass

namespace Exchange

/-- The object that the cluster is to create or to replace, with its key. -/
def submitted? : Exchange → Option StoredObject
  | ⟨.cluster (.create kind place object), _⟩ =>
      some ⟨⟨kind, place, object.metadata.name.getD ""⟩, object⟩
  | ⟨.cluster (.replace kind place name object), _⟩ => some ⟨⟨kind, place, name⟩, object⟩
  | _ => none

namespace Alike

variable {exchange twin : Exchange} (alike : exchange.Alike twin)

include alike

theorem operation? : exchange.operation? = twin.operation? := by
  cases alike with
  | told _ _ _ _ answer => cases answer <;> rfl
  | same | found => rfl

theorem submitted? : exchange.submitted? = twin.submitted? := by
  cases alike <;> rfl

theorem event? : exchange.event? = twin.event? := by
  cases alike with
  | told _ _ _ _ answer => cases answer <;> rfl
  | same | found => rfl

end Alike
end Exchange

/-- Two passes have gone the same way, but for the notes of the installation. -/
structure SameButNotes (namespaceName name : String) (run twin : PassRun) : Prop where
  outcome : run.outcome = twin.outcome
  /-- The same is asked and answered, in the same order. -/
  exchanges : List.Forall₂ Exchange.Alike run.transcript twin.transcript
  operations : run.transcript.filterMap Exchange.operation? =
    twin.transcript.filterMap Exchange.operation?
  objects : run.transcript.filterMap Exchange.submitted? =
    twin.transcript.filterMap Exchange.submitted?
  events : run.transcript.filterMap Exchange.event? = twin.transcript.filterMap Exchange.event?
  stores : Store.Alike namespaceName name run.state.store twin.state.store

/-- What is read without regard to notes is the same in transcripts that are alike. -/
theorem filterMap_eq_of_alike
    {γ : Type} {read : Exchange → Option γ} {transcript twin : List Exchange}
    (alike : List.Forall₂ Exchange.Alike transcript twin)
    (overlooks : ∀ exchange other, exchange.Alike other → read exchange = read other) :
    transcript.filterMap read = twin.filterMap read := by
  have same := Program.map_eq_of_forall₂ alike overlooks
  simpa using congrArg (List.filterMap id) same

/-- Runs that are as far along, over stores that differ in the notes of an installation. -/
def MomentsAlike (namespaceName name : String) (moment twin : Outside.Moment) : Prop :=
  moment.calls = twin.calls ∧ Store.Alike namespaceName name moment.store twin.store

/-- A world that overlooks notes answers in the same way over such stores. -/
theorem accord_of_overlooks
    {outside : Outside} (overlooks : outside.Overlooks) (namespaceName name : String) :
    Program.Accord exceptNotes (MomentsAlike namespaceName name)
      outside.respond outside.respond := by
  rintro call callTwin ⟨store, number⟩ ⟨storeTwin, _⟩ called ⟨rfl, alike⟩
  cases called with
  | same =>
    match call with
    | .cluster call =>
        obtain ⟨exchange, after⟩ := alike.respond call (outside.verdict number call)
        exact ⟨exchange, rfl, after⟩
    | .fetchRelease url => exact ⟨.same _, rfl, alike⟩
    | .probe => exact ⟨.same _, rfl, alike⟩
  | told left right notes event =>
      obtain ⟨exchange, after⟩ := alike.respond_publish notes event
        (outside.verdict number (.publish left event))
      simp only [Outside.respond, ← overlooks number left right event notes]
      exact ⟨exchange, rfl, after⟩

/--
Notes have no effect.  Two stores may differ in the notes of an installation: then a pass
over it ends in the same way over both, whatever the releases, the probes and the calls that
fail, asks for the same operations with the same objects, publishes the same events, and
leaves stores that differ in these notes alone.  The image of every workload that it creates
follows from the registry, the service and the release.
-/
theorem reconcile_overlooks_notes
    {outside : Outside} {namespaceName name : String} {store storeTwin : Store}
    (overlooks : outside.Overlooks)
    (alike : Store.Alike namespaceName name store storeTwin) :
    let run := outside.perform (reconcile namespaceName name) store
    let twin := outside.perform (reconcile namespaceName name) storeTwin
    SameButNotes namespaceName name run twin ∧
      PullsReleased namespaceName name run.transcript ∧
      PullsReleased namespaceName name twin.transcript := by
  intro run twin
  have start : MomentsAlike namespaceName name ⟨store, 0⟩ ⟨storeTwin, 0⟩ := ⟨rfl, alike⟩
  have twins := (twins_reconcile namespaceName name).run
    (accord_of_overlooks overlooks namespaceName name) start
  have exchanges : List.Forall₂ Exchange.Alike run.transcript twin.transcript :=
    twins.transcript
  refine ⟨⟨twins.outcome, exchanges, ?operations, ?objects, ?events, twins.state.2⟩,
    ?images, ?imagesTwin⟩
  case operations => exact filterMap_eq_of_alike exchanges fun _ _ alike => alike.operation?
  case objects => exact filterMap_eq_of_alike exchanges fun _ _ alike => alike.submitted?
  case events => exact filterMap_eq_of_alike exchanges fun _ _ alike => alike.event?
  case images => exact (yields_reconcile (Store.yields_perform outside _ store)).pullsReleased
  case imagesTwin =>
    exact (yields_reconcile (Store.yields_perform outside _ storeTwin)).pullsReleased

/-- The installation `demo` with notes about versions and options. -/
def notedDemo : Installation :=
  let plain := Installation.demo false
  ⟨plain.metadata,
    ⟨{ plain.specification with
        configurator := ⟨"-Xmx1g", false⟩
        apollo := ⟨"-Xmx2g", "9.9.9"⟩
        nimrod := ⟨"", "8.0.0", "", ""⟩ }, none⟩⟩

/-- A world in which the release lists a version, and the last service must not be created. -/
def refusingBrent : Outside :=
  { Outside.calm with
    release := fun _ _ => .ok ⟨.ofPairs [("apollo", ⟨"2.1.0"⟩)]⟩
    verdict := fun
      | _, .create .service _ object =>
          if object.metadata.name = some "brent" then .refuse (.other "admission denied")
          else .carryOut
      | _, _ => .carryOut }

/-- Whether or not `demo` has notes, it is rolled out as the release says, up to a failure. -/
theorem reconcile_overlooks_notes_demo :
    let run := refusingBrent.perform (reconcile "lm" "demo")
      (Store.empty.insert "lm" (Installation.demo false))
    let twin := refusingBrent.perform (reconcile "lm" "demo")
      (Store.empty.insert "lm" notedDemo)
    SameButNotes "lm" "demo" run twin ∧
      PullsReleased "lm" "demo" twin.transcript ∧
      twin.outcome = .error (.other "admission denied") ∧
      (twin.transcript.filterMap Exchange.event?).length = 35 := by
  intro run twin
  have overlooks : refusingBrent.Overlooks := fun _ _ _ _ _ => rfl
  have alike : Store.Alike "lm" "demo" (Store.empty.insert "lm" (Installation.demo false))
      (Store.empty.insert "lm" notedDemo) :=
    Store.Alike.putInstallation ⟨rfl, fun _ _ => rfl⟩ rfl
  obtain ⟨same, -, imagesTwin⟩ := reconcile_overlooks_notes overlooks alike
  exact ⟨same, imagesTwin, by decide +kernel, by decide +kernel⟩

end Pass
end LifecycleOperator
