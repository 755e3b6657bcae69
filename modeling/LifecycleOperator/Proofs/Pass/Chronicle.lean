import LifecycleOperator.Proofs.Pass.Gating
import LifecycleOperator.Store.Operation

/-!
# Events mirror the writes

A pass keeps two logs: what it has written, and what it has told.  Whenever an object is
created or a secret is adopted, the next thing to be told is just this; what fails, and a
name that turns out to be taken, is not told.  So the two logs agree entry by entry, but
for a closing word: that a rollout is complete, or that something is unhealthy.

Every part of a pass mirrors its writes, and what is put together from such parts does so
too.  The closing words are then read off the courses of a pass.
-/

namespace LifecycleOperator

/-- What stands first in an event. -/
def Event.headline (event : Event) : Severity × String := (event.severity, event.action)

/-- The headline under which an operation is told, if it is. -/
def Operation.headline? : Operation → Option (Severity × String)
  | .create kind name => some (.normal, s!"Creating `{name}` {kind.name}")
  | .replace .secret name => some (.normal, s!"Owning `{name}` Secret")
  | _ => none

namespace Pass

namespace Exchange

/-- What is to be told in an event, and about which installation. -/
def tells? : Exchange → Option (Installation × Event)
  | ⟨.cluster (.publish installation event), _⟩ => some (installation, event)
  | _ => none

/-- The event in which an owner tells of a write that has succeeded. -/
def mirrored? (owner : Installation) : Exchange → Option (Installation × Event)
  | ⟨.cluster (.create kind _ object), .ok created⟩ =>
      some (owner, .created owner.anyName kind.name (object.metadata.name.getD "")
        (some created.reference))
  | ⟨.cluster (.replace .secret _ name _), .ok owned⟩ =>
      some (owner, .adopted owner.anyName name (some owned.reference))
  | _ => none

/-- The marker is found. -/
def findsMarker (namespaceName : String) : Exchange → Bool
  | ⟨.cluster (.lookup .deployment place name), .ok (some _)⟩ =>
      place = namespaceName && name = markerDeployment
  | _ => false

/-- The probe answers that not all is well. -/
def findsUnhealthy : Exchange → Bool
  | ⟨.probe, .ok false⟩ => true
  | _ => false

/-- The headline of what a write is told by is that of its operation. -/
theorem headline_mirrored? (owner : Installation) (exchange : Exchange) :
    (exchange.mirrored? owner).map (fun told => told.2.headline) =
      exchange.operation?.bind Operation.headline? := by
  match exchange with
  | ⟨.fetchRelease _, _⟩ | ⟨.probe, _⟩ => rfl
  | ⟨.cluster (.lookup _ _ _), .ok _⟩ | ⟨.cluster (.lookup _ _ _), .error _⟩ => rfl
  | ⟨.cluster (.publish _ _), .ok _⟩ | ⟨.cluster (.publish _ _), .error _⟩ => rfl
  | ⟨.cluster (.patchStatus _ _ _), .ok _⟩ | ⟨.cluster (.patchStatus _ _ _), .error _⟩ => rfl
  | ⟨.cluster (.create _ _ _), .ok _⟩ | ⟨.cluster (.create _ _ _), .error _⟩ => rfl
  | ⟨.cluster (.replace kind _ _ _), .ok _⟩ => cases kind <;> rfl
  | ⟨.cluster (.replace kind _ _ _), .error _⟩ => cases kind <;> rfl

end Exchange

/-- All that is told in a transcript, in its order. -/
def told (transcript : List Exchange) : List (Installation × Event) :=
  transcript.filterMap Exchange.tells?

/-- All that is written in a transcript, as it is to be told. -/
def mirror (owner : Installation) (transcript : List Exchange) : List (Installation × Event) :=
  transcript.filterMap (Exchange.mirrored? owner)

theorem told_append (front back : List Exchange) :
    told (front ++ back) = told front ++ told back := List.filterMap_append ..

theorem mirror_append (owner : Installation) (front back : List Exchange) :
    mirror owner (front ++ back) = mirror owner front ++ mirror owner back :=
  List.filterMap_append ..

/-! ## Parts that mirror their writes -/

/-- All writes are told, and nothing else; nothing is probed. -/
structure Mirrors (owner : Installation) (transcript : List Exchange) : Prop where
  tells : told transcript = mirror owner transcript
  unprobed : transcript.any Exchange.findsUnhealthy = false

namespace Mirrors

variable {owner : Installation} {front back : List Exchange}

theorem nil : Mirrors owner [] := ⟨rfl, rfl⟩

/-- What is put together mirrors its writes if its parts do. -/
theorem append (first : Mirrors owner front) (second : Mirrors owner back) :
    Mirrors owner (front ++ back) where
  tells := by rw [told_append, mirror_append, first.tells, second.tells]
  unprobed := by rw [List.any_append, first.unprobed, second.unprobed]; rfl

end Mirrors

variable {owner installation : Installation} {transcript : List Exchange}

/-- Whoever makes sure of an object tells of it just when it is created. -/
theorem Ensuring.mirrors
    {kind : Kind} {name : String} {build : Except Fault (Object kind)}
    {outcome : Except Fault Ensured}
    (ensuring : Ensuring kind owner name build transcript outcome) :
    Mirrors owner transcript := by
  cases ensuring with
  | unreadable | present | unbuilt | overtaken | rejected | created => exact ⟨rfl, rfl⟩

/-- Whoever makes sure of objects tells of those that are created, in their order. -/
theorem mirrors_of_yields_ensureEach
    {requirements : List Requirement} {outcome : Except Fault Unit}
    (yields : (ensureEach owner requirements).Yields transcript outcome) :
    Mirrors owner transcript := by
  induction requirements generalizing transcript with
  | nil =>
      obtain ⟨rfl, -⟩ := Program.yields_done_iff.mp yields
      exact .nil
  | cons requirement rest inductionHypothesis =>
      rcases yields_ensureEach_cons yields with
        ⟨fault, -, first⟩ | ⟨ensured, front, back, rfl, first, others⟩
      · exact first.mirrors
      · exact first.mirrors.append (inductionHypothesis others)

/-- A secret is told of just when it is adopted. -/
theorem Adopting.mirrors
    {reference : OwnerReference} {name : String}
    (adopting : Adopting owner reference name transcript) :
    Mirrors owner transcript := by
  cases adopting with
  | unreadable | missing | owned | unwritable | adopted => exact ⟨rfl, rfl⟩

/-- Secrets are told of when they are adopted, in their order. -/
theorem AdoptingEach.mirrors
    {reference : OwnerReference} {names : List String}
    (adopting : AdoptingEach owner reference names transcript) :
    Mirrors owner transcript := by
  induction adopting with
  | nil => exact .nil
  | cons first others inductionHypothesis => exact first.mirrors.append inductionHypothesis

theorem mirrors_of_yields_propagateSecrets
    {outcome : Except Fault Unit}
    (yields : (propagateSecrets owner).Yields transcript outcome) :
    Mirrors owner transcript := by
  obtain ⟨-, ⟨-, rfl⟩ | ⟨reference, -, adopts⟩⟩ := yields_propagateSecrets yields
  · exact .nil
  · exact adopts.mirrors

/-! ## Closing words -/

/-- The marker is there, and the probe has answered that not all is well. -/
def seesUnhealthy (namespaceName : String) (transcript : List Exchange) : Bool :=
  transcript.any (Exchange.findsMarker namespaceName) && transcript.any Exchange.findsUnhealthy

/-- What is told in the end, besides the writes. -/
def closing (installation : Installation) (namespaceName name : String)
    (transcript : List Exchange) (outcome : Except Fault Phase) :
    List (Installation × Event) :=
  (if outcome = .ok (.rollout .complete) then
    [(installation, .rolloutComplete installation.anyName ServiceBase.rolledOut.length)]
    else []) ++
  (if seesUnhealthy namespaceName transcript then [(installation, .unhealthy name)] else [])

/-- A pass that an installation is found for tells of its writes, and then its closing words. -/
structure TellsOf (installation : Installation) (namespaceName name : String)
    (transcript : List Exchange) (outcome : Except Fault Phase) : Prop where
  finds : transcript.head? = some (found namespaceName name installation)
  tells : told transcript = mirror installation transcript ++
    closing installation namespaceName name transcript outcome

section Courses

variable {namespaceName name : String} {outcome : Except Fault Phase}

/-- Where nothing is probed, nothing is seen to be unhealthy. -/
theorem seesUnhealthy_of_unprobed
    (unprobed : transcript.any Exchange.findsUnhealthy = false) :
    seesUnhealthy namespaceName transcript = false := by
  rw [seesUnhealthy, unprobed, Bool.and_false]

/-- Where all that is told are writes, and no rollout is complete, there is no closing word. -/
theorem Mirrors.tellsOf
    (mirrors : Mirrors installation transcript)
    (finds : transcript.head? = some (found namespaceName name installation))
    (unfinished : outcome ≠ .ok (.rollout .complete)) :
    TellsOf installation namespaceName name transcript outcome where
  finds := finds
  tells := by
    rw [closing, if_neg unfinished, seesUnhealthy_of_unprobed mirrors.unprobed, mirrors.tells]
    simp

theorem mirrors_opening (manifest : Manifest) :
    Mirrors installation (opening namespaceName name installation manifest) := ⟨rfl, rfl⟩

theorem mirrors_jobLookup (answer : Except Fault (Option (Object .job))) :
    Mirrors installation [jobLookup installation answer] := ⟨rfl, rfl⟩

/-- It is told that a rollout is complete. -/
def tellsComplete (installation : Installation) (answer : Except Fault Unit) : Exchange :=
  ⟨.cluster (.publish installation
    (.rolloutComplete installation.anyName ServiceBase.rolledOut.length)), answer⟩

/-- That a rollout is complete is told after all of its writes. -/
theorem Mirrors.tellsOf_completed
    (mirrors : Mirrors installation transcript)
    (finds : transcript.head? = some (found namespaceName name installation))
    (answer : Except Fault Unit) :
    TellsOf installation namespaceName name (transcript ++ [tellsComplete installation answer])
      (.ok (.rollout .complete)) where
  finds := by rw [List.head?_append, finds, Option.some_or]
  tells := by
    have unprobed : (transcript ++ [tellsComplete installation answer]).any
        Exchange.findsUnhealthy = false := by
      rw [List.any_append, mirrors.unprobed]
      rfl
    rw [closing, if_pos rfl, seesUnhealthy_of_unprobed unprobed, told_append, mirror_append,
      mirrors.tells, List.append_assoc]
    rfl

/-- A rollout tells of its writes, and then that it is complete unless it has failed. -/
theorem tellsOf_of_yields_rollout
    {manifest : Manifest} {front rest : List Exchange} {ending : Except Fault Progress}
    (rolls : (rollout installation
      (installation.specification.profile manifest)).Yields rest ending)
    (before : Mirrors installation front)
    (finds : front.head? = some (found namespaceName name installation)) :
    TellsOf installation namespaceName name (front ++ rest) (ending.map .rollout) := by
  rcases yields_rollout rolls with ⟨fault, rfl, ensures⟩ | ⟨most, answer, rfl, rfl, ensures⟩
  · have mirrors := before.append (mirrors_of_yields_ensureEach ensures)
    refine mirrors.tellsOf ?_ (by simp [Except.map])
    rw [List.head?_append, finds, Option.some_or]
  · have mirrors := before.append (mirrors_of_yields_ensureEach ensures)
    rw [← List.append_assoc]
    refine mirrors.tellsOf_completed ?_ answer
    rw [List.head?_append, finds, Option.some_or]

/-- Once the marker is found, it is up to the probe. -/
theorem seesUnhealthy_followed (marker : Object .deployment) (rest : List Exchange) :
    seesUnhealthy namespaceName (found namespaceName name installation ::
      markerLookup namespaceName (.ok (some marker)) :: rest) =
        rest.any Exchange.findsUnhealthy := by
  simp [seesUnhealthy, found, markerLookup, Exchange.findsMarker, Exchange.findsUnhealthy]

theorem reported_ne_complete (isHealthy : Bool) (answer : Except Fault Unit) :
    reported isHealthy answer ≠ .ok (.rollout .complete) := by
  cases answer <;> simp [reported]

/-- Following the health tells only that not all is well, if that is what is probed. -/
theorem Following.tellsOf
    {marker : Object .deployment} {rest : List Exchange}
    (follows : Following installation namespaceName name rest outcome) :
    TellsOf installation namespaceName name
      (found namespaceName name installation ::
        markerLookup namespaceName (.ok (some marker)) :: rest) outcome := by
  refine ⟨rfl, ?_⟩
  rw [closing, seesUnhealthy_followed]
  cases follows with
  | unanswered fault => rfl
  | healthy answer _ ends | unhealthy answered answer _ ends =>
      subst ends
      rw [if_neg (reported_ne_complete _ answer)]
      rfl

/-- Every pass that finds an installation tells of its writes, and then its closing words. -/
theorem Course.tellsOf
    (course : Course namespaceName name transcript outcome) :
    (∃ installation, TellsOf installation namespaceName name transcript outcome) ∨
    ∃ answer, transcript = [⟨.cluster (.lookup .installation namespaceName name), answer⟩] ∧
      (∀ installation, answer ≠ .ok (some installation)) ∧
      outcome ≠ .ok (.rollout .complete) := by
  cases course with
  | unreadable fault => exact .inr ⟨.error fault, rfl, by simp, by simp⟩
  | gone => exact .inr ⟨.ok none, rfl, by simp, by simp⟩
  | markerUnreadable installation fault =>
      exact .inl ⟨installation, Mirrors.tellsOf ⟨rfl, rfl⟩ rfl (by simp)⟩
  | followed installation marker rest _ follows => exact .inl ⟨installation, follows.tellsOf⟩
  | unreleased installation fault =>
      exact .inl ⟨installation, Mirrors.tellsOf ⟨rfl, rfl⟩ rfl (by simp)⟩
  | rolledOut installation manifest runsNot rest ending rolls _ ends =>
      subst ends
      exact .inl ⟨installation, tellsOf_of_yields_rollout rolls (mirrors_opening manifest) rfl⟩
  | jobUnreadable installation manifest runs fault =>
      exact .inl ⟨installation, Mirrors.tellsOf
        ((mirrors_opening manifest).append (mirrors_jobLookup _)) rfl (by simp)⟩
  | waiting installation manifest runs job isRunning =>
      exact .inl ⟨installation, Mirrors.tellsOf
        ((mirrors_opening manifest).append (mirrors_jobLookup _)) rfl (by simp)⟩
  | started installation manifest runs rest ending starts _ ends =>
      subst ends
      refine .inl ⟨installation, Mirrors.tellsOf ((mirrors_opening manifest).append
        ((mirrors_jobLookup _).append (mirrors_of_yields_ensureEach starts))) rfl ?_⟩
      cases ending <;> simp [Except.map]
  | resumed installation manifest runs job pods hasSucceeded adoption rest ending adopts rolls
      _ ends =>
      subst ends
      have opened : Mirrors installation (opening namespaceName name installation manifest) :=
        mirrors_opening manifest
      have before := opened.append
        ((mirrors_jobLookup (.ok (some job))).append (mirrors_of_yields_propagateSecrets adopts))
      have tells := tellsOf_of_yields_rollout rolls before rfl
      rw [List.append_assoc] at tells
      exact .inl ⟨installation, tells⟩

end Courses

/-! ## What is published -/

/-- All that is published in a transcript, in its order. -/
def published (transcript : List Exchange) : List (Installation × Event) :=
  told (transcript.filter Exchange.succeeded)

/-- Publishing works: no event is lost. -/
def PublishesAll (transcript : List Exchange) : Prop :=
  ∀ exchange ∈ transcript, exchange.tells?.isSome → exchange.succeeded = true

instance (transcript : List Exchange) : Decidable (PublishesAll transcript) :=
  List.decidableBAll _ transcript

/-- Where publishing works, all that is told is published. -/
theorem PublishesAll.published_eq (publishes : PublishesAll transcript) :
    published transcript = told transcript := by
  unfold published told
  rw [List.filterMap_filter]
  apply List.filterMap_congr
  intro exchange member
  cases tells : exchange.tells? with
  | none => exact ite_self _
  | some event =>
      rw [publishes exchange member (by rw [tells]; rfl)]
      rfl

/-- The writes of a transcript are told under the headlines of its operations. -/
theorem map_headline_mirror :
    (mirror owner transcript).map (fun event => event.2.headline) =
      (transcript.filterMap Exchange.operation?).filterMap Operation.headline? := by
  rw [mirror, List.map_filterMap, List.filterMap_filterMap]
  exact List.filterMap_congr fun exchange _ => exchange.headline_mirrored? owner

/-- The events of a pass mirror its writes. -/
structure Chronicled (namespaceName name : String) (transcript : List Exchange)
    (outcome : Except Fault Phase) (events : List (Installation × Event)) : Prop where
  /-- One for each creation and each adoption, in their order, and then the closing words. -/
  headlines : events.map (fun event => event.2.headline) =
    (transcript.filterMap Exchange.operation?).filterMap Operation.headline? ++
    ((if outcome = .ok (.rollout .complete) then [(.normal, "Rollout complete")] else []) ++
    (if seesUnhealthy namespaceName transcript then [(.warning, "Checking ishtar health")]
      else []))
  /-- All of them tell of the installation that is found, word for word. -/
  words : ∀ installation,
    transcript.head? = some (found namespaceName name installation) →
      events = mirror installation transcript ++
        closing installation namespaceName name transcript outcome

/-- A pass that finds an installation tells of it, and of nothing else. -/
theorem TellsOf.chronicled
    {namespaceName name : String} {outcome : Except Fault Phase}
    (tellsOf : TellsOf installation namespaceName name transcript outcome) :
    Chronicled namespaceName name transcript outcome (told transcript) where
  headlines := by
    rw [tellsOf.tells, List.map_append, map_headline_mirror, closing, List.map_append,
      apply_ite (List.map _), apply_ite (List.map _)]
    rfl
  words := by
    intro other finds
    rw [tellsOf.finds, Option.some.injEq] at finds
    obtain rfl := found_injective finds
    exact tellsOf.tells

/-- What a pass is to tell mirrors its writes, whatever it is answered. -/
theorem Course.chronicled
    {namespaceName name : String} {outcome : Except Fault Phase}
    (course : Course namespaceName name transcript outcome) :
    Chronicled namespaceName name transcript outcome (told transcript) := by
  rcases course.tellsOf with ⟨installation, tellsOf⟩ | ⟨answer, rfl, absent, unfinished⟩
  · exact tellsOf.chronicled
  constructor
  · rw [if_neg unfinished, seesUnhealthy_of_unprobed rfl]
    cases answer <;> rfl
  · intro installation finds
    simp only [List.head?_cons, Option.some.injEq, found, Program.Exchange.mk.injEq] at finds
    exact absurd (eq_of_heq finds.2) (absent installation)

/--
Events mirror the writes.  Where publishing works, a pass publishes one event for each
creation and each adoption that has succeeded, in their order, whatever else fails; then
that the rollout is complete, just when the pass ends so; and that not all is well, just
when the marker is there and the probe says so.  Nothing else is published.
-/
theorem reconcile_chronicled
    {σ : Type} (respond : Program.Responder Pass.interface σ) (state : σ)
    (namespaceName name : String)
    (publishes : PublishesAll ((reconcile namespaceName name).run respond state).transcript) :
    let run := (reconcile namespaceName name).run respond state
    Chronicled namespaceName name run.transcript run.outcome (published run.transcript) := by
  intro run
  rw [publishes.published_eq]
  exact (yields_reconcile (Program.run_yields respond _ state)).chronicled

/-- A world in which neither a certificate is written nor a StatefulSet is created. -/
def refusingStatefulSet : Outside :=
  { Outside.calm with
    verdict := fun
      | _, .replace _ _ "lm-certs" _ | _, .create .statefulSet _ _ =>
          .refuse (.other "admission denied")
      | _, _ => .carryOut }

/--
A pass over `demo` in this world adopts one of two secrets and creates one object, and
tells of these, although it fails.
-/
theorem reconcile_chronicled_refusingStatefulSet :
    let secret := fun name : String =>
      (⟨{ Metadata.empty with name := some name }, []⟩ : Object .secret)
    let store := (((Store.empty.insert "lm" (Installation.demo true)).insert "lm"
      demoJob).insert "lm" (secret "lm-certs")).insert "lm" (secret "lm-keystore")
    let run := (reconcile "lm" "demo").run refusingStatefulSet.respond ⟨store, 0⟩
    Chronicled "lm" "demo" run.transcript run.outcome (published run.transcript) ∧
      run.outcome = .error (.other "admission denied") ∧
      (published run.transcript).map (fun event => event.2.headline) =
        [(.normal, "Owning `lm-keystore` Secret"),
          (.normal, "Creating `demo-conductor-cm` ConfigMap")] := by
  refine ⟨?_, by decide +kernel, by decide +kernel⟩
  exact reconcile_chronicled refusingStatefulSet.respond _ "lm" "demo" (by decide +kernel)

end Pass
end LifecycleOperator
