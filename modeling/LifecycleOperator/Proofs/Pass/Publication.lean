import LifecycleOperator.Proofs.Pass.Composition
import LifecycleOperator.Proofs.Pass.Order
import LifecycleOperator.Proofs.Program.Indifference

/-!
# Events make no difference

Events are told with every creation and every adoption, when a rollout is complete and
when something is unhealthy, so that there are publications all over a pass.  None of
them is waited for: whatever is answered to a publication, the pass goes on in the same
way.  So passes over any installations, one after the other, cannot tell a world in which
events are lost, now and then or always, from one in which all of them are published.
-/

namespace LifecycleOperator
namespace Pass

def Call.isPublication : Call → Bool
  | .cluster (.publish _ _) => true
  | _ => false

/-- An event is to be published. -/
abbrev Call.Publishes (call : Call) : Prop := call.isPublication = true

/-! ## What a pass disregards -/

/-- The answer to anything but a publication may matter. -/
theorem disregards_call {call : Call} (matters : ¬ call.Publishes) :
    (Program.ask call .done : Pass call.Result).Disregards Call.Publishes :=
  Program.disregards_ask matters fun _ => trivial

theorem disregards_lookup (kind : Kind) (namespaceName name : String) :
    (lookup kind namespaceName name).Disregards Call.Publishes :=
  disregards_call Bool.false_ne_true

/-- Nothing is made of the answer to a publication. -/
theorem disregards_record (installation : Installation) (event : Event) :
    (record installation event).Disregards Call.Publishes :=
  ⟨fun _ _ _ => rfl, fun _ => trivial⟩

/-- What a part disregards is inherited from its parts. -/
theorem inherited_disregards : Inherited fun _ part => part.Disregards Call.Publishes :=
  ⟨fun _ => trivial, fun first others => first.bind others⟩

theorem disregards_ensure
    (kind : Kind) (owner : Installation) (name : String)
    (build : Except Fault (Object kind)) :
    (ensure kind owner name build).Disregards Call.Publishes := by
  apply inherited_disregards.ensure (disregards_lookup kind owner.namespaceName name)
  · intro fault built
    trivial
  · intro object built
    refine Program.disregards_ask Bool.false_ne_true ?_
    intro answer
    cases answer with
    | ok created => exact (disregards_record owner _).bind fun _ => trivial
    | error fault => cases fault <;> trivial

theorem disregards_ensureEach (owner : Installation) (requirements : List Requirement) :
    (ensureEach owner requirements).Disregards Call.Publishes :=
  inherited_disregards.ensureEach fun _ _ => disregards_ensure _ owner _ _

theorem disregards_rollout (installation : Installation) (manifest : Manifest) :
    (rollout installation
      (installation.specification.profile manifest)).Disregards Call.Publishes :=
  inherited_disregards.rollout (disregards_ensureEach installation _)
    (disregards_record installation)

theorem disregards_propagateSecret
    (installation : Installation) (reference : OwnerReference) (name : String) :
    (propagateSecret installation reference name).Disregards Call.Publishes := by
  refine Program.disregards_ask Bool.false_ne_true ?_
  intro found
  match found with
  | .error fault => trivial
  | .ok none => trivial
  | .ok (some secret) =>
      by_cases isOwned : secret.metadata.isOwnedBy reference.uid
      · simp only [isOwned, if_true]
        trivial
      · simp only [isOwned, Bool.false_eq_true, if_false]
        refine Program.disregards_ask Bool.false_ne_true ?_
        intro answer
        cases answer with
        | error fault => trivial
        | ok owned => exact disregards_record installation _

theorem disregards_gate (installation : Installation) (manifest : Manifest) :
    (gate installation
      (installation.specification.profile manifest)).Disregards Call.Publishes :=
  inherited_disregards.gate (disregards_lookup .job _ _) (disregards_ensureEach _ _)
    (inherited_disregards.propagateSecrets (disregards_propagateSecret installation))

theorem disregards_install (installation : Installation) :
    (install installation).Disregards Call.Publishes :=
  inherited_disregards.install (disregards_call Bool.false_ne_true)
    (disregards_gate installation) (disregards_rollout installation)

theorem disregards_follow (installation : Installation) (namespaceName name : String) :
    (follow installation namespaceName name).Disregards Call.Publishes := by
  apply inherited_disregards.follow (disregards_call Bool.false_ne_true)
    (disregards_record installation)
  intro status
  refine Program.disregards_ask Bool.false_ne_true ?_
  intro answer
  cases answer <;> trivial

/-- A pass disregards what becomes of the events that it tells. -/
theorem disregards_reconcile (namespaceName name : String) :
    (reconcile namespaceName name).Disregards Call.Publishes :=
  inherited_disregards.reconcile (disregards_lookup .installation _ _)
    (disregards_lookup .deployment _ _) disregards_install fun installation =>
      disregards_follow installation namespaceName name

end Pass

namespace Pass

/-! ## Passes one after the other -/

/-- Passes over installations, one after the other, in a world that goes on. -/
def passesOver {σ : Type} (respond : Program.Responder Pass.interface σ)
    (installations : List (String × String)) (state : σ) :
    List (Program.Run Pass.interface σ Phase) :=
  Program.runEach respond
    (installations.map fun (namespaceName, name) => reconcile namespaceName name) state

/-- Passes have gone in the same way, but for what became of the events. -/
structure SameCourse {σ : Type} (stored : σ → Store)
    (runs others : List (Program.Run Pass.interface σ Phase)) : Prop where
  outcomes : runs.map (·.outcome) = others.map (·.outcome)
  /-- The same is asked for, and in the same order; events as well. -/
  calls : runs.map (fun run => run.transcript.map (·.call)) =
    others.map fun run => run.transcript.map (·.call)
  /-- All that is looked up, written, fetched and probed is answered the same. -/
  answers :
    runs.map (fun run => run.transcript.filter fun exchange => ¬ exchange.call.Publishes) =
      others.map fun run => run.transcript.filter fun exchange => ¬ exchange.call.Publishes
  /-- Every pass leaves the same objects. -/
  stores : runs.map (fun run => stored run.state) = others.map fun run => stored run.state

/-- Passes go in the same way in worlds that agree on all but publications. -/
theorem sameCourse_of_agrees
    {σ : Type} {stored : σ → Store} {alike : σ → σ → Prop}
    {respond other : Program.Responder Pass.interface σ} {state twin : σ}
    (agrees : Program.Agrees Call.Publishes alike respond other)
    (start : alike state twin)
    (same : ∀ state twin, alike state twin → stored state = stored twin)
    (installations : List (String × String)) :
    SameCourse stored (passesOver respond installations state)
      (passesOver other installations twin) := by
  have resembles : List.Forall₂ (Program.Run.Resembles Call.Publishes alike)
      (passesOver respond installations state) (passesOver other installations twin) := by
    refine Program.runEach_resembles ?_ agrees start
    intro program member
    obtain ⟨⟨namespaceName, name⟩, -, rfl⟩ := List.mem_map.mp member
    exact disregards_reconcile namespaceName name
  constructor
  case outcomes => exact Program.map_eq_of_forall₂ resembles fun _ _ pair => pair.outcome
  case calls =>
    exact Program.map_eq_of_forall₂ resembles fun _ _ pair =>
      Program.map_call_of_resembles pair.transcript
  case answers =>
    exact Program.map_eq_of_forall₂ resembles fun _ _ pair =>
      Program.filter_of_resembles pair.transcript
  case stores =>
    exact Program.map_eq_of_forall₂ resembles fun _ _ pair => same _ _ pair.state

end Pass

/-! ## Worlds that differ in what becomes of events -/

/-- Whatever becomes of a publication, the store stays as it is. -/
theorem Store.respond_publish
    (store : Store) (installation : Installation) (event : Event) (verdict : Verdict) :
    (store.respond (.publish installation event) verdict).2 = store := by
  cases verdict <;> rfl

/-- The same world, but for what becomes of the publications. -/
def SharedOutside.publishing (outside : SharedOutside)
    (fate : Nat → Installation → Event → Verdict) : SharedOutside :=
  { outside with
    verdict := fun number call =>
      match call with
      | .publish installation event => fate number installation event
      | call => outside.verdict number call }

/-- Such worlds agree on all that is not a publication, and keep the same store. -/
theorem SharedOutside.agrees_publishing
    (outside : SharedOutside) (fate other : Nat → Installation → Event → Verdict) :
    Program.Agrees Pass.Call.Publishes Eq
      (outside.publishing fate).respond (outside.publishing other).respond where
  answers := by
    rintro call moment _ matters rfl
    match call with
    | .fetchRelease _ | .probe => rfl
    | .cluster (.lookup _ _ _) | .cluster (.create _ _ _) | .cluster (.replace _ _ _ _)
    | .cluster (.patchStatus _ _ _) => rfl
    | .cluster (.publish _ _) => exact absurd rfl matters
  follows := by
    rintro call moment _ rfl
    match call with
    | .fetchRelease _ | .probe => rfl
    | .cluster (.lookup _ _ _) | .cluster (.create _ _ _) | .cluster (.replace _ _ _ _)
    | .cluster (.patchStatus _ _ _) => rfl
    | .cluster (.publish installation event) =>
        simp only [respond, Outside.respond, Store.respond_publish]
        rfl

namespace Pass

/--
Events never influence a pass.  Passes are taken over any installations, one after the
other, in any world: if some of the events are lost, each pass still ends in the same
way, asks for the same in the same order, is answered the same, and leaves the same
objects as if all events were published.
-/
theorem sameCourse_publishing
    (outside : SharedOutside) (fate : Nat → Installation → Event → Verdict)
    (installations : List (String × String)) (store : Store) :
    SameCourse (·.store)
      (passesOver (outside.publishing fate).respond installations ⟨store, 0⟩)
      (passesOver (outside.publishing fun _ _ _ => .carryOut).respond installations
        ⟨store, 0⟩) :=
  sameCourse_of_agrees (outside.agrees_publishing fate _) rfl
    (fun _ _ same => congrArg _ same) installations

/-- All events about `demo` but the first one are lost, which is no harm to it. -/
example :
    let store := Store.empty.insert "lm" (Installation.demo false)
    let fate := fun number (_ : Installation) (_ : Event) =>
      if number < 6 then Verdict.carryOut else .refuse (.other "events are forbidden")
    let runs := passesOver (quiet.publishing fate).respond [("lm", "demo")] ⟨store, 0⟩
    runs.map (·.outcome) = [.ok (.rollout .complete)] ∧
      runs.map (fun run => (run.transcript.filterMap Exchange.event?).length) = [1] := by
  decide +kernel

end Pass

end LifecycleOperator
