import LifecycleOperator.Pass.Phase
import LifecycleOperator.Proofs.Pass.Requirement
import LifecycleOperator.Proofs.Program.Twins

/-!
# Notes that have no effect

Some of what users write in an installation is for information only: which version of a
service they had in mind, and with which options it was to be run.  Installations that
differ in such notes alone are alike, and whatever is built for one of them is built for
the other.  So a pass that finds one of them and a pass that finds the other one are twins:
they ask for the same in the same order, and end in the same way.
-/

namespace LifecycleOperator

/-! ## Installations without notes -/

/-- The overrides of the user interface without notes. -/
def InterfaceOverrides.bare (overrides : InterfaceOverrides) : InterfaceOverrides :=
  { overrides with jvmOptions := "", version := "" }

/-- The overrides of the configurator without notes. -/
def ConfiguratorOverrides.bare (overrides : ConfiguratorOverrides) : ConfiguratorOverrides :=
  { overrides with jvmOptions := "" }

/-- A specification without notes; of most services there is nothing else to be said. -/
def Specification.bare (specification : Specification) : Specification :=
  { specification with
    configurator := specification.configurator.bare
    nimrod := specification.nimrod.bare
    conductor := .none
    apollo := .none
    galileo := .none
    talledega := .none
    daytona := .none
    ishtar := .none
    relay := .none
    watchtower := .none
    doki := .none
    brent := .none }

namespace Installation

/-- An installation without notes. -/
def bare (installation : Installation) : Installation :=
  ⟨installation.metadata, ⟨installation.specification.bare, installation.body.status⟩⟩

/-- Two installations differ in their notes at most. -/
def Alike (left right : Installation) : Prop := left.bare = right.bare

namespace Alike

variable {left right : Installation} (alike : left.Alike right)

theorem refl (installation : Installation) : installation.Alike installation := rfl

include alike

/-- Whatever is read from an installation without regard to its notes is the same. -/
theorem congr
    {γ : Type} (read : Installation → γ)
    (overlooks : ∀ installation, read installation.bare = read installation) :
    read left = read right := by
  rw [← overlooks left, ← overlooks right, alike]

theorem namespaceName : left.namespaceName = right.namespaceName :=
  alike.congr Object.namespaceName fun _ => rfl

theorem anyName : left.anyName = right.anyName := alike.congr Object.anyName fun _ => rfl

theorem jobName : left.jobName = right.jobName := alike.congr Installation.jobName fun _ => rfl

theorem ownerReference? : left.ownerReference? = right.ownerReference? :=
  alike.congr Installation.ownerReference? fun _ => rfl

/-- The address of the release is no note. -/
theorem release : left.specification.release = right.specification.release :=
  alike.congr (fun installation => installation.specification.release) fun _ => rfl

/-- Nor is whether the configurator is to run. -/
theorem run : left.specification.configurator.run = right.specification.configurator.run :=
  alike.congr (fun installation => installation.specification.configurator.run) fun _ => rfl

/-- An object is put in the same place for both, and owned alike. -/
theorem placedFor {kind : Kind} (object : Object kind) (name : String) :
    object.placedFor left name = object.placedFor right name :=
  alike.congr (object.placedFor · name) fun _ => rfl

theorem withStatus (status : Status) :
    (left.withStatus status).Alike (right.withStatus status) :=
  alike.congr (fun installation => (installation.withStatus status).bare) fun _ => rfl

/-- What is rolled out is built from all but the notes. -/
theorem rolloutRequirements (manifest : Manifest) :
    Pass.rolloutRequirements left manifest = Pass.rolloutRequirements right manifest :=
  alike.congr (Pass.rolloutRequirements · manifest) fun _ => rfl

/-- So is what the configurator is started from. -/
theorem bootstrapRequirements (manifest : Manifest) :
    Pass.bootstrapRequirements left manifest = Pass.bootstrapRequirements right manifest :=
  alike.congr (Pass.bootstrapRequirements · manifest) fun _ => rfl

end Alike
end Installation

namespace Pass

/-! ## What a pass does for installations that are alike -/

/-- Two calls are the same, but for the notes of an installation of which an event tells. -/
inductive Call.Alike : Call → Call → Prop
  | same (call : Call) : Alike call call
  | told (left right : Installation) (alike : left.Alike right) (event : Event) :
      Alike (.cluster (.publish left event)) (.cluster (.publish right event))

/--
Two calls are the same and answered the same, but for the notes of an installation that is
found or of which an event tells.
-/
inductive Exchange.Alike : Exchange → Exchange → Prop
  | same (exchange : Exchange) : Alike exchange exchange
  | found (namespaceName name : String) (left right : Installation) (alike : left.Alike right) :
      Alike ⟨.cluster (.lookup .installation namespaceName name), .ok (some left)⟩
        ⟨.cluster (.lookup .installation namespaceName name), .ok (some right)⟩
  | told (left right : Installation) (alike : left.Alike right) (event : Event)
      (answer : Except Fault Unit) :
      Alike ⟨.cluster (.publish left event), answer⟩ ⟨.cluster (.publish right event), answer⟩

/-- What counts as the same where notes have no effect. -/
def exceptNotes : Program.Likeness Pass.interface := ⟨Call.Alike, Exchange.Alike⟩

/-- Two parts of a pass that differ in notes at most. -/
abbrev Twins {α : Type} (part twin : Pass α) : Prop := Program.Twins exceptNotes part twin

/-- A call that seeks no installation is answered the same. -/
theorem twins_ask
    {α : Type} {call : Call} {next nextTwin : Except Fault call.Result → Pass α}
    (seeksOther : ∀ namespaceName name,
      call ≠ .cluster (.lookup .installation namespaceName name))
    (continues : ∀ answer, Twins (next answer) (nextTwin answer)) :
    Twins (.ask call next) (.ask call nextTwin) := by
  refine .ask (.same call) ?_
  intro answer reply alike
  cases alike with
  | same | told => exact continues _
  | found place name => exact absurd rfl (seeksOther place name)

theorem twins_updateStatus (namespaceName name : String) (status : Status) :
    Twins (updateStatus namespaceName name status) (updateStatus namespaceName name status) := by
  refine twins_ask (by simp) ?_
  intro answer
  cases answer <;> exact .done _

section Parts

variable {left right : Installation} (alike : left.Alike right)

include alike

theorem twins_record (event : Event) : Twins (record left event) (record right event) :=
  .ask (.told left right alike event) fun _ _ _ => .done _

theorem twins_createPlaced (kind : Kind) (name : String) (object : Object kind) :
    Twins (createPlaced kind left name object) (createPlaced kind right name object) := by
  unfold createPlaced
  rw [alike.namespaceName, alike.anyName]
  refine twins_ask (by simp) ?_
  intro answer
  cases answer with
  | ok created => exact (twins_record alike _).bind fun _ => .done _
  | error fault => cases fault <;> exact .done _

/-- Whether an object is there is all that counts, even if it is an installation. -/
theorem twins_ensure (kind : Kind) (name : String) (build : Except Fault (Object kind)) :
    Twins (ensure kind left name build) (ensure kind right name build) := by
  unfold ensure
  rw [alike.namespaceName]
  refine .ask (.same _) ?_
  intro answer reply answered
  cases answered with
  | same =>
    match answer with
    | .error fault => exact .done _
    | .ok (some present) => exact .done _
    | .ok none =>
        cases build with
        | error fault => exact .done _
        | ok object =>
            change Twins (createPlaced kind left name (object.placedFor left name))
              (createPlaced kind right name (object.placedFor right name))
            rw [alike.placedFor]
            exact twins_createPlaced alike kind name _
  | found => exact .done _

theorem twins_ensureEach (requirements : List Requirement) :
    Twins (ensureEach left requirements) (ensureEach right requirements) := by
  induction requirements with
  | nil => exact .done _
  | cons requirement rest inductionHypothesis =>
      exact (twins_ensure alike _ _ _).bind fun _ => inductionHypothesis

theorem twins_rollout (manifest : Manifest) :
    Twins (rollout left (left.specification.profile manifest))
      (rollout right (right.specification.profile manifest)) := by
  rw [rollout_eq, rollout_eq, alike.rolloutRequirements, alike.anyName]
  refine (twins_ensureEach alike _).bind fun _ => ?_
  exact (twins_record alike _).bind fun _ => .done _

theorem twins_propagateSecret (reference : OwnerReference) (name : String) :
    Twins (propagateSecret left reference name) (propagateSecret right reference name) := by
  unfold propagateSecret adopt
  rw [alike.namespaceName, alike.anyName]
  refine twins_ask (by simp) ?_
  intro found
  match found with
  | .error fault => exact .done _
  | .ok none => exact .done _
  | .ok (some secret) =>
      by_cases isOwned : secret.metadata.isOwnedBy reference.uid
      · simp only [isOwned]
        exact .done _
      · simp only [isOwned]
        refine twins_ask (by simp) ?_
        intro answer
        match answer with
        | .error fault => exact .done _
        | .ok owned => exact twins_record alike _

theorem twins_propagateSecrets : Twins (propagateSecrets left) (propagateSecrets right) := by
  unfold propagateSecrets
  rw [alike.ownerReference?]
  cases right.ownerReference? with
  | none => exact .done _
  | some reference =>
      induction bootstrapSecrets with
      | nil => exact .done _
      | cons name rest inductionHypothesis =>
          exact (twins_propagateSecret alike reference name).bind fun _ => inductionHypothesis

theorem twins_gate (manifest : Manifest) :
    Twins (gate left (left.specification.profile manifest))
      (gate right (right.specification.profile manifest)) := by
  have observes : Twins (observeJob left) (observeJob right) := by
    unfold observeJob lookup
    rw [alike.namespaceName, alike.jobName]
    exact (twins_ask (by simp) fun _ => .done _).bind fun _ => .done _
  apply observes.bind
  intro observation
  cases observation with
  | absent =>
      rw [startConfigurator_eq, startConfigurator_eq, alike.bootstrapRequirements]
      exact (twins_ensureEach alike _).bind fun _ => .done _
  | running => exact .done _
  | succeeded pods => exact (twins_propagateSecrets alike).bind fun _ => .done _

theorem twins_install : Twins (install left) (install right) := by
  unfold install resolve
  simp only [bind_assoc, pure_bind]
  rw [alike.release, alike.run]
  refine (twins_ask (by simp) fun _ => .done _).bind ?_
  intro manifest
  have rollsOut := (twins_rollout alike manifest).bind fun progress =>
    Program.Twins.done (.ok (Phase.rollout progress))
  split
  · apply (twins_gate alike manifest).bind
    intro gate
    match gate with
    | .opened => exact rollsOut
    | .closed .complete => exact .done _
    | .closed .requeue => exact .done _
  · exact rollsOut

theorem twins_follow (namespaceName name : String) :
    Twins (follow left namespaceName name) (follow right namespaceName name) := by
  refine (twins_ask (by simp) fun _ => .done _).bind ?_
  intro isHealthy
  have reports := Program.Twins.bind (twins_updateStatus namespaceName name ⟨isHealthy⟩)
    fun _ => .done (.ok (Phase.steady isHealthy))
  cases isHealthy with
  | true => exact reports
  | false => exact (twins_record alike _).bind fun _ => reports

/-- What a pass does once it has found an installation. -/
theorem twins_found (namespaceName name : String) :
    Twins
      (do
        match ← lookup .deployment namespaceName markerDeployment with
        | none => install left
        | some _ => follow left namespaceName name)
      (do
        match ← lookup .deployment namespaceName markerDeployment with
        | none => install right
        | some _ => follow right namespaceName name) := by
  refine (twins_ask (by simp) fun _ => .done _).bind ?_
  intro marked
  cases marked with
  | none => exact twins_install alike
  | some marker => exact twins_follow alike namespaceName name

end Parts

/-- A pass has itself as a twin, although it may find installations that differ in notes. -/
theorem twins_reconcile (namespaceName name : String) :
    Twins (reconcile namespaceName name) (reconcile namespaceName name) := by
  refine .ask (.same _) ?_
  intro answer reply answered
  cases answered with
  | same =>
    match answer with
    | .error fault => exact .done _
    | .ok none => exact .done _
    | .ok (some installation) => exact twins_found (.refl installation) namespaceName name
  | found _ _ left right alike => exact twins_found alike namespaceName name

end Pass

end LifecycleOperator
