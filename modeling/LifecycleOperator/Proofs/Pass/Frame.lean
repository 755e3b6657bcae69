import LifecycleOperator.Proofs.Pass.Adoption
import LifecycleOperator.Proofs.Pass.Gating

/-!
# The frame of a pass

A pass removes nothing.  Of what is there it changes the owners of the secrets of
an installation, and only when the Job has just succeeded, and the status of the
installation, and only when everything has been rolled out.  All that it adds are
the objects of the installation, under their names, in its namespace and owned by
it alone.  This holds of passes that fail as well: it is composed from what each
part of a pass can do to a store.
-/

namespace LifecycleOperator
namespace Pass

/-- What a pass may add: an object of the installation, which owns it alone. -/
structure Born (installation : Installation) (key : Key) (object : Object key.kind) :
    Prop where
  /-- The object is one that the installation consists of, or is started from. -/
  identity : key ∈ installation.bootstrapKeys ++ installation.rolloutKeys
  /-- It is put into the namespace of the installation. -/
  place : key.namespaceName = installation.namespaceName
  /-- It says so itself. -/
  located : object.metadata.namespaceName = some installation.namespaceName
  /-- It carries the name under which it is put there. -/
  named : object.metadata.name = some key.name
  /-- The installation is its only owner, and controls it. -/
  owned : ∀ name uid,
    installation.metadata.name = some name → installation.metadata.uid = some uid →
      ∃ reference, object.metadata.ownerReferences = some [reference] ∧
        reference.controller = some true ∧ reference.name = name ∧ reference.uid = uid
  /-- It has no owner if the installation cannot be referred to. -/
  unowned : installation.metadata.name = none ∨ installation.metadata.uid = none →
    object.metadata.ownerReferences = none

/-- What a pass may change. -/
inductive Touched
    (installation : Installation) (name : String)
    (before : Store) (transcript : List Exchange) : Store.Change
  /-- Objects stay as they are. -/
  | untouched (key : Key) (object : Object key.kind) :
      Touched installation name before transcript key object object
  /-- Secrets get owners, once the Job has succeeded and nothing marks the rollout. -/
  | adopted (secret : String) (member : secret ∈ bootstrapSecrets)
      (unmarked : ¬ before.Has installation.markerKey)
      (runs : installation.specification.configurator.run = true)
      (job : Object .job) (stored : before.find? (jobKey installation) = some job)
      (hasSucceeded : HasSucceeded job)
      (former later : Object .secret) (same : former.SameButOwners later) :
      Touched installation name before transcript
        ⟨.secret, installation.namespaceName, secret⟩ former later
  /-- The status is set, once the rollout is marked and the probe has answered. -/
  | reported (marked : before.Has installation.markerKey)
      (isHealthy : Bool) (answered : ⟨.probe, .ok isHealthy⟩ ∈ transcript)
      (former : Installation) :
      Touched installation name before transcript
        ⟨.installation, installation.namespaceName, name⟩ former
        (Installation.withStatus former ⟨isHealthy⟩)

/-! ## Additions -/

/-- What is built for a requirement comes without owners. -/
def Unowned (requirement : Requirement) : Prop :=
  ∀ object, requirement.build = .ok object → object.metadata.ownerReferences = none

/-- What a rollout builds comes without owners. -/
theorem unowned_of_mem_rolloutRequirements
    {installation : Installation} {manifest : Manifest} {requirement : Requirement}
    (member : requirement ∈ rolloutRequirements installation manifest) :
    Unowned requirement := by
  intro object built
  obtain ⟨other, builtOther, unowned⟩ := built_of_mem_rolloutRequirements member
  rw [builtOther, Except.ok.injEq] at built
  rw [← built]
  exact unowned

/-- A ConfigMap that is built from texts comes without owners. -/
theorem unowned_configMap (name : String) (data : Except Fault (OrderedMap String)) :
    Unowned ⟨.configMap, name, data.map Resource.configMap⟩ := by
  intro object built
  cases data with
  | error fault => cases built
  | ok texts =>
      cases built
      rfl

/-- What the configurator is started from comes without owners. -/
theorem unowned_of_mem_bootstrapRequirements
    {installation : Installation} {manifest : Manifest} {requirement : Requirement}
    (member : requirement ∈ bootstrapRequirements installation manifest) :
    Unowned requirement := by
  intro object built
  simp only [bootstrapRequirements, List.mem_cons, List.not_mem_nil, or_false] at member
  rcases member with rfl | rfl | rfl
  · exact unowned_configMap _ _ object built
  · exact unowned_configMap _ _ object built
  · cases built
    rfl

/-- What is placed for an installation is one of its objects, and owned by it alone. -/
theorem born_of_placed
    {installation : Installation} {requirement : Requirement}
    {key : Key} {object : Object key.kind}
    (unowned : Unowned requirement)
    (identity : requirement.key installation ∈
      installation.bootstrapKeys ++ installation.rolloutKeys)
    (placed : Placed requirement.kind installation requirement.name requirement.build
      key object) :
    Born installation key object := by
  cases placed with
  | built object built =>
      refine ⟨identity, rfl, rfl, rfl, ?_, ?_⟩
      · intro name uid named identified
        refine ⟨⟨Kind.installation.apiVersion, Kind.installation.name, name, uid, some true,
          none⟩, ?_, rfl, rfl, rfl⟩
        simp [Object.placedFor, Installation.ownerReference?, named, identified]
      · intro anonymous
        have isNone := (ownerReference?_eq_none_iff installation).mpr anonymous
        simp only [Object.placedFor, isNone]
        exact unowned object built

/-- Starting the configurator adds at most what it is started from. -/
theorem grows_of_yields_bootstrap
    {installation : Installation} {manifest : Manifest}
    {transcript : List Exchange} {outcome : Except Fault Unit}
    {permitted : ClusterCall → Verdict → Prop} {store after : Store}
    (yields : (ensureEach installation
      (bootstrapRequirements installation manifest)).Yields transcript outcome)
    (explains : Store.Explains permitted store transcript after) :
    Store.Grows (Born installation) store after := by
  refine (grows_of_yields_ensureEach yields explains).mono ?_
  rintro key object ⟨requirement, member, placed⟩
  have identity : requirement.key installation ∈ installation.bootstrapKeys := by
    rw [← map_key_bootstrapRequirements installation manifest]
    exact List.mem_map_of_mem member
  exact born_of_placed (unowned_of_mem_bootstrapRequirements member)
    (List.mem_append_left _ identity) placed

/-- A rollout adds at most what is to be rolled out. -/
theorem grows_of_yields_rollout
    {installation : Installation} {manifest : Manifest}
    {transcript : List Exchange} {outcome : Except Fault Progress}
    {permitted : ClusterCall → Verdict → Prop} {store after : Store}
    (yields : (rollout installation
      (installation.specification.profile manifest)).Yields transcript outcome)
    (explains : Store.Explains permitted store transcript after) :
    Store.Grows (Born installation) store after := by
  have born : ∀ key object,
      PlacedAmong installation (rolloutRequirements installation manifest) key object →
        Born installation key object := by
    rintro key object ⟨requirement, member, placed⟩
    have identity : requirement.key installation ∈ installation.rolloutKeys := by
      rw [← map_key_rolloutRequirements installation manifest]
      exact List.mem_map_of_mem member
    exact born_of_placed (unowned_of_mem_rolloutRequirements member)
      (List.mem_append_right _ identity) placed
  exact (placedAmong_of_yields_rollout yields explains).mono born

/-! ## Changes -/

/-- A store that grows by what a pass may add evolves as a pass may change it. -/
theorem evolves_of_grows
    {installation : Installation} {name : String} {transcript : List Exchange}
    {before middle after : Store}
    (grows : Store.Grows (Born installation) middle after) :
    Store.Evolves (Touched installation name before transcript) (Born installation)
      middle after := by
  refine Store.Evolves.mono grows ?_ fun _ _ born => born
  intro key former later same
  rw [show later = former from same]
  exact .untouched key former

/-- Following the health of an installation sets its status at most. -/
theorem Following.evolves
    {installation : Installation} {name : String}
    {transcript rest : List Exchange} {outcome : Except Fault Phase}
    {permitted : ClusterCall → Verdict → Prop} {store after : Store}
    (follows : Following installation installation.namespaceName name rest outcome)
    (marked : store.Has installation.markerKey)
    (included : rest ⊆ transcript)
    (explains : Store.Explains permitted store rest after) :
    Store.Evolves (Touched installation name store transcript) (Born installation)
      store after := by
  have patched : ∀ isHealthy answer, ⟨.probe, .ok isHealthy⟩ ∈ transcript →
      store.Answers permitted
        ⟨.cluster (.patchStatus installation.namespaceName name ⟨isHealthy⟩), answer⟩ after →
      Store.Evolves (Touched installation name store transcript) (Born installation)
        store after := by
    intro isHealthy answer answered patches
    rcases patches.patchStatus with rfl | ⟨former, stored, rfl⟩
    · exact evolves_of_grows (.refl after)
    · exact .of_put .untouched stored (.reported marked isHealthy answered former)
  cases follows with
  | unanswered fault =>
      obtain rfl := explains.probe
      exact evolves_of_grows (.refl after)
  | healthy answer _ ends =>
      obtain ⟨last, patches, rfl⟩ := explains.probe
      exact patched true answer (included List.mem_cons_self) patches
  | unhealthy told answer _ ends =>
      obtain ⟨last, patches, rfl⟩ := explains.probe.publish
      exact patched false answer (included List.mem_cons_self) patches

/-- A secret that is adopted once the Job has succeeded changes as a pass may change it. -/
theorem touched_of_ownersChanged
    {installation : Installation} {name : String}
    {before : Store} {transcript : List Exchange}
    (unmarked : ¬ before.Has installation.markerKey)
    (runs : installation.specification.configurator.run = true)
    {job : Object .job} (stored : before.find? (jobKey installation) = some job)
    (hasSucceeded : HasSucceeded job)
    (key : Key) (former later : Object key.kind)
    (changed : OwnersChanged installation.namespaceName bootstrapSecrets key former later) :
    Touched installation name before transcript key former later := by
  rcases changed with rfl | ⟨isSecret, place, member, same⟩
  · exact .untouched key _
  · obtain ⟨kind, namespaceName, secret⟩ := key
    obtain rfl : kind = .secret := isSecret
    obtain rfl : namespaceName = installation.namespaceName := place
    exact .adopted secret member unmarked runs job stored hasSucceeded former later same

/-- What each course of a pass does to a store. -/
theorem Course.evolves
    {installation : Installation} {name : String}
    {transcript : List Exchange} {outcome : Except Fault Phase}
    {permitted : ClusterCall → Verdict → Prop} {store after : Store}
    (course : Course installation.namespaceName name transcript outcome)
    (wellNamed : store.WellNamed)
    (stored : store.find? ⟨.installation, installation.namespaceName, name⟩ =
      some installation)
    (explains : Store.Explains permitted store transcript after) :
    Store.Evolves (Touched installation name store transcript) (Born installation)
      store after := by
  cases course with
  | unreadable fault =>
      obtain ⟨-, rfl⟩ := explains.lookup
      exact evolves_of_grows (.refl after)
  | gone =>
      obtain ⟨-, rfl⟩ := explains.lookup
      exact evolves_of_grows (.refl after)
  | markerUnreadable other fault =>
      obtain ⟨-, rfl⟩ := (Store.Explains.lookup explains).2.lookup
      exact evolves_of_grows (.refl after)
  | followed other marker rest _ follows =>
      obtain ⟨storedOther, afterLookup⟩ := Store.Explains.lookup explains
      obtain rfl := Option.some.inj ((storedOther _ rfl).symm.trans stored)
      obtain ⟨storedMarker, afterMarker⟩ := afterLookup.lookup
      have marked : store.Has other.markerKey := by
        simp [Store.Has, Installation.markerKey, storedMarker _ rfl]
      refine follows.evolves marked ?_ afterMarker
      intro exchange member
      exact List.mem_cons_of_mem _ (List.mem_cons_of_mem _ member)
  | unreleased other fault =>
      obtain ⟨-, afterLookup⟩ := Store.Explains.lookup explains
      obtain rfl := (Store.Explains.lookup afterLookup).2.fetchRelease
      exact evolves_of_grows (.refl after)
  | rolledOut other manifest runsNot rest ending rolls _ ends =>
      obtain ⟨storedOther, -, afterOpening⟩ := explains_opening explains
      obtain rfl := Option.some.inj (storedOther.symm.trans stored)
      exact evolves_of_grows (grows_of_yields_rollout rolls afterOpening)
  | jobUnreadable other manifest runs fault =>
      obtain ⟨-, -, afterOpening⟩ := explains_opening explains
      obtain ⟨-, rfl⟩ := afterOpening.lookup
      exact evolves_of_grows (.refl after)
  | started other manifest runs rest ending starts _ ends =>
      obtain ⟨storedOther, -, afterOpening⟩ := explains_opening explains
      obtain rfl := Option.some.inj (storedOther.symm.trans stored)
      exact evolves_of_grows (grows_of_yields_bootstrap starts afterOpening.lookup.2)
  | waiting other manifest runs job isRunning =>
      obtain ⟨-, -, afterOpening⟩ := explains_opening explains
      obtain ⟨-, rfl⟩ := afterOpening.lookup
      exact evolves_of_grows (.refl after)
  | resumed other manifest runs job pods hasSucceeded adoption rest ending adopts rolls _ ends =>
      obtain ⟨storedOther, unmarked, afterOpening⟩ := explains_opening explains
      obtain rfl := Option.some.inj (storedOther.symm.trans stored)
      obtain ⟨storedJob, afterJob⟩ := afterOpening.lookup
      obtain ⟨middle, explainsAdoption, explainsRollout⟩ :=
        Store.explains_append.mp afterJob
      have adoption := adopts_of_yields_propagateSecrets adopts wellNamed explainsAdoption
      refine Store.Evolves.grow ?_ (grows_of_yields_rollout rolls explainsRollout)
      refine Store.Evolves.mono adoption ?_ fun _ _ impossible => impossible
      exact touched_of_ownersChanged unmarked runs (storedJob _ rfl)
        (hasSucceeded_of_ofJob? hasSucceeded)

/--
The frame of a pass.  Where every object lies under its own name, a pass over an
installation removes nothing, changes owners of secrets and the status only when
it is time for that, and adds only what the installation consists of, however its
calls are answered and however it ends.
-/
theorem reconcile_frame
    (outside : Outside)
    (store : Store)
    (wellNamed : store.WellNamed)
    (namespaceName name : String)
    (installation : Installation)
    (located : installation.metadata.namespaceName = some namespaceName)
    (stored : store.find? ⟨.installation, namespaceName, name⟩ = some installation) :
    let run := outside.perform (reconcile namespaceName name) store
    Store.Evolves (Touched installation name store run.transcript) (Born installation)
      store run.state.store := by
  obtain rfl : installation.namespaceName = namespaceName := by
    simp [Object.namespaceName, located]
  have course := yields_reconcile
    (Program.run_yields outside.respond (reconcile installation.namespaceName name) ⟨store, 0⟩)
  have explains := Store.explains_run outside.permits_any
    (reconcile installation.namespaceName name) ⟨store, 0⟩
  exact course.evolves wellNamed stored explains

/-- A pass over `demo` that rolls everything out stays in its frame. -/
theorem reconcile_frame_demo :
    let store := (Store.empty.insert "lm" (Installation.demo true)).insert "lm" demoJob
    let run := Outside.calm.perform (reconcile "lm" "demo") store
    Store.Evolves (Touched (Installation.demo true) "demo" store run.transcript)
        (Born (Installation.demo true)) store run.state.store ∧
      (run.state.store.find? (Installation.demo true).markerKey).isSome := by
  refine ⟨?_, by decide +kernel⟩
  have wellNamed : ((Store.empty.insert "lm" (Installation.demo true)).insert
      "lm" demoJob).WellNamed :=
    (Store.wellNamed_empty.insert "lm" (Installation.demo true)).insert "lm" demoJob
  exact reconcile_frame Outside.calm _ wellNamed "lm" "demo" (Installation.demo true) rfl rfl

end Pass
end LifecycleOperator
