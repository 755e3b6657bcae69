import LifecycleOperator.Proofs.Pass.Course

/-!
# How far a pass gets

A pass leaves what is to be rolled out as it is, or it rolls everything out, or it is
stopped on the way by a call that fails.  In the last case all that comes earlier in
the order is there, and nothing that comes later has been touched.  Which of these
it is can be read off the failures in its transcript.
-/

namespace LifecycleOperator

/-- Refusals do not pretend that a name is taken. -/
def Verdict.Honest (_ : ClusterCall) (verdict : Verdict) : Prop :=
  ∀ fault, verdict = .refuse fault → ¬ fault.IsTaken

theorem Pass.truthful_honest : Pass.Truthful Verdict.Honest :=
  fun _ fault honest => honest fault rfl

namespace Pass

namespace Exchange

/--
The object at which an exchange fails: it cannot be looked up, or it cannot be
created although its name is free.
-/
def failure? : Exchange → Option Key
  | ⟨.cluster (.lookup kind namespaceName name), .error _⟩ =>
      some ⟨kind, namespaceName, name⟩
  | ⟨.cluster (.create _ _ _), .error (.alreadyExists _ _ _)⟩ => none
  | ⟨.cluster (.create kind namespaceName object), .error _⟩ =>
      some ⟨kind, namespaceName, object.metadata.name.getD ""⟩
  | _ => none

end Exchange

/-- The objects at which the exchanges of a transcript fail, in order. -/
def failures (transcript : List Exchange) : List Key :=
  transcript.filterMap Exchange.failure?

@[simp] theorem failures_nil : failures [] = [] := rfl

@[simp] theorem failures_append (front back : List Exchange) :
    failures (front ++ back) = failures front ++ failures back :=
  List.filterMap_append

/-! ## Making sure of objects -/

namespace Ensuring

variable {kind : Kind} {owner : Installation} {name : String}
  {build : Except Fault (Object kind)} {transcript : List Exchange}

/-- If making sure of an object succeeds, no exchange fails. -/
theorem failures_of_ok
    {ensured : Ensured}
    (ensuring : Ensuring kind owner name build transcript (.ok ensured)) :
    failures transcript = [] := by
  cases ensuring with
  | present | created => rfl
  | overtaken object built fault isTaken =>
      obtain ⟨_, _, _, rfl⟩ := isTaken
      rfl

/-- If making sure of an object that can be built fails, it fails at this object. -/
theorem failures_of_error
    {fault : Fault}
    (buildable : ∃ object, build = .ok object)
    (ensuring : Ensuring kind owner name build transcript (.error fault)) :
    failures transcript = [⟨kind, owner.namespaceName, name⟩] := by
  cases ensuring with
  | unreadable => rfl
  | unbuilt _ failed =>
      obtain ⟨object, built⟩ := buildable
      rw [failed] at built
      cases built
  | rejected object built _ notTaken =>
      cases fault
      case alreadyExists taken place other => exact absurd ⟨taken, place, other, rfl⟩ notTaken
      all_goals rfl

/-- Making sure of an object fails at no other object. -/
theorem failures_subset
    {outcome : Except Fault Ensured}
    (ensuring : Ensuring kind owner name build transcript outcome) :
    failures transcript ⊆ [⟨kind, owner.namespaceName, name⟩] := by
  cases outcome with
  | ok ensured =>
      rw [ensuring.failures_of_ok]
      exact List.nil_subset _
  | error fault =>
      by_cases buildable : ∃ object, build = .ok object
      · rw [ensuring.failures_of_error buildable]
        exact List.Subset.refl _
      · cases ensuring with
        | unbuilt => exact List.nil_subset _
        | unreadable => exact List.Subset.refl _
        | rejected object built => exact absurd ⟨object, built⟩ buildable

end Ensuring

/-- If making sure of objects succeeds, no exchange fails. -/
theorem failures_of_yields_ensureEach_ok
    {owner : Installation} {requirements : List Requirement} {transcript : List Exchange}
    (yields : (ensureEach owner requirements).Yields transcript (.ok ())) :
    failures transcript = [] := by
  induction requirements generalizing transcript with
  | nil =>
      obtain ⟨rfl, -⟩ := Program.yields_done_iff.mp yields
      rfl
  | cons requirement rest inductionHypothesis =>
      rcases yields_ensureEach_cons yields with
        ⟨fault, impossible, -⟩ | ⟨ensured, front, back, rfl, first, others⟩
      · cases impossible
      · rw [failures_append, first.failures_of_ok, inductionHypothesis others,
          List.append_nil]

/-- Making sure of objects fails at no other objects. -/
theorem failures_subset_of_yields_ensureEach
    {owner : Installation} {requirements : List Requirement}
    {transcript : List Exchange} {outcome : Except Fault Unit}
    (yields : (ensureEach owner requirements).Yields transcript outcome) :
    failures transcript ⊆ requirements.map (Requirement.key owner) := by
  induction requirements generalizing transcript with
  | nil =>
      obtain ⟨rfl, -⟩ := Program.yields_done_iff.mp yields
      exact List.nil_subset _
  | cons requirement rest inductionHypothesis =>
      have head : [requirement.key owner] ⊆
          (requirement :: rest).map (Requirement.key owner) := by simp
      rcases yields_ensureEach_cons yields with
        ⟨fault, -, first⟩ | ⟨ensured, front, back, rfl, first, others⟩
      · exact List.Subset.trans first.failures_subset head
      · rw [failures_append, List.append_subset]
        exact ⟨List.Subset.trans first.failures_subset head,
          List.subset_cons_of_subset _ (inductionHypothesis others)⟩

/-- What is added for requirements lies under their keys. -/
theorem key_mem_of_placedAmong
    {owner : Installation} {requirements : List Requirement}
    {key : Key} {object : Object key.kind}
    (placed : PlacedAmong owner requirements key object) :
    key ∈ requirements.map (Requirement.key owner) := by
  obtain ⟨requirement, member, placed⟩ := placed
  cases placed with
  | built object built => exact List.mem_map_of_mem member

/-- Making sure of objects leaves all others alone. -/
theorem find?_of_yields_ensureEach
    {owner : Installation} {requirements : List Requirement}
    {transcript : List Exchange} {outcome : Except Fault Unit}
    {permitted : ClusterCall → Verdict → Prop} {store after : Store}
    (yields : (ensureEach owner requirements).Yields transcript outcome)
    (explains : Store.Explains permitted store transcript after)
    {key : Key}
    (other : key ∉ requirements.map (Requirement.key owner)) :
    after.find? key = store.find? key := by
  refine (grows_of_yields_ensureEach yields explains).find?_eq_of_not_added ?_
  intro object placed
  exact other (key_mem_of_placedAmong placed)

/-! ## Rolling out -/

/-- How far a rollout gets. -/
inductive RollingOut (installation : Installation) (store after : Store) :
    List Key → Except Fault Progress → Prop
  /-- Everything is there, and no call has failed. -/
  | completed (present : ∀ key ∈ installation.rolloutKeys, after.Has key) :
      RollingOut installation store after [] (.ok .complete)
  /-- The call for one object has failed, behind those that are there. -/
  | stopped (done : List Key) (key : Key) (rest : List Key)
      (split : installation.rolloutKeys = done ++ key :: rest)
      (present : ∀ other ∈ done, after.Has other)
      (untouched : ∀ other, other ∉ done → after.find? other = store.find? other)
      (fault : Fault) :
      RollingOut installation store after [key] (.error fault)

/-- A rollout gets to its end, or to a call that fails. -/
theorem rollingOut_of_yields_rollout
    {installation : Installation} {manifest : Manifest}
    {transcript : List Exchange} {outcome : Except Fault Progress}
    {permitted : ClusterCall → Verdict → Prop} {store after : Store}
    (truthful : Truthful permitted)
    (yields : (rollout installation
      (installation.specification.profile manifest)).Yields transcript outcome)
    (explains : Store.Explains permitted store transcript after) :
    RollingOut installation store after (failures transcript) outcome := by
  have keys := map_key_rolloutRequirements installation manifest
  rcases yields_rollout yields with
    ⟨fault, rfl, fails⟩ | ⟨front, told, rfl, rfl, goesWell⟩
  · obtain ⟨done, requirement, rest, front, last, split, rfl, goesWell, stops⟩ :=
      stopped_of_yields_ensureEach fails
    obtain ⟨middle, explainsDone, explainsLast⟩ := Store.explains_append.mp explains
    obtain rfl := stops.unchanged explainsLast
    have member : requirement ∈ rolloutRequirements installation manifest := by
      rw [split]
      exact List.mem_append_right done List.mem_cons_self
    obtain ⟨object, built, -⟩ := built_of_mem_rolloutRequirements member
    rw [failures_append, failures_of_yields_ensureEach_ok goesWell,
      stops.failures_of_error ⟨object, built⟩, List.nil_append]
    rw [split, List.map_append, List.map_cons] at keys
    exact .stopped _ (requirement.key installation) _ keys.symm
      (has_of_yields_ensureEach truthful goesWell explainsDone)
      (fun other notDone => find?_of_yields_ensureEach goesWell explainsDone notDone) fault
  · obtain ⟨middle, explainsFront, tells⟩ := Store.explains_append.mp explains
    obtain rfl := tells.publish
    have present := has_of_yields_ensureEach truthful goesWell explainsFront
    rw [keys] at present
    rw [failures_append, failures_of_yields_ensureEach_ok goesWell]
    exact .completed present

/-- A rollout leaves alone all that is not to be rolled out. -/
theorem find?_of_yields_rollout
    {installation : Installation} {manifest : Manifest}
    {transcript : List Exchange} {outcome : Except Fault Progress}
    {permitted : ClusterCall → Verdict → Prop} {store after : Store}
    (yields : (rollout installation
      (installation.specification.profile manifest)).Yields transcript outcome)
    (explains : Store.Explains permitted store transcript after)
    {key : Key}
    (other : key ∉ installation.rolloutKeys) :
    after.find? key = store.find? key := by
  rw [← map_key_rolloutRequirements installation manifest] at other
  refine (placedAmong_of_yields_rollout yields explains).find?_eq_of_not_added ?_
  intro object placed
  exact other (key_mem_of_placedAmong placed)

/-! ## Adopting and following -/

/-- Only objects of a kind are found to be different. -/
def DifferOnlyIn (kind : Kind) (before after : Store) : Prop :=
  ∀ key, key.kind ≠ kind → after.find? key = before.find? key

/-- Stores that differ only in a kind twice differ only in this kind. -/
theorem DifferOnlyIn.trans
    {kind : Kind} {before middle after : Store}
    (first : DifferOnlyIn kind before middle)
    (second : DifferOnlyIn kind middle after) :
    DifferOnlyIn kind before after := by
  intro key different
  rw [second key different, first key different]

/-- Adopting a secret changes only secrets, and fails only at secrets. -/
theorem Adopting.differOnlyIn
    {installation : Installation} {reference : OwnerReference} {name : String}
    {transcript : List Exchange}
    {permitted : ClusterCall → Verdict → Prop} {store after : Store}
    (adopting : Adopting installation reference name transcript)
    (explains : Store.Explains permitted store transcript after) :
    DifferOnlyIn .secret store after ∧ ∀ key ∈ failures transcript, key.kind = .secret := by
  have written : ∀ {middle after : Store} {object : Object .secret},
      after = middle ∨ after = middle.insert installation.namespaceName object →
        DifferOnlyIn .secret middle after := by
    rintro middle after object (rfl | rfl) key different
    · rfl
    · refine Store.find?_put_of_ne _ _ ?_
      rintro rfl
      exact different rfl
  cases adopting with
  | unreadable | missing | owned =>
      obtain ⟨-, rfl⟩ := explains.lookup
      exact ⟨fun _ _ => rfl, by simp [failures, Exchange.failure?]⟩
  | unwritable secret notOwned fault =>
      obtain ⟨-, last, writes, rfl⟩ := explains.lookup
      exact ⟨written writes.replace, by simp [failures, Exchange.failure?]⟩
  | adopted secret notOwned answer told =>
      obtain ⟨-, next, writes, published⟩ := explains.lookup
      obtain rfl := published.publish
      exact ⟨written writes.replace, by simp [failures, Exchange.failure?]⟩

/-- Adopting secrets changes only secrets, and fails only at secrets. -/
theorem AdoptingEach.differOnlyIn
    {installation : Installation} {reference : OwnerReference} {names : List String}
    {transcript : List Exchange}
    {permitted : ClusterCall → Verdict → Prop} {store after : Store}
    (adopting : AdoptingEach installation reference names transcript)
    (explains : Store.Explains permitted store transcript after) :
    DifferOnlyIn .secret store after ∧ ∀ key ∈ failures transcript, key.kind = .secret := by
  induction adopting generalizing store with
  | nil =>
      obtain rfl := explains
      exact ⟨fun _ _ => rfl, by simp⟩
  | cons first others inductionHypothesis =>
      obtain ⟨middle, explainsFirst, explainsOthers⟩ := Store.explains_append.mp explains
      obtain ⟨differ, fail⟩ := first.differOnlyIn explainsFirst
      obtain ⟨differOthers, failOthers⟩ := inductionHypothesis explainsOthers
      refine ⟨differ.trans differOthers, ?_⟩
      intro key member
      rw [failures_append] at member
      rcases List.mem_append.mp member with inFront | inBack
      · exact fail key inFront
      · exact failOthers key inBack

/-- Adopting the secrets of an installation changes only secrets, and fails only at secrets. -/
theorem differOnlyIn_of_yields_propagateSecrets
    {installation : Installation}
    {transcript : List Exchange} {outcome : Except Fault Unit}
    {permitted : ClusterCall → Verdict → Prop} {store after : Store}
    (yields : (propagateSecrets installation).Yields transcript outcome)
    (explains : Store.Explains permitted store transcript after) :
    DifferOnlyIn .secret store after ∧ ∀ key ∈ failures transcript, key.kind = .secret := by
  rcases (yields_propagateSecrets yields).2 with ⟨-, rfl⟩ | ⟨reference, -, adopts⟩
  · obtain rfl := explains
    exact ⟨fun _ _ => rfl, by simp⟩
  · exact adopts.differOnlyIn explains

/-- There is an installation of a name with this metadata. -/
def Knows (store : Store) (name : String) (metadata : Metadata) : Prop :=
  ∃ body, store.find? ⟨.installation, metadata.namespaceName.getD "", name⟩ =
    some ⟨metadata, body⟩

/--
Following the health changes only the installation, which keeps its metadata, and no
object is failed at.
-/
theorem Following.differOnlyIn
    {installation : Installation} {name : String}
    {transcript : List Exchange} {outcome : Except Fault Phase}
    {permitted : ClusterCall → Verdict → Prop} {store after : Store}
    (follows : Following installation installation.namespaceName name transcript outcome)
    (known : store.find? ⟨.installation, installation.namespaceName, name⟩ =
      some installation)
    (explains : Store.Explains permitted store transcript after) :
    DifferOnlyIn .installation store after ∧ Knows after name installation.metadata ∧
      failures transcript = [] ∧ outcome ≠ .ok (.rollout .complete) := by
  have unpatched : Knows store name installation.metadata := ⟨installation.body, known⟩
  have patched : ∀ isHealthy answer,
      store.Answers permitted
        ⟨.cluster (.patchStatus installation.namespaceName name ⟨isHealthy⟩), answer⟩ after →
      DifferOnlyIn .installation store after ∧ Knows after name installation.metadata := by
    intro isHealthy answer patches
    rcases patches.patchStatus with rfl | ⟨former, stored, rfl⟩
    · exact ⟨fun _ _ => rfl, unpatched⟩
    · rw [known, Option.some.injEq] at stored
      subst stored
      refine ⟨?_, _, Store.find?_put_self _ _ _⟩
      intro key different
      refine Store.find?_put_of_ne _ _ ?_
      rintro rfl
      exact different rfl
  cases follows with
  | unanswered fault =>
      obtain rfl := explains.probe
      exact ⟨fun _ _ => rfl, unpatched, rfl, by simp⟩
  | healthy answer _ ends =>
      obtain ⟨last, patches, rfl⟩ := explains.probe
      obtain ⟨differ, knows⟩ := patched true answer patches
      refine ⟨differ, knows, rfl, ?_⟩
      cases answer <;> simp [ends, reported]
  | unhealthy told answer _ ends =>
      obtain ⟨last, patches, rfl⟩ := explains.probe.publish
      obtain ⟨differ, knows⟩ := patched false answer patches
      refine ⟨differ, knows, rfl, ?_⟩
      cases answer <;> simp [ends, reported]

/-! ## The whole pass -/

/-- How far a pass gets with what is to be rolled out, and where it fails. -/
inductive Advance
    (installation : Installation) (store after : Store)
    (failed : List Key) (outcome : Except Fault Phase) : Prop
  /-- Nothing of it is touched. -/
  | unmoved
      (untouched : ∀ key ∈ installation.rolloutKeys, after.find? key = store.find? key)
      (elsewhere : ∀ key ∈ failed, key ∉ installation.keysBehindMarker)
      (unfinished : outcome ≠ .ok (.rollout .complete))
  /-- All of it is there, which was not marked before. -/
  | completed
      (unmarked : ¬ store.Has installation.markerKey)
      (present : ∀ key ∈ installation.rolloutKeys, after.Has key)
      (elsewhere : ∀ key ∈ failed, key ∉ installation.keysBehindMarker)
      (finished : outcome = .ok (.rollout .complete))
  /-- The rollout is stopped where a call fails, behind the objects that are there. -/
  | stopped
      (unmarked : ¬ store.Has installation.markerKey)
      (done : List Key) (key : Key) (rest : List Key)
      (split : installation.rolloutKeys = done ++ key :: rest)
      (present : ∀ other ∈ done, after.Has other)
      (untouched : ∀ other ∈ installation.rolloutKeys, other ∉ done →
        after.find? other = store.find? other)
      (fails : ∀ other ∈ installation.keysBehindMarker, other ∈ failed ↔ other = key)
      (unfinished : outcome ≠ .ok (.rollout .complete))

/-- How far a pass gets depends on the metadata of the installation alone. -/
theorem Advance.of_metadata
    {metadata : Metadata} {body other : InstallationBody} {store after : Store}
    {failed : List Key} {outcome : Except Fault Phase}
    (advance : Advance ⟨metadata, body⟩ store after failed outcome) :
    Advance ⟨metadata, other⟩ store after failed outcome := by
  cases advance with
  | unmoved untouched elsewhere unfinished => exact .unmoved untouched elsewhere unfinished
  | completed unmarked present elsewhere finished =>
      exact .completed unmarked present elsewhere finished
  | stopped unmarked done key rest split present untouched fails unfinished =>
      exact .stopped unmarked done key rest split present untouched fails unfinished

variable {installation : Installation} {name : String}
  {transcript : List Exchange} {outcome : Except Fault Phase}
  {permitted : ClusterCall → Verdict → Prop} {store middle after : Store}

/-- A pass that rolls out gets as far as its rollout. -/
theorem advance_of_rollingOut
    (failed : List Key) {failedLast : List Key} {ending : Except Fault Progress}
    (unmarked : ¬ store.Has installation.markerKey)
    (untouched : ∀ key ∈ installation.rolloutKeys, middle.find? key = store.find? key)
    (elsewhere : ∀ key ∈ failed, key ∉ installation.rolloutKeys)
    (rollingOut : RollingOut installation middle after failedLast ending) :
    Advance installation store after (failed ++ failedLast) (ending.map .rollout) := by
  cases rollingOut with
  | completed present =>
      refine .completed unmarked present ?_ rfl
      intro key member behind
      rw [List.append_nil] at member
      exact elsewhere key member (installation.keysBehindMarker_subset behind)
  | stopped done key rest split present untouchedLast fault =>
      refine .stopped unmarked done key rest split present ?_ ?_ (by simp [Except.map])
      · intro other member notDone
        rw [untouchedLast other notDone, untouched other member]
      · intro other behind
        have notEarlier : other ∉ failed := fun member =>
          elsewhere other member (installation.keysBehindMarker_subset behind)
        simp [notEarlier]

/-- The Job of the configurator is not rolled out. -/
theorem jobKey_not_mem_rolloutKeys (installation : Installation) :
    jobKey installation ∉ installation.rolloutKeys := by
  apply installation.not_mem_rolloutKeys_of_mem_bootstrapKeys
  simp [Installation.bootstrapKeys, jobKey]

/-- An installation is not rolled out itself. -/
theorem installation_not_mem_rolloutKeys (installation : Installation) (name : String) :
    (⟨.installation, installation.namespaceName, name⟩ : Key) ∉ installation.rolloutKeys :=
  fun member => (installation.kind_of_mem_rolloutKeys member).1 rfl

/-- An installation that is found as it was is known by its metadata. -/
theorem knows_of_find?_eq
    (known : store.find? ⟨.installation, installation.namespaceName, name⟩ =
      some installation)
    (same : after.find? ⟨.installation, installation.namespaceName, name⟩ =
      store.find? ⟨.installation, installation.namespaceName, name⟩) :
    Knows after name installation.metadata :=
  ⟨installation.body, same.trans known⟩

/-- A pass that only looks fails at most at something that is not behind the marker. -/
theorem advance_of_looking
    {key : Key}
    (known : store.find? ⟨.installation, installation.namespaceName, name⟩ =
      some installation)
    (elsewhere : key ∉ installation.keysBehindMarker)
    (fails : failures transcript ⊆ [key])
    (unfinished : outcome ≠ .ok (.rollout .complete)) :
    Advance installation store store (failures transcript) outcome ∧
      Knows store name installation.metadata := by
  refine ⟨.unmoved (fun _ _ => rfl) ?_ unfinished, knows_of_find?_eq known rfl⟩
  intro other member
  rw [List.mem_singleton.mp (fails member)]
  exact elsewhere

/-- A pass that follows the health moves nothing that is rolled out. -/
theorem advance_of_following
    {marker : Object .deployment} {rest : List Exchange}
    (follows : Following installation installation.namespaceName name rest outcome)
    (known : store.find? ⟨.installation, installation.namespaceName, name⟩ =
      some installation)
    (explains : Store.Explains permitted store rest after) :
    Advance installation store after
        (failures (found installation.namespaceName name installation ::
          markerLookup installation.namespaceName (.ok (some marker)) :: rest))
        outcome ∧
      Knows after name installation.metadata := by
  obtain ⟨differ, knows, noFailure, unfinished⟩ := follows.differOnlyIn known explains
  refine ⟨.unmoved ?_ ?_ unfinished, knows⟩
  · intro key member
    exact differ key (installation.kind_of_mem_rolloutKeys member).1
  · intro key member
    change key ∈ failures rest at member
    rw [noFailure] at member
    cases member

/-- A pass that starts the configurator moves nothing that is rolled out. -/
theorem advance_of_starting
    {manifest : Manifest} {rest : List Exchange} {ending : Except Fault Unit}
    (starts : (ensureEach installation
      (bootstrapRequirements installation manifest)).Yields rest ending)
    (ends : outcome = ending.map fun _ => .jobCreated)
    (known : store.find? ⟨.installation, installation.namespaceName, name⟩ =
      some installation)
    (explains : Store.Explains permitted store rest after) :
    Advance installation store after
        (failures (opening installation.namespaceName name installation manifest ++
          jobLookup installation (.ok none) :: rest))
        outcome ∧
      Knows after name installation.metadata := by
  have apart : ∀ key ∈ installation.rolloutKeys, key ∉
      (bootstrapRequirements installation manifest).map (Requirement.key installation) := by
    intro key member bootstrap
    rw [map_key_bootstrapRequirements] at bootstrap
    exact installation.not_mem_rolloutKeys_of_mem_bootstrapKeys bootstrap member
  refine ⟨.unmoved ?_ ?_ ?_, knows_of_find?_eq known ?_⟩
  · intro key member
    exact find?_of_yields_ensureEach starts explains (apart key member)
  · intro key member behind
    exact apart key (installation.keysBehindMarker_subset behind)
      (failures_subset_of_yields_ensureEach starts member)
  · cases ending <;> simp [ends, Except.map]
  · refine find?_of_yields_ensureEach starts explains ?_
    rw [map_key_bootstrapRequirements]
    simp [Installation.bootstrapKeys]

/-- A pass that adopts secrets and rolls out gets as far as its rollout. -/
theorem advance_of_resuming
    {manifest : Manifest} {adoption rest : List Exchange} {ending : Except Fault Progress}
    (truthful : Truthful permitted)
    (unmarked : ¬ store.Has installation.markerKey)
    (adopts : (propagateSecrets installation).Yields adoption (.ok ()))
    (rolls : (rollout installation
      (installation.specification.profile manifest)).Yields rest ending)
    (known : store.find? ⟨.installation, installation.namespaceName, name⟩ =
      some installation)
    (explains : Store.Explains permitted store (adoption ++ rest) after) :
    Advance installation store after (failures adoption ++ failures rest)
        (ending.map .rollout) ∧
      Knows after name installation.metadata := by
  obtain ⟨middle, explainsAdoption, explainsRollout⟩ := Store.explains_append.mp explains
  obtain ⟨differ, fail⟩ := differOnlyIn_of_yields_propagateSecrets adopts explainsAdoption
  have rollingOut := rollingOut_of_yields_rollout truthful rolls explainsRollout
  refine ⟨advance_of_rollingOut (failures adoption) unmarked ?_ ?_ rollingOut,
    knows_of_find?_eq known ?_⟩
  · intro key member
    exact differ key (installation.kind_of_mem_rolloutKeys member).2
  · intro key member isRollout
    exact (installation.kind_of_mem_rolloutKeys isRollout).2 (fail key member)
  · rw [find?_of_yields_rollout rolls explainsRollout
      (installation_not_mem_rolloutKeys installation name)]
    exact differ _ (by simp)

/-- How far each course of a pass gets; the installation keeps its metadata. -/
theorem Course.advance
    (course : Course installation.namespaceName name transcript outcome)
    (truthful : Truthful permitted)
    (known : store.find? ⟨.installation, installation.namespaceName, name⟩ =
      some installation)
    (explains : Store.Explains permitted store transcript after) :
    Advance installation store after (failures transcript) outcome ∧
      Knows after name installation.metadata := by
  have markerElsewhere := installation.markerKey_not_mem_keysBehindMarker
  cases course with
  | unreadable fault =>
      obtain ⟨-, rfl⟩ := explains.lookup
      refine advance_of_looking known ?_ (List.Subset.refl _) (by simp)
      intro behind
      exact installation_not_mem_rolloutKeys installation name
        (installation.keysBehindMarker_subset behind)
  | gone =>
      obtain ⟨absent, -⟩ := explains.lookup
      rw [absent none rfl] at known
      cases known
  | markerUnreadable other fault =>
      obtain ⟨-, rfl⟩ := (Store.Explains.lookup explains).2.lookup
      exact advance_of_looking known markerElsewhere (List.Subset.refl _) (by simp)
  | followed other marker rest _ follows =>
      obtain ⟨stored, afterLookup⟩ := Store.Explains.lookup explains
      obtain rfl := Option.some.inj ((stored _ rfl).symm.trans known)
      exact advance_of_following follows known afterLookup.lookup.2
  | unreleased other fault =>
      obtain ⟨-, afterLookup⟩ := Store.Explains.lookup explains
      obtain rfl := (Store.Explains.lookup afterLookup).2.fetchRelease
      exact advance_of_looking known markerElsewhere (List.nil_subset _) (by simp)
  | rolledOut other manifest runsNot rest ending rolls _ ends =>
      obtain ⟨stored, unmarked, afterOpening⟩ := explains_opening explains
      obtain rfl := Option.some.inj (stored.symm.trans known)
      have rollingOut := rollingOut_of_yields_rollout truthful rolls afterOpening
      rw [ends]
      refine ⟨advance_of_rollingOut [] unmarked (fun _ _ => rfl) (by simp) rollingOut,
        knows_of_find?_eq known ?_⟩
      exact find?_of_yields_rollout rolls afterOpening
        (installation_not_mem_rolloutKeys other name)
  | jobUnreadable other manifest runs fault =>
      obtain ⟨stored, -, afterOpening⟩ := explains_opening explains
      obtain rfl := Option.some.inj (stored.symm.trans known)
      obtain ⟨-, rfl⟩ := afterOpening.lookup
      refine advance_of_looking known ?_ (List.Subset.refl _) (by simp)
      intro behind
      exact jobKey_not_mem_rolloutKeys other (other.keysBehindMarker_subset behind)
  | started other manifest runs rest ending starts _ ends =>
      obtain ⟨stored, -, afterOpening⟩ := explains_opening explains
      obtain rfl := Option.some.inj (stored.symm.trans known)
      exact advance_of_starting starts ends known (Store.Explains.lookup afterOpening).2
  | waiting other manifest runs job isRunning =>
      obtain ⟨-, -, afterOpening⟩ := explains_opening explains
      obtain ⟨-, rfl⟩ := afterOpening.lookup
      exact advance_of_looking known markerElsewhere (List.nil_subset _) (by simp)
  | resumed other manifest runs job pods hasSucceeded adoption rest ending adopts rolls _ ends =>
      obtain ⟨stored, unmarked, afterOpening⟩ := explains_opening explains
      obtain rfl := Option.some.inj (stored.symm.trans known)
      have advance := advance_of_resuming truthful unmarked adopts rolls known
        (Store.Explains.lookup afterOpening).2
      rw [← failures_append] at advance
      rw [ends]
      exact advance

/-- How far a pass gets over an installation that is known by its metadata. -/
theorem advance_of_knows
    (outside : Outside)
    (honest : outside.Permits Verdict.Honest)
    (knows : Knows store name installation.metadata) :
    let run := outside.perform (reconcile installation.namespaceName name) store
    Advance installation store run.state.store (failures run.transcript) run.outcome ∧
      Knows run.state.store name installation.metadata := by
  obtain ⟨body, known⟩ := knows
  have course := yields_reconcile
    (Program.run_yields outside.respond (reconcile installation.namespaceName name) ⟨store, 0⟩)
  have explains := Store.explains_run honest
    (reconcile installation.namespaceName name) ⟨store, 0⟩
  have advance := @Course.advance ⟨installation.metadata, body⟩ name _ _ _ _ _ course
    truthful_honest known explains
  exact ⟨advance.1.of_metadata, advance.2⟩

end Pass
end LifecycleOperator
