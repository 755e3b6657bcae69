import LifecycleOperator.Proofs.Pass.Creation

/-!
# Names that never clash

The name of a ConfigMap is joined from the name of its installation, a word and an ending.
They are joined by hyphens, which may stand in the name of the installation and in the word
as well.  That the name of a ConfigMap still tells both is a matter of how it ends: of two
endings of one text, one is an ending of the other, and no word behind a hyphen is an ending
of another word behind a hyphen.

Whatever is created when an installation is set up has a kind and a name of its own.  So
nothing that is there already is taken for another object of the same installation.
-/

namespace LifecycleOperator

/-- The kind and the name of an object, by which it is known within its namespace. -/
def Key.identity (key : Key) : Kind × String := (key.kind, key.name)

/-- The words that ConfigMaps are named by. -/
def mapWords : List String := configuratorName :: "lm-config-import" :: rolloutOrder

/-- No word behind a hyphen is an ending of another word behind a hyphen. -/
theorem eq_of_hyphen_suffix :
    ∀ word ∈ mapWords, ∀ other ∈ mapWords,
      '-' :: word.toList <:+ '-' :: other.toList → word = other := by
  decide

namespace Installation

/-- The ConfigMaps of an installation: the word that each is named by, and its name. -/
def wordedMaps (installation : Installation) : List (String × String) :=
  (configuratorName, installation.configuratorMapName) ::
    ("lm-config-import", installation.configImportMapName) ::
    rolloutOrder.map fun service => (service, installation.serviceMapName service)

/-- What is known within its namespace of the objects that set an installation up. -/
def identities (installation : Installation) : List (Kind × String) :=
  (Slot.bootstrap ++ Slot.rollout).map fun slot => (slot.kind, installation.slotName slot)

section Names

variable {first second : Installation} {word other : String}

/-- The ConfigMaps of the configurator are named in the way that those of services are. -/
theorem wordedMaps_eq (installation : Installation) :
    installation.wordedMaps =
      mapWords.map fun word => (word, installation.serviceMapName word) := by
  simp [wordedMaps, mapWords, configuratorName, configuratorMapName, configImportMapName,
    serviceMapName, String.append_assoc]

/-- The name of a ConfigMap tells the name of the installation and the word. -/
theorem eq_of_serviceMapName_eq
    (known : word ∈ mapWords) (otherKnown : other ∈ mapWords)
    (same : first.serviceMapName word = second.serviceMapName other) :
    first.anyName = second.anyName ∧ word = other := by
  have joined : first.anyName.toList ++ '-' :: word.toList =
      second.anyName.toList ++ '-' :: other.toList := by
    have letters := congrArg String.toList same
    simp only [serviceMapName, String.toList_append] at letters
    simpa using List.append_cancel_right letters
  have equal : word = other := by
    have ends : '-' :: word.toList <:+ second.anyName.toList ++ '-' :: other.toList := by
      rw [← joined]
      exact List.suffix_append _ _
    -- Both words end the same text, so that one of them is an ending of the other.
    rcases List.suffix_or_suffix_of_suffix ends (List.suffix_append _ _) with
      within | within
    · exact eq_of_hyphen_suffix word known other otherKnown within
    · exact (eq_of_hyphen_suffix other otherKnown word known within).symm
  subst equal
  exact ⟨String.toList_inj.mp (List.append_cancel_right joined), rfl⟩

/-- The names of the ConfigMaps are those that the words make. -/
theorem map_snd_filter_identities (installation : Installation) :
    (installation.identities.filter fun identity => identity.1 = .configMap).map Prod.snd =
      installation.wordedMaps.map Prod.snd := by
  rw [wordedMaps_eq]
  rfl

/-- How an object is known depends on no more of an installation than on its name. -/
theorem identity_slotKey (named : first.anyName = second.anyName) (slot : Slot) :
    (first.slotKey slot).identity = (slot.kind, second.slotName slot) := by
  simp only [slotKey, Key.identity, slotName, serviceMapName, named]

end Names

/-- No two of the objects that set an installation up are known by the same. -/
theorem nodup_identities (installation : Installation) : installation.identities.Nodup := by
  refine Slot.nodup_bootstrap_append_rollout.map fun first second same => ?_
  apply installation.slotKey_injective
  obtain ⟨kinds, names⟩ := Prod.mk.inj same
  rw [slotKey, slotKey, kinds, names]

end Installation

namespace Pass

/--
What is asked and answered when an installation is bootstrapped and rolled out.  Between
the two there may be other versions of the installation, and other releases.
-/
structure SetsUp (installation : Installation) (starting rolling : List Exchange) : Prop where
  starts : ∃ manifest gate, (Pass.gate installation
    (installation.specification.profile manifest)).Yields starting gate
  rolls : ∃ (later : Installation) (manifest : Manifest) (progress : Except Fault Progress),
    later.anyName = installation.anyName ∧
      (rollout later (later.specification.profile manifest)).Yields rolling progress

/-- Driving the configurator tries to create what it is started with, and no other object. -/
theorem creations_of_yields_gate
    {installation : Installation} {manifest : Manifest}
    {transcript : List Exchange} {outcome : Except Fault Gate}
    (yields : (gate installation
      (installation.specification.profile manifest)).Yields transcript outcome) :
    (creations transcript).Sublist installation.bootstrapKeys := by
  cases yields_gate yields with
  | unreadable | waiting => exact List.nil_sublist _
  | started rest ending starts =>
      rw [← map_key_bootstrapRequirements installation manifest]
      exact (creations_of_yields_ensureEach starts).1
  | opened job pods hasSucceeded adoption adopts =>
      have nothing : creations (jobLookup installation (.ok (some job)) :: adoption) = [] :=
        (looksUp_of_yields_propagateSecrets adopts).1
      rw [nothing]
      exact List.nil_sublist _

/-- A rollout tries to create what is to be rolled out, and no other object. -/
theorem creations_of_yields_rollout
    {installation : Installation} {manifest : Manifest}
    {transcript : List Exchange} {outcome : Except Fault Progress}
    (yields : (rollout installation
      (installation.specification.profile manifest)).Yields transcript outcome) :
    (creations transcript).Sublist installation.rolloutKeys := by
  rw [← map_key_rolloutRequirements installation manifest]
  rcases yields_rollout yields with ⟨fault, -, ensures⟩ | ⟨front, told, -, rfl, ensures⟩
  · exact (creations_of_yields_ensureEach ensures).1
  · have toldOnly : creations (front ++ [⟨.cluster (.publish installation
        (.rolloutComplete installation.anyName ServiceBase.rolledOut.length)), told⟩]) =
        creations front := by
      rw [creations_append]
      exact List.append_nil _
    rw [toldOnly]
    exact (creations_of_yields_ensureEach ensures).1

/-- What is created when an installation is set up is among what is to be created. -/
theorem SetsUp.identities_sublist
    {installation : Installation} {starting rolling : List Exchange}
    (setsUp : SetsUp installation starting rolling) :
    ((creations (starting ++ rolling)).map Key.identity).Sublist installation.identities := by
  obtain ⟨⟨manifest, gate, starts⟩, later, newer, progress, named, rolls⟩ := setsUp
  have keys : installation.identities =
      (installation.bootstrapKeys ++ later.rolloutKeys).map Key.identity := by
    rw [Installation.bootstrapKeys_eq, Installation.rolloutKeys, Installation.identities,
      List.map_append, List.map_append, List.map_map, List.map_map]
    simp only [Function.comp_def, Installation.identity_slotKey named,
      Installation.identity_slotKey (rfl : installation.anyName = installation.anyName)]
  rw [keys, creations_append]
  apply List.Sublist.map
  exact (creations_of_yields_gate starts).append (creations_of_yields_rollout rolls)

end Pass

/-- The names that an installation gives to what it owns do not clash. -/
structure Installation.KeepsNamesApart (installation : Installation) : Prop where
  /-- The name of a ConfigMap tells the installation and the word that it is made of. -/
  tells : ∀ (other : Installation) (word otherWord name : String),
    (word, name) ∈ installation.wordedMaps → (otherWord, name) ∈ other.wordedMaps →
      installation.anyName = other.anyName ∧ word = otherWord
  /-- These are the ConfigMaps among the objects that set the installation up. -/
  names : (installation.identities.filter fun identity => identity.1 = .configMap).map
      Prod.snd = installation.wordedMaps.map Prod.snd
  /-- Only those objects are created, each at most once and in their order. -/
  creates : ∀ starting rolling, Pass.SetsUp installation starting rolling →
    ((Pass.creations (starting ++ rolling)).map Key.identity).Sublist installation.identities
  /-- No two objects that are created have the same kind and the same name. -/
  distinct : ∀ starting rolling, Pass.SetsUp installation starting rolling →
    ((Pass.creations (starting ++ rolling)).map Key.identity).Nodup

namespace Installation

/-- The names that an installation gives to what it owns do not clash, whatever its name. -/
theorem keepsNamesApart (installation : Installation) : installation.KeepsNamesApart := by
  constructor
  · intro other word otherWord name named otherNamed
    rw [wordedMaps_eq] at named otherNamed
    obtain ⟨_, known, same⟩ := List.mem_map.mp named
    obtain ⟨_, otherKnown, otherSame⟩ := List.mem_map.mp otherNamed
    obtain ⟨rfl, rfl⟩ := Prod.mk.inj same
    obtain ⟨rfl, names⟩ := Prod.mk.inj otherSame
    exact eq_of_serviceMapName_eq known otherKnown names.symm
  · exact installation.map_snd_filter_identities
  · exact fun _ _ setsUp => setsUp.identities_sublist
  · exact fun _ _ setsUp => setsUp.identities_sublist.nodup installation.nodup_identities

/-- Where nothing is in the way, `demo` is set up with 39 objects that are told apart. -/
theorem keepsNamesApart_demo :
    let profile := (Installation.demo true).specification.profile .empty
    let started := Outside.calm.perform (Pass.gate (Installation.demo true) profile) .empty
    let rolled := Outside.calm.perform (Pass.rollout (Installation.demo true) profile) .empty
    let created := Pass.creations (started.transcript ++ rolled.transcript)
    created.length = 39 ∧ (created.map Key.identity).Nodup := by
  intro profile started rolled created
  have starts := Program.run_yields Outside.calm.respond
    (Pass.gate (Installation.demo true) profile) ⟨.empty, 0⟩
  have rolls := Program.run_yields Outside.calm.respond
    (Pass.rollout (Installation.demo true) profile) ⟨.empty, 0⟩
  refine ⟨by decide +kernel, ?_⟩
  exact (keepsNamesApart (Installation.demo true)).distinct _ _
    ⟨⟨.empty, _, starts⟩, Installation.demo true, .empty, _, rfl, rolls⟩

end Installation
end LifecycleOperator
