import LifecycleOperator.Proofs.Pass.Footprint
import LifecycleOperator.Proofs.Program.Heed
import LifecycleOperator.Proofs.Store.Constancy

/-!
# Supplies of workloads

The pods of a workload do not start without the ConfigMaps that the workload refers to.
Their names are made up in one place where a workload is built, and in another one where
they are made sure of.  Here both are compared with one table of the ConfigMaps of an
installation, and the order of a pass with the references: whatever the pass is answered,
it creates a workload only after it has seen every ConfigMap that the workload refers to.
-/

namespace LifecycleOperator

namespace Installation

/-- What the ConfigMap of a service holds; the release has no part in it. -/
def serviceContent (installation : Installation) (base : ServiceBase) : OrderedMap String :=
  Configuration.serviceData installation.specification
    (installation.specification.serviceProfile .empty base)

/-- What the ConfigMaps of an installation are to hold, by their names. -/
def mapContents (installation : Installation) :
    List (String × Except Fault (OrderedMap String)) :=
  (installation.configuratorMapName,
      Configuration.configuratorData installation.specification.secure) ::
    (installation.configImportMapName, Configuration.configImportData) ::
    ServiceBase.rolledOut.map fun base =>
      (installation.serviceMapName base.name, .ok (installation.serviceContent base))

/-- The ConfigMaps that an object of a kind and a name is to refer to. -/
def mapNames (installation : Installation) : Kind → String → List String
  | .job, _ =>
      [installation.configuratorMapName, installation.configuratorMapName,
        installation.configImportMapName]
  | .deployment, service | .statefulSet, service => [installation.serviceMapName service]
  | _, _ => []

/-- No two ConfigMaps of an installation have the same name. -/
theorem nodup_names_mapContents (installation : Installation) :
    (installation.mapContents.map Prod.fst).Nodup := by
  have named : installation.mapContents.map Prod.fst =
      (("lm-configurator" :: "lm-config-import" :: rolloutOrder).map
        fun word => (⟨.configMap, word⟩ : Slot)).map installation.slotName := by
    simp [mapContents, ← ServiceBase.map_name_rolledOut, slotName, serviceMapName,
      configuratorMapName, configImportMapName, String.append_assoc]
  rw [named, List.map_map]
  refine List.Nodup.map ?_ (by decide)
  intro first second equal
  have sameKey : installation.slotKey ⟨.configMap, first⟩ =
      installation.slotKey ⟨.configMap, second⟩ := by
    simp only [slotKey, Key.mk.injEq, true_and]
    exact equal
  exact congrArg Slot.word (installation.slotKey_injective sameKey)

/-- The ConfigMap of a service is the one of the table, whatever the release. -/
theorem serviceData_mem_mapContents
    (installation : Installation)
    (manifest : Manifest)
    {base : ServiceBase}
    (member : base ∈ ServiceBase.rolledOut) :
    (installation.serviceMapName base.name,
      Except.ok (Configuration.serviceData installation.specification
        (installation.specification.serviceProfile manifest base))) ∈
      installation.mapContents :=
  List.mem_cons_of_mem _ (List.mem_cons_of_mem _ (List.mem_map_of_mem member))

variable {installation other : Installation}

/-- The table depends on what counts about an installation alone. -/
theorem mapContents_eq_of_stays (stays : Object.Stays installation other) :
    other.mapContents = installation.mapContents := by
  obtain ⟨-, named, specified⟩ := stays
  simp only [mapContents, serviceContent, serviceMapName, configuratorMapName,
    configImportMapName, named, specified]

theorem mapNames_eq_of_stays (stays : Object.Stays installation other) :
    other.mapNames = installation.mapNames := by
  obtain ⟨-, named, -⟩ := stays
  funext kind name
  cases kind <;>
    simp only [mapNames, serviceMapName, configuratorMapName, configImportMapName, named]

end Installation

namespace Object

/--
An object is made for an installation: it refers to the ConfigMaps that are meant for it,
and if it is a ConfigMap itself it holds what the table says.
-/
structure Suits {kind : Kind} (object : Object kind) (installation : Installation)
    (name : String) : Prop where
  refers : object.references = installation.mapNames kind name
  holds : kind = .configMap → ∃ data, (name, .ok data) ∈ installation.mapContents ∧
    object.bodyField "data" = some (Json.ofTexts data)

namespace Suits

variable {kind : Kind} {object : Object kind} {installation : Installation} {name : String}

/-- An object suits an installation wherever it is put. -/
theorem placedFor
    (suits : object.Suits installation name)
    (owner : Installation) (otherName : String) :
    (object.placedFor owner otherName).Suits installation name where
  refers := (references_placedFor object owner otherName).trans suits.refers
  holds := suits.holds

/-- An object that stays as it was goes on to suit its installation. -/
theorem of_stays
    {later : Object kind}
    (suits : object.Suits installation name)
    (stays : object.Stays later) :
    later.Suits installation name where
  refers := stays.references_eq.trans suits.refers
  holds := by
    rintro rfl
    rw [stays.data_eq]
    exact suits.holds rfl

/-- What suits an installation suits it before and after it is worked on. -/
theorem of_installation_stays
    {other : Installation}
    (suits : object.Suits other name)
    (stays : Object.Stays installation other) :
    object.Suits installation name where
  refers := by
    rw [← Installation.mapNames_eq_of_stays stays]
    exact suits.refers
  holds := by
    rw [← Installation.mapContents_eq_of_stays stays]
    exact suits.holds

end Suits
end Object

/-! ## What is required -/

/--
An object that is required suits its installation, and all ConfigMaps that it is to refer
to are known before.
-/
structure Requirement.Fits (requirement : Requirement) (installation : Installation)
    (known : List Key) : Prop where
  other : requirement.kind ≠ .installation
  suits : ∀ object, requirement.build = .ok object →
    object.Suits installation requirement.name
  supplied : ∀ mapName ∈ installation.mapNames requirement.kind requirement.name,
    ⟨.configMap, installation.namespaceName, mapName⟩ ∈ known

/--
Objects are required in a good order: the ConfigMaps that each of them is to refer to are
known from the beginning, or required before it.
-/
def Requirement.Orderly (installation : Installation) : List Key → List Requirement → Prop
  | _, [] => True
  | known, requirement :: rest =>
      requirement.Fits installation known ∧
        Orderly installation (requirement.key installation :: known) rest

namespace Requirement

variable {installation : Installation} {known more : List Key}

/-- What fits fits as well if more is known. -/
theorem Fits.mono
    {requirement : Requirement}
    (fits : requirement.Fits installation known)
    (included : known ⊆ more) :
    requirement.Fits installation more :=
  ⟨fits.other, fits.suits, fun mapName member => included (fits.supplied mapName member)⟩

namespace Orderly

variable {front back : List Requirement}

/-- The order is as good if more is known. -/
theorem mono (orderly : Orderly installation known front) (included : known ⊆ more) :
    Orderly installation more front := by
  induction front generalizing known more with
  | nil => trivial
  | cons requirement rest inductionHypothesis =>
      refine ⟨orderly.1.mono included, ?_⟩
      exact inductionHypothesis orderly.2 (List.cons_subset_cons _ included)

/-- Any order is good if everything is known from the beginning. -/
theorem of_fits (fits : ∀ requirement ∈ front, requirement.Fits installation known) :
    Orderly installation known front := by
  induction front with
  | nil => trivial
  | cons requirement rest inductionHypothesis =>
      rw [List.forall_mem_cons] at fits
      exact ⟨fits.1, (inductionHypothesis fits.2).mono (List.subset_cons_self _ _)⟩

theorem append
    (first : Orderly installation known front)
    (second : Orderly installation known back) :
    Orderly installation known (front ++ back) := by
  induction front generalizing known with
  | nil => exact second
  | cons requirement rest inductionHypothesis =>
      refine ⟨first.1, inductionHypothesis first.2 ?_⟩
      exact second.mono (List.subset_cons_self _ _)

/-- Objects that need nothing from one another may be required one after the other. -/
theorem flatMap
    {α : Type} {required : α → List Requirement} {entries : List α}
    (orderly : ∀ entry ∈ entries, Orderly installation known (required entry)) :
    Orderly installation known (entries.flatMap required) := by
  induction entries with
  | nil => trivial
  | cons entry entries inductionHypothesis =>
      rw [List.forall_mem_cons] at orderly
      exact orderly.1.append (inductionHypothesis orderly.2)

end Orderly

/-- A ConfigMap fits anywhere if it holds what the table says. -/
theorem fits_configMap
    {name : String} {content : Except Fault (OrderedMap String)}
    (listed : (name, content) ∈ installation.mapContents) :
    Fits ⟨.configMap, name, content.map Resource.configMap⟩ installation known where
  other := by simp
  suits := by
    intro object built
    cases content with
    | error fault => cases built
    | ok data =>
        obtain rfl := Except.ok.inj built
        exact ⟨rfl, fun _ => ⟨data, listed, Resource.bodyField_data_configMap data⟩⟩
  supplied := by simp [Installation.mapNames]

/-- A workload fits where the ConfigMap of its service is known. -/
theorem fits_of_mem_workloadRequirements
    {service : ServiceProfile} {requirement : Requirement}
    (supplied : ⟨.configMap, installation.namespaceName,
      installation.serviceMapName service.name⟩ ∈ known)
    (member : requirement ∈ service.workloadRequirements installation) :
    requirement.Fits installation known := by
  unfold ServiceProfile.workloadRequirements at member
  split at member
  · obtain rfl := List.mem_singleton.mp member
    refine ⟨by simp, ?_, by simpa [Installation.mapNames] using supplied⟩
    rintro object ⟨⟩
    exact ⟨Resource.references_deployment installation service, by simp⟩
  · obtain rfl := List.mem_singleton.mp member
    refine ⟨by simp, ?_, by simpa [Installation.mapNames] using supplied⟩
    rintro object ⟨⟩
    exact ⟨Resource.references_statefulSet installation service, by simp⟩
  · cases member

/-- An object fits anywhere that is neither a ConfigMap nor refers to any. -/
theorem fits_of_frontend
    {requirement : Requirement}
    (frontend : requirement.kind = .service ∨ requirement.kind = .ingress) :
    requirement.Fits installation known := by
  obtain ⟨kind, name, build⟩ := requirement
  rcases frontend with rfl | rfl <;>
    exact ⟨by simp, fun object _ => ⟨rfl, by simp⟩, by simp [Installation.mapNames]⟩

variable (manifest : Manifest)

/-- Of each service the ConfigMap is made sure of before the workload that refers to it. -/
theorem orderly_requirements
    {base : ServiceBase}
    (member : base ∈ ServiceBase.rolledOut) :
    Orderly installation []
      ((installation.specification.serviceProfile manifest base).requirements
        installation) := by
  let service := installation.specification.serviceProfile manifest base
  change Orderly installation [] (service.requirements installation)
  unfold ServiceProfile.requirements
  simp only [List.cons_append]
  refine ⟨fits_configMap (installation.serviceData_mem_mapContents manifest member),
    Orderly.of_fits ?_⟩
  simp only [List.forall_mem_append, List.forall_mem_singleton]
  refine ⟨⟨fun requirement => ?_, ?_⟩, fits_of_frontend (.inl rfl)⟩
  · exact fits_of_mem_workloadRequirements List.mem_cons_self
  · intro requirement member
    unfold ServiceProfile.ingressRequirements at member
    split at member
    · obtain rfl := List.mem_singleton.mp member
      exact fits_of_frontend (.inr rfl)
    · cases member

/-- What is rolled out is required in a good order. -/
theorem orderly_rolloutRequirements (installation : Installation) :
    Orderly installation [] (Pass.rolloutRequirements installation manifest) := by
  apply Orderly.flatMap
  intro service member
  obtain ⟨base, inOrder, rfl⟩ := List.mem_map.mp member
  exact orderly_requirements manifest inOrder

/-- What the configurator is started from is required in a good order. -/
theorem orderly_bootstrapRequirements (installation : Installation) :
    Orderly installation [] (Pass.bootstrapRequirements installation manifest) := by
  refine ⟨fits_configMap List.mem_cons_self,
    fits_configMap (List.mem_cons_of_mem _ List.mem_cons_self), ?_, trivial⟩
  refine ⟨by simp, ?_, ?_⟩
  · rintro object ⟨⟩
    exact ⟨Resource.references_configuratorJob installation _, by simp⟩
  · simp [Installation.mapNames, key]

end Requirement

namespace Pass

/-! ## Warrants -/

/-- What warrants that an object is created, after some exchanges of a pass. -/
structure Warrant (namespaceName name : String) (earlier : List Exchange)
    {kind : Kind} (place : String) (object : Object kind) : Prop where
  other : kind ≠ .installation
  /-- It is meant for the installation that was found, and for its namespace. -/
  meant : ∃ installation, found namespaceName name installation ∈ earlier ∧
    place = installation.namespaceName ∧
    object.Suits installation (object.metadata.name.getD "")
  /-- All ConfigMaps that it refers to have been seen. -/
  sighted : ∀ mapName ∈ object.references, Sees earlier ⟨.configMap, place, mapName⟩

/-- What a pass may ask for after some exchanges. -/
def Warranted (namespaceName name : String) (earlier : List Exchange) : Call → Prop
  | .cluster (.create _ place object) => Warrant namespaceName name earlier place object
  | .cluster (.replace kind _ _ _) => kind = .secret
  | _ => True

/-- A call creates nothing, and replaces secrets only. -/
def Harmless : Call → Prop
  | .cluster (.create _ _ _) => False
  | .cluster (.replace kind _ _ _) => kind = .secret
  | _ => True

theorem mayAdopt_harmless (installation : Installation) : MayAdopt Harmless installation where
  looks := fun _ => trivial
  adopts := fun _ _ => rfl
  tells := fun _ => trivial

section Warranted

variable {namespaceName name : String} {earlier : List Exchange} {installation : Installation}

/-- What is harmless is warranted at any time. -/
theorem Harmless.warranted (call : Call) (harmless : Harmless call) :
    Warranted namespaceName name earlier call := by
  match call with
  | .cluster (.create _ _ _) => exact harmless.elim
  | .cluster (.replace _ _ _ _) => exact harmless
  | .cluster (.lookup _ _ _) | .cluster (.patchStatus _ _ _) | .cluster (.publish _ _)
  | .fetchRelease _ | .probe => trivial

/-- What asks for harmless calls only needs no answers. -/
theorem heeds_of_asks_harmless
    {α : Type} {part : Pass α}
    (asks : part.Asks Harmless) :
    part.Heeds (Warranted namespaceName name) earlier :=
  asks.heeds fun _ => Harmless.warranted

/-- An installation has been found, and some objects have been seen. -/
structure Ready (namespaceName name : String) (installation : Installation)
    (known : List Key) (earlier : List Exchange) : Prop where
  finds : found namespaceName name installation ∈ earlier
  seen : ∀ key ∈ known, Sees earlier key

theorem Ready.append
    {known : List Key}
    (ready : Ready namespaceName name installation known earlier)
    (later : List Exchange) :
    Ready namespaceName name installation known (earlier ++ later) where
  finds := List.mem_append_left later ready.finds
  seen := fun key member => (ready.seen key member).mono (List.subset_append_left earlier later)

/-- Heeding the answers, once an installation has been found, is inherited from the parts. -/
theorem inherited_heeds
    (namespaceName name : String) (installation : Installation) (known : List Key) :
    Inherited fun _ part => ∀ earlier, Ready namespaceName name installation known earlier →
      part.Heeds (Warranted namespaceName name) earlier where
  done := fun _ _ _ => trivial
  bind := fun first others earlier ready => (first earlier ready).bind
    fun result transcript _ => others result _ (ready.append transcript)

/-- An object that fits is created once all that it refers to has been seen. -/
theorem heeds_ensure
    {requirement : Requirement} {known : List Key}
    (fits : requirement.Fits installation known)
    (ready : Ready namespaceName name installation known earlier) :
    (ensure requirement.kind installation requirement.name requirement.build).Heeds
      (Warranted namespaceName name) earlier := by
  refine (inherited_heeds namespaceName name installation known).ensure ?_ ?_ ?_ earlier ready
  · intro earlier ready
    exact ⟨trivial, fun found => trivial⟩
  · intro fault built earlier ready
    trivial
  · intro object built earlier ready
    have suits := (fits.suits object built).placedFor installation requirement.name
    refine ⟨⟨fits.other, ⟨installation, ready.finds, rfl, suits⟩, ?_⟩, ?_⟩
    · intro mapName member
      rw [suits.refers] at member
      exact ready.seen _ (fits.supplied mapName member)
    · intro answer
      match answer with
      | .ok created => exact ⟨trivial, fun told => trivial⟩
      | .error fault => cases fault <;> trivial

/-- Objects that are required in a good order are created each after what it refers to. -/
theorem heeds_ensureEach
    {requirements : List Requirement} {known : List Key}
    (orderly : Requirement.Orderly installation known requirements)
    (ready : Ready namespaceName name installation known earlier) :
    (ensureEach installation requirements).Heeds (Warranted namespaceName name) earlier := by
  induction requirements generalizing known earlier with
  | nil => trivial
  | cons requirement rest inductionHypothesis =>
      apply (heeds_ensure orderly.1 ready).bind
      intro ensured transcript yields
      have still := ready.append transcript
      refine inductionHypothesis orderly.2 ⟨still.finds, ?_⟩
      rw [List.forall_mem_cons]
      refine ⟨?_, still.seen⟩
      exact (yields_ensure yields).sees.mono (List.subset_append_right _ _)

/-- Installing something creates each workload after all ConfigMaps that it refers to. -/
theorem heeds_install (ready : Ready namespaceName name installation [] earlier) :
    (install installation).Heeds (Warranted namespaceName name) earlier := by
  have inherited := inherited_heeds namespaceName name installation []
  have may := mayAdopt_harmless installation
  refine inherited.install ?_ ?_ ?_ earlier ready
  · intro earlier ready
    exact ⟨trivial, fun answer => trivial⟩
  · intro manifest
    apply inherited.gate
    · intro earlier ready
      exact ⟨trivial, fun found => trivial⟩
    · intro earlier ready
      exact heeds_ensureEach
        (Requirement.orderly_bootstrapRequirements manifest installation) ready
    · intro earlier ready
      exact heeds_of_asks_harmless may.asks_propagateSecrets
  · intro manifest
    apply inherited.rollout
    · intro earlier ready
      exact heeds_ensureEach
        (Requirement.orderly_rolloutRequirements manifest installation) ready
    · intro event earlier ready
      exact ⟨trivial, fun told => trivial⟩

/--
Whatever a pass is answered, it creates only what is meant for the installation that it
has found, and each workload only after all ConfigMaps that it refers to have been seen.
-/
theorem heeds_reconcile :
    (reconcile namespaceName name).Heeds (Warranted namespaceName name) [] := by
  refine ⟨trivial, ?_⟩
  intro sought
  match sought with
  | .error fault => trivial
  | .ok none => trivial
  | .ok (some installation) =>
      refine ⟨trivial, ?_⟩
      intro marked
      match marked with
      | .error fault => trivial
      | .ok none => exact heeds_install ⟨by simp [found], by simp⟩
      | .ok (some marker) =>
          exact heeds_of_asks_harmless ((mayAdopt_harmless installation).asks_follow trivial
            fun _ => trivial)

end Warranted
end Pass
end LifecycleOperator
