import LifecycleOperator.Proofs.Text.LowerCase
import LifecycleOperator.Release.Profile
import Mathlib.Data.List.Forall2

/-!
# What a profile depends on

Of a specification only the sizing class counts for the sizes of services, and of a manifest
only the entries of the twelve services.  The class is the word for it in any case of its
letters, and every other text stands for the standard class.
-/

namespace LifecycleOperator

/-! ## Sizing classes -/

namespace SizingClass

/-- The lower case of ASCII is enough to tell the words for the classes. -/
theorem ofText_eq (text : String) :
    ofText text =
      if text.toLower = "ha" then .highAvailability
      else if text.toLower = "tiny" then .tiny
      else if text.toLower = "middle" then .middle
      else .standard := by
  have highAvailability : Text.lowerCase text = "ha" ↔ text.toLower = "ha" :=
    Text.lowerCase_eq_iff (by decide)
  have tiny : Text.lowerCase text = "tiny" ↔ text.toLower = "tiny" :=
    Text.lowerCase_eq_iff (by decide)
  have middle : Text.lowerCase text = "middle" ↔ text.toLower = "middle" :=
    Text.lowerCase_eq_iff (by decide)
  simp only [ofText, highAvailability, tiny, middle]

/-- The class of a text is the one whose word it is when the case of ASCII letters is passed
over. -/
structure IsOfWord (text : String) : Prop where
  highAvailability : ofText text = .highAvailability ↔ text.toLower = "ha"
  tiny : ofText text = .tiny ↔ text.toLower = "tiny"
  middle : ofText text = .middle ↔ text.toLower = "middle"
  /-- Every other text stands for the standard class. -/
  standard : ofText text = .standard ↔ text.toLower ∉ ["ha", "tiny", "middle"]

theorem isOfWord (text : String) : IsOfWord text := by
  constructor <;> rw [ofText_eq] <;> split_ifs <;> simp [*]

/-- Texts that differ in the case of their letters at most, in ASCII or in all of Unicode. -/
def Recased (text word : String) : Prop :=
  word.toLower = text.toLower ∨ Text.lowerCase word = Text.lowerCase text

theorem ofText_eq_of_recased {text word : String} (recased : Recased text word) :
    ofText word = ofText text := by
  rcases recased with ascii | unicode
  · rw [ofText_eq, ofText_eq, ascii]
  · rw [ofText, ofText, unicode]

end SizingClass

/-! ## Services -/

namespace ServiceProfile

/-- What every installation has in common about a service. -/
structure SameFrame (service other : ServiceProfile) : Prop where
  name : service.name = other.name
  image : service.image = other.image
  port : service.port = other.port
  workload : service.workload = other.workload
  ingress : service.ingress = other.ingress

/-- The size of a service, field by field. -/
structure SameSize (service other : ServiceProfile) : Prop where
  replicas : service.sizing.replicas = other.sizing.replicas
  cpu : service.sizing.cpu = other.sizing.cpu
  memory : service.sizing.memory = other.sizing.memory
  heap : service.sizing.heap = other.sizing.heap

end ServiceProfile

/-- The services of an installation, by their names. -/
def serviceNames : List String := configuratorName :: rolloutOrder

/-- The name under which a manifest lists a service. -/
def manifestName (service : String) : String :=
  if service = configuratorName then "configurator" else service

namespace ServiceBase

theorem map_name_all : all.map ServiceBase.name = serviceNames := rfl

/-- The configurator alone is listed under another name than its own. -/
theorem releaseKey_eq : ∀ base ∈ all, base.releaseKey = manifestName base.name := by
  decide

end ServiceBase

namespace Manifest

/-- What a manifest lists under a name, and nothing otherwise. -/
theorem version_eq (manifest : Manifest) (key : String) :
    manifest.version key =
      match manifest.services.get? key with
      | some release => release.version
      | none => "" := by
  unfold version
  cases manifest.services.get? key <;> rfl

/-- Manifests that list the same for every service. -/
def Agrees (manifest another : Manifest) : Prop :=
  ∀ name ∈ serviceNames,
    manifest.services.get? (manifestName name) = another.services.get? (manifestName name)

/-- What is listed under other names makes no difference. -/
theorem agrees_insert
    (manifest : Manifest)
    {key : String}
    (unrelated : ∀ name ∈ serviceNames, key ≠ manifestName name)
    (release : ServiceRelease) :
    Agrees ⟨manifest.services.insert key release⟩ manifest := by
  intro name member
  exact manifest.services.get?_insert_of_ne release (unrelated name member)

end Manifest

/-! ## Profiles -/

namespace Specification

variable (specification other : Specification) (manifest another : Manifest)

theorem names_profile :
    (specification.profile manifest).services.map ServiceProfile.name = serviceNames := by
  rw [profile, List.map_map, ← ServiceBase.map_name_all]
  rfl

/-- A relation holds service by service if it holds for whatever is fixed about them. -/
theorem forall₂_services_profile
    {relation : ServiceProfile → ServiceProfile → Prop}
    (related : ∀ base, relation (specification.serviceProfile manifest base)
      (other.serviceProfile another base)) :
    List.Forall₂ relation (specification.profile manifest).services
      (other.profile another).services := by
  rw [profile, profile, List.forall₂_map_left_iff, List.forall₂_map_right_iff,
    List.forall₂_same]
  exact fun base _ => related base

/-- Every version is the one that the manifest lists under the name of the service. -/
theorem version_of_mem_profile :
    ∀ service ∈ (specification.profile manifest).services,
      service.version = manifest.version (manifestName service.name) := by
  intro service member
  obtain ⟨base, known, rfl⟩ := List.mem_map.mp member
  change manifest.version base.releaseKey = manifest.version (manifestName base.name)
  rw [ServiceBase.releaseKey_eq base known]

/-- A profile follows from the class, from what else the specification says and from what
the manifest lists for the services. -/
theorem profile_congr
    {specification : Specification}
    {manifest another : Manifest}
    {word : String}
    (sameClass : SizingClass.ofText word = .ofText specification.deploymentType)
    (agrees : another.Agrees manifest) :
    profile { specification with deploymentType := word } another =
      specification.profile manifest := by
  have sameService : ∀ base ∈ ServiceBase.all,
      serviceProfile { specification with deploymentType := word } another base =
        specification.serviceProfile manifest base := by
    intro base known
    have listed : base.name ∈ serviceNames := by
      rw [← ServiceBase.map_name_all]
      exact List.mem_map_of_mem known
    have sameVersion : another.version base.releaseKey = manifest.version base.releaseKey := by
      rw [Manifest.version, Manifest.version, ServiceBase.releaseKey_eq base known,
        agrees base.name listed]
    simp only [serviceProfile, sameClass, sameVersion]
    rfl
  rw [profile, profile, List.map_congr_left sameService]
  simp only [sameClass]

/-- What the profile of a single installation looks like. -/
structure LaysOutServices : Prop where
  names : (specification.profile manifest).services.map ServiceProfile.name = serviceNames
  twelve : (specification.profile manifest).services.length = 12
  distinct : ((specification.profile manifest).services.map ServiceProfile.name).Nodup
  /-- A service that the manifest does not list has the empty version. -/
  versions : ∀ service ∈ (specification.profile manifest).services,
    service.version =
      match manifest.services.get? (manifestName service.name) with
      | some release => release.version
      | none => ""
  /-- The case of the deployment type makes no difference, nor does what the manifest lists
  beside the services. -/
  unchanged : ∀ word, SizingClass.Recased specification.deploymentType word →
    ∀ another : Manifest, another.Agrees manifest →
      profile { specification with deploymentType := word } another =
        specification.profile manifest
  /-- In particular, entries under other names may be added. -/
  additions : ∀ key release, (∀ name ∈ serviceNames, key ≠ manifestName name) →
    specification.profile ⟨manifest.services.insert key release⟩ =
      specification.profile manifest

/-- How the profiles of two installations are related, service by service. -/
structure LaysOutAlike : Prop where
  frames : List.Forall₂ ServiceProfile.SameFrame
    (specification.profile manifest).services (other.profile another).services
  /-- The sizes depend on the class alone. -/
  sizes : (specification.profile manifest).sizingClass = (other.profile another).sizingClass →
    List.Forall₂ ServiceProfile.SameSize
      (specification.profile manifest).services (other.profile another).services

theorem laysOutServices : LaysOutServices specification manifest where
  names := names_profile specification manifest
  twelve := by rw [← List.length_map ServiceProfile.name, names_profile]; rfl
  distinct := by rw [names_profile]; decide
  versions service member := by
    rw [version_of_mem_profile specification manifest service member, Manifest.version_eq]
  unchanged _ recased _ agrees := profile_congr (SizingClass.ofText_eq_of_recased recased) agrees
  additions _ release unrelated := profile_congr rfl (manifest.agrees_insert unrelated release)

theorem laysOutAlike : LaysOutAlike specification other manifest another where
  frames := forall₂_services_profile specification other manifest another
    fun _ => ⟨rfl, rfl, rfl, rfl, rfl⟩
  sizes sameClass := forall₂_services_profile specification other manifest another fun base => by
    change SizingClass.ofText specification.deploymentType =
      .ofText other.deploymentType at sameClass
    constructor <;> simp only [serviceProfile, sameClass]

/--
The class of an installation is the one that its deployment type names in any case, and the
services of its profile are the same twelve as in every other.  The class decides on their
sizes and the manifest on their versions, each under the name of the service.
-/
theorem profile_dependsOn :
    (∀ text, SizingClass.IsOfWord text) ∧
    (∀ specification manifest, LaysOutServices specification manifest) ∧
    (∀ specification other manifest another,
      LaysOutAlike specification other manifest another) :=
  ⟨SizingClass.isOfWord, laysOutServices, laysOutAlike⟩

/--
Capital letters in the class and entries of another program make no difference, and two
installations of one class have services of one size.
-/
theorem profile_dependsOn_tiny :
    let small : Specification := { empty with deploymentType := "tiny" }
    let secured : Specification := { empty with deploymentType := "TINY", secure := true }
    let listed : Manifest := ⟨.ofPairs [("apollo", ⟨"2.1.0"⟩)]⟩
    let extended : Manifest := ⟨listed.services.insert "grafana" ⟨"7"⟩⟩
    SizingClass.ofText "TiNY" = .tiny ∧
      (∀ service ∈ (small.profile listed).services,
        service.name = "apollo" → service.version = "2.1.0") ∧
      profile { small with deploymentType := "TiNY" } extended = small.profile listed ∧
      small.profile extended = small.profile listed ∧
      List.Forall₂ ServiceProfile.SameSize
        (small.profile listed).services (secured.profile .empty).services := by
  intro small secured listed extended
  obtain ⟨classes, services, alike⟩ := profile_dependsOn
  have unrelated : ∀ name ∈ serviceNames, "grafana" ≠ manifestName name := by decide
  have lowered : ∀ text : String, text.toList.map Char.toLower = "tiny".toList →
      text.toLower = "tiny" :=
    fun text same => String.toList_inj.mp (String.toList_map.trans same)
  have recased : SizingClass.Recased "tiny" "TiNY" :=
    .inl ((lowered "TiNY" (by decide)).trans (lowered "tiny" (by decide)).symm)
  have agrees : extended.Agrees listed := listed.agrees_insert unrelated ⟨"7"⟩
  refine ⟨(classes "TiNY").tiny.mpr (lowered "TiNY" (by decide)), ?_, ?_, ?_, ?_⟩
  · intro service member named
    rw [(services small listed).versions service member, named]
    rfl
  · exact (services small listed).unchanged "TiNY" recased extended agrees
  · exact (services small listed).additions "grafana" ⟨"7"⟩ unrelated
  · exact (alike small secured listed .empty).sizes (by decide +kernel)

end Specification

end LifecycleOperator
