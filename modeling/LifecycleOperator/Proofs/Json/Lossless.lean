import LifecycleOperator.Installation.Spec
import LifecycleOperator.Proofs.Json.Spelling
import LifecycleOperator.Release.Manifest
import LifecycleOperator.Rest.Assembly
import LifecycleOperator.Token.Credential

/-!
# Wire formats lose nothing

What is written of a value is read back as the value, and so is every other spelling of it.
For each structure it is laid down here which fields it has on the wire and which of them
may be left out; the rest is the same for all of them.
-/

namespace LifecycleOperator

/-- A wire format that loses nothing. -/
structure Lossless {α : Type} (write : α → Json) (spells : α → Json → Prop)
    (decode : Decoder α) : Prop where
  /-- What is written of a value is read back as the value. -/
  returns : ∀ value, (Document.read? (write value).text).bind decode = some value
  /-- What is written of a value is one of its spellings. -/
  writes : ∀ value, spells value (write value)
  /-- Every spelling of a value is read as the value. -/
  reads : ∀ value json, spells value json →
    (Document.read? json.text).bind decode = some value

/-- A wire format loses nothing if the trees of all spellings are decoded. -/
theorem Lossless.of_tree
    {α : Type} {write : α → Json} {spells : α → Json → Prop} {decode : Decoder α}
    (writes : ∀ value, spells value (write value))
    (decodes : ∀ value json, spells value json → decode json.tree = some value) :
    Lossless write spells decode where
  returns value := by
    rw [Document.read?_text]
    exact decodes value _ (writes value)
  writes := writes
  reads value json spelled := by
    rw [Document.read?_text]
    exact decodes value json spelled

/-! ## Overrides -/

namespace ServiceOverrides

/-- The fields of the overrides of a service. -/
def wireFields (overrides : ServiceOverrides) : List WireField :=
  [.text "JVMOptions" overrides.jvmOptions, .text "Version" overrides.version]

/-- A JSON value spells the overrides of a service. -/
def Spells (overrides : ServiceOverrides) (json : Json) : Prop :=
  WireField.SpelledBy overrides.wireFields json

theorem spells_toJson (overrides : ServiceOverrides) : overrides.Spells overrides.toJson :=
  WireField.spelledBy_ofFields fieldNames rfl (by decide)
    (.cons ⟨rfl, rfl⟩ (.cons ⟨rfl, rfl⟩ .nil))

/-- The overrides of a service are decoded from each of their spellings. -/
theorem decode_tree (overrides : ServiceOverrides) (json : Json)
    (spelled : overrides.Spells json) : decode json.tree = some overrides := by
  obtain ⟨members, isMembers, found⟩ := spelled.found fieldNames rfl (by decide)
  simp only [wireFields, List.forall_mem_cons] at found
  obtain ⟨jvmOptions, version, -⟩ := found
  simp [decode, isMembers, jvmOptions.text, version.text]

/-- Overrides of a service as a field, which may be left out if there are none. -/
def wireField (name : String) (overrides : ServiceOverrides) : WireField :=
  ⟨name, overrides = .none, overrides.Spells⟩

/-- Overrides of a service in a field are read. -/
theorem defaulted_wireField
    {members : Entries Document} {name : String} {overrides : ServiceOverrides}
    (found : WireField.Found members (wireField name overrides)) :
    Decoder.defaulted decode .none members name = some overrides :=
  found.defaulted overrides.decode_tree id

end ServiceOverrides

namespace InterfaceOverrides

/-- The fields of the overrides of the user interface. -/
def wireFields (overrides : InterfaceOverrides) : List WireField :=
  [.text "JVMOptions" overrides.jvmOptions, .text "Version" overrides.version,
    .text "ThemesConfigMap" overrides.themesConfigMap,
    .text "LocalesConfigMap" overrides.localesConfigMap]

/-- A JSON value spells the overrides of the user interface. -/
def Spells (overrides : InterfaceOverrides) (json : Json) : Prop :=
  WireField.SpelledBy overrides.wireFields json

theorem spells_toJson (overrides : InterfaceOverrides) : overrides.Spells overrides.toJson :=
  WireField.spelledBy_ofFields fieldNames rfl (by decide) <|
    .cons ⟨rfl, rfl⟩ (.cons ⟨rfl, rfl⟩ (.cons ⟨rfl, rfl⟩ (.cons ⟨rfl, rfl⟩ .nil)))

/-- The overrides of the user interface are decoded from each of their spellings. -/
theorem decode_tree (overrides : InterfaceOverrides) (json : Json)
    (spelled : overrides.Spells json) : decode json.tree = some overrides := by
  obtain ⟨members, isMembers, found⟩ := spelled.found fieldNames rfl (by decide)
  simp only [wireFields, List.forall_mem_cons] at found
  obtain ⟨jvmOptions, version, themes, locales, -⟩ := found
  simp [decode, isMembers, jvmOptions.text, version.text, themes.text, locales.text]

end InterfaceOverrides

namespace ConfiguratorOverrides

/-- The fields of the overrides of the configurator. -/
def wireFields (overrides : ConfiguratorOverrides) : List WireField :=
  [.text "JVMOptions" overrides.jvmOptions, .flag "Run" overrides.run]

/-- A JSON value spells the overrides of the configurator. -/
def Spells (overrides : ConfiguratorOverrides) (json : Json) : Prop :=
  WireField.SpelledBy overrides.wireFields json

theorem spells_toJson (overrides : ConfiguratorOverrides) : overrides.Spells overrides.toJson :=
  WireField.spelledBy_ofFields fieldNames rfl (by decide) <|
    .cons ⟨rfl, rfl⟩ (.cons ⟨rfl, rfl⟩ .nil)

/-- The overrides of the configurator are decoded from each of their spellings. -/
theorem decode_tree (overrides : ConfiguratorOverrides) (json : Json)
    (spelled : overrides.Spells json) : decode json.tree = some overrides := by
  obtain ⟨members, isMembers, found⟩ := spelled.found fieldNames rfl (by decide)
  simp only [wireFields, List.forall_mem_cons] at found
  obtain ⟨jvmOptions, run, -⟩ := found
  simp [decode, isMembers, jvmOptions.text, run.flag]

end ConfiguratorOverrides

/-! ## Installations -/

namespace Specification

open Decoder (bind_eq)
open ServiceOverrides (wireField defaulted_wireField)

/-- The fields of a specification. -/
def wireFields (specification : Specification) : List WireField :=
  [.flag "secure" specification.secure,
    .text "springCloudConfigLabel" specification.configLabel,
    .text "springProfilesActive" specification.activeProfiles,
    .text "deploymentType" specification.deploymentType,
    .text "dockerRepo" specification.dockerRepo,
    .text "release" specification.release,
    ⟨"configurator", specification.configurator = .none, specification.configurator.Spells⟩,
    wireField "conductor" specification.conductor, wireField "apollo" specification.apollo,
    wireField "galileo" specification.galileo, wireField "talledega" specification.talledega,
    wireField "daytona" specification.daytona,
    ⟨"nimrod", specification.nimrod = .none, specification.nimrod.Spells⟩,
    wireField "ishtar" specification.ishtar, wireField "relay" specification.relay,
    wireField "watchtower" specification.watchtower, wireField "doki" specification.doki,
    wireField "brent" specification.brent]

/-- A JSON value spells a specification. -/
def Spells (specification : Specification) (json : Json) : Prop :=
  WireField.SpelledBy specification.wireFields json

theorem spells_toJson (specification : Specification) :
    specification.Spells specification.toJson := by
  refine WireField.spelledBy_ofFields fieldNames rfl (by decide) ?_
  simp [wireFields, WireField.text, WireField.flag, wireField, ServiceOverrides.spells_toJson,
    InterfaceOverrides.spells_toJson, ConfiguratorOverrides.spells_toJson]

/-- A specification is decoded from each of its spellings. -/
theorem decode_tree (specification : Specification) (json : Json)
    (spelled : specification.Spells json) : decode json.tree = some specification := by
  obtain ⟨members, isMembers, found⟩ := spelled.found fieldNames rfl (by decide)
  simp only [wireFields, List.forall_mem_cons] at found
  obtain ⟨secure, configLabel, activeProfiles, deploymentType, dockerRepo, release,
    configurator, conductor, apollo, galileo, talledega, daytona, nimrod, ishtar, relay,
    watchtower, doki, brent, -⟩ := found
  have configurator : Decoder.defaulted ConfiguratorOverrides.decode .none members
      "configurator" = some specification.configurator :=
    configurator.defaulted specification.configurator.decode_tree id
  have nimrod : Decoder.defaulted InterfaceOverrides.decode .none members "nimrod" =
      some specification.nimrod :=
    nimrod.defaulted specification.nimrod.decode_tree id
  unfold decode
  dsimp only
  rw [bind_eq isMembers, bind_eq secure.flag, bind_eq configLabel.text,
    bind_eq activeProfiles.text, bind_eq deploymentType.text, bind_eq dockerRepo.text,
    bind_eq release.text, bind_eq configurator, bind_eq (defaulted_wireField conductor),
    bind_eq (defaulted_wireField apollo), bind_eq (defaulted_wireField galileo),
    bind_eq (defaulted_wireField talledega), bind_eq (defaulted_wireField daytona),
    bind_eq nimrod, bind_eq (defaulted_wireField ishtar), bind_eq (defaulted_wireField relay),
    bind_eq (defaulted_wireField watchtower), bind_eq (defaulted_wireField doki),
    bind_eq (defaulted_wireField brent)]
  rfl

end Specification

namespace Status

/-- The fields of a status. -/
def wireFields (status : Status) : List WireField := [.flag "ishtarHealthy" status.isHealthy]

/-- A JSON value spells a status. -/
def Spells (status : Status) (json : Json) : Prop :=
  WireField.SpelledBy status.wireFields json

theorem spells_toJson (status : Status) : status.Spells status.toJson :=
  WireField.spelledBy_ofFields fieldNames rfl (by decide) (.cons ⟨rfl, rfl⟩ .nil)

/-- A status is decoded from each of its spellings. -/
theorem decode_tree (status : Status) (json : Json) (spelled : status.Spells json) :
    decode json.tree = some status := by
  obtain ⟨members, isMembers, found⟩ := spelled.found fieldNames rfl (by decide)
  simp only [wireFields, List.forall_mem_cons] at found
  simp [decode, isMembers, found.1.flag]

end Status

/-! ## Services -/

namespace Authorization

/-- The fields of an authorization; the token and its validity are always written. -/
def wireFields (authorization : Authorization) : List WireField :=
  [.always "accessToken" (· = .string authorization.accessToken),
    .text "refreshToken" authorization.refreshToken,
    .always "expiresIn" (· = Json.ofInt authorization.expiresIn.toNat),
    .text "scope" authorization.scope]

/-- A JSON value spells an authorization. -/
def Spells (authorization : Authorization) (json : Json) : Prop :=
  WireField.SpelledBy authorization.wireFields json

theorem spells_toJson (authorization : Authorization) :
    authorization.Spells authorization.toJson :=
  WireField.spelledBy_ofFields fieldNames rfl (by decide) <|
    .cons ⟨rfl, rfl⟩ (.cons ⟨rfl, rfl⟩ (.cons ⟨rfl, rfl⟩ (.cons ⟨rfl, rfl⟩ .nil)))

/-- A whole number of 64 bits is decoded from what is written of it. -/
theorem unsigned64_tree (value : UInt64) :
    Decoder.unsigned64 (Json.ofInt value.toNat).tree = some value := by
  have reread : (Number.integer value.toNat).reread = some (.integer value.toNat) :=
    Numeral.number?_of_natural value.toNat_lt
  have fits : (value.toNat : Int) ≤ 0xffffffffffffffff := by
    have := value.toNat_lt
    omega
  simp [Decoder.unsigned64, Decoder.integer, Json.ofInt, Json.tree, reread, fits]

/-- An authorization is decoded from each of its spellings. -/
theorem decode_tree (authorization : Authorization) (json : Json)
    (spelled : authorization.Spells json) : decode json.tree = some authorization := by
  obtain ⟨members, isMembers, found⟩ := spelled.found fieldNames rfl (by decide)
  simp only [wireFields, List.forall_mem_cons] at found
  obtain ⟨accessToken, refreshToken, expiresIn, scope, -⟩ := found
  have expiresIn : Decoder.required .unsigned64 members "expiresIn" =
      some authorization.expiresIn :=
    expiresIn.always fun _ spells => spells ▸ unsigned64_tree authorization.expiresIn
  simp [decode, isMembers, accessToken.alwaysText, refreshToken.text, expiresIn, scope.text]

end Authorization

namespace AssemblyRequest

/-- A JSON value spells a text. -/
def SpellsText (text : String) (json : Json) : Prop := json = .string text

/-- The fields of a request; only the properties may be left out. -/
def wireFields (request : AssemblyRequest) : List WireField :=
  [.always "assemblyName" (· = .string request.assemblyName),
    .always "descriptorName" (· = .string request.descriptorName),
    .always "intendedState" (· = .string request.intendedState),
    ⟨"properties", request.properties = .empty,
      SpellsMap SpellsText request.properties⟩]

/-- A JSON value spells a request. -/
def Spells (request : AssemblyRequest) (json : Json) : Prop :=
  WireField.SpelledBy request.wireFields json

theorem spells_toJson (request : AssemblyRequest) : request.Spells request.toJson := by
  have writes : ∀ text, SpellsText text (.string text) := fun _ => rfl
  exact WireField.spelledBy_ofFields fieldNames rfl (by decide) <|
    .cons ⟨rfl, rfl⟩ (.cons ⟨rfl, rfl⟩ (.cons ⟨rfl, rfl⟩
      (.cons ⟨rfl, .of_write writes request.properties⟩ .nil)))

/-- A text is decoded from what is written of it. -/
theorem decode_spellsText (text : String) (json : Json) (spelled : SpellsText text json) :
    Decoder.string json.tree = some text := by
  rw [spelled]
  rfl

/-- A request is decoded from each of its spellings. -/
theorem decode_tree (request : AssemblyRequest) (json : Json)
    (spelled : request.Spells json) : decode json.tree = some request := by
  obtain ⟨members, isMembers, found⟩ := spelled.found fieldNames rfl (by decide)
  simp only [wireFields, List.forall_mem_cons] at found
  obtain ⟨assemblyName, descriptorName, intendedState, properties, -⟩ := found
  have properties : Decoder.defaulted (.map .string) .empty members "properties" =
      some request.properties :=
    properties.defaulted (fun _ spells => spells.map_eq decode_spellsText) id
  simp [decode, isMembers, assemblyName.alwaysText, descriptorName.alwaysText,
    intendedState.alwaysText, properties]

end AssemblyRequest

/-! ## Releases -/

namespace ServiceRelease

/-- The fields of what a manifest says about a service. -/
def wireFields (release : ServiceRelease) : List WireField := [.text "version" release.version]

/-- A JSON value spells what a manifest says about a service. -/
def Spells (release : ServiceRelease) (json : Json) : Prop :=
  WireField.SpelledBy release.wireFields json

theorem spells_toJson (release : ServiceRelease) : release.Spells release.toJson :=
  WireField.spelledBy_ofFields fieldNames rfl (by decide) (.cons ⟨rfl, rfl⟩ .nil)

/-- What a manifest says about a service is decoded from each of its spellings. -/
theorem decode_tree (release : ServiceRelease) (json : Json) (spelled : release.Spells json) :
    decode json.tree = some release := by
  obtain ⟨members, isMembers, found⟩ := spelled.found fieldNames rfl (by decide)
  simp only [wireFields, List.forall_mem_cons] at found
  simp [decode, isMembers, found.1.text]

end ServiceRelease

namespace Manifest

/-- A JSON value spells a manifest: an entry for every service, and no other. -/
def Spells (manifest : Manifest) (json : Json) : Prop :=
  SpellsMap ServiceRelease.Spells manifest.services json

theorem spells_toJson (manifest : Manifest) : manifest.Spells manifest.toJson :=
  .of_write ServiceRelease.spells_toJson manifest.services

/-- A manifest is decoded from each of its spellings. -/
theorem decode_tree (manifest : Manifest) (json : Json) (spelled : manifest.Spells json) :
    decode json.tree = some manifest := by
  rw [decode, SpellsMap.map_eq ServiceRelease.decode_tree spelled]
  rfl

end Manifest

/--
The wire formats lose nothing.  What is written of a specification, a status, an
authorization, a request for an assembly or a release manifest is read back as it was, with
all characters of its texts.  And it does not matter in which order the members of any
structure stand, which members unknown to a structure stand among them, and which members
are left out that have their default values.
-/
theorem wireFormats_lossless :
    Lossless Specification.toJson Specification.Spells Specification.decode ∧
      Lossless Status.toJson Status.Spells Status.decode ∧
      Lossless Authorization.toJson Authorization.Spells Authorization.decode ∧
      Lossless AssemblyRequest.toJson AssemblyRequest.Spells AssemblyRequest.decode ∧
      Lossless Manifest.toJson Manifest.Spells Manifest.decode :=
  ⟨.of_tree Specification.spells_toJson Specification.decode_tree,
    .of_tree Status.spells_toJson Status.decode_tree,
    .of_tree Authorization.spells_toJson Authorization.decode_tree,
    .of_tree AssemblyRequest.spells_toJson AssemblyRequest.decode_tree,
    .of_tree Manifest.spells_toJson Manifest.decode_tree⟩

/-- A specification with a quote and a control character in a text. -/
def quotedSpecification : Specification :=
  { Specification.empty with release := "\"\x01\"", configurator := ⟨"", true⟩ }

/-- A text for it, without most of its members, out of order and with members of other names. -/
def quotedSpelling : Json :=
  .object [("note", .array [.null, .number (.binary ⟨0⟩)]),
    ("configurator", .object [("Walk", .bool true), ("Run", .bool true)]),
    ("release", .string "\"\x01\"")]

/-- It is read all the same. -/
theorem wireFormats_lossless_quoted :
    quotedSpecification.Spells quotedSpelling ∧
      (Document.read? quotedSpelling.text).bind Specification.decode =
        some quotedSpecification := by
  have configurator : quotedSpecification.configurator.Spells
      (.object [("Walk", .bool true), ("Run", .bool true)]) :=
    ⟨[("Run", .bool true)], [("Walk", .bool true)], _, .leftOut rfl (.kept rfl .nil),
      by simp [ConfiguratorOverrides.wireFields, WireField.text, WireField.flag],
      List.reverse_perm _, rfl⟩
  have spelled : quotedSpecification.Spells quotedSpelling := by
    refine ⟨[("release", .string "\"\x01\""), ("configurator", _)], [("note", _)], _, ?_, ?_,
      List.reverse_perm _, rfl⟩
    · exact .leftOut rfl <| .leftOut rfl <| .leftOut rfl <| .leftOut rfl <| .leftOut rfl <|
        .kept rfl <| .kept configurator <| .leftOut rfl <| .leftOut rfl <| .leftOut rfl <|
        .leftOut rfl <| .leftOut rfl <| .leftOut rfl <| .leftOut rfl <| .leftOut rfl <|
        .leftOut rfl <| .leftOut rfl <| .leftOut rfl .nil
    · simp [Specification.wireFields, ServiceOverrides.wireField, WireField.text,
        WireField.flag]
  exact ⟨spelled, wireFormats_lossless.1.reads quotedSpecification quotedSpelling spelled⟩

end LifecycleOperator
