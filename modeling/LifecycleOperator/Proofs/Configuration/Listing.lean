import LifecycleOperator.Configuration.Data
import LifecycleOperator.Proofs.Template.Rendering

/-!
# Lists in configuration files

The topics of the message broker and the clients of the security service are listed in files.
Each entry has its lines there, in the order of the list, and a line for what may be missing
only where it is set.  The files of the templates have block tags on lines of their own, and
nothing is left of these lines, neither in the built-in templates nor in what is rendered.
-/

namespace LifecycleOperator
namespace Configuration

open Template (Scope Part agree renderParts renderPart)

/-- Lines as they are written to a file. -/
def written (lines : List String) : String :=
  String.join (lines.map fun line => line ++ "\n")

/-- A tag of a template, as it is written. -/
def tag (content : String) : String := "\x7b\x7b" ++ content ++ "\x7d\x7d"

/-- The file of the template of the topics. -/
def topicsFile : String :=
  written
    ["topics:", tag "#each topics", "  " ++ tag "name" ++ ":",
      "    replication_factor: " ++ tag "replication_factor",
      "    partitions: " ++ tag "partitions",
      tag "#if config", "    config: \"" ++ tag "config" ++ "\"", tag "/if", tag "/each"]

/-- The file of the template of the clients. -/
def clientsFile : String :=
  written
    [tag "#each clients", "- clientId: " ++ tag "client_id",
      "  clientSecret: " ++ tag "client_secret", "  grantTypes: " ++ tag "grant_types",
      tag "#if roles", "  roles: " ++ tag "roles", tag "/if", tag "/each"]

/-- The lines of a topic. -/
def Topic.lines (topic : Topic) : List String :=
  ["  " ++ topic.name ++ ":", "    replication_factor: " ++ toString topic.replicationFactor,
    "    partitions: " ++ toString topic.partitions] ++
  if topic.config = "" then [] else ["    config: \"" ++ topic.config ++ "\""]

/-- The lines of a client. -/
def Client.lines (client : Client) : List String :=
  ["- clientId: " ++ client.id, "  clientSecret: " ++ client.secret,
    "  grantTypes: " ++ client.grantTypes] ++
  if client.roles = "" then [] else ["  roles: " ++ client.roles]

/-! ## The files of the templates -/

theorem read_topicsFile :
    ∃ template, Template.read? topicsFile = some template ∧ agree template topics = true := by
  have read : (Template.read? topicsFile).any (agree · topics) = true := by decide +kernel
  exact (Option.any_eq_true _ _).mp read

theorem read_clientsFile :
    ∃ template, Template.read? clientsFile = some template ∧
      agree template clientCredentials = true := by
  have read : (Template.read? clientsFile).any (agree · clientCredentials) = true := by
    decide +kernel
  exact (Option.any_eq_true _ _).mp read

/-! ## The blocks of the entries -/

section Blocks

variable {data : Json} {scopes : List Scope} {bindings : Entries Json} {name : String}
  {pairs : List (String × Json)} {value : Json}

/-- The fields of an item are found in it. -/
theorem resolve_field_of_lookup (found : pairs.reverse.lookup name = some value) :
    (Template.Path.field name).resolve data (⟨Json.ofFields pairs, bindings⟩ :: scopes) =
      .ok (some value) := by
  rw [Template.resolve_field (Json.ofFields pairs) rfl, Json.ofFields, Template.step,
    Entries.get?_ofPairs, found]

theorem renderPart_field_of_lookup (name : String) (value : Json)
    (noHelper : Template.helperNames.contains name = false)
    (found : pairs.reverse.lookup name = some value) :
    renderPart data (⟨Json.ofFields pairs, bindings⟩ :: scopes) (.field name) =
      .ok (Template.display value) :=
  Template.renderPart_field noHelper (resolve_field_of_lookup found)

/-- A text that may be missing is rendered with what is around it, or not at all. -/
theorem renderPart_whenField_of_lookup (name text before after : String)
    (noHelper : Template.helperNames.contains name = false)
    (found : pairs.reverse.lookup name = some (.string text)) :
    renderPart data (⟨Json.ofFields pairs, bindings⟩ :: scopes)
        (.whenField name [.text before, .field name, .text after]) =
      .ok (if text = "" then "" else before ++ (text ++ after)) := by
  rw [Template.renderPart_whenField (resolve_field_of_lookup found)]
  by_cases empty : text = ""
  · subst empty
    rfl
  · have set : Template.isSet (.string text) = true := by simpa [Template.isSet] using empty
    rw [if_pos set, if_neg empty, Template.renderParts_of_forall₂ (.cons rfl (.cons
      (renderPart_field_of_lookup name (.string text) noHelper found) (.cons rfl .nil)))]
    simp [Template.display]

theorem renderParts_topicBlock (topic : Topic) :
    renderParts data (⟨topic.toJson, bindings⟩ :: scopes) topicBlock =
      .ok (written topic.lines) := by
  let inner : List Scope := ⟨topic.toJson, bindings⟩ :: scopes
  have name : renderPart data inner (.field "name") = .ok topic.name :=
    renderPart_field_of_lookup "name" (.string topic.name) (by decide +kernel) rfl
  have factor : renderPart data inner (.field "replication_factor") =
      .ok (toString topic.replicationFactor) :=
    renderPart_field_of_lookup "replication_factor" (Json.ofInt topic.replicationFactor)
      (by decide +kernel) rfl
  have partitions : renderPart data inner (.field "partitions") =
      .ok (toString topic.partitions) :=
    renderPart_field_of_lookup "partitions" (Json.ofInt topic.partitions) (by decide +kernel) rfl
  have config : renderPart data inner (.whenField "config"
      [.text "    config: \"", .field "config", .text "\"\n"]) = .ok _ :=
    renderPart_whenField_of_lookup "config" topic.config _ _ (by decide +kernel) rfl
  refine (Template.renderParts_of_forall₂ (.cons rfl (.cons name (.cons rfl (.cons factor
    (.cons rfl (.cons partitions (.cons rfl (.cons config .nil))))))))).trans
      (congrArg Except.ok ?_)
  unfold Topic.lines written
  split <;> simp [← String.toList_inj]

theorem renderParts_clientBlock (client : Client) :
    renderParts data (⟨client.toJson, bindings⟩ :: scopes) clientBlock =
      .ok (written client.lines) := by
  let inner : List Scope := ⟨client.toJson, bindings⟩ :: scopes
  have id : renderPart data inner (.field "client_id") = .ok client.id :=
    renderPart_field_of_lookup "client_id" (.string client.id) (by decide +kernel) rfl
  have secret : renderPart data inner (.field "client_secret") = .ok client.secret :=
    renderPart_field_of_lookup "client_secret" (.string client.secret) (by decide +kernel) rfl
  have grantTypes : renderPart data inner (.field "grant_types") = .ok client.grantTypes :=
    renderPart_field_of_lookup "grant_types" (.string client.grantTypes) (by decide +kernel) rfl
  have roles : renderPart data inner (.whenField "roles"
      [.text "  roles: ", .field "roles", .text "\n"]) = .ok _ :=
    renderPart_whenField_of_lookup "roles" client.roles _ _ (by decide +kernel) rfl
  refine (Template.renderParts_of_forall₂ (.cons rfl (.cons id (.cons rfl (.cons secret
    (.cons rfl (.cons grantTypes (.cons rfl (.cons roles .nil))))))))).trans
      (congrArg Except.ok ?_)
  unfold Client.lines written
  split <;> simp [← String.toList_inj]

end Blocks

/-! ## The lists as a whole -/

theorem render_topics (topics : List Topic) :
    Configuration.topics.render (topicsData topics) =
      .ok ("topics:\n" ++ String.join (topics.map fun topic => written topic.lines)) := by
  have found : (Template.Path.field "topics").resolve (topicsData topics) [] =
      .ok (some (.array (topics.map Topic.toJson))) := by
    rw [Template.resolve_field (topicsData topics) rfl, topicsData, Json.ofFields, Template.step,
      Entries.get?_ofPairs]
    rfl
  have each := Template.renderPart_eachField found fun topic _ => renderParts_topicBlock topic
  refine (Template.renderParts_of_forall₂ (.cons rfl (.cons each .nil))).trans ?_
  simp

theorem render_clientCredentials (clients : List Client) :
    clientCredentials.render (clientsData clients) =
      .ok (String.join (clients.map fun client => written client.lines)) := by
  have found : (Template.Path.field "clients").resolve (clientsData clients) [] =
      .ok (some (.array (clients.map Client.toJson))) := by
    rw [Template.resolve_field (clientsData clients) rfl, clientsData, Json.ofFields,
      Template.step, Entries.get?_ofPairs]
    rfl
  have each := Template.renderPart_eachField found fun client _ => renderParts_clientBlock client
  refine (Template.renderParts_of_forall₂ (.cons each .nil)).trans ?_
  simp

/--
A template of a list, by its name and by its file: it is rendered to a heading and the lines of
all entries.
-/
structure Lists {Entry : Type} (name file : String) (data : List Entry → Json)
    (heading : String) (linesOf : Entry → List String) : Prop where
  /-- Behind the heading each entry has its lines, in the order of the list. -/
  renders : ∀ entries, render name (data entries) =
    .ok (heading ++ String.join (entries.map fun entry => written (linesOf entry)))
  /-- The file is a template, which is rendered to the same wherever it is registered. -/
  registers : ∀ registry : Template.Registry, ∃ extended,
    registry.register name file = .ok extended ∧
      ∀ entries, extended.render name (data entries) = render name (data entries)
  /-- The entries of two lists are listed one after the other. -/
  appends : ∀ front back, ∃ text more, render name (data front) = .ok (heading ++ text) ∧
    render name (data back) = .ok (heading ++ more) ∧
    render name (data (front ++ back)) = .ok (heading ++ text ++ more)
  /-- No line is blank. -/
  legible : ∀ entry, ∀ line ∈ linesOf entry, ∃ char ∈ line.toList, Template.isSpacing char = false

theorem lists_of_render {Entry : Type} {name file heading : String} {data : List Entry → Json}
    {linesOf : Entry → List String} {template : Template}
    (builtIn : Configuration.builtIn.lookup name = some template)
    (read : ∃ same, Template.read? file = some same ∧ agree same template = true)
    (rendered : ∀ entries, template.render (data entries) =
      .ok (heading ++ String.join (entries.map fun entry => written (linesOf entry))))
    (legible : ∀ entry, ∀ line ∈ linesOf entry,
      ∃ char ∈ line.toList, Template.isSpacing char = false) :
    Lists name file data heading linesOf := by
  have renders : ∀ entries, render name (data entries) =
      .ok (heading ++ String.join (entries.map fun entry => written (linesOf entry))) := by
    intro entries
    rw [render, Template.Registry.render, Template.Registry.find?, render.registry, builtIn]
    simp only [rendered]
    rfl
  obtain ⟨same, readAs, agreed⟩ := read
  constructor
  case renders => exact renders
  case registers =>
    intro registry
    refine ⟨⟨(name, same) :: registry.templates⟩, by rw [Template.Registry.register, readAs], ?_⟩
    intro entries
    rw [renders, Template.Registry.render, Template.Registry.find?, List.lookup_cons_self]
    simp only [Template.render, Template.renderParts_of_agree _ _ _ _ agreed]
    rw [show renderParts (data entries) [] template = _ from rendered entries]
    rfl
  case appends =>
    intro front back
    refine ⟨_, _, renders front, renders back, ?_⟩
    rw [renders, List.map_append, String.join_append, String.append_assoc]
  case legible => exact legible

theorem Topic.legible_lines (topic : Topic) :
    ∀ line ∈ topic.lines, ∃ char ∈ line.toList, Template.isSpacing char = false := by
  unfold Topic.lines
  split <;> simp [Template.isSpacing]

theorem Client.legible_lines (client : Client) :
    ∀ line ∈ client.lines, ∃ char ∈ line.toList, Template.isSpacing char = false := by
  unfold Client.lines
  split <;> simp [Template.isSpacing]

/-- The topics and the clients are listed with all their lines, and nothing else. -/
theorem lists_topics_clientCredentials :
    Lists "topics" topicsFile topicsData "topics:\n" Topic.lines ∧
      Lists "client_credentials" clientsFile clientsData "" Client.lines := by
  constructor
  · exact lists_of_render rfl read_topicsFile render_topics Topic.legible_lines
  · refine lists_of_render rfl read_clientsFile ?_ Client.legible_lines
    intro clients
    rw [render_clientCredentials, String.empty_append]

end Configuration
end LifecycleOperator
