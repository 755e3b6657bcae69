import LifecycleOperator.Proofs.Ishtar.Session
import LifecycleOperator.Proofs.Json.Spelling
import Mathlib.Logic.Function.Iterate

/-!
# Headers in other letters

The name of a header means the same in capital and in small letters, but a client keeps headers
apart by their names as they were given.  A header for JSON is left alone if it was given under
the very name by which the client knows it; under the same name in other letters it is not
noticed, and the client sends its own next to it.

Telling a client to speak JSON, once or several times, adds the headers for JSON to those that
it knows.  From what the client knows then the headers of a request are read off: there is one
for each spelling of a name.
-/

namespace LifecycleOperator
namespace RestClient

variable {client : RestClient} {given : List (String × String)} {header : String × String}
  {name value : String}

/-- The name under which a header is sent. -/
def sentName (name : String) : String := name.map Char.toLower

/-- Give a client headers, one after the other. -/
def withHeaders (client : RestClient) (given : List (String × String)) : RestClient :=
  given.foldl (fun client header => client.withHeader header.1 header.2) client

/-- The headers that say that JSON is sent and expected. -/
def jsonHeaders : List (String × String) :=
  [("Content-Type", "application/json; charset=utf-8"), ("Accept", "application/json")]

/-- The value that was given last under a name. -/
def latestValue? (given : List (String × String)) (name : String) : Option String :=
  given.reverse.lookup name

theorem isSome_latestValue?_iff :
    (latestValue? given name).isSome ↔ name ∈ given.map Prod.fst := by
  rw [← Option.ne_none_iff_isSome, latestValue?, Ne, List.lookup_eq_none_iff]
  simp

/-! ## What a client knows -/

/-- The value that is known of a header is the one that was given last. -/
theorem get?_withHeaders (agent base name : String) :
    ((ofBase agent base).withHeaders given).headers.get? name = latestValue? given name := by
  have entries : ∀ client : RestClient, (client.withHeaders given).headers.entries =
      given.foldl (fun entries pair => Entries.insert entries pair.1 pair.2)
        client.headers.entries := by
    induction given with
    | nil => exact fun _ => rfl
    | cons header rest inductionHypothesis =>
        exact fun client => inductionHypothesis (client.withHeader header.1 header.2)
  rw [OrderedMap.get?, entries, Entries.get?_foldl_insert]
  exact Option.or_none

theorem get?_withMissingHeader (other : String) :
    (client.withMissingHeader name value).headers.get? other =
      (client.headers.get? other).or (if other = name then some value else none) := by
  unfold withMissingHeader
  by_cases same : other = name
  · subst same
    cases known : client.headers.get? other with
    | some former => simp [known]
    | none => simp [withHeader, OrderedMap.get?_insert_self]
  · have unmoved : (client.withHeader name value).headers.get? other =
        client.headers.get? other :=
      OrderedMap.get?_insert_of_ne client.headers value (Ne.symm same)
    rw [if_neg same, Option.or_none]
    split
    · rfl
    · exact unmoved

theorem lookup_jsonHeaders (name : String) :
    jsonHeaders.lookup name =
      if name = "Content-Type" then some "application/json; charset=utf-8"
      else if name = "Accept" then some "application/json" else none := by
  rw [jsonHeaders]
  by_cases content : name = "Content-Type"
  · simp [content]
  · by_cases accept : name = "Accept"
    · simp [List.lookup_cons, accept]
    · simp only [List.lookup_cons, beq_eq_false_iff_ne.mpr content,
        beq_eq_false_iff_ne.mpr accept, List.lookup_nil, if_neg content, if_neg accept]

/-- A client that speaks JSON has added the headers for JSON under names that it did not know. -/
theorem get?_speakingJson (client : RestClient) (name : String) :
    client.speakingJson.headers.get? name =
      (client.headers.get? name).or (jsonHeaders.lookup name) := by
  rw [speakingJson, expectingJson, sendingJson, get?_withMissingHeader, get?_withMissingHeader,
    Option.or_assoc, lookup_jsonHeaders]
  congr 1
  by_cases content : name = "Content-Type"
  · simp [content]
  · simp [content]

/-- The headers for JSON are known to a client that speaks JSON. -/
theorem isSome_get?_speakingJson (client : RestClient) (forJson : header ∈ jsonHeaders) :
    (client.speakingJson.headers.get? header.1).isSome := by
  rw [jsonHeaders, List.mem_pair] at forJson
  rw [get?_speakingJson, Option.isSome_or, lookup_jsonHeaders]
  rcases forJson with rfl | rfl <;> simp

theorem withMissingHeader_of_known (known : (client.headers.get? name).isSome) :
    client.withMissingHeader name value = client := if_pos known

/-- A client that speaks JSON need not be told again. -/
theorem speakingJson_speakingJson (client : RestClient) :
    client.speakingJson.speakingJson = client.speakingJson := by
  have sending : (client.speakingJson.headers.get? "Content-Type").isSome :=
    client.isSome_get?_speakingJson List.mem_cons_self
  have expecting : (client.speakingJson.headers.get? "Accept").isSome :=
    client.isSome_get?_speakingJson (List.mem_cons_of_mem _ List.mem_cons_self)
  rw [speakingJson, sendingJson, withMissingHeader_of_known sending, expectingJson,
    withMissingHeader_of_known expecting]

/-- Headers have no part in the address. -/
theorem url_speakingJson_withHeaders (given : List (String × String)) (agent base path : String) :
    ((ofBase agent base).withHeaders given).speakingJson.url path =
      (ofBase agent base).url path := by
  have missing : ∀ (client : RestClient) (name value : String),
      (client.withMissingHeader name value).base = client.base := by
    intro client name value
    unfold withMissingHeader
    split <;> rfl
  have named : ∀ client : RestClient, (client.withHeaders given).base = client.base := by
    induction given with
    | nil => exact fun _ => rfl
    | cons header rest inductionHypothesis =>
        exact fun client => inductionHypothesis (client.withHeader header.1 header.2)
  simp only [url, speakingJson, expectingJson, sendingJson, missing, named]

/-! ## What is sent -/

/-- A default is no header of another name. -/
theorem filter_addDefault {other : String} (different : other ≠ name)
    (headers : List (String × String)) :
    (addDefault other value headers).filter (fun header => header.1 == name) =
      headers.filter fun header => header.1 == name := by
  unfold addDefault
  split
  · rfl
  · simp [List.filter_append, different]

theorem filter_userHeaders (url : Url) (different : "authorization" ≠ name) :
    (userHeaders url).filter (fun header => header.1 == name) = [] := by
  unfold userHeaders
  cases url.user with
  | none => rfl
  | some user => simp [userHeader, different]

/-- The headers for JSON are sent as the client knows them, in all the letters that it knows. -/
theorem header_of_request
    {method path body : String} {request : WebRequest}
    (made : client.request method path body = .ok request)
    (accepts : (client.headers.get? "Accept").isSome)
    (forJson : header ∈ jsonHeaders) :
    request.header (sentName header.1) =
      (client.headers.entries.filter fun entry => sentName entry.1 == sentName header.1).map
        Prod.snd := by
  obtain ⟨url, headers, -, sent, rfl⟩ := request_eq_ok_iff.mp made
  obtain ⟨-, rfl⟩ := sentHeaders_eq_some_iff.mp sent
  obtain ⟨unauthorized, nameless⟩ :
      "authorization" ≠ sentName header.1 ∧ "user-agent" ≠ sentName header.1 := by
    rw [jsonHeaders, List.mem_pair] at forJson
    rcases forJson with rfl | rfl <;> decide +kernel
  -- What the client expects is known, so that nothing is added for it.
  have accepting : ∃ value, ("accept", value) ∈ addDefault "user-agent" client.agent
      ((url.user.map userHeader).toList ++
        client.headers.entries.map fun entry => (entry.1.map Char.toLower, entry.2)) := by
    obtain ⟨entry, member, named⟩ := List.mem_map.mp (Entries.isSome_get?_iff.mp accepts)
    refine ⟨entry.2, ?_⟩
    have lowered : ("accept", entry.2) ∈ client.headers.entries.map
        fun entry => (entry.1.map Char.toLower, entry.2) := by
      refine List.mem_map.mpr ⟨entry, member, ?_⟩
      rw [named]
      exact congrArg (·, entry.2) (by decide +kernel)
    unfold addDefault
    split
    · exact List.mem_append_right _ lowered
    · exact List.mem_append_left _ (List.mem_append_right _ lowered)
  obtain ⟨value, member⟩ := accepting
  rw [WebRequest.header, addDefault_of_mem member, filter_addDefault nameless,
    List.filter_append, ← userHeaders, filter_userHeaders url unauthorized, List.nil_append,
    List.filter_map, List.map_map]
  rfl

/-- The spellings of a name among the headers of a client. -/
def spellings (client : RestClient) (name : String) : List String :=
  (client.headers.entries.filter fun entry => sentName entry.1 == sentName name).map Prod.fst

theorem nodup_spellings (client : RestClient) (name : String) : (client.spellings name).Nodup :=
  client.headers.ordered.distinct.sublist (List.filter_sublist.map Prod.fst)

/-- A spelling is among those of a name if a header is known under it. -/
theorem mem_spellings_iff {spelling : String} :
    spelling ∈ client.spellings name ↔
      sentName spelling = sentName name ∧ (client.headers.get? spelling).isSome := by
  rw [spellings, OrderedMap.get?, Entries.isSome_get?_iff, List.mem_map, List.mem_map]
  simp only [List.mem_filter, beq_iff_eq]
  constructor
  · rintro ⟨entry, ⟨member, spelled⟩, rfl⟩
    exact ⟨spelled, entry, member, rfl⟩
  · rintro ⟨spelled, entry, member, rfl⟩
    exact ⟨entry, ⟨member, spelled⟩, rfl⟩

/-- Under every spelling the value is sent that is known under it. -/
theorem header_eq_map_spellings
    {method path body : String} {request : WebRequest}
    (made : client.request method path body = .ok request)
    (accepts : (client.headers.get? "Accept").isSome)
    (forJson : header ∈ jsonHeaders) (default : String) :
    request.header (sentName header.1) =
      (client.spellings header.1).map fun name => (client.headers.get? name).getD default := by
  rw [header_of_request made accepts forJson, spellings, List.map_map]
  refine List.map_congr_left fun entry member => ?_
  have found : client.headers.get? entry.1 = some entry.2 :=
    Entries.get?_of_mem client.headers.ordered.distinct (List.mem_of_mem_filter member)
  simp [found]

/--
How a header for JSON is sent by a client that was given headers and then told to speak JSON.
-/
structure SendsSpellings (given : List (String × String)) (header : String × String)
    (request : WebRequest) : Prop where
  /-- There is one header for each spelling of the name that was given, with the value that was
  given last, and one for the spelling that the client knows, with its own value if there is no
  other. -/
  each : ∃ spellings : List String, spellings.Nodup ∧
    (∀ name, name ∈ spellings ↔ sentName name = sentName header.1 ∧
      (name ∈ given.map Prod.fst ∨ name = header.1)) ∧
    request.header (sentName header.1) =
      spellings.map fun name => (latestValue? given name).getD header.2
  /-- So there is a single one if and only if no other spelling was given. -/
  single : (request.header (sentName header.1)).length = 1 ↔
    ∀ name ∈ given.map Prod.fst, sentName name = sentName header.1 → name = header.1
  /-- The single one has the value that was given last, or else the one for JSON. -/
  value : ∀ value, request.header (sentName header.1) = [value] →
    value = (latestValue? given header.1).getD header.2

/-- A list without repetitions that has an entry has no other just when it has one. -/
theorem length_eq_one_iff_of_mem {α : Type} {entries : List α} {entry : α}
    (distinct : entries.Nodup) (member : entry ∈ entries) :
    entries.length = 1 ↔ ∀ other ∈ entries, other = entry := by
  constructor
  · intro single other inEntries
    obtain ⟨only, rfl⟩ := List.length_eq_one_iff.mp single
    rw [List.mem_singleton.mp inEntries, List.mem_singleton.mp member]
  · intro alone
    have perm : entries.Perm [entry] :=
      (List.perm_ext_iff_of_nodup distinct (List.nodup_singleton entry)).mpr fun other => by
        rw [List.mem_singleton]
        exact ⟨alone other, fun same => same ▸ member⟩
    exact perm.length_eq

/-- What a client knows of a header for JSON, in all its spellings, is what it sends. -/
theorem sendsSpellings_of_known
    {method path body : String} {request : WebRequest}
    (made : client.request method path body = .ok request)
    (accepts : (client.headers.get? "Accept").isSome)
    (forJson : header ∈ jsonHeaders)
    (known : ∀ name, sentName name = sentName header.1 → client.headers.get? name =
      (latestValue? given name).or (if name = header.1 then some header.2 else none)) :
    SendsSpellings given header request := by
  have mem_spellings : ∀ name, name ∈ client.spellings header.1 ↔
      sentName name = sentName header.1 ∧ (name ∈ given.map Prod.fst ∨ name = header.1) := by
    intro name
    rw [mem_spellings_iff]
    refine and_congr_right fun spelled => ?_
    rw [known name spelled, Option.isSome_or, Bool.or_eq_true, isSome_latestValue?_iff]
    by_cases own : name = header.1 <;> simp [own]
  have values : request.header (sentName header.1) =
      (client.spellings header.1).map fun name => (latestValue? given name).getD header.2 := by
    rw [header_eq_map_spellings made accepts forJson header.2]
    refine List.map_congr_left fun name member => ?_
    rw [known name (mem_spellings_iff.mp member).1]
    cases latestValue? given name with
    | some value => rfl
    | none => by_cases own : name = header.1 <;> simp [own]
  have distinct := client.nodup_spellings header.1
  have own : header.1 ∈ client.spellings header.1 := (mem_spellings header.1).mpr ⟨rfl, .inr rfl⟩
  constructor
  case each => exact ⟨client.spellings header.1, distinct, mem_spellings, values⟩
  case single =>
    rw [values, List.length_map, length_eq_one_iff_of_mem distinct own]
    constructor
    · intro alone name isGiven spelled
      exact alone name ((mem_spellings name).mpr ⟨spelled, .inl isGiven⟩)
    · intro alone name spelling
      obtain ⟨spelled, isGiven | same⟩ := (mem_spellings name).mp spelling
      · exact alone name isGiven spelled
      · exact same
  case value =>
    intro value single
    have member : (latestValue? given header.1).getD header.2 ∈
        request.header (sentName header.1) := by
      rw [values]
      exact List.mem_map_of_mem own
    rw [single, List.mem_singleton] at member
    exact member.symm

/-- Of the names of the headers for JSON, no two are the same in other letters. -/
theorem lookup_jsonHeaders_of_spelled (forJson : header ∈ jsonHeaders)
    (spelled : sentName name = sentName header.1) :
    jsonHeaders.lookup name = if name = header.1 then some header.2 else none := by
  have apart : sentName "Content-Type" ≠ sentName "Accept" := by decide +kernel
  rw [jsonHeaders, List.mem_pair] at forJson
  rw [lookup_jsonHeaders]
  rcases forJson with rfl | rfl
  · have other : name ≠ "Accept" := fun same => apart (same ▸ spelled).symm
    simp [other]
  · have other : name ≠ "Content-Type" := fun same => apart (same ▸ spelled)
    simp [other]

/-- Whatever it is answered, a program sends the headers for JSON as they were given. -/
def SendsAsGiven (given : List (String × String)) (program : Wire WebResponse) : Prop :=
  ∀ transcript outcome, program.Yields transcript outcome →
    ∀ request ∈ Wire.sent transcript, ∀ header ∈ jsonHeaders,
      SendsSpellings given header request

/-- Whatever it is answered, a program sends one request. -/
def SendsOne (program : Wire WebResponse) : Prop :=
  ∀ transcript outcome, program.Yields transcript outcome →
    ∃ request, Wire.sent transcript = [request]

theorem sendsAsGiven_send (agent base method path body : String) :
    SendsAsGiven given
      (((ofBase agent base).withHeaders given).speakingJson.send method path body) := by
  intro transcript outcome yields request member header forJson
  obtain ⟨answer, -, exchanging⟩ := yields_send_iff.mp yields
  cases exchanging with
  | unsendable cause unusable => cases member
  | sent made answer usable =>
      obtain rfl := List.mem_singleton.mp member
      apply sendsSpellings_of_known usable ?accepts forJson
      case accepts =>
        exact isSome_get?_speakingJson _ (List.mem_cons_of_mem _ List.mem_cons_self)
      intro name spelled
      rw [get?_speakingJson, get?_withHeaders, lookup_jsonHeaders_of_spelled forJson spelled]

theorem mem_of_lookup {entries : List (String × String)}
    (found : entries.lookup header.1 = some header.2) : header ∈ entries := by
  obtain ⟨front, back, rfl, -⟩ := List.lookup_eq_some_iff.mp found
  simp

/-- The headers that a client knows can be sent if those can that it was given. -/
theorem usable_speakingJson {agent base : String}
    (valid : ∀ header ∈ given, isHeaderName header.1 = true ∧ isHeaderValue header.2 = true) :
    ∀ entry ∈ ((ofBase agent base).withHeaders given).speakingJson.headers.entries,
      isHeaderName entry.1 = true ∧ isHeaderValue entry.2 = true := by
  intro entry member
  have known := Entries.get?_of_mem (OrderedMap.ordered _).distinct member
  rw [← OrderedMap.get?, get?_speakingJson, get?_withHeaders, Option.or_eq_some_iff] at known
  obtain given | ⟨-, forJson⟩ := known
  · exact valid entry (List.mem_reverse.mp (mem_of_lookup given))
  · have listed : entry ∈ jsonHeaders := mem_of_lookup forJson
    rw [jsonHeaders, List.mem_pair] at listed
    rcases listed with rfl | rfl <;> decide +kernel

/-- A request can be made if it has an address and its headers can be sent. -/
theorem exists_request {path : String} {url : Url}
    (addressed : Url.read (client.url path) = .ok url)
    (usable : ∀ entry ∈ client.headers.entries,
      isHeaderName entry.1 = true ∧ isHeaderValue entry.2 = true) (method body : String) :
    ∃ made, client.request method path body = .ok made :=
  ⟨_, request_eq_ok_iff.mpr
    ⟨url, _, addressed, sentHeaders_eq_some_iff.mpr ⟨usable, rfl⟩, rfl⟩⟩

/-- Headers that can be sent are sent if there is an address for them. -/
theorem sendsOne_send {agent base path : String} {url : Url}
    (addressed : Url.read ((ofBase agent base).url path) = .ok url)
    (valid : ∀ header ∈ given, isHeaderName header.1 = true ∧ isHeaderValue header.2 = true)
    (method body : String) :
    SendsOne (((ofBase agent base).withHeaders given).speakingJson.send method path body) := by
  intro transcript outcome yields
  obtain ⟨answer, -, exchanging⟩ := yields_send_iff.mp yields
  cases exchanging with
  | sent made answer usable => exact ⟨made, rfl⟩
  | unsendable cause unusable =>
      rw [← url_speakingJson_withHeaders given] at addressed
      obtain ⟨made, usable⟩ := exists_request addressed (usable_speakingJson valid) method body
      exact nomatch unusable.symm.trans usable

/--
A client that was given headers and was then told to speak JSON, once or more often, sends each
of the headers for JSON once for every spelling of its name that it was given and once for its
own.
-/
theorem speakingJson_sendsAsGiven (agent base : String) (given : List (String × String))
    (times : Nat) (path body : String) :
    let client := speakingJson^[times + 1] ((ofBase agent base).withHeaders given)
    (SendsAsGiven given (client.get path) ∧ SendsAsGiven given (client.post path body)) ∧
    ((∃ url, Url.read ((ofBase agent base).url path) = .ok url) →
      (∀ header ∈ given, isHeaderName header.1 = true ∧ isHeaderValue header.2 = true) →
      SendsOne (client.get path) ∧ SendsOne (client.post path body)) := by
  have told : speakingJson^[times + 1] ((ofBase agent base).withHeaders given) =
      ((ofBase agent base).withHeaders given).speakingJson :=
    Function.iterate_fixed (speakingJson_speakingJson _) times
  intro client
  rw [show client = _ from told]
  refine ⟨⟨sendsAsGiven_send agent base "GET" path "",
    sendsAsGiven_send agent base "POST" path body⟩, ?_⟩
  rintro ⟨url, addressed⟩ valid
  exact ⟨sendsOne_send addressed valid "GET" "", sendsOne_send addressed valid "POST" body⟩

/-- A type of content that is given in small letters is sent next to the one for JSON. -/
theorem speakingJson_sendsAsGiven_lowercase :
    let given := [("content-type", "text/plain")]
    let client := speakingJson^[2] ((ofBase "agent" "http://localhost").withHeaders given)
    let run := (client.get "/a").run Web.Rehearsal.respond (IshtarClient.demoServices [])
    (∃ request, Wire.sent run.transcript = [request] ∧
      request.header "content-type" = ["application/json; charset=utf-8", "text/plain"]) ∧
    ∀ request ∈ Wire.sent run.transcript,
      SendsSpellings given ("Content-Type", "application/json; charset=utf-8") request := by
  intro given client run
  obtain ⟨⟨asGiven, -⟩, single⟩ :=
    speakingJson_sendsAsGiven "agent" "http://localhost" given 1 "/a" ""
  have yields : (client.get "/a").Yields run.transcript run.outcome := Program.run_yields _ _ _
  have addressed : Url.read ((ofBase "agent" "http://localhost").url "/a") =
      .ok ⟨"http", none, "localhost", none, "/a", none, none⟩ := by decide +kernel
  have valid : ∀ header ∈ given, isHeaderName header.1 = true ∧ isHeaderValue header.2 = true := by
    decide +kernel
  have sends : (Wire.sent run.transcript).map (·.header "content-type") =
      [["application/json; charset=utf-8", "text/plain"]] := by decide +kernel
  obtain ⟨request, sent⟩ := (single ⟨_, addressed⟩ valid).1 run.transcript run.outcome yields
  rw [sent, List.map_singleton] at sends
  exact ⟨⟨request, sent, List.singleton_inj.mp sends⟩, fun request member =>
    asGiven run.transcript run.outcome yields request member _ List.mem_cons_self⟩

end RestClient
end LifecycleOperator
