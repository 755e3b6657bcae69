import LifecycleOperator.Rest.Client

/-!
# Headers of requests

A client that was given no headers of its own says nothing but what it is told to say: that it
speaks JSON, and which token it bears.  What it sends then is known to the last header.  The
user that an address names is shown in a header in front of these, which has the name of the
header with the token.
-/

namespace LifecycleOperator
namespace RestClient

variable {client : RestClient} {method path body token : String} {request : WebRequest}

/-! ## What is sent -/

/-- Headers are sent as they are given, under their names in lower case. -/
theorem sentHeaders_eq_some_iff {entries : Entries String} {headers : List (String × String)} :
    sentHeaders entries = some headers ↔
      (∀ entry ∈ entries, isHeaderName entry.1 = true ∧ isHeaderValue entry.2 = true) ∧
        headers = entries.map fun entry => (entry.1.map Char.toLower, entry.2) := by
  induction entries generalizing headers with
  | nil =>
      rw [sentHeaders, Option.some.injEq]
      exact ⟨fun same => ⟨List.forall_mem_nil _, same.symm⟩, fun sent => sent.2.symm⟩
  | cons entry rest inductionHypothesis =>
      obtain ⟨name, value⟩ := entry
      unfold sentHeaders
      by_cases usable : isHeaderName name = true ∧ isHeaderValue value = true
      · simp only [usable.1, usable.2, Bool.and_self, if_true, Option.map_eq_some_iff,
          inductionHypothesis, List.forall_mem_cons, List.map_cons, true_and]
        constructor
        · rintro ⟨sent, ⟨restUsable, rfl⟩, rfl⟩
          exact ⟨restUsable, rfl⟩
        · rintro ⟨restUsable, rfl⟩
          exact ⟨_, ⟨restUsable, rfl⟩, rfl⟩
      · have unusable : ¬ (isHeaderName name && isHeaderValue value) = true := by
          rwa [Bool.and_eq_true]
        rw [if_neg unusable]
        constructor
        · intro impossible
          cases impossible
        · rintro ⟨allUsable, -⟩
          exact absurd (allUsable _ List.mem_cons_self) usable

/-- A request is made of an address and of headers that can be sent. -/
theorem request_eq_ok_iff :
    client.request method path body = .ok request ↔
      ∃ url headers, Url.read (client.url path) = .ok url ∧
        sentHeaders client.headers.entries = some headers ∧
        request =
          ⟨method, { url with user := none },
            addDefault "accept" "*/*" (addDefault "user-agent" client.agent
              ((url.user.map userHeader).toList ++ headers)), body⟩ := by
  unfold RestClient.request
  cases addressed : Url.read (client.url path) with
  | error problem => cases problem <;> simp
  | ok url =>
      cases sent : sentHeaders client.headers.entries with
      | none => simp
      | some headers => simp [eq_comm]

/-! ## Clients without headers of their own -/

/-- The client was given no headers. -/
def IsPlain (client : RestClient) : Prop := client.headers = .empty

theorem isPlain_ofBase (agent base : String) : (ofBase agent base).IsPlain := rfl

namespace IsPlain

/-- A plain client that is told to speak JSON says that, and nothing else. -/
theorem speakingJson_eq (plain : client.IsPlain) :
    client.speakingJson =
      { client with
        headers := (OrderedMap.empty.insert "Content-Type" "application/json; charset=utf-8").insert
          "Accept" "application/json" } := by
  obtain ⟨base, headers, timeout, acceptsAnyCertificate, agent⟩ := client
  obtain rfl : headers = .empty := plain
  rfl

/-- The headers of a plain client that speaks JSON. -/
theorem entries_speakingJson (plain : client.IsPlain) :
    client.speakingJson.headers.entries =
      [("Accept", "application/json"), ("Content-Type", "application/json; charset=utf-8")] := by
  rw [plain.speakingJson_eq]
  change Entries.insert [("Content-Type", _)] "Accept" _ = _
  rw [Entries.insert, if_neg (by decide +kernel), if_pos (by decide +kernel)]

/-- The headers of a plain client that speaks JSON and bears a token. -/
theorem entries_bearing (plain : client.IsPlain) :
    (client.speakingJson.bearing token).headers.entries =
      [("Accept", "application/json"), ("Authorization", "Bearer " ++ token),
        ("Content-Type", "application/json; charset=utf-8")] := by
  change Entries.insert client.speakingJson.headers.entries "Authorization" _ = _
  rw [plain.entries_speakingJson, Entries.insert, if_neg (by decide +kernel),
    if_neg (by decide +kernel), Entries.insert, if_neg (by decide +kernel),
    if_pos (by decide +kernel)]

/-- The client joins paths to the address that it had before it was told anything. -/
theorem url_speakingJson (plain : client.IsPlain) (path : String) :
    client.speakingJson.url path = client.url path := by
  rw [plain.speakingJson_eq]
  rfl

theorem agent_speakingJson (plain : client.IsPlain) :
    client.speakingJson.agent = client.agent := by
  rw [plain.speakingJson_eq]

end IsPlain

/-! ## The headers of a request -/

/-- The headers that show the user whom an address names. -/
def userHeaders (url : Url) : List (String × String) := (url.user.map userHeader).toList

theorem addDefault_of_missing {name value : String} {headers : List (String × String)}
    (missing : ∀ header ∈ headers, header.1 ≠ name) :
    addDefault name value headers = headers ++ [(name, value)] := by
  have notFound : headers.lookup name = none :=
    List.lookup_eq_none_iff.mpr fun header member => by simpa using (missing header member).symm
  rw [addDefault, notFound]
  rfl

theorem addDefault_of_mem {name value given : String} {headers : List (String × String)}
    (member : (name, given) ∈ headers) :
    addDefault name value headers = headers := by
  unfold addDefault
  cases found : headers.lookup name with
  | some other => rfl
  | none => simpa using List.lookup_eq_none_iff.mp found _ member

/-- A client that says which content it expects sends what it says, and who it is. -/
theorem headers_of_request
    (made : client.request method path body = .ok request)
    (accepts : ∃ value, ("Accept", value) ∈ client.headers.entries)
    (nameless : ∀ entry ∈ client.headers.entries, entry.1.map Char.toLower ≠ "user-agent") :
    ∃ url, Url.read (client.url path) = .ok url ∧
      request.headers = userHeaders url ++
        (client.headers.entries.map fun entry => (entry.1.map Char.toLower, entry.2)) ++
          [("user-agent", client.agent)] := by
  obtain ⟨url, headers, addressed, sent, rfl⟩ := request_eq_ok_iff.mp made
  obtain ⟨-, rfl⟩ := sentHeaders_eq_some_iff.mp sent
  refine ⟨url, addressed, ?_⟩
  change addDefault "accept" _ (addDefault "user-agent" _ (userHeaders url ++ _)) = _
  have missing : ∀ header ∈ userHeaders url ++
      client.headers.entries.map fun entry => (entry.1.map Char.toLower, entry.2),
      header.1 ≠ "user-agent" := by
    intro header sent
    rcases List.mem_append.mp sent with shown | given
    · obtain ⟨user, -, rfl⟩ := Option.map_eq_some_iff.mp (Option.mem_toList.mp shown)
      exact (by decide : "authorization" ≠ "user-agent")
    · obtain ⟨entry, entered, rfl⟩ := List.mem_map.mp given
      exact nameless entry entered
  obtain ⟨value, member⟩ := accepts
  have lowered : "Accept".map Char.toLower = "accept" := by decide +kernel
  have accepting : ("accept", value) ∈
      client.headers.entries.map fun entry => (entry.1.map Char.toLower, entry.2) :=
    List.mem_map.mpr ⟨_, member, congrArg (·, value) lowered⟩
  -- Who the client is has to be added, but not what it expects.
  rw [addDefault_of_missing missing, addDefault_of_mem]
  exact List.mem_append_left _ (List.mem_append_right _ accepting)

/-- What is shown of the user whom an address names. -/
def shownUser (url : Url) : List String := (userHeaders url).map Prod.snd

/-- No user is shown in the way of a token. -/
theorem bearer_notMem_shownUser (url : Url) (token : String) :
    "Bearer " ++ token ∉ shownUser url := by
  intro member
  obtain ⟨header, shown, same⟩ := List.mem_map.mp member
  obtain ⟨user, -, rfl⟩ := Option.map_eq_some_iff.mp (Option.mem_toList.mp shown)
  have letters := congrArg String.toList same
  simp [userHeader] at letters

/-- The header of the user is one of those that authorize. -/
theorem header_of_headers
    {url : Url} {given : List (String × String)} (sent : request.headers = userHeaders url ++ given)
    (name : String) :
    request.header name =
      (if name = "authorization" then shownUser url else []) ++
        (given.filter fun header => header.1 == name).map Prod.snd := by
  unfold WebRequest.header shownUser userHeaders
  rw [sent, userHeaders, List.filter_append, List.map_append]
  congr 1
  cases url.user with
  | none => simp
  | some user =>
      by_cases authorizes : name = "authorization"
      · subst authorizes
        simp [userHeader]
      · simp [userHeader, authorizes, Ne.symm authorizes]

namespace IsPlain

/-- The names of the headers for JSON and for a token, as they are sent. -/
theorem lowered_names :
    "Accept".map Char.toLower = "accept" ∧ "Content-Type".map Char.toLower = "content-type" ∧
      "Authorization".map Char.toLower = "authorization" := by
  decide +kernel

/-- What a plain client sends that speaks JSON. -/
theorem headers_speakingJson
    (plain : client.IsPlain) (made : client.speakingJson.request method path body = .ok request) :
    ∃ url, Url.read (client.url path) = .ok url ∧
      request.headers = userHeaders url ++
        [("accept", "application/json"), ("content-type", "application/json; charset=utf-8"),
          ("user-agent", client.agent)] := by
  obtain ⟨accept, contentType, -⟩ := lowered_names
  obtain ⟨url, addressed, sent⟩ := headers_of_request made
    ⟨"application/json", by rw [plain.entries_speakingJson]; exact List.mem_cons_self⟩
    (by rw [plain.entries_speakingJson]; decide +kernel)
  rw [plain.url_speakingJson] at addressed
  refine ⟨url, addressed, ?_⟩
  rw [sent, plain.entries_speakingJson, plain.agent_speakingJson, List.append_assoc]
  simp only [List.map_cons, List.map_nil, accept, contentType, List.cons_append, List.nil_append]

/-- What a plain client sends that speaks JSON and bears a token. -/
theorem headers_bearing
    (plain : client.IsPlain)
    (made : (client.speakingJson.bearing token).request method path body = .ok request) :
    ∃ url, Url.read (client.url path) = .ok url ∧
      request.headers = userHeaders url ++
        [("accept", "application/json"), ("authorization", "Bearer " ++ token),
          ("content-type", "application/json; charset=utf-8"), ("user-agent", client.agent)] := by
  obtain ⟨accept, contentType, authorization⟩ := lowered_names
  obtain ⟨url, addressed, sent⟩ := headers_of_request made
    ⟨"application/json", by rw [plain.entries_bearing]; exact List.mem_cons_self⟩
    (by
      rw [plain.entries_bearing]
      simp only [List.forall_mem_cons, accept, contentType, authorization]
      decide)
  change Url.read (client.speakingJson.url path) = .ok url at addressed
  rw [plain.url_speakingJson] at addressed
  refine ⟨url, addressed, ?_⟩
  change _ = _ ++ _ ++ [("user-agent", client.speakingJson.agent)] at sent
  rw [sent, plain.entries_bearing, plain.agent_speakingJson, List.append_assoc]
  simp only [List.map_cons, List.map_nil, accept, contentType, authorization, List.cons_append,
    List.nil_append]

end IsPlain

end RestClient
end LifecycleOperator
