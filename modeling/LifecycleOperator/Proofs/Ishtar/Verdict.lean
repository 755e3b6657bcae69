import LifecycleOperator.Proofs.Ishtar.Errand
import LifecycleOperator.Proofs.Json.Field

/-!
# What the answers of ishtar amount to

A request that was made with a token is answered, and the answer arrives in full.  For a probe
only the content counts then, and there is always a verdict: a fault would leave the health
undecided.  The status of a process is believed in every response that says it succeeded,
whatever its code is; the code is told in the fault of one that does not, while the fault of
a content that is not JSON tells the code 200 for all of them.
-/

namespace LifecycleOperator

/-- The responses in a transcript. -/
def Wire.responses (transcript : List Wire.Exchange) : List WebResponse :=
  transcript.filterMap fun
    | ⟨.web _, .ok response⟩ => some response
    | _ => none

namespace IshtarClient

variable {α : Type} {ishtar : IshtarClient} {kept : Option Credential} {errand : Errand α}
  {transcript : List Wire.Exchange} {answer : Except TransportFault WebResponse}

/-- There was a token, ishtar was asked with it, and this came back. -/
def Asked (ishtar : IshtarClient) (kept : Option Credential) (transcript : List Wire.Exchange)
    (answer : Except TransportFault WebResponse) : Prop :=
  ∃ front token left request,
    (ishtar.security.token kept).Yields front (.ok ⟨.ok token, left⟩) ∧
      transcript = front ++ [⟨.web request, answer⟩]

/-- An errand for which ishtar was asked results in what the answer means. -/
theorem Asked.result_eq {outcome : Except Fault (Outcome α)}
    (asked : ishtar.Asked kept transcript answer)
    (yields : (ishtar.perform kept errand).Yields transcript outcome) :
    ∃ left, outcome = .ok ⟨RestClient.meaning errand.reading answer, left⟩ := by
  obtain ⟨front, token, left, request, obtains, rfl⟩ := asked
  obtain ⟨done, rfl, performing⟩ := yields_perform_iff.mp yields
  generalize goes : front ++ [(⟨.web request, answer⟩ : Wire.Exchange)] = transcript at performing
  cases performing with
  | refused _ fault remaining obtaining =>
      cases (obtains.unique obtaining.yields (goes.trans (List.append_nil _).symm)).2
  | served other back token remaining given obtaining exchanging =>
      -- The token was obtained in the same exchanges, so that the request comes behind them.
      obtain ⟨rfl, -⟩ := obtains.unique obtaining.yields goes
      have same := List.append_cancel_left goes
      cases exchanging with
      | unsendable => cases same
      | sent sentRequest _ usable =>
          cases List.singleton_inj.mp same
          exact ⟨remaining, rfl⟩

/-- An errand goes without a token, without a request, or to what the answer means. -/
theorem cases_of_yields_perform {result : Except Fault α} {left : Option Credential}
    (yields : (ishtar.perform kept errand).Yields transcript (.ok ⟨result, left⟩)) :
    (∃ fault, result = .error fault ∧
      (ishtar.security.token kept).Yields transcript (.ok ⟨.error fault, left⟩)) ∨
    (∃ token cause, result = .error (.transport cause) ∧
      (ishtar.security.token kept).Yields transcript (.ok ⟨.ok token, left⟩)) ∨
    ∃ answer, result = RestClient.meaning errand.reading answer ∧
      ishtar.Asked kept transcript answer := by
  obtain ⟨_, same, performing⟩ := yields_perform_iff.mp yields
  obtain rfl := Except.ok.inj same
  rcases performing.result_eq with
    ⟨fault, rfl, obtaining⟩ | ⟨front, back, token, answer, rfl, obtaining, exchanging, rfl⟩
  · exact .inl ⟨fault, rfl, obtaining.yields⟩
  · cases exchanging with
    | unsendable cause unusable =>
        rw [List.append_nil]
        exact .inr (.inl ⟨token, cause, rfl, obtaining.yields⟩)
    | sent request _ usable =>
        exact .inr (.inr ⟨answer, rfl, front, token, left, request, obtaining.yields, rfl⟩)

/-- With a token ishtar is asked, if a request can be made, and answers whatever it likes. -/
theorem yields_perform_of_obtains
    {front : List Wire.Exchange} {token : String} {left : Option Credential} {request : WebRequest}
    (obtains : (ishtar.security.token kept).Yields front (.ok ⟨.ok token, left⟩))
    (made : (ishtar.bearer token).request errand.method errand.path errand.body = .ok request)
    (answer : Except TransportFault WebResponse) :
    ∃ result, (ishtar.perform kept errand).Yields (front ++ [⟨.web request, answer⟩])
      (.ok ⟨result, left⟩) := by
  obtain ⟨_, same, obtaining⟩ := SecurityService.yields_token_iff.mp obtains
  obtain rfl := Except.ok.inj same
  exact ⟨_, yields_perform_iff.mpr ⟨_, rfl, .served front [⟨.web request, answer⟩] token left answer
    obtaining (.sent request answer made)⟩⟩

/-- Ishtar is asked last. -/
theorem Asked.getLast?_responses {response : WebResponse}
    (asked : ishtar.Asked kept transcript (.ok response)) :
    (Wire.responses transcript).getLast? = some response := by
  obtain ⟨front, token, left, request, -, rfl⟩ := asked
  rw [Wire.responses, List.filterMap_append]
  exact List.getLast?_concat

/-- A result was read in the last response. -/
theorem asked_of_getLast? {result : α} {left : Option Credential} {response : WebResponse}
    (yields : (ishtar.perform kept errand).Yields transcript (.ok ⟨.ok result, left⟩))
    (last : (Wire.responses transcript).getLast? = some response) :
    ishtar.Asked kept transcript (.ok response) := by
  rcases cases_of_yields_perform yields with
    ⟨_, impossible, -⟩ | ⟨_, _, impossible, -⟩ | ⟨answer, means, asked⟩
  · cases impossible
  · cases impossible
  · cases answer with
    | error cause => cases means
    | ok given =>
        obtain rfl := Option.some.inj (asked.getLast?_responses.symm.trans last)
        exact asked

/-! ## Health -/

/-- A text says that the service is up in the last field of its status. -/
theorem isUp_iff (text : String) : isUp text = true ↔ Document.Tells text "status" "UP" := by
  rw [← Document.string?_get?_iff, isUp]
  cases Json.read? text <;> simp

/-- Of fields with the same name the last one counts. -/
example : isUp "\x7b\"status\": \"DOWN\", \"status\": \"UP\"\x7d" = true := by decide +kernel

/-- A response in full means a verdict. -/
theorem meaning_health_of_received {response : WebResponse} {text : String}
    (received : response.received = .ok text) :
    RestClient.meaning Errand.health.reading (.ok response) = .ok (isUp text) := by
  rw [Errand.meaning_health, received]
  rfl

/-- How a probe is decided. -/
structure Classifies (ishtar : IshtarClient) : Prop where
  /-- With a token ishtar is asked, and the probe comes to its end whatever the answer is. -/
  asks : ∀ kept front token left request answer,
    (ishtar.security.token kept).Yields front (.ok ⟨.ok token, left⟩) →
    (ishtar.bearer token).request "GET" "management/health" "" = .ok request →
    ∃ result, (ishtar.health kept).Yields (front ++ [⟨.web request, answer⟩]) (.ok ⟨result, left⟩)
  /-- A response in full is decided by the status in its content, and by nothing else. -/
  decides : ∀ kept transcript outcome response text,
    (ishtar.health kept).Yields transcript outcome →
    ishtar.Asked kept transcript (.ok response) → response.received = .ok text →
    ∃ verdict left, outcome = .ok ⟨.ok verdict, left⟩ ∧
      (verdict = true ↔ Document.Tells text "status" "UP")
  /-- Two responses with the same content are decided alike. -/
  alike : ∀ kept other transcript again (first second : WebResponse) result same left remaining,
    (ishtar.health kept).Yields transcript (.ok ⟨result, left⟩) →
    (ishtar.health other).Yields again (.ok ⟨same, remaining⟩) →
    ishtar.Asked kept transcript (.ok first) → ishtar.Asked other again (.ok second) →
    first.body = second.body → result = same
  /-- A probe fails only if there was no token, no request, or no response in full. -/
  fails : ∀ kept transcript fault left,
    (ishtar.health kept).Yields transcript (.ok ⟨.error fault, left⟩) →
    (ishtar.security.token kept).Yields transcript (.ok ⟨.error fault, left⟩) ∨
      (∃ token, (ishtar.security.token kept).Yields transcript (.ok ⟨.ok token, left⟩)) ∨
      ∃ answer, ishtar.Asked kept transcript answer ∧
        ∀ response text, answer = .ok response → response.received ≠ .ok text

/-- A probe is a verdict on the content of the response, whatever else there is to it. -/
theorem health_classifies (ishtar : IshtarClient) : ishtar.Classifies where
  asks := by
    intro kept front token left request answer obtains made
    have requests : (ishtar.bearer token).request Errand.health.method Errand.health.path
        Errand.health.body = .ok request := made
    rw [health_eq]
    exact yields_perform_of_obtains obtains requests answer
  decides := by
    intro kept transcript outcome response text yields asked received
    rw [health_eq] at yields
    obtain ⟨left, rfl⟩ := asked.result_eq yields
    rw [meaning_health_of_received received]
    exact ⟨isUp text, left, rfl, isUp_iff text⟩
  alike := by
    intro kept other transcript again first second result same left remaining yields yieldsToo
      asked askedToo sameBody
    rw [health_eq] at yields yieldsToo
    obtain ⟨_, ends⟩ := asked.result_eq yields
    obtain ⟨_, endsToo⟩ := askedToo.result_eq yieldsToo
    obtain ⟨rfl, -⟩ := Outcome.mk.inj (Except.ok.inj ends)
    obtain ⟨rfl, -⟩ := Outcome.mk.inj (Except.ok.inj endsToo)
    have sameReceived : first.received = second.received := by
      rw [WebResponse.received, WebResponse.received, sameBody]
    rw [Errand.meaning_health, Errand.meaning_health, sameReceived]
  fails := by
    intro kept transcript fault left yields
    rw [health_eq] at yields
    rcases cases_of_yields_perform yields with
      ⟨_, same, obtains⟩ | ⟨token, cause, -, obtains⟩ | ⟨answer, means, asked⟩
    · obtain rfl := Except.error.inj same
      exact .inl obtains
    · exact .inr (.inl ⟨token, obtains⟩)
    · refine .inr (.inr ⟨answer, asked, ?_⟩)
      rintro response text rfl received
      rw [meaning_health_of_received received] at means
      cases means

/-- Ishtar is up although its response says that it is unavailable. -/
theorem health_classifies_unavailable :
    let run := (demo.health none).run Web.Rehearsal.respond
      (demoServices [demoGrant, demoStatus 503 "UP"])
    run.outcome = .ok ⟨.ok true, some ⟨⟨"abc", "", 1200, ""⟩, 0⟩⟩ ∧
      ∃ text, (demoStatus 503 "UP").received = .ok text ∧ Document.Tells text "status" "UP" := by
  intro run
  have goes : run.outcome = .ok ⟨.ok true, some ⟨⟨"abc", "", 1200, ""⟩, 0⟩⟩ ∧
      (Wire.responses run.transcript).getLast? = some (demoStatus 503 "UP") := by
    decide +kernel
  obtain ⟨ends, last⟩ := goes
  have yields : (demo.health none).Yields run.transcript run.outcome := Program.run_yields _ _ _
  have asked : demo.Asked none run.transcript (.ok (demoStatus 503 "UP")) := by
    rw [health_eq, ends] at yields
    exact asked_of_getLast? yields last
  obtain ⟨verdict, left, same, tells⟩ :=
    (health_classifies demo).decides none run.transcript run.outcome _ _ yields asked rfl
  obtain ⟨isUp, -⟩ := Outcome.mk.inj (Except.ok.inj (ends.symm.trans same))
  exact ⟨ends, _, rfl, tells.mp (Except.ok.inj isUp).symm⟩

/-! ## Processes -/

/-- A text says the status of a process in its last field of that name. -/
theorem statusIn_eq_ok_iff {process text status : String} :
    Errand.statusIn process text = .ok status ↔ Document.Tells text "status" status := by
  rw [← Document.string?_get?_iff, Errand.statusIn]
  cases Json.read? text with
  | none => simp
  | some value =>
      simp only [Option.some.injEq, exists_eq_left', statusOf]
      cases (value.get? "status").bind Json.string? <;> simp

/-- The faults of a response in full that does not tell the status of a process. -/
inductive StatusFault (process : String) (response : WebResponse) (text : String) : Fault → Prop
  /-- The response says that the request did not succeed. -/
  | refused (refuses : response.isSuccess = false) :
      StatusFault process response text (RestClient.failure "Get" response)
  /-- The content is no JSON. -/
  | unreadable (succeeds : response.isSuccess = true)
      (noValue : ¬ ∃ document, Document.read? text = some document ∧ document.IsValue) :
      StatusFault process response text
        (.methodFailed "Get" 200 "invalid json body: not a value")
  /-- The content has no status. -/
  | silent (succeeds : response.isSuccess = true)
      (noStatus : ∀ status, ¬ Document.Tells text "status" status) :
      StatusFault process response text (.other ("process " ++ process ++ " has no status"))

/-- How the status of a process is reported. -/
structure Reports (ishtar : IshtarClient) : Prop where
  /-- With a token ishtar is asked, and the call comes to its end whatever the answer is. -/
  asks : ∀ process kept front token left request answer,
    (ishtar.security.token kept).Yields front (.ok ⟨.ok token, left⟩) →
    (ishtar.bearer token).request "GET" ("api/processes/" ++ process) "" = .ok request →
    ∃ result, (ishtar.assemblyStatus kept process).Yields (front ++ [⟨.web request, answer⟩])
      (.ok ⟨result, left⟩)
  /-- A status is told by a response that says the request succeeded, and that has one. -/
  tells : ∀ process kept transcript outcome response text,
    (ishtar.assemblyStatus kept process).Yields transcript outcome →
    ishtar.Asked kept transcript (.ok response) → response.received = .ok text →
    ∃ result left, outcome = .ok ⟨result, left⟩ ∧
      ∀ status, result = .ok status ↔
        response.isSuccess = true ∧ Document.Tells text "status" status
  /-- Everything else is a fault. -/
  fails : ∀ process kept transcript fault left response text,
    (ishtar.assemblyStatus kept process).Yields transcript (.ok ⟨.error fault, left⟩) →
    ishtar.Asked kept transcript (.ok response) → response.received = .ok text →
    StatusFault process response text fault
  /-- The code in a fault is the one of the response, except where the content is no JSON. -/
  codes : ∀ process kept transcript method code detail left response text,
    (ishtar.assemblyStatus kept process).Yields transcript
      (.ok ⟨.error (.methodFailed method code detail), left⟩) →
    ishtar.Asked kept transcript (.ok response) → response.received = .ok text →
    code = response.code ∨
      (code = 200 ∧ response.isSuccess = true ∧
        ¬ ∃ document, Document.read? text = some document ∧ document.IsValue)

/-- What a response in full means for a process. -/
theorem meaning_assemblyStatus_of_received {process text : String} {response : WebResponse}
    (received : response.received = .ok text) :
    RestClient.meaning (Errand.assemblyStatus process).reading (.ok response) =
      if response.isSuccess = true then Errand.statusIn process text
      else .error (RestClient.failure "Get" response) := by
  rw [Errand.meaning_assemblyStatus, RestClient.textOf, received]
  cases response.isSuccess <;> rfl

/-- The content of a response that succeeds has a status, or fails in one of two ways. -/
theorem statusFault_of_statusIn
    {process text : String} {response : WebResponse} {fault : Fault}
    (succeeds : response.isSuccess = true) (fails : Errand.statusIn process text = .error fault) :
    StatusFault process response text fault := by
  have noStatus : ∀ status, ¬ Document.Tells text "status" status := by
    intro status tells
    rw [statusIn_eq_ok_iff.mpr tells] at fails
    cases fails
  rw [Errand.statusIn] at fails
  cases read : Json.read? text with
  | none =>
      rw [read] at fails
      obtain rfl := Except.error.inj fails
      refine .unreadable succeeds ?_
      rw [← Document.isSome_read?_iff, read]
      exact Bool.false_ne_true
  | some value =>
      rw [read] at fails
      simp only [statusOf] at fails
      split at fails
      · cases fails
      · obtain rfl := Except.error.inj fails
        exact .silent succeeds noStatus

/-- A status that is not told is a fault. -/
theorem statusFault_of_asked
    {process text : String} {response : WebResponse} {fault : Fault} {left : Option Credential}
    (yields : (ishtar.assemblyStatus kept process).Yields transcript (.ok ⟨.error fault, left⟩))
    (asked : ishtar.Asked kept transcript (.ok response)) (received : response.received = .ok text) :
    StatusFault process response text fault := by
  rw [assemblyStatus_eq] at yields
  obtain ⟨_, ends⟩ := asked.result_eq yields
  obtain ⟨means, -⟩ := Outcome.mk.inj (Except.ok.inj ends)
  rw [meaning_assemblyStatus_of_received received] at means
  split at means
  · rename_i succeeds
    exact statusFault_of_statusIn succeeds means.symm
  · rename_i refuses
    obtain rfl := Except.error.inj means
    exact .refused (Bool.eq_false_iff.mpr refuses)

/--
The status of a process is reported from every response that says the request succeeded, be
its code 200 or another one, and from no other response.
-/
theorem assemblyStatus_reports (ishtar : IshtarClient) : ishtar.Reports where
  asks := by
    intro process kept front token left request answer obtains made
    have requests : (ishtar.bearer token).request (Errand.assemblyStatus process).method
        (Errand.assemblyStatus process).path (Errand.assemblyStatus process).body =
          .ok request := made
    rw [assemblyStatus_eq]
    exact yields_perform_of_obtains obtains requests answer
  tells := by
    intro process kept transcript outcome response text yields asked received
    rw [assemblyStatus_eq] at yields
    obtain ⟨left, rfl⟩ := asked.result_eq yields
    refine ⟨_, left, rfl, fun status => ?_⟩
    rw [meaning_assemblyStatus_of_received received]
    cases response.isSuccess <;> simp [statusIn_eq_ok_iff]
  fails _ _ _ _ _ _ _ yields asked received := statusFault_of_asked yields asked received
  codes := by
    intro process kept transcript method code detail left response text yields asked received
    generalize ends : Fault.methodFailed method code detail = fault at yields
    cases statusFault_of_asked yields asked received with
    | refused refuses =>
        cases ends
        exact .inl rfl
    | unreadable succeeds noValue =>
        cases ends
        exact .inr ⟨rfl, succeeds, noValue⟩
    | silent succeeds noStatus => cases ends

/--
A request that was only accepted is taken for one that was answered: its status is believed,
and the fault of a content without JSON tells the code 200.
-/
theorem assemblyStatus_reports_accepted :
    let told := (demo.assemblyStatus none "12").run Web.Rehearsal.respond
      (demoServices [demoGrant, demoStatus 202 "InProgress"])
    let untold := (demo.assemblyStatus none "12").run Web.Rehearsal.respond
      (demoServices [demoGrant, ⟨202, [], "accepted"⟩])
    let kept : Option Credential := some ⟨⟨"abc", "", 1200, ""⟩, 0⟩
    let fault : Fault := .methodFailed "Get" 200 "invalid json body: not a value"
    told.outcome = .ok ⟨.ok "InProgress", kept⟩ ∧ untold.outcome = .ok ⟨.error fault, kept⟩ ∧
      ∃ text, (demoStatus 202 "InProgress").received = .ok text ∧
        Document.Tells text "status" "InProgress" := by
  intro told untold kept fault
  have goes : told.outcome = .ok ⟨.ok "InProgress", kept⟩ ∧
      untold.outcome = .ok ⟨.error fault, kept⟩ ∧
      (Wire.responses told.transcript).getLast? = some (demoStatus 202 "InProgress") := by
    decide +kernel
  obtain ⟨ends, fails, last⟩ := goes
  have yields : (demo.assemblyStatus none "12").Yields told.transcript told.outcome :=
    Program.run_yields _ _ _
  have asked : demo.Asked none told.transcript (.ok (demoStatus 202 "InProgress")) := by
    rw [assemblyStatus_eq, ends] at yields
    exact asked_of_getLast? yields last
  obtain ⟨result, left, same, tells⟩ := (assemblyStatus_reports demo).tells "12" none
    told.transcript told.outcome _ _ yields asked rfl
  obtain ⟨rfl, -⟩ := Outcome.mk.inj (Except.ok.inj (ends.symm.trans same))
  exact ⟨ends, fails, _, rfl, ((tells "InProgress").mp rfl).2⟩

end IshtarClient
end LifecycleOperator
