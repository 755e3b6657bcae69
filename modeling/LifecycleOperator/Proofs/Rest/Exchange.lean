import LifecycleOperator.Proofs.Program.Transcript
import LifecycleOperator.Rest.Client

/-!
# Exchanges with services

What a client of a web service does over the wire, taken apart: a request that can be made
of what the client knows is sent once, and whatever comes back is handed on.
-/

namespace LifecycleOperator

namespace Program

variable {interface : Interface} {α β : Type}

/-- An attempt asks what the program asks, and turns its end into a result. -/
theorem yields_attempt_iff
    {program : Program interface α}
    {transcript : List (Exchange interface)}
    {outcome : Except Fault (Except Fault α)} :
    program.attempt.Yields transcript outcome ↔
      ∃ ended, outcome = .ok ended ∧ program.Yields transcript ended := by
  induction program generalizing transcript with
  | done given =>
      simp only [attempt_done, yields_done_iff]
      constructor
      · rintro ⟨rfl, rfl⟩
        exact ⟨given, rfl, rfl, rfl⟩
      · rintro ⟨_, rfl, rfl, rfl⟩
        exact ⟨rfl, rfl⟩
  | ask call next inductionHypothesis =>
      simp only [attempt_ask, yields_ask_iff, inductionHypothesis]
      constructor
      · rintro ⟨answer, rest, rfl, ended, rfl, yields⟩
        exact ⟨ended, rfl, answer, rest, rfl, yields⟩
      · rintro ⟨ended, rfl, answer, rest, rfl, yields⟩
        exact ⟨answer, rest, rfl, ended, rfl, yields⟩

@[simp] theorem ofExcept_ok_bind (result : α) (next : α → Program interface β) :
    (ofExcept (.ok result) >>= next) = next result := rfl

@[simp] theorem ofExcept_error_bind (fault : Fault) (next : α → Program interface β) :
    (ofExcept (.error fault) >>= next) = ofExcept (.error fault) := rfl

end Program

/-- A call over the wire with its answer. -/
abbrev Wire.Exchange := Program.Exchange Wire.interface

namespace RestClient

variable {client : RestClient} {method path body : String}

/-- The ways in which a request to a path goes. -/
inductive Exchanging (client : RestClient) (method path body : String) :
    List Wire.Exchange → Except TransportFault WebResponse → Prop
  /-- No request can be made of what the client knows. -/
  | unsendable (cause : TransportFault)
      (unusable : client.request method path body = .error cause) :
      Exchanging client method path body [] (.error cause)
  /-- The request is sent. -/
  | sent (request : WebRequest) (answer : Except TransportFault WebResponse)
      (usable : client.request method path body = .ok request) :
      Exchanging client method path body [⟨.web request, answer⟩] answer

theorem yields_exchange_iff
    {transcript : List Wire.Exchange}
    {outcome : Except Fault (Except TransportFault WebResponse)} :
    (client.exchange method path body).Yields transcript outcome ↔
      ∃ answer, outcome = .ok answer ∧
        client.Exchanging method path body transcript answer := by
  unfold exchange
  constructor
  · intro yields
    cases made : client.request method path body with
    | error cause =>
        rw [made] at yields
        obtain ⟨rfl, rfl⟩ := Program.yields_done_iff.mp yields
        exact ⟨_, rfl, .unsendable cause made⟩
    | ok request =>
        rw [made] at yields
        obtain ⟨answer, rest, rfl, ends⟩ := Program.yields_ask_iff.mp yields
        obtain ⟨rfl, rfl⟩ := Program.yields_done_iff.mp ends
        exact ⟨_, rfl, .sent request answer made⟩
  · rintro ⟨answer, rfl, exchanging⟩
    cases exchanging with
    | unsendable cause unusable =>
        rw [unusable]
        exact .done _
    | sent request _ usable =>
        rw [usable]
        exact .ask _ _ _ _ _ (.done _)

/-- A request that gets no answer is a failure of the transport. -/
theorem yields_send_iff
    {transcript : List Wire.Exchange} {outcome : Except Fault WebResponse} :
    (client.send method path body).Yields transcript outcome ↔
      ∃ answer, outcome = answer.mapError Fault.transport ∧
        client.Exchanging method path body transcript answer := by
  unfold send
  rw [Program.yields_bind_iff_of_ok yields_exchange_iff]
  constructor
  · rintro ⟨answer, front, back, rfl, exchanging, ends⟩
    cases answer <;>
      (obtain ⟨rfl, rfl⟩ := Program.yields_done_iff.mp ends
       rw [List.append_nil]
       exact ⟨_, rfl, exchanging⟩)
  · rintro ⟨answer, rfl, exchanging⟩
    refine ⟨answer, transcript, [], (List.append_nil _).symm, exchanging, ?_⟩
    cases answer <;> exact .done _

/-! ## Reading responses -/

variable {α : Type}

/-- What an answer means to one who reads responses in this way. -/
def meaning (reading : WebResponse → Except Fault α)
    (answer : Except TransportFault WebResponse) : Except Fault α :=
  (answer.mapError Fault.transport).bind reading

/-- A request whose response is read ends with what the answer means. -/
theorem yields_reading_iff
    {reading : WebResponse → Except Fault α}
    {transcript : List Wire.Exchange} {outcome : Except Fault α} :
    (client.send method path body >>= fun response =>
      Program.ofExcept (reading response)).Yields transcript outcome ↔
      ∃ answer, outcome = meaning reading answer ∧
        client.Exchanging method path body transcript answer := by
  rw [Program.yields_bind_iff]
  constructor
  · rintro (⟨fault, sends, rfl⟩ | ⟨response, front, back, sends, ends, rfl⟩)
    · obtain ⟨answer, same, exchanging⟩ := yields_send_iff.mp sends
      cases answer with
      | error cause =>
          obtain rfl := Except.error.inj same
          exact ⟨.error cause, rfl, exchanging⟩
      | ok response => cases same
    · obtain ⟨answer, same, exchanging⟩ := yields_send_iff.mp sends
      cases answer with
      | error cause => cases same
      | ok given =>
          obtain rfl := Except.ok.inj same
          obtain ⟨rfl, rfl⟩ := Program.yields_done_iff.mp ends
          rw [List.append_nil]
          exact ⟨.ok response, rfl, exchanging⟩
  · rintro ⟨answer, rfl, exchanging⟩
    have sends := yields_send_iff.mpr ⟨answer, rfl, exchanging⟩
    cases answer with
    | error cause => exact .inl ⟨_, sends, rfl⟩
    | ok response =>
        exact .inr ⟨response, transcript, [], sends, .done _, (List.append_nil _).symm⟩

/-- The content of a response that says that the request succeeded. -/
def textOf (response : WebResponse) : Except Fault String :=
  if response.isSuccess then response.received.mapError Fault.transport
  else .error (failure "Get" response)

/-- Content that is not to be had has broken off, or stands in a response that refuses. -/
theorem textOf_eq_error {response : WebResponse} {fault : Fault}
    (fails : textOf response = .error fault) :
    (∃ cause, fault = .transport cause) ∨ fault = failure "Get" response := by
  unfold textOf at fails
  split at fails
  · cases received : response.received with
    | error cause =>
        rw [received] at fails
        obtain rfl := Except.error.inj fails
        exact .inl ⟨cause, rfl⟩
    | ok text =>
        rw [received] at fails
        cases fails
  · obtain rfl := Except.error.inj fails
    exact .inr rfl

theorem getText_eq (client : RestClient) (path : String) :
    client.getText path =
      client.send "GET" path "" >>= fun response => Program.ofExcept (textOf response) := by
  unfold getText get
  refine bind_congr fun response => ?_
  unfold textOf
  cases response.isSuccess with
  | false => rfl
  | true => rfl

end RestClient
end LifecycleOperator
