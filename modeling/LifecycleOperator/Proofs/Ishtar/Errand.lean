import LifecycleOperator.Ishtar.Client
import LifecycleOperator.Proofs.Token.Obtaining
import LifecycleOperator.Rest.Rehearsal
import Mathlib.Data.List.Basic

/-!
# Errands at ishtar

Every call to ishtar is an errand: a token is obtained, one request is made with it, and the
response is read.  What the calls have in common is shown here for all errands at once; they
differ in what they request and in how they read the response.
-/

namespace LifecycleOperator

/-- One request, and how the response to it is read. -/
structure Errand (α : Type) where
  method : String
  path : String
  body : String
  reading : WebResponse → Except Fault α

namespace Errand

/-- The status of a process, which is read in the content of an answer. -/
def statusIn (process text : String) : Except Fault String :=
  match Json.read? text with
  | some answer => IshtarClient.statusOf process answer
  | none => .error (.methodFailed "Get" 200 "invalid json body: not a value")

/-- To ask whether the service is up. -/
def health : Errand Bool where
  method := "GET"
  path := "management/health"
  body := ""
  reading response := (response.received.mapError Fault.transport).map IshtarClient.isUp

/-- To ask for an assembly. -/
def createAssembly (request : AssemblyRequest) : Errand String where
  method := "POST"
  path := "api/intent/createAssembly"
  body := request.toJson.text
  reading := IshtarClient.processOf

/-- To ask how far a process has come. -/
def assemblyStatus (process : String) : Errand String where
  method := "GET"
  path := "api/processes/" ++ process
  body := ""
  reading response := (RestClient.textOf response).bind (statusIn process)

/-- A response to a probe is read whatever its code is. -/
theorem meaning_health (response : WebResponse) :
    RestClient.meaning health.reading (.ok response) =
      (response.received.mapError Fault.transport).map IshtarClient.isUp := rfl

/-- The status of a process is looked for in the content of a response that succeeds. -/
theorem meaning_assemblyStatus (process : String) (response : WebResponse) :
    RestClient.meaning (assemblyStatus process).reading (.ok response) =
      (RestClient.textOf response).bind (statusIn process) := rfl

end Errand

namespace IshtarClient

variable {α : Type} {ishtar : IshtarClient} {kept : Option Credential}

/-- Run an errand. -/
def perform (ishtar : IshtarClient) (kept : Option Credential) (errand : Errand α) :
    Wire (Outcome α) :=
  ishtar.authorized kept fun client =>
    client.send errand.method errand.path errand.body >>= fun response =>
      Program.ofExcept (errand.reading response)

theorem health_eq : ishtar.health kept = ishtar.perform kept .health := by
  unfold health perform RestClient.get
  refine congrArg (ishtar.authorized kept) (funext fun client => bind_congr fun response => ?_)
  simp only [RestClient.receive, Errand.health]
  cases response.received with
  | error cause => exact Program.ofExcept_error_bind _ _
  | ok text => exact Program.ofExcept_ok_bind _ _

theorem createAssembly_eq (request : AssemblyRequest) :
    ishtar.createAssembly kept request = ishtar.perform kept (.createAssembly request) := by
  unfold createAssembly perform RestClient.postJson RestClient.post
  simp only [Errand.createAssembly]

/-- The content of an answer is read as its status. -/
theorem ofExcept_statusIn (process text : String) :
    (Program.ofExcept (Errand.statusIn process text) : Wire String) =
      (match Json.read? text with
        | some value => pure value
        | none => throw (.methodFailed "Get" 200 "invalid json body: not a value")) >>=
          fun answer => Program.ofExcept (statusOf process answer) := by
  unfold Errand.statusIn
  cases Json.read? text with
  | none => rfl
  | some answer => rfl

theorem assemblyStatus_eq (process : String) :
    ishtar.assemblyStatus kept process = ishtar.perform kept (.assemblyStatus process) := by
  unfold assemblyStatus perform RestClient.getJson
  simp only [RestClient.getText_eq, bind_assoc, Errand.assemblyStatus]
  refine congrArg (ishtar.authorized kept) (funext fun client => bind_congr fun response => ?_)
  cases RestClient.textOf response with
  | error fault => rfl
  | ok text => exact (ofExcept_statusIn process text).symm

/-! ## How an errand goes -/

variable {errand : Errand α} {transcript : List Wire.Exchange}

/-- A client of ishtar that shows a token. -/
def bearer (ishtar : IshtarClient) (token : String) : RestClient :=
  ishtar.client.speakingJson.bearing token

/-- The ways in which an errand goes. -/
inductive Performing (ishtar : IshtarClient) (kept : Option Credential) (errand : Errand α) :
    List Wire.Exchange → Outcome α → Prop
  /-- There is no token, and ishtar is left alone. -/
  | refused (front : List Wire.Exchange) (fault : Fault) (left : Option Credential)
      (obtaining : ishtar.security.Obtaining kept front ⟨.error fault, left⟩) :
      Performing ishtar kept errand front ⟨.error fault, left⟩
  /-- There is a token, and a request with it is made, or cannot be made. -/
  | served (front back : List Wire.Exchange) (token : String) (left : Option Credential)
      (answer : Except TransportFault WebResponse)
      (obtaining : ishtar.security.Obtaining kept front ⟨.ok token, left⟩)
      (exchanging : (ishtar.bearer token).Exchanging errand.method errand.path errand.body
        back answer) :
      Performing ishtar kept errand (front ++ back) ⟨RestClient.meaning errand.reading answer, left⟩

/-- There was no token, or the result is what an answer means. -/
theorem Performing.result_eq
    {result : Except Fault α} {left : Option Credential}
    (performing : ishtar.Performing kept errand transcript ⟨result, left⟩) :
    (∃ fault, result = .error fault ∧
      ishtar.security.Obtaining kept transcript ⟨.error fault, left⟩) ∨
    ∃ front back token answer, transcript = front ++ back ∧
      ishtar.security.Obtaining kept front ⟨.ok token, left⟩ ∧
      (ishtar.bearer token).Exchanging errand.method errand.path errand.body back answer ∧
      result = RestClient.meaning errand.reading answer := by
  generalize ended : (⟨result, left⟩ : Outcome α) = outcome at performing
  cases performing with
  | refused front fault remaining obtaining =>
      cases ended
      exact .inl ⟨fault, rfl, obtaining⟩
  | served front back token remaining answer obtaining exchanging =>
      cases ended
      exact .inr ⟨front, back, token, answer, rfl, obtaining, exchanging, rfl⟩

/-- An errand goes in one of these ways, and always comes to an outcome. -/
theorem yields_perform_iff {outcome : Except Fault (Outcome α)} :
    (ishtar.perform kept errand).Yields transcript outcome ↔
      ∃ done, outcome = .ok done ∧ ishtar.Performing kept errand transcript done := by
  unfold perform authorized
  rw [Program.yields_bind_iff_of_ok SecurityService.yields_token_iff]
  constructor
  · rintro ⟨⟨token, left⟩, front, back, rfl, obtaining, goesOn⟩
    cases token with
    | error fault =>
        obtain ⟨rfl, rfl⟩ := Program.yields_done_iff.mp goesOn
        rw [List.append_nil]
        exact ⟨_, rfl, .refused front fault left obtaining⟩
    | ok token =>
        obtain ⟨ended, asked, rest, rfl, uses, ends⟩ :=
          (Program.yields_bind_iff_of_ok Program.yields_attempt_iff).mp goesOn
        obtain ⟨answer, rfl, exchanging⟩ := RestClient.yields_reading_iff.mp uses
        obtain ⟨rfl, rfl⟩ := Program.yields_done_iff.mp ends
        rw [List.append_nil]
        exact ⟨_, rfl, .served front asked token left answer obtaining exchanging⟩
  · rintro ⟨_, rfl, performing⟩
    cases performing with
    | refused front fault left obtaining =>
        exact ⟨_, transcript, [], (List.append_nil _).symm, obtaining, .done _⟩
    | served front back token left answer obtaining exchanging =>
        refine ⟨_, front, back, rfl, obtaining, ?_⟩
        refine (Program.yields_bind_iff_of_ok Program.yields_attempt_iff).mpr ⟨_, back, [],
          (List.append_nil _).symm,
          RestClient.yields_reading_iff.mpr ⟨answer, rfl, exchanging⟩, ?_⟩
        exact .done _

/-! ## A rehearsal -/

deriving instance DecidableEq for Outcome

/-- A client of ishtar that finds the security service at the same authority. -/
def demo : IshtarClient where
  client := .ofBase "agent" "http://localhost"
  security := ⟨.ofBase "agent" "http://localhost", "user", "secret"⟩

/-- Both services at that authority: one response after the other, and then none. -/
def demoServices (responses : List WebResponse) : Web.Rehearsal where
  authority := "localhost"
  plan := .inTurn (responses.map .respond) .hangUp
  now := 0
  arrivals := []

/-- A login succeeds. -/
def demoGrant : WebResponse :=
  ⟨200, [], (Authorization.toJson ⟨"abc", "", 1200, ""⟩).text⟩

/-- A status is told. -/
def demoStatus (code : Nat) (status : String) : WebResponse :=
  ⟨code, [], (Json.ofFields [("status", .string status)]).text⟩

end IshtarClient
end LifecycleOperator
