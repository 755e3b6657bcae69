import LifecycleOperator.Rest.Assembly
import LifecycleOperator.Token.Login

/-!
# Client of ishtar

Every call shows the token of the cache.  The credential that the cache keeps is
handed through the calls: it is what it was before, unless a login renewed it.
-/

namespace LifecycleOperator

/-- A client of ishtar. -/
structure IshtarClient where
  client : RestClient
  security : SecurityService
  deriving DecidableEq, Inhabited

namespace IshtarClient

/-- What a call leaves behind: how it ended, and the credential that is kept. -/
structure Outcome (α : Type) where
  /-- The result, or why there is none. -/
  result : Except Fault α
  kept : Option Credential

/-- Use the service with a token; without one it is left alone. -/
def authorized
    (ishtar : IshtarClient) (kept : Option Credential) (use : RestClient → Wire α) :
    Wire (Outcome α) := do
  let obtained ← ishtar.security.token kept
  match obtained.token with
  | .error fault => return ⟨.error fault, obtained.kept⟩
  | .ok token =>
      let result ← (use (ishtar.client.speakingJson.bearing token)).attempt
      return ⟨result, obtained.kept⟩

/-! ## Health -/

/-- Whether the content of an answer says that the service is up. -/
def isUp (text : String) : Bool :=
  match Json.read? text with
  | some health => (health.get? "status").bind Json.string? == some "UP"
  | none => false

/-- Whether the service is up; the code of the answer says nothing about it. -/
def health (ishtar : IshtarClient) (kept : Option Credential) : Wire (Outcome Bool) :=
  ishtar.authorized kept fun client => do
    let response ← client.get "management/health"
    return isUp (← RestClient.receive response)

/-! ## Assemblies -/

/-- What stands behind the last slash, where slashes at the end do not count. -/
def processId? (location : String) : Option String :=
  let trimmed := location.toList.reverse.dropWhile (· == '/')
  match (trimmed.takeWhile (· != '/')).reverse with
  | [] => none
  | id => some (String.ofList id)

/-- Whether the value of a header can be read as text. -/
def isReadable (value : String) : Bool :=
  value.toList.all fun character =>
    character == '\t' || (0x20 ≤ character.toNat && character.toNat < 0x7F)

/-- The place that a response points to; empty if there is none to read. -/
def locationOf (response : WebResponse) : String :=
  match response.header? "location" with
  | some location => if isReadable location then location else ""
  | none => ""

/-- The process that a response says to be at work. -/
def processOf (response : WebResponse) : Except Fault String :=
  if response.code != 201 then .error (RestClient.failure "Post" response)
  else
    let location := locationOf response
    match processId? location with
    | some id => .ok id
    | none => .error (.other ("no process id in location '" ++ location ++ "'"))

/-- Ask for an assembly; the process that takes care of it. -/
def createAssembly
    (ishtar : IshtarClient) (kept : Option Credential) (request : AssemblyRequest) :
    Wire (Outcome String) :=
  ishtar.authorized kept fun client => do
    let response ← client.postJson "api/intent/createAssembly" request.toJson
    Program.ofExcept (processOf response)

def statusOf (process : String) (answer : Json) : Except Fault String :=
  match (answer.get? "status").bind Json.string? with
  | some status => .ok status
  | none => .error (.other ("process " ++ process ++ " has no status"))

def assemblyStatus
    (ishtar : IshtarClient) (kept : Option Credential) (process : String) :
    Wire (Outcome String) :=
  ishtar.authorized kept fun client => do
    let answer ← client.getJson ("api/processes/" ++ process)
    Program.ofExcept (statusOf process answer)

end IshtarClient

end LifecycleOperator
