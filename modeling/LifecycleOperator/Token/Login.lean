import LifecycleOperator.Rest.Client
import LifecycleOperator.Token.Cache

/-!
# Login

How the token cache gets its credential: by a login with name and password at
the security service.
-/

namespace LifecycleOperator

/-- The security service, and as whom to log in there. -/
structure SecurityService where
  client : RestClient
  username : String
  password : String
  deriving DecidableEq, Inhabited

namespace SecurityService

def credentials (service : SecurityService) : Json :=
  Json.ofFields
    [("username", .string service.username), ("password", .string service.password)]

def refused (service : SecurityService) (why : String) : Fault :=
  .loginFailed service.username why

def statusLine (code : Nat) : String :=
  toString code ++ " " ++ (responseReason? code).getD "<unknown status code>"

/-- What an answer to a login means. -/
def authorizationOf (service : SecurityService) :
    Except TransportFault WebResponse → Except Fault Authorization
  | .error cause => .error (service.refused (Fault.transport cause).message)
  | .ok response =>
      if response.code != 200 then
        .error (service.refused ("the server answered " ++ statusLine response.code))
      else
        match response.received with
        | .error cause => .error (.transport cause)
        | .ok text =>
            match (Document.read? text).bind Authorization.decode with
            | some authorization => .ok authorization
            | none => .error (service.refused "unexpected answer: not an authorization")

def login (service : SecurityService) : Wire (Except Fault Authorization) :=
  (service.client.speakingJson.exchange "POST" "api/login" service.credentials.text) >>=
    fun answer => pure (service.authorizationOf answer)

/-- What the holder of the lock of the token cache asks for, done at the service. -/
def implement (service : SecurityService) :
    Program.Translator TokenCache.interface Wire.interface Unit
  | .now, _ => .ask .now fun now => pure (now, ())
  | .pause nanoseconds, _ => .ask (.pause nanoseconds) fun _ => pure ((), ())
  | .login, _ => service.login >>= fun outcome => pure (outcome, ())

def token (service : SecurityService) (kept : Option Credential) :
    Wire TokenCache.Outcome := do
  match ← (TokenCache.access kept).translate service.implement () with
  | (.ok outcome, _) => return outcome
  | (.error fault, _) => return ⟨.error fault, kept⟩

end SecurityService

end LifecycleOperator
