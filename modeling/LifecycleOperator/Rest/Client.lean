import LifecycleOperator.Json.Decode
import LifecycleOperator.Json.Printer
import LifecycleOperator.Operator.Wire
import LifecycleOperator.Text.Base64

/-!
# Client of web services

A client knows the address of a service and the headers that go with every
request.  Paths are joined to the address with a single slash, and a header that
is set already is not replaced by the ones for JSON.
-/

namespace LifecycleOperator

/-- A client of a web service. -/
structure RestClient where
  /-- The address of the service, without slashes at its end. -/
  base : String
  /-- The headers by their names, as they were given. -/
  headers : OrderedMap String
  /-- The timeout of a request, in seconds. -/
  timeout : Nat
  /-- Whether a service may identify itself by any certificate. -/
  acceptsAnyCertificate : Bool
  agent : String
  deriving DecidableEq, Inhabited

namespace RestClient

/-- The timeout about which nothing is said, in seconds. -/
def defaultTimeout : Nat := 120

/-- A text without slashes at its end. -/
def trimEnd (text : String) : String :=
  String.ofList (text.toList.reverse.dropWhile (· == '/')).reverse

/-- A text without slashes at its beginning. -/
def trimStart (text : String) : String :=
  String.ofList (text.toList.dropWhile (· == '/'))

/-- The client of the service at an address. -/
def ofBase (agent base : String) : RestClient :=
  ⟨trimEnd base, .empty, defaultTimeout, false, agent⟩

/-- The address of a path; the address of the service if there is no path. -/
def url (client : RestClient) (path : String) : String :=
  let path := trimStart path
  if path.isEmpty then client.base else client.base ++ "/" ++ path

/-! ## Headers -/

def withHeader (client : RestClient) (name value : String) : RestClient :=
  { client with headers := client.headers.insert name value }

/-- Set a header, unless it is set under this very name. -/
def withMissingHeader (client : RestClient) (name value : String) : RestClient :=
  if (client.headers.get? name).isSome then client else client.withHeader name value

def sendingJson (client : RestClient) : RestClient :=
  client.withMissingHeader "Content-Type" "application/json; charset=utf-8"

def expectingJson (client : RestClient) : RestClient :=
  client.withMissingHeader "Accept" "application/json"

/-- Say that JSON is sent and expected. -/
def speakingJson (client : RestClient) : RestClient :=
  client.sendingJson.expectingJson

def bearing (client : RestClient) (token : String) : RestClient :=
  client.withHeader "Authorization" ("Bearer " ++ token)

def withTimeout (client : RestClient) (seconds : Nat) : RestClient :=
  { client with timeout := seconds }

/-- Say whether a service may identify itself by any certificate. -/
def acceptingAnyCertificate (client : RestClient) (accepts : Bool) : RestClient :=
  { client with acceptsAnyCertificate := accepts }

/-! ## Requests -/

/-- Whether a character can stand in the name of a header. -/
def isTokenChar (character : Char) : Bool :=
  character.isAlphanum || "!#$%&'*+-.^_`|~".toList.contains character

/-- Whether a text is the name of a header. -/
def isHeaderName (name : String) : Bool :=
  !name.isEmpty && name.toList.all isTokenChar

/-- Whether a text is the value of a header: no controls but the tabulator. -/
def isHeaderValue (value : String) : Bool :=
  value.toList.all fun character =>
    character == '\t' || (0x20 ≤ character.toNat && character.toNat != 0x7F)

/-- The headers as they are sent, if all of them can be. -/
def sentHeaders : Entries String → Option (List (String × String))
  | [] => some []
  | (name, value) :: rest =>
      if isHeaderName name && isHeaderValue value then
        (sentHeaders rest).map ((name.map Char.toLower, value) :: ·)
      else none

/-- Add a header, unless one of its name is there. -/
def addDefault (name value : String) (headers : List (String × String)) :
    List (String × String) :=
  if (headers.lookup name).isSome then headers else headers ++ [(name, value)]

/-- The header that shows a user, with a name and a password, to a service. -/
def userHeader (user : UrlUser) : String × String :=
  let shown := user.name ++ ":" ++ user.password.getD ""
  ("authorization", "Basic " ++ String.ofList (Text.base64 shown.toUTF8.toList))

/-- The request to a path.  A user in the address goes into a header of its own. -/
def request (client : RestClient) (method path body : String) :
    Except TransportFault WebRequest :=
  match Url.read (client.url path), sentHeaders client.headers.entries with
  | .error .malformed, _ => .error .unusableRequest
  | .error (.foreignScheme url), _ => .error (.foreignScheme url)
  | .ok _, none => .error .unusableRequest
  | .ok url, some headers =>
      let headers := (url.user.map userHeader).toList ++ headers
      .ok ⟨method, { url with user := none },
        addDefault "accept" "*/*" (addDefault "user-agent" client.agent headers), body⟩

/-- Send a request to a path; there may be no answer. -/
def exchange (client : RestClient) (method path body : String) :
    Wire (Except TransportFault WebResponse) :=
  match client.request method path body with
  | .error cause => pure (.error cause)
  | .ok request => .ask (.web request) pure

def send (client : RestClient) (method path body : String) : Wire WebResponse := do
  match ← client.exchange method path body with
  | .ok response => return response
  | .error cause => throw (.transport cause)

/-- Read the content of a response; it may break off. -/
def receive (response : WebResponse) : Wire String :=
  Program.ofExcept (response.received.mapError Fault.transport)

def get (client : RestClient) (path : String) : Wire WebResponse :=
  client.send "GET" path ""

def post (client : RestClient) (path body : String) : Wire WebResponse :=
  client.send "POST" path body

def postJson (client : RestClient) (path : String) (value : Json) : Wire WebResponse :=
  client.post path value.text

/-- The fault of a response that is not the expected one. -/
def failure (method : String) (response : WebResponse) : Fault :=
  .methodFailed method response.code
    ("The server returned the error: " ++ toString response.code ++ " " ++
      (responseReason? response.code).getD "unknown" ++ " | " ++ response.text)

def getText (client : RestClient) (path : String) : Wire String := do
  let response ← client.get path
  if response.isSuccess then receive response
  else throw (failure "Get" response)

/-- Get the JSON at a path; content that is no JSON is a failure of the service. -/
def getJson (client : RestClient) (path : String) : Wire Json := do
  match Json.read? (← client.getText path) with
  | some value => return value
  | none => throw (.methodFailed "Get" 200 "invalid json body: not a value")

end RestClient

end LifecycleOperator
