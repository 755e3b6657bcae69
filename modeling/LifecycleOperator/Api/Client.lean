import LifecycleOperator.Api.Message
import LifecycleOperator.Cluster.Call
import LifecycleOperator.Console.Identity
import LifecycleOperator.Console.Timestamp
import LifecycleOperator.Fault
import LifecycleOperator.Rest.Message

/-!
# Client of the cluster

Every call on the cluster is one request, and the response to the request is the
answer to the call.  An object that is not found is an answer; a name that is
taken is a fault of its own; everything else that the cluster refuses is handed
on as the cluster explains it.
-/

namespace LifecycleOperator
namespace Api

/-- A request that cannot be made, or a response that cannot be understood. -/
def unusable (message : String) : Fault :=
  .cluster (.unusable (.ofMessage message))

/-! ## Requests -/

/-- Whether a character can stand in a path. -/
def isPathChar (character : Char) : Bool :=
  0x21 ≤ character.toNat && character.toNat != 0x7F &&
    !(['<', '>', '\\', '^', '`'].contains character)

/-- A request to a path, if the path can be written. -/
def request (method path : String) (body : Option Json) : Except Fault ApiRequest :=
  if path.toList.all isPathChar then .ok ⟨method, path, body⟩
  else .error (unusable "invalid uri character")

/-- A request to the object of a name, which must not be empty. -/
def namedRequest
    (method : String) (kind : Kind) (namespaceName name ending : String)
    (body : Option Json) : Except Fault ApiRequest :=
  if name.isEmpty then .error (unusable "the name of an object is empty")
  else request method (kind.path namespaceName ++ "/" ++ name ++ ending) body

/-- The namespace of events about what has none. -/
def eventNamespace (installation : Installation) : String :=
  installation.metadata.namespaceName.getD "kube-system"

/-- The path of events in a namespace. -/
def eventPath (namespaceName : String) : String :=
  "/apis/events.k8s.io/v1/namespaces/" ++ namespaceName ++ "/events"

def eventBody
    (reporter : Reporter) (moment : Timestamp) (installation : Installation)
    (event : Event) : Json :=
  let namespaceField : List (String × Json) :=
    (installation.metadata.namespaceName.map fun name => ("namespace", Json.string name)).toList
  let related : List (String × Json) :=
    (event.secondary.map fun reference => ("related", reference.toJson)).toList
  Json.ofFields <|
    [("apiVersion", .string "events.k8s.io/v1"), ("kind", .string "Event"),
      ("metadata", Json.ofFields
        (("generateName", .string (reporter.controller ++ "-")) :: namespaceField)),
      ("action", .string event.action), ("eventTime", .string moment.microsecondText),
      ("note", .string event.note), ("reason", .string event.reason),
      ("regarding", installation.reference.toJson),
      ("reportingController", .string reporter.controller),
      ("reportingInstance", .string reporter.instanceName),
      ("type", .string event.severity.text)] ++ related

def requestOf (reporter : Reporter) (moment : Timestamp) :
    ClusterCall → Except Fault ApiRequest
  | .lookup kind namespaceName name => namedRequest "GET" kind namespaceName name "" none
  | .create kind namespaceName object =>
      request "POST" (kind.path namespaceName) (some object.toJson)
  | .replace kind namespaceName name object =>
      namedRequest "PUT" kind namespaceName name "" (some object.toJson)
  | .patchStatus namespaceName name status =>
      namedRequest "PATCH" .installation namespaceName name "/status"
        (some (Json.ofFields [("status", status.toJson)]))
  | .publish installation event =>
      request "POST" (eventPath (eventNamespace installation))
        (some (eventBody reporter moment installation event))

/-- The request for the installations, whatever their namespaces. -/
def listRequest : ApiRequest := ⟨"GET", Kind.everywherePath .installation, none⟩

/-- The request that shows whether installations are known to the cluster at all. -/
def checkRequest : ApiRequest := ⟨"GET", Kind.everywherePath .installation ++ "?limit=1", none⟩

/-! ## Responses -/

/-- The wire names of the fields of a status, in their order. -/
def statusFields : List String := ["status", "message", "reason", "code"]

/-- A status; it says at least the outcome and the code. -/
def decodeStatus : Decoder ApiStatus := fun document => do
  let members ← Decoder.members statusFields document
  let status ← Decoder.required .string members "status"
  let message ← Decoder.defaulted .string "" members "message"
  let reason ← Decoder.defaulted .string "" members "reason"
  let code ← Decoder.required .unsigned16 members "code"
  return { status, message, reason, code }

/-- The status of a refusal that does not explain itself. -/
def unexplained (response : ApiResponse) : ApiStatus where
  status :=
    toString response.code ++ " " ++
      (responseReason? response.code).getD "<unknown status code>"
  message := Text.quoted response.body
  reason := "Failed to parse error data"
  code := response.code

def statusOf (response : ApiResponse) : ApiStatus :=
  ((Document.read? response.body).bind decodeStatus).getD (unexplained response)

/-- Decode the content of a response, unless it is a refusal. -/
def contentOf (decode : Decoder α) (response : ApiResponse) : Except ClusterFault α :=
  if response.isRefusal then .error (.refused (statusOf response))
  else
    match (Document.read? response.body).bind decode with
    | some value => .ok value
    | none => .error (.unusable (.ofMessage "the response does not fit the request"))

def objectOf (kind : Kind) (response : ApiResponse) : Except ClusterFault (Object kind) :=
  contentOf (Decoder.object Json.depthLimit kind) response

/-- An object that was looked up; it is an answer that it is not found. -/
def found {kind : Kind} :
    Except ClusterFault (Object kind) → Except Fault (Option (Object kind))
  | .ok object => .ok (some object)
  | .error (.refused status) =>
      if status.reason == "NotFound" then .ok none else .error (.cluster (.refused status))
  | .error cause => .error (.cluster cause)

/-- An object that was to be created; a conflict means that its name is taken. -/
def created {kind : Kind} (namespaceName name : String) :
    Except ClusterFault (Object kind) → Except Fault (Object kind)
  | .ok object => .ok object
  | .error (.refused status) =>
      if status.code = 409 then .error (.alreadyExists kind.name namespaceName name)
      else .error (.cluster (.refused status))
  | .error cause => .error (.cluster cause)

/-- Nothing, unless the response is a refusal or no object at all. -/
def acknowledged (response : ApiResponse) : Except Fault Unit :=
  ((contentOf Decoder.fields response).map fun _ => ()).mapError Fault.cluster

def items : Decoder (List Installation) := fun document => do
  let members ← Decoder.fields document
  Decoder.required (.list (.installation (Json.depthLimit - 2))) members "items"

def listed (response : ApiResponse) : Except Fault (List Installation) :=
  (contentOf items response).mapError Fault.cluster

def answerOf : (call : ClusterCall) → ApiResponse → Except Fault call.Result
  | .lookup kind _ _, response => found (objectOf kind response)
  | .create kind namespaceName object, response =>
      created namespaceName (object.metadata.name.getD "") (objectOf kind response)
  | .replace kind _ _ _, response => (objectOf kind response).mapError Fault.cluster
  | .patchStatus _ _ _, response =>
      ((objectOf .installation response).map fun _ => ()).mapError Fault.cluster
  | .publish _ _, response => acknowledged response

end Api
end LifecycleOperator
