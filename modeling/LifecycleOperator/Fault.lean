import LifecycleOperator.Text.LowerCase
import LifecycleOperator.Text.Quoted

/-!
# Faults

Everything that can go wrong, by its cause.  A fault has a message for people, a
description of its structure from which the label of the failure metric is
taken, and it is either a failure of a service outside of the cluster or not.
-/

namespace LifecycleOperator

/-- What a reader or a library says about a failure of its own. -/
structure Report where
  message : String
  description : String
  deriving DecidableEq, Repr, Inhabited

namespace Report

/-- A report whose description is its quoted message. -/
def ofMessage (message : String) : Report :=
  ⟨message, Text.quoted message⟩

end Report

/-- The status that the cluster answers when it refuses a request. -/
structure ApiStatus where
  /-- The outcome, as a word. -/
  status : String
  message : String
  /-- The reason, as a word. -/
  reason : String
  code : Nat
  deriving DecidableEq, Repr, Inhabited

namespace ApiStatus

def description (status : ApiStatus) : String :=
  "ErrorResponse \x7b status: " ++ Text.quoted status.status ++
    ", message: " ++ Text.quoted status.message ++
    ", reason: " ++ Text.quoted status.reason ++
    ", code: " ++ toString status.code ++ " \x7d"

end ApiStatus

/-- Why a request to the cluster failed. -/
inductive ClusterFault
  | refused (status : ApiStatus)
  | unusable (report : Report)
  deriving DecidableEq, Repr, Inhabited

/-- Why a request to a service got no answer, or not all of it. -/
inductive TransportFault
  | unusableRequest
  | foreignScheme (url : String)
  | noAnswer (url : String)
  /-- The answer broke off in its content, for a reason that is described. -/
  | brokenOff (why : String)
  deriving DecidableEq, Repr, Inhabited

/-- Why something failed. -/
inductive Fault
  | serialization (report : Report)
  | manifest (report : Report)
  | cluster (cause : ClusterFault)
  | registration (report : Report)
  | rendering (report : Report)
  | transport (cause : TransportFault)
  | methodFailed (method : String) (code : Nat) (detail : String)
  | loginFailed (user : String) (why : String)
  | alreadyExists (kind : String) (namespaceName : String) (name : String)
  | statusUpdate (source : Fault)
  | other (text : String)
  deriving DecidableEq, Repr, Inhabited

namespace ClusterFault

def message : ClusterFault → String
  | .refused status =>
      "ApiError: " ++ status.message ++ ": " ++ status.reason ++
        " (" ++ status.description ++ ")"
  | .unusable report => report.message

def description : ClusterFault → String
  | .refused status => "Api(" ++ status.description ++ ")"
  | .unusable report => report.description

end ClusterFault

namespace TransportFault

def message : TransportFault → String
  | .unusableRequest => "builder error"
  | .foreignScheme url => "builder error for url (" ++ url ++ ")"
  | .noAnswer url => "error sending request for url (" ++ url ++ ")"
  | .brokenOff _ => "error decoding response body"

def description : TransportFault → String
  | .unusableRequest =>
      "reqwest::Error \x7b kind: Builder, source: RelativeUrlWithoutBase \x7d"
  | .foreignScheme url =>
      "reqwest::Error \x7b kind: Builder, url: " ++ Text.quoted url ++ ", source: BadScheme \x7d"
  | .noAnswer url =>
      "reqwest::Error \x7b kind: Request, url: " ++ Text.quoted url ++ " \x7d"
  | .brokenOff why =>
      "reqwest::Error \x7b kind: Decode, source: " ++ why ++ " \x7d"

end TransportFault

namespace Fault

def message : Fault → String
  | .serialization report => "SerializationError: " ++ report.message
  | .manifest report => "YamlError: " ++ report.message
  | .cluster cause => "K8s error: " ++ cause.message
  | .registration report =>
      "Registering template failed with error: " ++ report.message
  | .rendering report => "Renderer error: " ++ report.message
  | .transport cause => "Reqwest error: " ++ cause.message
  | .methodFailed method code _ => method ++ " query failed: " ++ toString code
  | .loginFailed user why => "Login as " ++ user ++ " failed: " ++ why
  | .alreadyExists kind namespaceName name =>
      kind ++ " " ++ namespaceName ++ "/" ++ name ++ " already exists"
  | .statusUpdate source => "Status update failed: " ++ source.message
  | .other text => "Error: " ++ text

/-- The name of a kind of faults. -/
def kindName : Fault → String
  | .serialization _ => "SerializationError"
  | .manifest _ => "YamlError"
  | .cluster _ => "KubeError"
  | .registration _ => "HbsTemplateError"
  | .rendering _ => "HbsRenderError"
  | .transport _ => "ReqwestError"
  | .methodFailed _ _ _ => "MethodFailed"
  | .loginFailed _ _ => "LoginFailed"
  | .alreadyExists _ _ _ => "AlreadyExists"
  | .statusUpdate _ => "StatusUpdate"
  | .other _ => "Other"

/-- What is behind the name in the description of a fault. -/
def content : Fault → String
  | .serialization report | .manifest report => report.description
  | .registration report | .rendering report => report.description
  | .cluster cause => cause.description
  | .transport cause => cause.description
  | .methodFailed method code detail =>
      Text.quoted method ++ ", " ++ toString code ++ ", " ++ Text.quoted detail
  | .loginFailed user why => Text.quoted user ++ ", " ++ Text.quoted why
  | .alreadyExists kind namespaceName name =>
      Text.quoted kind ++ ", " ++ Text.quoted namespaceName ++ ", " ++ Text.quoted name
  | .statusUpdate source => source.kindName ++ "(" ++ source.content ++ ")"
  | .other text => Text.quoted text

def description (fault : Fault) : String :=
  fault.kindName ++ "(" ++ fault.content ++ ")"

/-- The label under which failures are counted. -/
def metricLabel (fault : Fault) : String :=
  Text.lowerCase fault.description

/-- Failures of the services that the operator talks to, rather than of the cluster. -/
def isExternal : Fault → Bool
  | .transport _ | .manifest _ | .methodFailed _ _ _ | .loginFailed _ _ => true
  | _ => false

end Fault

end LifecycleOperator
