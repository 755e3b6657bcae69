import LifecycleOperator.Fault
import LifecycleOperator.Rest.Url

/-!
# Requests and responses

What is sent to a web service and what comes back, and the words for the codes
of responses.
-/

namespace LifecycleOperator

/-- A request to a web service. -/
structure WebRequest where
  method : String
  url : Url
  /-- The headers, their names in lower case. -/
  headers : List (String × String)
  /-- The content; empty if there is none. -/
  body : String
  deriving DecidableEq, Repr, Inhabited

namespace WebRequest

/-- The values of a header, in the order in which they are sent. -/
def header (request : WebRequest) (name : String) : List String :=
  (request.headers.filter fun header => header.1 == name).map Prod.snd

end WebRequest

/-- The content of a response, which arrives after its head. -/
inductive WebContent
  /-- It has arrived in full. -/
  | complete (text : String)
  /-- The connection broke before its end, for a reason that is described. -/
  | brokenOff (why : String)
  deriving DecidableEq, Repr, Inhabited

/-- A text is content that has arrived in full. -/
instance : Coe String WebContent := ⟨.complete⟩

/-- The response of a web service. -/
structure WebResponse where
  code : Nat
  /-- The headers, their names in lower case. -/
  headers : List (String × String)
  /-- The content, as text in the encoding that the headers name. -/
  body : WebContent
  deriving DecidableEq, Repr, Inhabited

namespace WebResponse

/-- Whether a response says that the request succeeded. -/
def isSuccess (response : WebResponse) : Bool :=
  200 ≤ response.code && response.code < 300

def header? (response : WebResponse) (name : String) : Option String :=
  response.headers.lookup name

/-- A text without the mark of its encoding. -/
def withoutMark (text : String) : String :=
  match text.toList with
  | '\ufeff' :: rest => String.ofList rest
  | _ => text

/-- The content as text, if it has arrived in full. -/
def received (response : WebResponse) : Except TransportFault String :=
  match response.body with
  | .complete text => .ok (withoutMark text)
  | .brokenOff why => .error (.brokenOff why)

/-- The content as text; empty if it has not arrived in full. -/
def text (response : WebResponse) : String :=
  match response.received with
  | .ok text => text
  | .error _ => ""

end WebResponse

/-- The words for the codes of responses. -/
def responseReasons : List (Nat × String) :=
  [(100, "Continue"), (101, "Switching Protocols"), (102, "Processing"), (200, "OK"),
    (201, "Created"), (202, "Accepted"), (203, "Non Authoritative Information"),
    (204, "No Content"), (205, "Reset Content"), (206, "Partial Content"),
    (207, "Multi-Status"), (208, "Already Reported"), (226, "IM Used"),
    (300, "Multiple Choices"), (301, "Moved Permanently"), (302, "Found"),
    (303, "See Other"), (304, "Not Modified"), (305, "Use Proxy"),
    (307, "Temporary Redirect"), (308, "Permanent Redirect"), (400, "Bad Request"),
    (401, "Unauthorized"), (402, "Payment Required"), (403, "Forbidden"),
    (404, "Not Found"), (405, "Method Not Allowed"), (406, "Not Acceptable"),
    (407, "Proxy Authentication Required"), (408, "Request Timeout"), (409, "Conflict"),
    (410, "Gone"), (411, "Length Required"), (412, "Precondition Failed"),
    (413, "Payload Too Large"), (414, "URI Too Long"), (415, "Unsupported Media Type"),
    (416, "Range Not Satisfiable"), (417, "Expectation Failed"), (418, "I'm a teapot"),
    (421, "Misdirected Request"), (422, "Unprocessable Entity"), (423, "Locked"),
    (424, "Failed Dependency"), (425, "Too Early"), (426, "Upgrade Required"),
    (428, "Precondition Required"), (429, "Too Many Requests"),
    (431, "Request Header Fields Too Large"), (451, "Unavailable For Legal Reasons"),
    (500, "Internal Server Error"), (501, "Not Implemented"), (502, "Bad Gateway"),
    (503, "Service Unavailable"), (504, "Gateway Timeout"),
    (505, "HTTP Version Not Supported"), (506, "Variant Also Negotiates"),
    (507, "Insufficient Storage"), (508, "Loop Detected"), (510, "Not Extended"),
    (511, "Network Authentication Required")]

/-- The words for a code, if there are any. -/
def responseReason? (code : Nat) : Option String := responseReasons.lookup code

end LifecycleOperator
