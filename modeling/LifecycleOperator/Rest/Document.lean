import LifecycleOperator.Json.Document
import LifecycleOperator.Json.Member
import LifecycleOperator.Json.Printer
import LifecycleOperator.Rest.Message

/-!
# Requests and responses as documents

How requests are told to others, and how responses are told by others.  Content
that can be read as JSON is told as JSON.
-/

namespace LifecycleOperator

open Json.Member

/-- Content as JSON if it can be read so, and as text otherwise. -/
def contentDocument (content : String) : Json := (Json.read? content).getD (.string content)

namespace WebRequest

/-- The headers, where those that are repeated are joined. -/
def joinedHeaders (request : WebRequest) : Json :=
  Json.ofFields <| (request.headers.map Prod.fst).eraseDups.map fun name =>
    (name, .string (", ".intercalate (request.header name)))

/-- Write a request; content that is empty is left out. -/
def toJson (request : WebRequest) : Json :=
  let content : List (String × Json) :=
    if request.body.isEmpty then [] else [("body", contentDocument request.body)]
  Json.ofFields <|
    [("method", .string request.method), ("path", .string request.url.target),
      ("headers", request.joinedHeaders)] ++ content

end WebRequest

namespace WebResponse

def toJson (response : WebResponse) : Json :=
  Json.ofFields [("status", Json.ofInt response.code), ("body", .string response.text)]

/-- Read a response; it is a success if nothing else is said. -/
def ofJson (document : Json) : WebResponse where
  code := (int document "status" 200).toNat
  headers := (entries document "headers").map fun (name, value) =>
    (name.map Char.toLower, value.string?.getD "")
  body :=
    match get document "body" with
    | .string body => body
    | .null => ""
    | body => body.text

end WebResponse

end LifecycleOperator
