import LifecycleOperator.Api.Rehearsal
import LifecycleOperator.Json.Member

/-!
# Requests to the cluster as documents

How requests to the cluster are told to others, and how rules for their answers
are told by others.
-/

namespace LifecycleOperator

open Json.Member

namespace ApiRequest

/-- The path, without its query. -/
def plainPath (request : ApiRequest) : String := Api.Place.withoutQuery request.path

def isPublication (request : ApiRequest) : Bool := request.plainPath.endsWith "/events"

/-- The content; null if there is none. -/
def content (request : ApiRequest) : Json := request.body.getD .null

/--
Write a request.  What is created is told by its name, and contents are told
only of changes, unless all of them are asked for.
-/
def toJson (showsContent : Bool) (request : ApiRequest) : Json :=
  let name : List (String × Json) :=
    if request.method == "POST" then
      [("name", .string (text (get request.content "metadata") "name"))]
    else []
  let content : List (String × Json) :=
    if request.method == "PATCH" || showsContent then
      request.body.toList.map fun body => ("body", body)
    else []
  Json.ofFields
    ([("call", .string (request.method ++ " " ++ request.plainPath))] ++ name ++ content)

/-- Write the event that a request publishes, without its time. -/
def eventDocument (request : ApiRequest) : Json :=
  let fields := (request.content.fields?.getD []).filter fun field => field.1 != "eventTime"
  Json.ofFields (fields ++ [("path", .string request.plainPath)])

end ApiRequest

namespace Api

namespace Rule

/-- Read a rule; its answer is a status unless its text is given. -/
def ofJson (document : Json) : Rule where
  method := text? document "method"
  plural := text? document "plural"
  name := text? document "name"
  response :=
    let code := nat document "code"
    match text? document "raw" with
    | some raw => ⟨code, raw⟩
    | none => refusal code (text document "reason") (text document "message")

end Rule

namespace Arrival

/-- The requests that arrived besides events. -/
def calls (showsContent : Bool) (arrivals : List Arrival) : List Json :=
  (arrivals.filter fun arrival => !arrival.request.isPublication).map fun arrival =>
    arrival.request.toJson showsContent

/-- The events that arrived, without those that fell under a rule. -/
def publications (arrivals : List Arrival) : List Json :=
  (arrivals.filter fun arrival => arrival.request.isPublication && !arrival.isRuled).map
    fun arrival => arrival.request.eventDocument

end Arrival

end Api

end LifecycleOperator
