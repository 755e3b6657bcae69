import LifecycleOperator.Console.CommandLine
import LifecycleOperator.Console.Diagnostics
import LifecycleOperator.Console.Identity
import LifecycleOperator.Json.Document

/-!
# The operator as a document

What the operator tells about how it was started, who it is and how it is doing.
-/

namespace LifecycleOperator

namespace Parameters

def fields (parameters : Parameters) : List (String × Json) :=
  [("listen", .string parameters.listen), ("security_url", .string parameters.securityUrl),
    ("ishtar_url", .string parameters.ishtarUrl), ("username", .string parameters.username),
    ("password", .string parameters.password),
    ("http_timeout", Json.ofInt parameters.httpTimeout),
    ("requeue_seconds", Json.ofInt parameters.requeueSeconds)]

end Parameters

namespace Reporter

def toJson (reporter : Reporter) : Json :=
  Json.ofFields
    [("controller", .string reporter.controller), ("instance", .string reporter.instanceName)]

end Reporter

namespace Metrics

/-- Write metrics: their lines in the order of the characters. -/
def toJson (metrics : Metrics) : Json :=
  .array ((metrics.lines.mergeSort fun left right => !(right < left)).map .string)

end Metrics

namespace Timestamp

/-- Whether a text has the form of a moment. -/
def isText (text : String) : Bool :=
  let form := "0000-00-00T00:00:00".toList
  let characters := text.toList
  let fits := (form.zip characters).all fun (expected, character) =>
    if expected == '0' then character.isDigit else character == expected
  fits && form.length < characters.length && characters.getLast? == some 'Z'

end Timestamp

namespace Page

/-- The content of a page: JSON, or its lines in the order of the characters. -/
def content (page : Page) : Json :=
  if page.contentType == some "application/json" then (Json.read? page.body).getD .null
  else
    let lines := (page.body.splitOn "\n").filter fun line => !line.isEmpty
    .array ((lines.mergeSort fun left right => !(right < left)).map .string)

end Page

end LifecycleOperator
