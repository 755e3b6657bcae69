import LifecycleOperator.Console.Timestamp
import LifecycleOperator.Json.Printer
import LifecycleOperator.Metrics.Exposition

/-!
# Diagnostics

The pages with which the operator tells how it is doing: that it is alive, when
it last began a pass, and its metrics.  Everything else is not found.
-/

namespace LifecycleOperator

/-- What the operator tells about itself. -/
structure Diagnostics where
  /-- When the last pass began, or the operator itself. -/
  lastEvent : Timestamp
  metrics : Metrics

/-- An answer to a request for a page. -/
structure Page where
  code : Nat
  contentType : Option String
  body : String
  deriving DecidableEq, Repr, Inhabited

namespace Page

def json (value : Json) : Page := ⟨200, some "application/json", value.text⟩

def notFound : Page := ⟨404, none, ""⟩

end Page

namespace Diagnostics

def metricsType : String := "application/openmetrics-text; version=1.0.0; charset=utf-8"

/-- A target without what follows a question mark or a number sign. -/
def pathOf (target : String) : String :=
  String.ofList (target.toList.takeWhile fun character => character != '?' && character != '#')

/-- The page of a path; pages can only be read. -/
def page (diagnostics : Diagnostics) (method target : String) : Page :=
  if method != "GET" then .notFound
  else
    match pathOf target with
    | "/" =>
        .json (Json.ofFields [("last_event", .string diagnostics.lastEvent.text)])
    | "/health" => .json (.string "healthy")
    | "/metrics" => ⟨200, some metricsType, diagnostics.metrics.text⟩
    | _ => .notFound

end Diagnostics

end LifecycleOperator
