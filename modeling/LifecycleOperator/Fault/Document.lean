import LifecycleOperator.Fault
import LifecycleOperator.Json.Document
import LifecycleOperator.Json.Member

/-!
# Faults as documents

Rehearsals are told which calls fail, and with what.  A fault is told by its kind
and by what is particular about it.  Where a fault hands on what a reader or a
renderer says, the kind stands for one that is typical of it.
-/

namespace LifecycleOperator
namespace Fault

open Json.Member

/-- What is said about a template with a block that has no end. -/
def unclosedBlock : Report :=
  let reason := "expected escape, expression, html_expression, decorator_expression, " ++
    "partial_expression, invert_tag, invert_chain_tag, helper_block_start, " ++
    "helper_block_end, decorator_block_start, partial_block_start, raw_block_start, " ++
    "hbs_comment, or hbs_comment_compact"
  let segment := "   0 | \x7b\x7b#if a\x7d\x7d\n     |---------\n"
  { message :=
      "Template error: invalid handlebars syntax: " ++ reason ++
        "\n    --> Template error in \"x\":1:10\n     |\n" ++ segment ++
        "     |\n     = reason: invalid handlebars syntax: " ++ reason ++ "\n"
    description :=
      "TemplateError \x7b reason: InvalidSyntax(" ++ Text.quoted reason ++
        "), template_name: Some(\"x\"), line_no: Some(1), column_no: Some(10), " ++
        "segment: Some(" ++ Text.quoted segment ++ ") \x7d" }

/-- What is said about a template that is not registered. -/
def unknownTemplate : Report where
  message := "Template not found x"
  description :=
    "RenderError \x7b template_name: None, line_no: None, column_no: None, " ++
      "reason: TemplateNotFound(\"x\"), unimplemented: false \x7d"

/-- What is said about a manifest that is a list. -/
def unexpectedList : Report :=
  let message := "invalid type: sequence, expected a map"
  ⟨message, "Error(" ++ Text.quoted message ++ ", line: 1, column: 1)"⟩

/-- What is said about an object in the place of a boolean. -/
def unexpectedObject : Report :=
  let message := "invalid type: map, expected a boolean"
  ⟨message ++ " at line 1 column 0",
    "Error(" ++ Text.quoted message ++ ", line: 1, column: 0)"⟩

/-- Read a fault, with those that it comes from up to some depth. -/
def ofJsonWithin : Nat → Json → Fault
  | 0, _ => .other ""
  | depth + 1, document =>
      let part := text document
      match part "kind" with
      | "Other" => .other (part "text")
      | "MethodFailed" => .methodFailed (part "method") (nat document "code") (part "text")
      | "LoginFailed" => .loginFailed (part "user") (part "why")
      | "AlreadyExists" => .alreadyExists (part "of") (part "ns") (part "name")
      | "StatusUpdate" => .statusUpdate (ofJsonWithin depth (get document "source"))
      | "KubeError" =>
          .cluster (.refused
            ⟨part "status", part "message", part "reason", nat document "code"⟩)
      | "YamlError" => .manifest unexpectedList
      | "SerializationError" => .serialization unexpectedObject
      | "HbsTemplateError" => .registration unclosedBlock
      | "HbsRenderError" => .rendering unknownTemplate
      | "ReqwestError" => .transport .unusableRequest
      | kind => .other kind

def ofJson (document : Json) : Fault := ofJsonWithin Json.depthLimit document

end Fault
end LifecycleOperator
