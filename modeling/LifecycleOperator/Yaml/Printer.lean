import LifecycleOperator.Json.Printer

/-!
# YAML documents

A value as a YAML document in block style: one line for every scalar, texts in
double quotes, and what belongs to a name or to an item two blanks further in.
-/

namespace LifecycleOperator
namespace Yaml

/-- Put a mark in front of the first line, and blanks in front of the others. -/
def hang (mark : String) : List String → List String
  | [] => [mark]
  | first :: rest => (mark ++ first) :: rest.map fun line => "  " ++ line

/-- Whether a value has lines of its own. -/
def isBlock : Json → Bool
  | .array (_ :: _) => true
  | .object (_ :: _) => true
  | _ => false

def named (name : String) (block : Bool) (lines : List String) : List String :=
  let key := String.ofList (Json.quote name) ++ ":"
  if block then key :: lines.map fun line => "  " ++ line
  else hang (key ++ " ") lines

mutual

def lines : Json → List String
  | .array [] => ["[]"]
  | .object [] => ["\x7b\x7d"]
  | .array (item :: rest) => hang "- " (lines item) ++ itemLines rest
  | .object ((name, value) :: rest) =>
      named name (isBlock value) (lines value) ++ fieldLines rest
  | .null => ["null"]
  | .bool value => [(Json.bool value).text]
  | .number value => [value.text]
  | .string text => [String.ofList (Json.quote text)]

def itemLines : List Json → List String
  | [] => []
  | item :: rest => hang "- " (lines item) ++ itemLines rest

def fieldLines : List (String × Json) → List String
  | [] => []
  | (name, value) :: rest => named name (isBlock value) (lines value) ++ fieldLines rest

end

/-- The mark at the beginning of a document. -/
def documentMark : String := "---"

def document (value : Json) : String :=
  String.join ((documentMark :: lines value).map fun line => line ++ "\n")

end Yaml
end LifecycleOperator
