import LifecycleOperator.Template.Basic

/-!
# Rendering

Rendering a template with data gives a text or a problem.  The data is looked at
through scopes: the innermost one belongs to the current item of the nearest
loop, the outermost one is the data itself.
-/

namespace LifecycleOperator
namespace Template

/-- Why a template cannot be rendered. -/
inductive Problem
  | unknownTemplate (name : String)
  | unknownHelper (name : String)
  | missingOperand (helper : String)
  | missingValue (path : String)
  | invalidIndex (name : String)
  deriving DecidableEq, Repr, Inhabited

namespace Problem

def message : Problem → String
  | .unknownTemplate name => s!"Template not found {name}"
  | .unknownHelper name => s!"Helper not defined: {name}"
  | .missingOperand helper => s!"Missing operand of {helper}"
  | .missingValue path => s!"Failed to access variable {path} in strict mode"
  | .invalidIndex name => s!"Invalid index {name} of a list"

end Problem

/-- The item that names are looked up in, and the variables of its loop. -/
structure Scope where
  item : Json
  /-- The variables that start with an at sign. -/
  bindings : Entries Json
  deriving Inhabited

/-- A position in a list, as a path names it. -/
def index? (name : String) : Option Nat :=
  let digits :=
    match name.toList with
    | '+' :: rest => rest
    | chars => chars
  if digits.isEmpty || !digits.all Char.isDigit then none
  else some (digits.foldl (fun total digit => total * 10 + (digit.toNat - '0'.toNat)) 0)

/--
Follow one name.  A list takes positions only; nothing is found in what has no
fields.
-/
def step (value : Option Json) (name : String) : Except Problem (Option Json) :=
  match value with
  | some (.array items) =>
      match index? name with
      | some position => .ok items[position]?
      | none => .error (.invalidIndex name)
  | some (.object fields) => .ok (Entries.get? fields name)
  | _ => .ok none

def follow (value : Option Json) : List String → Except Problem (Option Json)
  | [] => .ok value
  | name :: rest => do
      let next ← step value name
      follow next rest

/--
The value of a path.  A path that leads out of more loops than there are starts
at the current item.
-/
def Path.resolve (path : Path) (data : Json) (scopes : List Scope) :
    Except Problem (Option Json) :=
  match path.origin with
  | .root => follow (some data) path.names
  | .context up =>
      let items := scopes.map Scope.item ++ [data]
      follow (items[up]? <|> items.head?) path.names
  | .loop up =>
      match scopes[up]?, path.names with
      | some scope, name :: rest => follow (Entries.get? scope.bindings name) rest
      | _, _ => .ok none

def Operand.resolve (operand : Operand) (data : Json) (scopes : List Scope) :
    Except Problem (Option Json) :=
  match operand with
  | .literal value => .ok (some value)
  | .path reference => reference.resolve data scopes

mutual

def display : Json → String
  | .null => ""
  | .bool true => "true"
  | .bool false => "false"
  | .number value => value.text
  | .string text => text
  | .array items => "[" ++ displayItems items ++ "]"
  | .object _ => "[object]"

/-- The texts of items, with commas in between. -/
def displayItems : List Json → String
  | [] => ""
  | [item] => display item
  | item :: next :: rest => display item ++ ", " ++ displayItems (next :: rest)

end

/--
What counts as set: neither empty nor null nor false nor zero, nor a number so
small that it has lost precision.
-/
def isSet : Json → Bool
  | .null => false
  | .bool value => value
  | .number (.integer value) => value != 0
  | .number (.binary value) => value.isFinite && value.exponentField != 0
  | .string text => !text.isEmpty
  | .array items => !items.isEmpty
  | .object fields => !fields.isEmpty

/-- The scopes of the items of a list. -/
def itemScopes (items : List Json) : List Scope :=
  items.zipIdx.map fun (item, position) =>
    { item
      bindings := Entries.ofPairs
        [("first", .bool (position == 0)),
          ("last", .bool (position + 1 == items.length)),
          ("index", Json.ofInt position)] }

/-- The scopes of the fields of an object. -/
def fieldScopes (fields : Entries Json) : List Scope :=
  fields.zipIdx.map fun (field, position) =>
    { item := field.2
      bindings := Entries.ofPairs
        [("first", .bool (position == 0)),
          ("last", .bool (position + 1 == fields.length)),
          ("key", .string field.1)] }

/-- The scopes that a value is iterated with, if it can be iterated. -/
def iteration? : Option Json → Option (List Scope)
  | some (.array items) => some (itemScopes items)
  | some (.object fields) => some (fieldScopes fields)
  | _ => none

/-- Names of helpers, which are not looked up in the data when they stand alone. -/
def helperNames : List String :=
  ["if", "unless", "each", "with", "lookup", "raw", "log", "eq", "ne", "gt", "gte",
    "lt", "lte", "and", "or", "not", "len"]

mutual

/-- The text of a list of parts. -/
def renderParts (data : Json) (scopes : List Scope) :
    List Part → Except Problem String
  | [] => .ok ""
  | part :: rest => do
      let first ← renderPart data scopes part
      let others ← renderParts data scopes rest
      return first ++ others

def renderPart (data : Json) (scopes : List Scope) : Part → Except Problem String
  | .text content => .ok content
  | .value path =>
      if helperNames.contains path.written then .error (.missingOperand path.written)
      else do
        match ← path.resolve data scopes with
        | some value => return display value
        | none => .error (.missingValue path.written)
  | .call helper _ => .error (.unknownHelper helper)
  | .block helper operands body otherwise =>
      match helper, operands with
      | "if", [] => .error (.missingOperand "if")
      | "if", operand :: _ => do
          let value ← operand.resolve data scopes
          if isSet (value.getD .null) then renderParts data scopes body
          else renderOptional data scopes otherwise
      | "each", [] => .error (.missingOperand "each")
      | "each", operand :: _ => do
          let value ← operand.resolve data scopes
          match iteration? value, otherwise.isSome with
          | none, false => .error (.missingValue "each")
          | none, true => renderOptional data scopes otherwise
          | some [], _ => renderOptional data scopes otherwise
          | some items, _ => do
              let texts ← items.mapM fun scope =>
                renderParts data (scope :: scopes) body
              return String.join texts
      | _, _ => .error (.unknownHelper helper)

/-- The text of the alternative of a block, which may be missing. -/
def renderOptional (data : Json) (scopes : List Scope) :
    Option (List Part) → Except Problem String
  | none => .ok ""
  | some parts => renderParts data scopes parts

end

def render (template : Template) (data : Json) : Except Problem String :=
  renderParts data [] template

end Template
end LifecycleOperator
