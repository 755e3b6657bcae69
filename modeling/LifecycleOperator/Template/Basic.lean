import LifecycleOperator.Json.Basic

/-!
# Templates

A template is a list of parts: text, values that are looked up in the data, and
blocks.  The block `if` chooses one of two templates, the block `each` renders
its template once for every item of a list or field of an object.  Nothing is
escaped, and a value that is missing where it is printed or iterated is an error.
-/

namespace LifecycleOperator
namespace Template

/-- Where the names of a path are looked up. -/
inductive Origin
  | context (up : Nat)
  | loop (up : Nat)
  | root
  deriving DecidableEq, Repr, Inhabited

/-- A reference into the data. -/
structure Path where
  origin : Origin
  names : List String
  /-- The path as it was written. -/
  written : String
  deriving DecidableEq, Repr, Inhabited

/-- What a value or a block is applied to. -/
inductive Operand
  | path (path : Path)
  | literal (value : Json)
  deriving Repr, Inhabited

/-- A part of a template. -/
inductive Part
  | text (content : String)
  | value (path : Path)
  | call (helper : String) (operands : List Operand)
  | block
      (helper : String)
      (operands : List Operand)
      (body : List Part)
      (otherwise : Option (List Part))
  deriving Repr, Inhabited

namespace Path

def field (name : String) : Path := ⟨.context 0, [name], name⟩

end Path

namespace Part

/-- Print a field of the current item. -/
def field (name : String) : Part := .value (Path.field name)

/-- Render a template when a field of the current item is set. -/
def whenField (name : String) (body : List Part) : Part :=
  .block "if" [.path (Path.field name)] body none

/-- Render a template for every item of a field of the current item. -/
def eachField (name : String) (body : List Part) : Part :=
  .block "each" [.path (Path.field name)] body none

end Part

end Template

/-- A template. -/
abbrev Template := List Template.Part

end LifecycleOperator
