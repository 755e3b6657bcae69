import LifecycleOperator.Fault
import LifecycleOperator.Template.Render
import LifecycleOperator.Template.Source

/-!
# Registered templates

Templates are registered under names.  A text that is no template is refused and
leaves the former template of that name in place.
-/

namespace LifecycleOperator
namespace Template

/-- Templates by their names; the first one of a name counts. -/
structure Registry where
  templates : List (String × Template)
  deriving Inhabited

namespace Registry

def empty : Registry := ⟨[]⟩

def find? (registry : Registry) (name : String) : Option Template :=
  registry.templates.lookup name

def register (registry : Registry) (name source : String) : Except Fault Registry :=
  match Template.read? source with
  | some template => .ok ⟨(name, template) :: registry.templates⟩
  | none => .error (.registration (.ofMessage ("not a template: " ++ name)))

def render (registry : Registry) (name : String) (data : Json) : Except Fault String :=
  let outcome : Except Problem String :=
    match registry.find? name with
    | some template => template.render data
    | none => .error (.unknownTemplate name)
  outcome.mapError fun problem => .rendering (.ofMessage problem.message)

end Registry

end Template
end LifecycleOperator
