import LifecycleOperator.Json.Basic

/-!
# Members with defaults

Reading the members of an object leniently: a member that is missing, or that is
not what was expected, is as good as empty.
-/

namespace LifecycleOperator
namespace Json
namespace Member

/-- A member; null when it is missing. -/
def get (value : Json) (name : String) : Json := (value.get? name).getD .null

def text? (value : Json) (name : String) : Option String := (get value name).string?

/-- A text; empty when it is missing. -/
def text (value : Json) (name : String) : String := (text? value name).getD ""

/-- A boolean; false when it is missing. -/
def flag (value : Json) (name : String) : Bool := (get value name).bool?.getD false

def int (value : Json) (name : String) (default : Int) : Int :=
  (get value name).integer?.getD default

/-- A natural number; zero when it is missing or negative. -/
def nat (value : Json) (name : String) : Nat := (int value name 0).toNat

/-- A list; empty when it is missing. -/
def list (value : Json) (name : String) : List Json := (get value name).items?.getD []

def texts (value : Json) (name : String) : List String :=
  (list value name).filterMap Json.string?

/-- The names and values of an object; none when it is missing. -/
def entries (value : Json) (name : String) : List (String × Json) :=
  (get value name).fields?.getD []

def textMap (value : Json) (name : String) : OrderedMap String :=
  OrderedMap.ofPairs <| (entries value name).filterMap fun (name, value) =>
    value.string?.map fun value => (name, value)

end Member
end Json
end LifecycleOperator
