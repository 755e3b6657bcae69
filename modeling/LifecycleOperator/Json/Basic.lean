import LifecycleOperator.Binary64
import LifecycleOperator.OrderedMap

/-!
# JSON values

The values that services and the cluster exchange.  A number is either an exact
integer or a binary floating point number: the two are different values even
when they are numerically equal, because they are written differently.  The
fields of an object are kept in the order of their names, each name once.
-/

namespace LifecycleOperator

/-- A number as the format tells them apart. -/
inductive Number
  | integer (value : Int)
  | binary (value : Binary64)
  deriving DecidableEq, Repr, Inhabited

namespace Number

/-- The text of a number in documents and in rendered templates. -/
def text : Number → String
  | .integer value => toString value
  | .binary value => value.text

end Number

/-- A JSON value. -/
inductive Json
  | null
  | bool (value : Bool)
  | number (value : Number)
  | string (text : String)
  | array (items : List Json)
  | object (fields : List (String × Json))
  deriving Repr, Inhabited

namespace Json

/-- The fields of an object, in the order of their names. -/
abbrev Fields := Entries Json

def ofFields (pairs : List (String × Json)) : Json :=
  .object (Entries.ofPairs pairs)

/-- The field of an object; anything else has no fields. -/
def get? : Json → String → Option Json
  | .object fields, name => Entries.get? fields name
  | _, _ => none

def string? : Json → Option String
  | .string text => some text
  | _ => none

def bool? : Json → Option Bool
  | .bool value => some value
  | _ => none

def integer? : Json → Option Int
  | .number (.integer value) => some value
  | _ => none

def items? : Json → Option (List Json)
  | .array items => some items
  | _ => none

def fields? : Json → Option Fields
  | .object fields => some fields
  | _ => none

/-- The object of a map from names to texts. -/
def ofTexts (texts : OrderedMap String) : Json :=
  .object (texts.entries.map fun entry => (entry.1, .string entry.2))

/-- The value if there is one, else null. -/
def ofOption (encode : α → Json) : Option α → Json
  | none => .null
  | some value => encode value

def ofInt (value : Int) : Json :=
  .number (.integer value)

end Json

end LifecycleOperator
