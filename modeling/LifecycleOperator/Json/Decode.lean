import LifecycleOperator.Json.Document

/-!
# Decoding

A decoder gives the value that a document stands for, if it has the right form.
A structure is an object with one member for every field, or an array of its
fields in their order.  A member that is unknown is ignored, one that is repeated
is refused.
-/

namespace LifecycleOperator

/-- Reads a value from a document. -/
abbrev Decoder (α : Type u) := Document → Option α

namespace Decoder

def string : Decoder String
  | .string text => text
  | _ => none

def bool : Decoder Bool
  | .bool value => some value
  | _ => none

/-- A whole number between two bounds. -/
def integer (least greatest : Int) : Decoder Int
  | .number (some (.integer value)) =>
      if least ≤ value && value ≤ greatest then some value else none
  | _ => none

/-- A whole number of 32 bits with a sign. -/
def signed32 : Decoder Int := integer (-0x80000000) 0x7fffffff

/-- A whole number of 64 bits with a sign. -/
def signed64 : Decoder Int := integer (-0x8000000000000000) 0x7fffffffffffffff

/-- A whole number of 64 bits without a sign. -/
def unsigned64 : Decoder UInt64 := fun document =>
  (integer 0 0xffffffffffffffff document).map fun value => UInt64.ofNat value.toNat

/-- A whole number of 16 bits without a sign. -/
def unsigned16 : Decoder Nat := fun document =>
  (integer 0 0xffff document).map Int.toNat

def nullable (decode : Decoder α) : Decoder (Option α)
  | .null => some none
  | document => (decode document).map some

def list (decode : Decoder α) : Decoder (List α)
  | .array items => items.mapM decode
  | _ => none

/-- The names and values of an object, in their order. -/
def pairs (decode : Decoder α) : List (Option String × Document) → Option (List (String × α))
  | [] => some []
  | (none, _) :: _ => none
  | (some name, document) :: rest =>
      (decode document).bind fun value =>
        (pairs decode rest).map ((name, value) :: ·)

/-- A map from names; a repeated name keeps its last value. -/
def map (decode : Decoder α) : Decoder (OrderedMap α)
  | .object fields => (pairs decode fields).map OrderedMap.ofPairs
  | _ => none

/-- The members of an object that are known, each at most once. -/
def knownMembers (names : List String) :
    List (Option String × Document) → Option (Entries Document)
  | [] => some []
  | (none, _) :: _ => none
  | (some name, document) :: rest =>
      (knownMembers names rest).bind fun others =>
        if names.contains name then
          if (Entries.get? others name).isSome then none
          else some ((name, document) :: others)
        else some others

/-- The members of a structure with these fields. -/
def members (names : List String) : Decoder (Entries Document)
  | .object fields => knownMembers names fields
  | .array items =>
      if items.length ≤ names.length then some (names.zip items) else none
  | _ => none

/-- A member that has to be there. -/
def required (decode : Decoder α) (members : Entries Document) (name : String) :
    Option α :=
  (Entries.get? members name).bind decode

def defaulted
    (decode : Decoder α) (default : α) (members : Entries Document) (name : String) :
    Option α :=
  match Entries.get? members name with
  | none => some default
  | some document => decode document

end Decoder

end LifecycleOperator
