import LifecycleOperator.Json.Basic

/-!
# JSON texts

The compact text of a value: no blanks, fields in the order of their names, and
in strings only quotes, backslashes and control characters escaped.
-/

namespace LifecycleOperator
namespace Json

/-- One hexadecimal digit, in lower case. -/
def hexDigit (value : Nat) : Char :=
  if value < 10 then Char.ofNat ('0'.toNat + value)
  else Char.ofNat ('a'.toNat + (value - 10))

def escape (char : Char) : List Char :=
  if char = '"' then ['\\', '"']
  else if char = '\\' then ['\\', '\\']
  else if char = '\x08' then ['\\', 'b']
  else if char = '\x0c' then ['\\', 'f']
  else if char = '\n' then ['\\', 'n']
  else if char = '\r' then ['\\', 'r']
  else if char = '\t' then ['\\', 't']
  else if char.toNat < 0x20 then
    ['\\', 'u', '0', '0', hexDigit (char.toNat / 16), hexDigit (char.toNat % 16)]
  else [char]

def quote (text : String) : List Char :=
  '"' :: text.toList.flatMap escape ++ ['"']

mutual

def characters : Json → List Char
  | .null => ['n', 'u', 'l', 'l']
  | .bool true => ['t', 'r', 'u', 'e']
  | .bool false => ['f', 'a', 'l', 's', 'e']
  | .number value => value.text.toList
  | .string text => quote text
  | .array items => '[' :: itemCharacters items ++ [']']
  | .object fields => '\x7b' :: fieldCharacters fields ++ ['\x7d']

/-- The characters of items, with commas in between. -/
def itemCharacters : List Json → List Char
  | [] => []
  | [item] => characters item
  | item :: next :: rest =>
      characters item ++ ',' :: itemCharacters (next :: rest)

/-- The characters of fields, with commas in between. -/
def fieldCharacters : List (String × Json) → List Char
  | [] => []
  | [(name, value)] => quote name ++ ':' :: characters value
  | (name, value) :: next :: rest =>
      quote name ++ ':' :: characters value ++ ',' :: fieldCharacters (next :: rest)

end

def text (value : Json) : String :=
  String.ofList (characters value)

end Json
end LifecycleOperator
