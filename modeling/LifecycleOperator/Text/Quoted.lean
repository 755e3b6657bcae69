import LifecycleOperator.Text.Printable

/-!
# Quoted texts

How a text is shown inside the description of a value: in double quotes, with a
backslash in front of quotes and backslashes, short forms for the null character
and the common blanks, and the hexadecimal code of everything that would not
show on its own.
-/

namespace LifecycleOperator
namespace Text

def escapeChar (char : Char) : List Char :=
  if char = '"' then ['\\', '"']
  else if char = '\\' then ['\\', '\\']
  else if char = '\n' then ['\\', 'n']
  else if char = '\r' then ['\\', 'r']
  else if char = '\t' then ['\\', 't']
  else if char = '\x00' then ['\\', '0']
  else if isPrintable char then [char]
  else ['\\', 'u', '\x7b'] ++ Nat.toDigits 16 char.toNat ++ ['\x7d']

def quoted (text : String) : String :=
  String.ofList ('"' :: text.toList.flatMap escapeChar ++ ['"'])

end Text
end LifecycleOperator
