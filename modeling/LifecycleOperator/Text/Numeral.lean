/-!
# Numerals

Whole numbers as people write them on a command line.
-/

namespace LifecycleOperator
namespace Text

/--
The number that a text writes, if it is below a limit: at least one digit, and
nothing else but a plus sign in front.
-/
def unsigned? (limit : Nat) (text : List Char) : Option Nat :=
  let digits :=
    match text with
    | '+' :: rest => rest
    | characters => characters
  if digits.isEmpty || !digits.all Char.isDigit then none
  else
    let value := digits.foldl (fun value digit => 10 * value + (digit.toNat - '0'.toNat)) 0
    if value < limit then some value else none

end Text
end LifecycleOperator
