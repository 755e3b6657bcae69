import LifecycleOperator.Text.Case

/-!
# Lower case

The lower case form of a text, character by character.  One character has a form
of two characters, and the capital sigma becomes the final form at the end of a
word.
-/

namespace LifecycleOperator
namespace Text

namespace CaseRun

/-- The lower case form of a character, if the run has one. -/
def lower? (run : CaseRun) (char : Char) : Option Char :=
  let code := char.toNat
  if run.first ≤ code && code ≤ run.last && (code - run.first) % run.stride == 0 then
    some (Char.ofNat (run.target + (code - run.first)))
  else none

end CaseRun

/-- The lower case form of a character on its own. -/
def lowerChar (char : Char) : List Char :=
  if char = '\u0130' then ['i', '\u0307']
  else [(caseRuns.findSome? (·.lower? char)).getD char]

/-- Whether the nearest character that is not passed over is cased. -/
def meetsCased : List Char → Bool
  | [] => false
  | char :: rest => if isCaseIgnorable char then meetsCased rest else isCased char

/--
The lower case form of a text, where `before` holds the characters in front of
it, the nearest one first.
-/
def lowerFrom (before : List Char) : List Char → List Char
  | [] => []
  | char :: rest =>
      let lowered :=
        if char = '\u03a3' then
          if meetsCased before && !meetsCased rest then ['\u03c2'] else ['\u03c3']
        else lowerChar char
      lowered ++ lowerFrom (char :: before) rest

/-- The lower case form of a text. -/
def lowerCase (text : String) : String :=
  String.ofList (lowerFrom [] text.toList)

end Text
end LifecycleOperator
