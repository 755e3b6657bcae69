/-!
# Placed characters

A text is read as a list of characters that know where they stand.  A carriage
return, a line feed, both together and the next-line character are one and the
same line break; the two Unicode separators are line breaks of their own.  The
list ends with a null character, which no text may contain.
-/

namespace LifecycleOperator
namespace Yaml

/-- A character and its place in the text. -/
structure Placed where
  /-- The character; all ordinary line breaks are line feeds. -/
  char : Char
  index : Nat
  /-- The number of line breaks before it. -/
  line : Nat
  /-- The number of characters before it on its line. -/
  column : Nat
  deriving DecidableEq, Repr, Inhabited

/-- Spaces and tabs. -/
def isBlank (char : Char) : Bool :=
  char = ' ' || char = '\t'

def isBreak (char : Char) : Bool :=
  char = '\n' || char = '\u2028' || char = '\u2029'

/-- A byte order mark, which may begin a line. -/
def isByteOrderMark (char : Char) : Bool :=
  char = '\ufeff'

def isEnd (char : Char) : Bool :=
  char = '\x00'

/-- A line break or the end of the text. -/
def endsLine (char : Char) : Bool :=
  isBreak char || isEnd char

/-- A blank, a line break or the end of the text. -/
def isSpacing (char : Char) : Bool :=
  isBlank char || endsLine char

/-- The characters of anchors, handles and directive names; ASCII only. -/
def isWord (char : Char) : Bool :=
  char.isAlphanum || char = '_' || char = '-'

/-- The characters that a text may contain. -/
def isPermitted (char : Char) : Bool :=
  let code := char.toNat
  code = 0x09 || code = 0x0A || code = 0x0D || code = 0x85 ||
    (0x20 ≤ code && code ≤ 0x7E) ||
    (0xA0 ≤ code && code ≤ 0xFFFD) ||
    0x10000 ≤ code

/-- Give every character its place, beginning with the given one. -/
def placeFrom (index line column : Nat) : List Char → List Placed
  | [] => [⟨'\x00', index, line, column⟩]
  | '\r' :: '\n' :: rest =>
      ⟨'\n', index, line, column⟩ :: placeFrom (index + 2) (line + 1) 0 rest
  | char :: rest =>
      if char = '\r' || char = '\n' || char = '\u0085' then
        ⟨'\n', index, line, column⟩ :: placeFrom (index + 1) (line + 1) 0 rest
      else if isBreak char then
        ⟨char, index, line, column⟩ :: placeFrom (index + 1) (line + 1) 0 rest
      else
        ⟨char, index, line, column⟩ :: placeFrom (index + 1) line (column + 1) rest

def place? (text : String) : Option (List Placed) :=
  let chars := text.toList
  if chars.all isPermitted then some (placeFrom 0 0 0 chars) else none

/-- The first character; the end of the text when there is none. -/
def peek : List Placed → Char
  | [] => '\x00'
  | placed :: _ => placed.char

def peekNext : List Placed → Char
  | _ :: rest => peek rest
  | [] => '\x00'

def columnOf : List Placed → Nat
  | [] => 0
  | placed :: _ => placed.column

def skipBlanks (source : List Placed) : List Placed :=
  source.dropWhile fun placed => isBlank placed.char

/-- Skip everything up to the end of the line. -/
def skipToBreak (source : List Placed) : List Placed :=
  source.dropWhile fun placed => !endsLine placed.char

/-- Skip a line break, if there is one. -/
def skipBreak : List Placed → List Placed
  | [] => []
  | placed :: rest => if isBreak placed.char then rest else placed :: rest

/--
Three equal characters of one kind at the start of a line, with spacing behind
them, mark the start or the end of a document.
-/
def startsMarker (mark : Char) : List Placed → Bool
  | first :: second :: third :: rest =>
      first.column == 0 && first.char == mark && second.char == mark &&
        third.char == mark && isSpacing (peek rest)
  | _ => false

/-- Whether a document starts or ends here. -/
def atMarker (source : List Placed) : Bool :=
  startsMarker '-' source || startsMarker '.' source

end Yaml
end LifecycleOperator
