import LifecycleOperator.Yaml.Source

/-!
# Scalars

The three ways to write a scalar: plain, quoted and as a block of lines.  Lines
of plain and quoted scalars, and of folded blocks, are joined: one line break
becomes a space, further ones stay.
-/

namespace LifecycleOperator
namespace Yaml

/-- Spacing inside a scalar that is not yet known to belong to it. -/
inductive Pending
  | blanks (reversed : List Char)
  | breaks (first : Option Char) (reversed : List Char)
  deriving Repr

namespace Pending

def none : Pending := .blanks []

def hasBreak : Pending → Bool
  | .blanks _ => false
  | .breaks _ _ => true

/-- Add a blank; blanks at the start of a line do not count. -/
def addBlank : Pending → Char → Pending
  | .blanks reversed, char => .blanks (char :: reversed)
  | .breaks first reversed, _ => .breaks first reversed

/-- Add a line break; blanks before it do not count. -/
def addBreak : Pending → Char → Pending
  | .blanks _, char => .breaks (some char) []
  | .breaks first reversed, char => .breaks first (char :: reversed)

/-- The characters that the spacing stands for, latest first. -/
def joined : Pending → List Char
  | .blanks reversed => reversed
  | .breaks (some '\n') [] => [' ']
  | .breaks (some '\n') reversed => reversed
  | .breaks (some char) reversed => reversed ++ [char]
  | .breaks Option.none reversed => reversed

end Pending

/-- A scanned scalar and what follows it. -/
structure ScalarText where
  text : String
  /-- Whether a line break follows the scalar directly. -/
  endsWithBreak : Bool
  rest : List Placed
  deriving Repr

/-- The characters that structure collections in flow style. -/
def isFlowIndicator (char : Char) : Bool :=
  char = ',' || char = '[' || char = ']' || char = '\x7b' || char = '\x7d'

/--
Scan a plain scalar.  In block style its lines are indented by at least
`indent`; in flow style it ends before every flow indicator.
-/
def plain?
    (inFlow : Bool) (indent : Int) (reversed : List Char) (pending : Pending) :
    List Placed → Option ScalarText
  | [] => some ⟨String.ofList reversed.reverse, pending.hasBreak, []⟩
  | placed :: rest =>
      let char := placed.char
      let stop : Option ScalarText :=
        some ⟨String.ofList reversed.reverse, pending.hasBreak, placed :: rest⟩
      let atStart :=
        match pending with
        | .blanks [] => reversed.isEmpty
        | _ => true
      let continues := plain? inFlow indent (char :: (pending.joined ++ reversed)) .none rest
      let following := peek rest
      if isBlank char then
        if pending.hasBreak && placed.column < indent && char == '\t' then
          Option.none
        else plain? inFlow indent reversed (pending.addBlank char) rest
      else if isBreak char then
        plain? inFlow indent reversed (pending.addBreak char) rest
      else if isEnd char then stop
      else if pending.hasBreak && !inFlow && placed.column < indent then stop
      else if atStart && (atMarker (placed :: rest) || char == '#') then stop
      else if inFlow && char == ':' &&
          (isFlowIndicator following || following == '?') then Option.none
      else if char == ':' && isSpacing following then stop
      else if inFlow && isFlowIndicator char then stop
      else continues

/-- The character that a backslash and this one stand for. -/
def escaped? (char : Char) : Option Char :=
  match char with
  | '0' => some '\x00'
  | 'a' => some '\x07'
  | 'b' => some '\x08'
  | 't' => some '\t'
  | '\t' => some '\t'
  | 'n' => some '\n'
  | 'v' => some '\x0b'
  | 'f' => some '\x0c'
  | 'r' => some '\r'
  | 'e' => some '\x1b'
  | ' ' => some ' '
  | '"' => some '"'
  | '/' => some '/'
  | '\\' => some '\\'
  | 'N' => some '\u0085'
  | '_' => some '\u00a0'
  | 'L' => some '\u2028'
  | 'P' => some '\u2029'
  | _ => none

/-- The number of hexadecimal digits behind a backslash and this character. -/
def hexLength? (char : Char) : Option Nat :=
  match char with
  | 'x' => some 2
  | 'u' => some 4
  | 'U' => some 8
  | _ => none

def hexDigit? (char : Char) : Option Nat :=
  if char.isDigit then some (char.toNat - '0'.toNat)
  else if 'a' ≤ char && char ≤ 'f' then some (char.toNat - 'a'.toNat + 10)
  else if 'A' ≤ char && char ≤ 'F' then some (char.toNat - 'A'.toNat + 10)
  else none

/-- The character with a code, unless the code is a surrogate or too large. -/
def ofCode? (code : Nat) : Option Char :=
  if h : code.isValidChar then some (Char.ofNatAux code h) else none

/-- What a quoted scalar is in the middle of. -/
inductive QuoteMode
  | text
  | blank
  | escape
  | hexadecimal (missing value : Nat)
  deriving Repr

/--
Scan the rest of a scalar in double quotes, behind the opening quote.  Spacing is
pending until something else follows.
-/
def doubleQuoted?
    (reversed : List Char) (pending : Pending) (mode : QuoteMode) :
    List Placed → Option ScalarText
  | [] => Option.none
  | placed :: rest =>
      let char := placed.char
      match mode with
      | .hexadecimal missing value =>
          match hexDigit? char with
          | Option.none => Option.none
          | some digit =>
              let next := value * 16 + digit
              if missing ≤ 1 then
                match ofCode? next with
                | Option.none => Option.none
                | some char => doubleQuoted? (char :: reversed) .none .text rest
              else doubleQuoted? reversed .none (.hexadecimal (missing - 1) next) rest
      | .escape =>
          if isBreak char then
            doubleQuoted? reversed (.breaks Option.none []) .blank rest
          else
            match escaped? char, hexLength? char with
            | some char, _ => doubleQuoted? (char :: reversed) .none .text rest
            | _, some length =>
                doubleQuoted? reversed .none (.hexadecimal length 0) rest
            | _, _ => Option.none
      | _ =>
          let starting := placed.column == 0 && atMarker (placed :: rest)
          let current := pending.joined ++ reversed
          if starting || isEnd char then Option.none
          else if isBlank char then
            doubleQuoted? reversed (pending.addBlank char) .blank rest
          else if isBreak char then
            doubleQuoted? reversed (pending.addBreak char) .blank rest
          else if char == '"' then
            some ⟨String.ofList current.reverse, false, rest⟩
          else if char == '\\' then doubleQuoted? current .none .escape rest
          else doubleQuoted? (char :: current) .none .text rest

/-- Scan the rest of a scalar in single quotes, behind the opening quote. -/
def singleQuoted?
    (reversed : List Char) (pending : Pending) :
    List Placed → Option ScalarText
  | [] => Option.none
  | placed :: rest =>
      let char := placed.char
      let current := pending.joined ++ reversed
      if placed.column == 0 && atMarker (placed :: rest) then Option.none
      else if isEnd char then Option.none
      else if isBlank char then singleQuoted? reversed (pending.addBlank char) rest
      else if isBreak char then singleQuoted? reversed (pending.addBreak char) rest
      else if char == '\'' then
        match rest with
        | next :: more =>
            if next.char == '\'' then singleQuoted? ('\'' :: current) .none more
            else some ⟨String.ofList current.reverse, false, next :: more⟩
        | [] => some ⟨String.ofList current.reverse, false, []⟩
      else singleQuoted? (char :: current) .none rest

/-- What happens to the line breaks at the end of a block. -/
inductive Chomping
  | strip
  | clip
  | keep
  deriving DecidableEq, Repr

/-- The indicators behind the first character of a block. -/
structure BlockHeader where
  /-- What happens to the line breaks at the end. -/
  chomping : Chomping
  /-- The indentation of the block, relative to its parent. -/
  increment : Option Nat
  deriving DecidableEq, Repr

/-- The chomping that a character asks for. -/
def chomping? (char : Char) : Option Chomping :=
  if char = '+' then some .keep else if char = '-' then some .strip else none

/-- Read the indicators of a block: chomping and indentation in either order. -/
def blockHeader? (source : List Placed) : Option (BlockHeader × List Placed) :=
  let digit? (source : List Placed) : Option (Option Nat × List Placed) :=
    let char := peek source
    if char.isDigit then
      if char = '0' then none
      else some (some (char.toNat - '0'.toNat), source.drop 1)
    else some (Option.none, source)
  match chomping? (peek source) with
  | some chomping =>
      (digit? (source.drop 1)).map fun (increment, rest) =>
        (⟨chomping, increment⟩, rest)
  | Option.none =>
      (digit? source).map fun (increment, rest) =>
        match increment, chomping? (peek rest) with
        | some _, some chomping => (⟨chomping, increment⟩, rest.drop 1)
        | _, _ => (⟨.clip, increment⟩, rest)

/--
Skip indentation and empty lines before a line of a block.  The line breaks are
collected, latest first.  As long as the indentation is not known, the largest
one seen so far is kept in `widest`.
-/
def blockBreaks?
    (indent : Nat) (widest : Nat) (reversed : List Char) :
    List Placed → Option (Nat × List Char × List Placed)
  | [] => some (widest, reversed, [])
  | placed :: rest =>
      let inside := indent == 0 || placed.column < indent
      let widest := max widest placed.column
      if inside && placed.char == ' ' then
        blockBreaks? indent widest reversed rest
      else if inside && placed.char == '\t' then Option.none
      else if isBreak placed.char then
        blockBreaks? indent widest (placed.char :: reversed) rest
      else some (widest, reversed, placed :: rest)

/-- The state between two lines of a block. -/
structure BlockLines where
  /-- The content so far, latest character first. -/
  reversed : List Char
  /-- The line break that ended the latest line. -/
  lineBreak : List Char
  /-- The empty lines behind it, latest first. -/
  emptyLines : List Char
  /-- Whether the latest line started with a blank. -/
  wasIndented : Bool
  deriving Repr

/--
Scan the lines of a block.  A folded block joins two lines with a space unless
one of them starts with a blank or empty lines lie between them.
-/
def blockLines?
    (literal : Bool) (indent : Nat) :
    Nat → BlockLines → List Placed → Option (BlockLines × List Placed)
  | 0, _, _ => Option.none
  | fuel + 1, lines, source =>
      if columnOf source ≠ indent || isEnd (peek source) then some (lines, source)
      else
        let indented := isBlank (peek source)
        let folds :=
          !literal && lines.lineBreak == ['\n'] && !lines.wasIndented && !indented
        let glue :=
          if folds then
            if lines.emptyLines.isEmpty then [' '] else lines.emptyLines
          else lines.emptyLines ++ lines.lineBreak
        let content := source.takeWhile fun placed => !endsLine placed.char
        let behind := skipToBreak source
        let lineBreak := if isBreak (peek behind) then [peek behind] else []
        match blockBreaks? indent 0 [] (skipBreak behind) with
        | Option.none => Option.none
        | some (_, emptyLines, rest) =>
            blockLines? literal indent fuel
              ⟨(content.map (·.char)).reverse ++ glue ++ lines.reversed,
                lineBreak, emptyLines, indented⟩
              rest

/--
Scan a block scalar behind its first character.  `parent` is the indentation of
the collection around it, which is `-1` at the top.
-/
def block? (literal : Bool) (parent : Int) (source : List Placed) : Option ScalarText :=
  match blockHeader? source with
  | Option.none => Option.none
  | some (header, behind) =>
      let spaced := skipBlanks behind
      let atBreak := if peek spaced == '#' then skipToBreak spaced else spaced
      if !endsLine (peek atBreak) then Option.none
      else
        let given : Nat :=
          match header.increment with
          | some increment => (max parent 0).toNat + increment
          | Option.none => 0
        match blockBreaks? given 0 [] (skipBreak atBreak) with
        | Option.none => Option.none
        | some (widest, emptyLines, rest) =>
            let indent :=
              if given == 0 then max (max widest (parent + 1).toNat) 1 else given
            match blockLines? literal indent (rest.length + 1)
                ⟨[], [], emptyLines, false⟩ rest with
            | Option.none => Option.none
            | some (lines, rest) =>
                let tail :=
                  match header.chomping with
                  | .strip => []
                  | .clip => lines.lineBreak
                  | .keep => lines.emptyLines ++ lines.lineBreak
                some ⟨String.ofList (tail ++ lines.reversed).reverse, true, rest⟩

end Yaml
end LifecycleOperator
