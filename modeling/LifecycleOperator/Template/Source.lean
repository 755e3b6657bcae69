import LifecycleOperator.Template.Basic
import LifecycleOperator.Text.Space

/-!
# Template texts

A template text alternates between text and tags in double braces.  A tilde
inside of the braces removes the spacing next to the tag, and the tag of a block
or a comment that stands alone on its line takes the line away.  A backslash in
front of a tag makes it a text.
-/

namespace LifecycleOperator
namespace Template

/-- What stands between braces. -/
inductive Tag
  | value (path : Path)
  | call (helper : String) (operands : List Operand)
  | opening (helper : String) (operands : List Operand)
  | otherwise
  | otherwiseIf (helper : String) (operands : List Operand)
  | closing (name : String)
  | comment
  deriving Repr, Inhabited

/-- A tag with its tildes. -/
structure TagText where
  tag : Tag
  /-- Whether spacing in front of it goes. -/
  trimsBefore : Bool
  /-- Whether spacing behind it goes. -/
  trimsAfter : Bool
  deriving Repr, Inhabited

/-- A text and the tag behind it, if any. -/
structure Piece where
  /-- The text as it is written, without the backslashes that protect braces. -/
  text : String
  tag : Option TagText
  /-- Whether nothing but blanks stands in front of the tag on its line. -/
  beginsLine : Bool
  /-- Whether nothing but blanks stands behind the tag on its line. -/
  endsLine : Bool
  deriving Repr, Inhabited

def isSpacing (char : Char) : Bool :=
  char = ' ' || char = '\t' || char = '\n' || char = '\r'

def isBlank (char : Char) : Bool :=
  char = ' ' || char = '\t'

def isNewline (char : Char) : Bool :=
  char = '\n' || char = '\r'

def isSymbol (char : Char) : Bool :=
  char.isAlphanum || char = '-' || char = '_' || 0x80 ≤ char.toNat

def skipSpacing (source : List Char) : List Char :=
  source.dropWhile isSpacing

def expect? : (expected source : List Char) → Option (List Char)
  | [], source => some source
  | _, [] => none
  | char :: more, next :: rest => if char = next then expect? more rest else none

/-- Take the characters off the front as long as they satisfy a property. -/
def takeName (isPart : Char → Bool) (source : List Char) : String × List Char :=
  (String.ofList (source.takeWhile isPart), source.dropWhile isPart)

/-- Take one element of a path: a name, or any text in brackets. -/
def pathItem? : List Char → Option (String × List Char)
  | '[' :: rest =>
      let (name, behind) := takeName (· ≠ ']') rest
      match behind with
      | ']' :: rest => some (name, rest)
      | _ => none
  | source =>
      let (name, rest) := takeName isSymbol source
      if name.isEmpty then none else some (name, rest)

/-- Whether a character separates the elements of a path. -/
def isSeparator (char : Char) : Bool :=
  char = '.' || char = '/'

/-- Take the further elements of a path. -/
def pathItems : Nat → List Char → List String × List Char
  | 0, source => ([], source)
  | fuel + 1, source =>
      match source with
      | char :: rest =>
          if isSeparator char then
            match pathItem? rest with
            | some (name, rest) =>
                let (names, rest) := pathItems fuel rest
                (name :: names, rest)
            | none => ([], source)
          else ([], source)
      | [] => ([], source)

/-- Take the steps out of loops at the start of a path. -/
def pathUps : List Char → Nat × List Char
  | '.' :: '.' :: char :: rest =>
      if isSeparator char then
        let (count, rest) := pathUps rest
        (count + 1, rest)
      else (0, '.' :: '.' :: char :: rest)
  | source => (0, source)

def path? (source : List Char) : Option (Path × List Char) :=
  let current :=
    match source with
    | 't' :: 'h' :: 'i' :: 's' :: char :: rest =>
        if isSeparator char then rest else source
    | '.' :: '/' :: rest => rest
    | _ => source
  let (isRoot, current) :=
    match expect? "@root".toList current with
    | some (char :: rest) => if isSeparator char then (true, rest) else (false, current)
    | _ => (false, current)
  let (isLoop, current) :=
    match current with
    | '@' :: rest => (true, rest)
    | _ => (false, current)
  let (up, current) := pathUps current
  (pathItem? current).map fun (name, rest) =>
    let (names, rest) := pathItems rest.length rest
    let origin : Origin :=
      if isRoot then .root else if isLoop then .loop up else .context up
    let written := String.ofList (source.take (source.length - rest.length))
    (⟨origin, (name :: names).filter (· ≠ "this"), written⟩, rest)

/-- Take a quoted text without escapes. -/
def quotedText? : List Char → Option (String × List Char)
  | mark :: rest =>
      if mark = '"' || mark = '\'' then
        let (content, behind) :=
          takeName (fun char => char ≠ mark && char ≠ '\\') rest
        match behind with
        | char :: rest => if char = mark then some (content, rest) else none
        | [] => none
      else none
  | [] => none

/-- Take a literal: a quoted text, a whole number or a word of its own. -/
def literal? (source : List Char) : Option (Json × List Char) :=
  match quotedText? source with
  | some (content, rest) => some (.string content, rest)
  | none =>
      let (word, rest) := takeName isSymbol source
      let (negative, digits) :=
        match word.toList with
        | '-' :: more => (true, more)
        | more => (false, more)
      let isNumber := !digits.isEmpty && digits.all Char.isDigit
      let value : Int :=
        digits.foldl (fun total digit => total * 10 + (digit.toNat - '0'.toNat)) 0
      if word = "null" then some (.null, rest)
      else if word = "true" then some (.bool true, rest)
      else if word = "false" then some (.bool false, rest)
      else if isNumber then some (Json.ofInt (if negative then -value else value), rest)
      else none

def operand? (source : List Char) : Option (Operand × List Char) :=
  match literal? source with
  | some (value, rest) => some (.literal value, rest)
  | none =>
      if (takeName isSymbol source).1 = "else" || (takeName isSymbol source).1 = "as" then
        none
      else (path? source).map fun (path, rest) => (.path path, rest)

/-- Take operands, with spacing in between. -/
def operands : Nat → List Char → List Operand × List Char
  | 0, source => ([], source)
  | fuel + 1, source =>
      match operand? (skipSpacing source) with
      | some (first, rest) =>
          let (others, rest) := operands fuel rest
          (first :: others, rest)
      | none => ([], source)

def application? (source : List Char) : Option ((String × List Operand) × List Char) :=
  let (name, rest) := takeName (fun char => isSymbol char || char = '/') source
  if name.isEmpty || !(name.toList.head?.any isSymbol) then none
  else
    let (values, rest) := operands rest.length rest
    some ((name, values), rest)

/-- Take a path alone, or a name with at least one operand. -/
def expression? (source : List Char) : Option (Tag × List Char) :=
  match application? source with
  | some ((name, first :: others), rest) => some (.call name (first :: others), rest)
  | _ => (path? source).map fun (path, rest) => (.value path, rest)

/-- Take the inside of a tag, behind its first tilde. -/
def tagContent? (source : List Char) : Option (Tag × List Char) :=
  match source with
  | '#' :: rest =>
      (application? (skipSpacing rest)).map fun ((name, values), rest) =>
        (.opening name values, rest)
  | '/' :: rest =>
      let (name, rest) :=
        takeName (fun char => isSymbol char || char = '/') (skipSpacing rest)
      if name.isEmpty then none else some (.closing name, rest)
  | '^' :: rest => some (otherwise rest)
  | '&' :: rest =>
      (path? (skipSpacing rest)).map fun (path, rest) => (.value path, rest)
  | '\x7b' :: rest =>
      (expression? (skipSpacing rest)).bind fun (tag, rest) =>
        (expect? ['\x7d'] (skipSpacing rest)).map fun rest => (tag, rest)
  | source =>
      let (word, rest) := takeName isSymbol source
      if word = "else" then some (otherwise rest) else expression? source
where
  /-- What follows the word that begins the alternative of a block. -/
  otherwise (rest : List Char) : Tag × List Char :=
    match application? (skipSpacing rest) with
    | some ((name, values), rest) => (.otherwiseIf name values, rest)
    | none => (.otherwise, rest)

/-- Take a tilde, if there is one. -/
def tilde (source : List Char) : Bool × List Char :=
  match skipSpacing source with
  | '~' :: rest => (true, skipSpacing rest)
  | rest => (false, rest)

/-- Skip a comment up to its end. -/
def skipComment? (ending : List Char) : List Char → Option (List Char)
  | [] => none
  | char :: rest =>
      match expect? ending (char :: rest) with
      | some behind => some behind
      | none => skipComment? ending rest

/-- Take a comment; one that begins with two dashes may contain closing braces. -/
def comment? (source : List Char) : Option (TagText × List Char) :=
  let skipped :=
    match source with
    | '!' :: '-' :: '-' :: rest =>
        match skipComment? ['-', '-', '\x7d', '\x7d'] rest with
        | some behind => some behind
        | none => skipComment? ['\x7d', '\x7d'] rest
    | '!' :: rest => skipComment? ['\x7d', '\x7d'] rest
    | _ => none
  skipped.map fun rest => (⟨.comment, false, false⟩, rest)

/-- Take a tag, behind its opening braces. -/
def tag? (source : List Char) : Option (TagText × List Char) :=
  match comment? (skipSpacing source) with
  | some result => some result
  | none =>
      let (trimsBefore, inner) := tilde source
      (tagContent? inner).bind fun (tag, rest) =>
        let (trimsAfter, rest) := tilde rest
        (expect? ['\x7d', '\x7d'] rest).map fun rest =>
          (⟨tag, trimsBefore, trimsAfter⟩, rest)

/-- The number of backslashes in front of braces, if braces follow them. -/
def protection? : List Char → Option Nat
  | '\\' :: rest => (protection? rest).map (· + 1)
  | '\x7b' :: '\x7b' :: _ => some 0
  | _ => none

/--
Take a text up to the next tag.  One backslash protects the braces behind it; of
several ones the first is left out and the tag counts.  The result holds the
text and the written characters, both latest first.
-/
def takeText :
    Nat → (text written : List Char) → List Char → List Char × List Char × List Char
  | 0, text, written, source => (text, written, source)
  | _, text, written, [] => (text, written, [])
  | fuel + 1, text, written, char :: rest =>
      match protection? (char :: rest) with
      | some 0 => (text, written, char :: rest)
      | some 1 =>
          let braces :=
            if (expect? ['\x7b', '\x7b', '\x7b', '\x7b'] rest).isSome then 4 else 2
          let plain := (rest.take braces).reverse
          takeText fuel (plain ++ text) (plain ++ char :: written)
            (rest.drop braces)
      | some count =>
          let slashes := List.replicate (count - 1) '\\'
          (slashes ++ text, '\\' :: slashes ++ written, rest.drop (count - 1))
      | none => takeText fuel (char :: text) (char :: written) rest

/-- Whether a text, latest character first, ends with a line of blanks. -/
def endsWithBlankLine (written : List Char) : Bool :=
  match written.dropWhile isBlank with
  | [] => true
  | char :: _ => isNewline char

/-- Whether a text starts with the end of a line, or is empty. -/
def startsWithLineEnd (source : List Char) : Bool :=
  source.isEmpty ||
    match source.dropWhile isBlank with
    | [] => false
    | char :: _ => isNewline char

/-- Split a text into pieces; `written` is what precedes it, latest first. -/
def pieces? : Nat → (written : List Char) → List Char → Option (List Piece)
  | 0, _, _ => none
  | fuel + 1, written, source =>
      let (text, before, rest) := takeText (source.length + 1) [] written source
      let content := String.ofList text.reverse
      match rest with
      | [] => some [⟨content, none, false, false⟩]
      | _ =>
          (tag? (rest.drop 2)).bind fun (tag, behind) =>
            let consumed := rest.take (rest.length - behind.length)
            let piece : Piece :=
              { text := content
                tag := some tag
                beginsLine := endsWithBlankLine before
                endsLine := startsWithLineEnd behind }
            (pieces? fuel (consumed.reverse ++ before) behind).map (piece :: ·)

/-- A block that is still open; its parts are kept latest first. -/
structure OpenBlock where
  /-- The name that the closing tag has to repeat. -/
  name : String
  /-- The helper of the part that is being read. -/
  helper : String
  operands : List Operand
  /-- The parts in front of the block. -/
  before : List Part
  /-- The body, once its alternative has begun. -/
  body : Option (List Part)
  /-- Whether the block is the alternative of the one around it. -/
  isChained : Bool

/-- What is known while pieces are put together. -/
structure Assembly where
  /-- The parts of the innermost open template, latest first. -/
  parts : List Part
  /-- The open blocks, innermost first. -/
  blocks : List OpenBlock
  /-- Whether spacing at the start of the next text goes. -/
  trimsNext : Bool
  /-- Whether the rest of the line at the start of the next text goes. -/
  dropsLine : Bool

namespace Assembly

def trimStart (text : String) : String :=
  String.ofList (text.toList.dropWhile Text.isSpace)

def trimEnd (isRemoved : Char → Bool) (text : String) : String :=
  String.ofList (text.toList.reverse.dropWhile isRemoved).reverse

/-- Remove the rest of a line at the start. -/
def dropLine (text : String) : String :=
  match text.toList.dropWhile isBlank with
  | '\r' :: '\n' :: rest => String.ofList rest
  | '\n' :: rest => String.ofList rest
  | rest => String.ofList rest

def addText (assembly : Assembly) (text : String) : Assembly :=
  if text.isEmpty then assembly
  else if assembly.trimsNext then
    if text.toList.all isSpacing then assembly
    else
      { assembly with
        parts := .text (trimStart text) :: assembly.parts
        dropsLine := false }
  else
    let content := if assembly.dropsLine then dropLine text else text
    { assembly with parts := .text content :: assembly.parts, dropsLine := false }

/-- Change the latest part, if it is a text. -/
def mapLatestText (assembly : Assembly) (change : String → String) : Assembly :=
  match assembly.parts with
  | .text content :: rest => { assembly with parts := .text (change content) :: rest }
  | _ => assembly

/-- Take the line of a tag away, if it stands there alone. -/
def alone (assembly : Assembly) (piece : Piece) : Assembly :=
  let isAlone := piece.endsLine && piece.beginsLine
  let trimmed := if isAlone then assembly.mapLatestText (trimEnd isBlank) else assembly
  { trimmed with dropsLine := isAlone }

/-- Close a block, and those that it is an alternative of. -/
def close? (name : String) : List OpenBlock → List Part → Option (List OpenBlock × List Part)
  | [], _ => none
  | block :: rest, parts =>
      if block.name ≠ name then none
      else
        let part : Part :=
          match block.body with
          | none => .block block.helper block.operands parts.reverse none
          | some body => .block block.helper block.operands body (some parts.reverse)
        if block.isChained then close? name rest (part :: block.before)
        else some (rest, part :: block.before)

/-- Begin the alternative of the innermost block. -/
def alternative? (assembly : Assembly) : Option Assembly :=
  match assembly.blocks with
  | block :: rest =>
      if block.body.isSome then none
      else
        some { assembly with
          parts := []
          blocks := { block with body := some assembly.parts.reverse } :: rest }
  | [] => none

def add? (assembly : Assembly) (piece : Piece) : Option Assembly :=
  let assembly := assembly.addText piece.text
  match piece.tag with
  | none => some assembly
  | some tag =>
      let trimmed :=
        if tag.trimsBefore then assembly.mapLatestText (trimEnd Text.isSpace) else assembly
      let trimmed := { trimmed with trimsNext := tag.trimsAfter }
      match tag.tag with
      | .comment =>
          let alone := assembly.alone piece
          some { alone with parts := .text "" :: alone.parts }
      | .value path => some { trimmed with parts := .value path :: trimmed.parts }
      | .call helper values =>
          some { trimmed with parts := .call helper values :: trimmed.parts }
      | .opening helper values =>
          let alone := trimmed.alone piece
          some { alone with
            parts := []
            blocks := ⟨helper, helper, values, alone.parts, none, false⟩ :: alone.blocks }
      | .otherwise => (trimmed.alone piece).alternative?
      | .otherwiseIf helper values =>
          (trimmed.alone piece).alternative?.bind fun assembly =>
            match assembly.blocks with
            | block :: _ =>
                some { assembly with
                  blocks := ⟨block.name, helper, values, [], none, true⟩ :: assembly.blocks }
            | [] => none
      | .closing name =>
          let alone := trimmed.alone piece
          (close? name alone.blocks alone.parts).map fun (blocks, parts) =>
            { alone with blocks, parts }

end Assembly

def read? (source : String) : Option Template :=
  let chars := source.toList
  (pieces? (chars.length + 1) [] chars).bind fun pieces =>
    match pieces.foldlM Assembly.add? (⟨[], [], false, false⟩ : Assembly) with
    | some assembly =>
        if assembly.blocks.isEmpty then some assembly.parts.reverse else none
    | none => none

end Template
end LifecycleOperator
