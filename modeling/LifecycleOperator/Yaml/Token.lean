import LifecycleOperator.Yaml.Scalar

/-!
# Tokens

A text is a sequence of tokens: indicators, scalars, anchors, tags, directives
and the starts and ends of block collections, which are seen from indentation
alone.  A key without an indicator is recognised when its colon is met, so that
the scanner remembers where one may have begun and puts the key indicator there
afterwards.
-/

namespace LifecycleOperator
namespace Yaml

/-- The smallest meaningful pieces of a text. -/
inductive Token
  | version (major minor : Nat)
  | tagHandle (handle : String)
  | documentStart
  | documentEnd
  | blockSequenceStart
  | blockMappingStart
  | blockEnd
  | flowSequenceStart
  | flowSequenceEnd
  | flowMappingStart
  | flowMappingEnd
  | blockEntry
  | flowEntry
  | key
  | value
  | alias (name : String)
  | anchor (name : String)
  | tag (handle : String)
  | scalar (text : String) (plain : Bool)
  deriving DecidableEq, Repr, Inhabited

/-- A place where a key without an indicator may have begun. -/
structure KeyStart where
  tokens : Nat
  /-- Whether nothing but a key can stand there. -/
  isRequired : Bool
  index : Nat
  /-- Its line; the colon has to follow on the same one. -/
  line : Nat
  /-- Its column, which is the indentation of the mapping. -/
  column : Nat
  deriving DecidableEq, Repr

/-- What the scanner knows between two tokens. -/
structure Scanner where
  tokens : Array Token
  /-- The indentation of the current block collection, `-1` outside of all. -/
  indent : Int
  /-- The indentations of the collections around it. -/
  outer : List Int
  /-- The possible key of every open flow collection, innermost first. -/
  keys : List (Option KeyStart)
  keyAllowed : Bool
  deriving Repr

namespace Scanner

def initial : Scanner :=
  ⟨#[], -1, [], [none], true⟩

def inFlow (scanner : Scanner) : Bool :=
  1 < scanner.keys.length

def emit (scanner : Scanner) (token : Token) : Scanner :=
  { scanner with tokens := scanner.tokens.push token }

/-- Add a token in front of all but the first `position` tokens. -/
def insertAt (scanner : Scanner) (position : Nat) (token : Token) : Scanner :=
  { scanner with
    tokens := (scanner.tokens.extract 0 position).push token ++
      scanner.tokens.extract position scanner.tokens.size }

/-- Allow or forbid a key to begin here. -/
def allowKey (scanner : Scanner) (isAllowed : Bool) : Scanner :=
  { scanner with keyAllowed := isAllowed }

/-- Close the block collections that are indented more than the column. -/
def unroll (scanner : Scanner) (column : Int) : Scanner :=
  if scanner.inFlow then scanner
  else go scanner.outer scanner.indent scanner.tokens
where
  /-- Close one collection after the other. -/
  go : List Int → Int → Array Token → Scanner
    | [], indent, tokens => { scanner with outer := [], indent, tokens }
    | next :: outer, indent, tokens =>
        if column < indent then go outer next (tokens.push .blockEnd)
        else { scanner with outer := next :: outer, indent, tokens }

/-- Open a block collection at the column, unless one is already open there. -/
def roll
    (scanner : Scanner) (column : Nat) (position : Nat) (token : Token) : Scanner :=
  if scanner.inFlow then scanner
  else if scanner.indent < column then
    { scanner.insertAt position token with
      outer := scanner.indent :: scanner.outer
      indent := column }
  else scanner

/-- Give up a possible key; one that is required must not be given up. -/
def dropKey? (scanner : Scanner) : Option Scanner :=
  match scanner.keys with
  | some key :: rest =>
      if key.isRequired then none else some { scanner with keys := none :: rest }
  | _ => some scanner

/-- Give up the possible keys that have become too long or end on another line. -/
def dropStale? (scanner : Scanner) (placed : Placed) : Option Scanner :=
  let isStale (key : KeyStart) : Bool :=
    key.line < placed.line || key.index + 1024 < placed.index
  let keys := scanner.keys.mapM fun possible =>
    match possible with
    | none => some none
    | some key =>
        if isStale key then if key.isRequired then none else some none
        else some (some key)
  keys.map fun keys => { scanner with keys }

/-- Remember that a key may begin here. -/
def saveKey? (scanner : Scanner) (placed : Placed) : Option Scanner :=
  if scanner.keyAllowed then
    let key : KeyStart :=
      { tokens := scanner.tokens.size
        isRequired := !scanner.inFlow && scanner.indent == placed.column
        index := placed.index
        line := placed.line
        column := placed.column }
    scanner.dropKey?.map fun scanner =>
      { scanner with keys := some key :: scanner.keys.drop 1 }
  else some scanner

end Scanner

/--
Skip blanks, comments and line breaks in front of a token.  In block style a
line break allows a key to begin, and tabs are only skipped where none may.  A
byte order mark at the start of a line is skipped too, but takes up its column.
-/
def skipToToken (inFlow inComment : Bool) (keyAllowed : Bool) :
    List Placed → Bool × List Placed
  | [] => (keyAllowed, [])
  | placed :: rest =>
      let char := placed.char
      if inComment && !endsLine char then skipToToken inFlow true keyAllowed rest
      else if placed.column == 0 && isByteOrderMark char then
        skipToToken inFlow false keyAllowed rest
      else if char == ' ' || ((inFlow || !keyAllowed) && char == '\t') then
        skipToToken inFlow false keyAllowed rest
      else if isBreak char then
        skipToToken inFlow false (keyAllowed || !inFlow) rest
      else if char == '#' then skipToToken inFlow true keyAllowed rest
      else (keyAllowed, placed :: rest)

def takeWord (source : List Placed) : String × List Placed :=
  (String.ofList ((source.takeWhile fun placed => isWord placed.char).map (·.char)),
    source.dropWhile fun placed => isWord placed.char)

/-- The characters of the names that tags consist of. -/
def isTagCharacter (verbatim : Bool) (char : Char) : Bool :=
  isWord char ||
    [';', '/', '?', ':', '@', '&', '=', '+', '$', '.', '!', '~', '*', '\'', '(', ')'].contains
      char ||
    (verbatim && (char == ',' || char == '[' || char == ']'))

/-- Take the rest of a tag, in which bytes may be written in hexadecimal. -/
def takeTag? (verbatim : Bool) : Nat → List Placed → Option (Nat × List Placed)
  | count, [] => some (count, [])
  | count, placed :: rest =>
      if placed.char == '%' then
        match rest with
        | high :: low :: more =>
            match hexDigit? high.char, hexDigit? low.char with
            | some _, some _ => takeTag? verbatim (count + 1) more
            | _, _ => none
        | _ => none
      else if isTagCharacter verbatim placed.char then
        takeTag? verbatim (count + 1) rest
      else some (count, placed :: rest)

/-- Take the handle of a tag: an exclamation mark, or a word between two. -/
def takeHandle? (source : List Placed) : Option (String × List Placed) :=
  if peek source == '!' then
    let (word, rest) := takeWord (source.drop 1)
    if peek rest == '!' then some ("!" ++ word ++ "!", rest.drop 1)
    else some ("!" ++ word, rest)
  else none

/-- Scan a tag; what counts is the handle that has to be declared. -/
def tag? (inFlow : Bool) (source : List Placed) : Option (Token × List Placed) :=
  let scanned : Option (String × List Placed) :=
    if peekNext source == '<' then
      (takeTag? true 0 (source.drop 2)).bind fun (count, rest) =>
        if count == 0 || peek rest != '>' then none else some ("", rest.drop 1)
    else
      (takeHandle? source).bind fun (handle, rest) =>
        if 1 < handle.length && handle.endsWith "!" then
          (takeTag? false 0 rest).bind fun (count, rest) =>
            if count == 0 then none else some (handle, rest)
        else
          (takeTag? false 1 rest).map fun (_, behind) =>
            (if handle == "!" && rest.length == behind.length then "" else "!", behind)
  scanned.bind fun (handle, rest) =>
    if isSpacing (peek rest) || (inFlow && peek rest == ',') then
      some (.tag handle, rest)
    else none

/-- Scan the name of an anchor or of an alias. -/
def reference? (source : List Placed) : Option (String × List Placed) :=
  let (name, rest) := takeWord (source.drop 1)
  let behind := peek rest
  if name.isEmpty then none
  else if isSpacing behind || ['?', ':', ',', ']', '\x7d', '%', '@', '`'].contains behind then
    some (name, rest)
  else none

/-- Take a number of at most nine digits. -/
def takeNumber? (source : List Placed) : Option (Nat × List Placed) :=
  let digits := source.takeWhile fun placed => placed.char.isDigit
  if digits.isEmpty || 9 < digits.length then none
  else
    some (digits.foldl (fun total digit => total * 10 + (digit.char.toNat - '0'.toNat)) 0,
      source.drop digits.length)

def directiveValue? (name : String) (source : List Placed) :
    Option (Token × List Placed) :=
  let source := skipBlanks source
  if name == "YAML" then
    (takeNumber? source).bind fun (major, rest) =>
      if peek rest == '.' then
        (takeNumber? (rest.drop 1)).map fun (minor, rest) =>
          (.version major minor, rest)
      else none
  else if name == "TAG" then
    (takeHandle? source).bind fun (handle, rest) =>
      if !(handle == "!" || (1 < handle.length && handle.endsWith "!")) then none
      else if !isBlank (peek rest) then none
      else
        (takeTag? true 0 (skipBlanks rest)).bind fun (count, rest) =>
          if count == 0 || !isSpacing (peek rest) then none
          else some (.tagHandle handle, rest)
  else none

/-- Scan a directive, which takes a line of its own. -/
def directive? (source : List Placed) : Option (Token × List Placed) :=
  let (name, rest) := takeWord (source.drop 1)
  if name.isEmpty || !isSpacing (peek rest) then none
  else
    (directiveValue? name rest).bind fun (token, rest) =>
      let rest := skipBlanks rest
      let rest := if peek rest == '#' then skipToBreak rest else rest
      if endsLine (peek rest) then some (token, skipBreak rest) else none

/-- Whether a plain scalar may begin here. -/
def startsPlain (inFlow : Bool) (source : List Placed) : Bool :=
  let char := peek source
  let following := peekNext source
  let isIndicator :=
    ['-', '?', ':', ',', '[', ']', '\x7b', '\x7d', '#', '&', '*', '!', '|', '>',
      '\'', '"', '%', '@', '`'].contains char
  !(isSpacing char || isIndicator) ||
    (char == '-' && !isBlank following) ||
    (!inFlow && (char == '?' || char == ':') && !isSpacing following)

namespace Scanner

/-- A directive or a document marker closes every block. -/
def startLine? (scanner : Scanner) : Option Scanner :=
  (scanner.unroll (-1)).dropKey?.map (·.allowKey false)

def openFlow? (scanner : Scanner) (placed : Placed) (token : Token) : Option Scanner :=
  (scanner.saveKey? placed).map fun scanner =>
    ({ scanner with keys := none :: scanner.keys, keyAllowed := true }).emit token

def closeFlow? (scanner : Scanner) (token : Token) : Option Scanner :=
  scanner.dropKey?.map fun scanner =>
    let keys := if scanner.inFlow then scanner.keys.drop 1 else scanner.keys
    ({ scanner with keys, keyAllowed := false }).emit token

def entry? (scanner : Scanner) (placed : Placed) : Option Scanner :=
  let opened :=
    if scanner.inFlow then some scanner
    else if scanner.keyAllowed then
      some (scanner.roll placed.column scanner.tokens.size .blockSequenceStart)
    else none
  (opened.bind dropKey?).map fun scanner => (scanner.allowKey true).emit .blockEntry

def key? (scanner : Scanner) (placed : Placed) : Option Scanner :=
  let opened :=
    if scanner.inFlow then some scanner
    else if scanner.keyAllowed then
      some (scanner.roll placed.column scanner.tokens.size .blockMappingStart)
    else none
  (opened.bind dropKey?).map fun scanner =>
    (scanner.allowKey !scanner.inFlow).emit .key

/-- A colon, which ends a possible key or stands on its own. -/
def value? (scanner : Scanner) (placed : Placed) : Option Scanner :=
  match scanner.keys with
  | some key :: rest =>
      let marked := scanner.insertAt key.tokens .key
      let opened := marked.roll key.column key.tokens .blockMappingStart
      some (({ opened with keys := none :: rest, keyAllowed := false }).emit .value)
  | _ =>
      if scanner.inFlow then some ((scanner.allowKey false).emit .value)
      else if scanner.keyAllowed then
        let opened := scanner.roll placed.column scanner.tokens.size .blockMappingStart
        some ((opened.allowKey true).emit .value)
      else none

/-- A scalar that may be a key. -/
def scalar?
    (scanner : Scanner) (placed : Placed) (scanned : Option ScalarText)
    (isPlain : Bool) : Option (Scanner × List Placed) :=
  (scanner.saveKey? placed).bind fun scanner =>
    scanned.map fun scalar =>
      ((scanner.allowKey (isPlain && scalar.endsWithBreak)).emit
        (.scalar scalar.text isPlain), scalar.rest)

/-- Scan one token.  The result is empty at the end of the text. -/
def next? (scanner : Scanner) (source : List Placed) :
    Option (Scanner × List Placed) :=
  let (keyAllowed, source) :=
    skipToToken scanner.inFlow false scanner.keyAllowed source
  match source with
  | [] => none
  | placed :: rest =>
      let char := placed.char
      let following := peek rest
      let source := placed :: rest
      ((scanner.allowKey keyAllowed).dropStale? placed).bind fun scanner =>
        let scanner := scanner.unroll placed.column
        let inFlow := scanner.inFlow
        let one (scanned : Option Scanner) : Option (Scanner × List Placed) :=
          scanned.map fun scanner => (scanner, rest)
        if isEnd char then
          (scanner.unroll (-1)).dropKey?.map fun scanner => (scanner, [])
        else if placed.column == 0 && char == '%' then
          scanner.startLine?.bind fun scanner =>
            (directive? source).map fun (token, rest) => (scanner.emit token, rest)
        else if startsMarker '-' source then
          scanner.startLine?.map fun scanner =>
            (scanner.emit .documentStart, source.drop 3)
        else if startsMarker '.' source then
          scanner.startLine?.map fun scanner =>
            (scanner.emit .documentEnd, source.drop 3)
        else if char == '[' then one (scanner.openFlow? placed .flowSequenceStart)
        else if char == '\x7b' then one (scanner.openFlow? placed .flowMappingStart)
        else if char == ']' then one (scanner.closeFlow? .flowSequenceEnd)
        else if char == '\x7d' then one (scanner.closeFlow? .flowMappingEnd)
        else if char == ',' then
          one (scanner.dropKey?.map fun scanner =>
            (scanner.allowKey true).emit .flowEntry)
        else if char == '-' && isSpacing following then one (scanner.entry? placed)
        else if char == '?' && (inFlow || isSpacing following) then
          one (scanner.key? placed)
        else if char == ':' && (inFlow || isSpacing following) then
          one (scanner.value? placed)
        else if char == '*' || char == '&' then
          (scanner.saveKey? placed).bind fun scanner =>
            (reference? source).map fun (name, rest) =>
              let token : Token := if char == '*' then .alias name else .anchor name
              ((scanner.allowKey false).emit token, rest)
        else if char == '!' then
          (scanner.saveKey? placed).bind fun scanner =>
            (tag? inFlow source).map fun (token, rest) =>
              ((scanner.allowKey false).emit token, rest)
        else if !inFlow && (char == '|' || char == '>') then
          scanner.dropKey?.bind fun scanner =>
            (block? (char == '|') scanner.indent rest).map fun scalar =>
              ((scanner.allowKey true).emit (.scalar scalar.text false), scalar.rest)
        else if char == '\'' then
          scanner.scalar? placed (singleQuoted? [] .none rest) false
        else if char == '"' then
          scanner.scalar? placed (doubleQuoted? [] .none .text rest) false
        else if startsPlain inFlow source then
          scanner.scalar? placed (plain? inFlow (scanner.indent + 1) [] .none source) true
        else none

/-- Scan token after token until the text ends. -/
def run? : Nat → Scanner → List Placed → Option (List Token)
  | _, scanner, [] => some scanner.tokens.toList
  | 0, _, _ => none
  | fuel + 1, scanner, source =>
      (scanner.next? source).bind fun (scanner, rest) => run? fuel scanner rest

end Scanner

def scan? (text : String) : Option (List Token) :=
  (place? text).bind fun source =>
    Scanner.initial.run? (source.length + 1) source

end Yaml
end LifecycleOperator
