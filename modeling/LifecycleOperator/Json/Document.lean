import LifecycleOperator.Json.Numeral

/-!
# JSON documents

A document is the tree of a JSON text before anything is asked of its leaves: a
number that is out of range, or a string with half of a surrogate pair, is kept
as a leaf without a value.  Such a leaf only matters to a reader that looks at
it.  Repeated names are kept as well, in the order of the text.

A text is split into tokens by a machine that takes one character at a time, and
the tokens are put together by a second machine that keeps the open arrays and
objects on a stack, so that nesting is bounded by nothing but the text.
-/

namespace LifecycleOperator

/-- A JSON text as a tree. -/
inductive Document
  | null
  | bool (value : Bool)
  | number (value : Option Number)
  | string (text : Option String)
  | array (items : List Document)
  | object (fields : List (Option String × Document))
  deriving Repr, Inhabited

/-- The smallest meaningful pieces of a JSON text. -/
inductive JsonToken
  | openArray
  | closeArray
  | openObject
  | closeObject
  | comma
  | colon
  | null
  | bool (value : Bool)
  | number (value : Option Number)
  | string (text : Option String)
  deriving Repr, Inhabited

namespace JsonToken

/-- A part of a string: a character, or a unit that was written in hexadecimal. -/
inductive Piece
  | char (value : Char)
  | unit (value : Nat)
  deriving DecidableEq, Repr

/-- Whether a unit is the first half of a surrogate pair. -/
def isHighSurrogate (unit : Nat) : Bool :=
  0xD800 ≤ unit && unit < 0xDC00

/-- Whether a unit is the second half of a surrogate pair. -/
def isLowSurrogate (unit : Nat) : Bool :=
  0xDC00 ≤ unit && unit < 0xE000

/-- The characters of a string, if no half of a surrogate pair stands alone. -/
def characters? : List Piece → Option (List Char)
  | [] => some []
  | .char value :: rest => (characters? rest).map (value :: ·)
  | .unit high :: .unit low :: rest =>
      if isHighSurrogate high then
        if isLowSurrogate low then
          let code := 0x10000 + (high - 0xD800) * 0x400 + (low - 0xDC00)
          (characters? rest).map (Char.ofNat code :: ·)
        else none
      else if isLowSurrogate high then none
      else (characters? (.unit low :: rest)).map (Char.ofNat high :: ·)
  | .unit unit :: rest =>
      if isHighSurrogate unit || isLowSurrogate unit then none
      else (characters? rest).map (Char.ofNat unit :: ·)

/-- What the scanner is in the middle of. -/
inductive Mode
  | between
  | word (letters : List Char)
  | number (chars : List Char)
  | string (pieces : List Piece)
  | escape (pieces : List Piece)
  | hexadecimal (pieces : List Piece) (missing : Nat) (value : Nat)
  deriving Repr

/-- The tokens found so far, latest first, and what is under way. -/
structure Scanner where
  /-- Complete tokens, the latest one first. -/
  tokens : List JsonToken
  mode : Mode
  deriving Repr

namespace Scanner

def emit (scanner : Scanner) (token : JsonToken) : Scanner :=
  ⟨token :: scanner.tokens, .between⟩

def isBlank (char : Char) : Bool :=
  char = ' ' || char = '\n' || char = '\t' || char = '\r'

def isNumeric (char : Char) : Bool :=
  char.isDigit || char = '-' || char = '+' || char = '.' ||
    char = 'e' || char = 'E'

def word? (letters : List Char) : Option JsonToken :=
  if letters = ['n', 'u', 'l', 'l'] then some .null
  else if letters = ['t', 'r', 'u', 'e'] then some (.bool true)
  else if letters = ['f', 'a', 'l', 's', 'e'] then some (.bool false)
  else none

def finish? (scanner : Scanner) : Option Scanner :=
  match scanner.mode with
  | .between => some scanner
  | .word letters => (word? letters.reverse).map scanner.emit
  | .number chars =>
      (Numeral.read? chars.reverse).map fun numeral =>
        scanner.emit (.number numeral.number?)
  | _ => none

def start? (scanner : Scanner) (char : Char) : Option Scanner :=
  if isBlank char then some scanner
  else if char = '[' then some (scanner.emit .openArray)
  else if char = ']' then some (scanner.emit .closeArray)
  else if char = '\x7b' then some (scanner.emit .openObject)
  else if char = '\x7d' then some (scanner.emit .closeObject)
  else if char = ',' then some (scanner.emit .comma)
  else if char = ':' then some (scanner.emit .colon)
  else if char = '"' then some ⟨scanner.tokens, .string []⟩
  else if char.isDigit || char = '-' then
    some ⟨scanner.tokens, .number [char]⟩
  else if char.isAlpha then some ⟨scanner.tokens, .word [char]⟩
  else none

/-- The character behind a backslash stands for this one. -/
def escaped? (char : Char) : Option Char :=
  match char with
  | '"' => some '"'
  | '\\' => some '\\'
  | '/' => some '/'
  | 'b' => some '\x08'
  | 'f' => some '\x0c'
  | 'n' => some '\n'
  | 'r' => some '\r'
  | 't' => some '\t'
  | _ => none

def hexDigit? (char : Char) : Option Nat :=
  if char.isDigit then some (char.toNat - '0'.toNat)
  else if 'a' ≤ char && char ≤ 'f' then some (char.toNat - 'a'.toNat + 10)
  else if 'A' ≤ char && char ≤ 'F' then some (char.toNat - 'A'.toNat + 10)
  else none

def step? (scanner : Scanner) (char : Char) : Option Scanner :=
  match scanner.mode with
  | .between => scanner.start? char
  | .word letters =>
      if char.isAlpha then some ⟨scanner.tokens, .word (char :: letters)⟩
      else scanner.finish?.bind (·.start? char)
  | .number chars =>
      if isNumeric char then some ⟨scanner.tokens, .number (char :: chars)⟩
      else scanner.finish?.bind (·.start? char)
  | .string pieces =>
      if char = '"' then
        some (scanner.emit
          (.string ((characters? pieces.reverse).map String.ofList)))
      else if char = '\\' then some ⟨scanner.tokens, .escape pieces⟩
      else if char.toNat < 0x20 then none
      else some ⟨scanner.tokens, .string (.char char :: pieces)⟩
  | .escape pieces =>
      if char = 'u' then some ⟨scanner.tokens, .hexadecimal pieces 4 0⟩
      else (escaped? char).map fun plain =>
        ⟨scanner.tokens, .string (.char plain :: pieces)⟩
  | .hexadecimal pieces missing value =>
      (hexDigit? char).map fun digit =>
        let next := value * 16 + digit
        if missing ≤ 1 then ⟨scanner.tokens, .string (.unit next :: pieces)⟩
        else ⟨scanner.tokens, .hexadecimal pieces (missing - 1) next⟩

end Scanner

def scan? (text : List Char) : Option (List JsonToken) :=
  ((text.foldlM Scanner.step? (⟨[], .between⟩ : Scanner)).bind
    Scanner.finish?).map fun scanner => scanner.tokens.reverse

end JsonToken

namespace Document

/-- An array or object that is still open; what it holds is kept latest first. -/
inductive Frame
  | array (items : List Document)
  | object
      (fields : List (Option String × Document))
      (name : Option String)
  deriving Repr

/-- What the tokens so far amount to, and what may follow them. -/
inductive Builder
  | needValue (frames : List Frame)
  | needFirstItem (frames : List Frame)
  | needFirstName (frames : List Frame)
  | needName
      (fields : List (Option String × Document))
      (frames : List Frame)
  | needColon
      (fields : List (Option String × Document))
      (key : Option String)
      (frames : List Frame)
  | complete (document : Document) (frames : List Frame)
  deriving Repr

namespace Builder

/-- Take the first token of a value. -/
def start? (frames : List Frame) : JsonToken → Option Builder
  | .null => some (.complete .null frames)
  | .bool value => some (.complete (.bool value) frames)
  | .number value => some (.complete (.number value) frames)
  | .string text => some (.complete (.string text) frames)
  | .openArray => some (.needFirstItem frames)
  | .openObject => some (.needFirstName frames)
  | _ => none

def step? : Builder → JsonToken → Option Builder
  | .needValue frames, token => start? frames token
  | .needFirstItem frames, .closeArray => some (.complete (.array []) frames)
  | .needFirstItem frames, token => start? (.array [] :: frames) token
  | .needFirstName frames, .closeObject => some (.complete (.object []) frames)
  | .needFirstName frames, .string key => some (.needColon [] key frames)
  | .needName fields frames, .string key => some (.needColon fields key frames)
  | .needColon fields key frames, .colon => some (.needValue (.object fields key :: frames))
  | .complete document (.array items :: frames), .comma =>
      some (.needValue (.array (document :: items) :: frames))
  | .complete document (.array items :: frames), .closeArray =>
      some (.complete (.array (document :: items).reverse) frames)
  | .complete document (.object fields key :: frames), .comma =>
      some (.needName ((key, document) :: fields) frames)
  | .complete document (.object fields key :: frames), .closeObject =>
      some (.complete (.object ((key, document) :: fields).reverse) frames)
  | _, _ => none

end Builder

/-- Put the tokens of one value together. -/
def ofTokens? (tokens : List JsonToken) : Option Document :=
  match tokens.foldlM Builder.step? (.needValue []) with
  | some (.complete document []) => some document
  | _ => none

/-- Read a text that holds exactly one value. -/
def read? (text : String) : Option Document :=
  (JsonToken.scan? text.toList).bind ofTokens?

mutual

/--
The value of a document in which every leaf has a value and arrays and objects
nest less deep than `depth`.
-/
def toJson? (depth : Nat) : Document → Option Json
  | .null => some .null
  | .bool value => some (.bool value)
  | .number value => value.map .number
  | .string text => text.map .string
  | .array items =>
      if depth ≤ 1 then none else (itemsToJson? (depth - 1) items).map .array
  | .object fields =>
      if depth ≤ 1 then none
      else (fieldsToJson? (depth - 1) fields).map Json.ofFields

/-- The values of the items of an array. -/
def itemsToJson? (depth : Nat) : List Document → Option (List Json)
  | [] => some []
  | item :: rest =>
      (toJson? depth item).bind fun value =>
        (itemsToJson? depth rest).map (value :: ·)

/-- The names and values of the fields of an object. -/
def fieldsToJson? (depth : Nat) :
    List (Option String × Document) → Option (List (String × Json))
  | [] => some []
  | (name, field) :: rest =>
      name.bind fun name =>
        (toJson? depth field).bind fun value =>
          (fieldsToJson? depth rest).map ((name, value) :: ·)

end

mutual

def ofJson : Json → Document
  | .null => .null
  | .bool value => .bool value
  | .number value => .number (some value)
  | .string text => .string (some text)
  | .array items => .array (ofJsonItems items)
  | .object fields => .object (ofJsonFields fields)

/-- The documents of the items of an array. -/
def ofJsonItems : List Json → List Document
  | [] => []
  | item :: rest => ofJson item :: ofJsonItems rest

/-- The documents of the fields of an object. -/
def ofJsonFields : List (String × Json) → List (Option String × Document)
  | [] => []
  | (name, value) :: rest => (some name, ofJson value) :: ofJsonFields rest

end

end Document

namespace Json

/-- Arrays and objects that nest this deep are refused when a value is read. -/
def depthLimit : Nat := 128

/-- Read a text that holds exactly one value. -/
def read? (text : String) : Option Json :=
  (Document.read? text).bind (Document.toJson? depthLimit)

end Json

end LifecycleOperator
