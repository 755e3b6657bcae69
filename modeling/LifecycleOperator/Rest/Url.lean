/-!
# Addresses of services

An address is read as it is written by people: blanks around it do not count,
letters that may not stand in an address are percent-encoded, steps to the same
or to the parent folder are taken, and the port that a scheme has anyway is left
out.  A user may be named in front of the host, which is no part of the text of
the address.  Only addresses of web services are usable.
-/

namespace LifecycleOperator

/-- The user that is named in front of a host. -/
structure UrlUser where
  /-- The name, which may be empty. -/
  name : String
  /-- The password, unless there is none. -/
  password : Option String
  deriving DecidableEq, Repr, Inhabited

/-- The address of a web service. -/
structure Url where
  scheme : String
  user : Option UrlUser
  host : String
  /-- The port, unless it is the one that the scheme has anyway. -/
  port : Option Nat
  /-- The path, beginning with a slash. -/
  path : String
  /-- What is asked for, behind a question mark. -/
  query : Option String
  /-- A place within what is found, behind a number sign. -/
  fragment : Option String
  deriving DecidableEq, Repr, Inhabited

/-- Why a text is not the address of a web service. -/
inductive UrlProblem
  | malformed
  /-- The text is an address of something else. -/
  | foreignScheme (url : String)
  deriving DecidableEq, Repr, Inhabited

namespace Url

/-- A port behind a colon; nothing if there is none. -/
def portText (port : Option Nat) : String :=
  (port.map fun port => ":" ++ toString port).getD ""

def authority (url : Url) : String := url.host ++ portText url.port

/-- What is asked of the service: the path and the query. -/
def target (url : Url) : String :=
  url.path ++ (url.query.map ("?" ++ ·)).getD ""

def text (url : Url) : String :=
  url.scheme ++ "://" ++ url.authority ++ url.target ++
    (url.fragment.map ("#" ++ ·)).getD ""

/-! ## Percent encoding -/

/-- A hexadecimal digit, in upper case. -/
def hexDigit (value : Nat) : Char := (Nat.digitChar value).toUpper

def encodedByte (byte : UInt8) : List Char :=
  ['%', hexDigit (byte.toNat / 16), hexDigit (byte.toNat % 16)]

/-- Whether a character is never written as it is. -/
def isControl (character : Char) : Bool :=
  character.toNat < 0x20 || 0x7E < character.toNat

/-- Write a character, encoded if it is a control or one of those that are reserved. -/
def encodeChar (reserved : List Char) (character : Char) : List Char :=
  if isControl character || reserved.contains character then
    (String.singleton character).toUTF8.toList.flatMap encodedByte
  else [character]

/-- Write characters, encoded where they have to be. -/
def encode (reserved characters : List Char) : List Char :=
  characters.flatMap (encodeChar reserved)

def hexValue? (byte : UInt8) : Option Nat :=
  let code := byte.toNat
  if 0x30 ≤ code && code ≤ 0x39 then some (code - 0x30)
  else if 0x41 ≤ code && code ≤ 0x46 then some (code - 0x41 + 10)
  else if 0x61 ≤ code && code ≤ 0x66 then some (code - 0x61 + 10)
  else none

/-- Bytes, those behind percent signs decoded; a percent sign without two digits stays. -/
def decodeBytes : List UInt8 → List UInt8
  | mark :: high :: low :: rest =>
      match mark == 0x25, hexValue? high, hexValue? low with
      | true, some upper, some lower => UInt8.ofNat (16 * upper + lower) :: decodeBytes rest
      | _, _, _ => mark :: decodeBytes (high :: low :: rest)
  | rest => rest

/-- A text with everything behind percent signs decoded, if that is a text. -/
def decode? (characters : List Char) : Option String :=
  String.fromUTF8? ⟨(decodeBytes (String.ofList characters).toUTF8.toList).toArray⟩

/-- What is reserved in a fragment. -/
def fragmentReserved : List Char := [' ', '"', '<', '>', '`']

/-- What is reserved in a query. -/
def queryReserved : List Char := [' ', '"', '#', '<', '>', '\'']

/-- What is reserved in a path. -/
def pathReserved : List Char := fragmentReserved ++ ['#', '?', '^', '\x7b', '\x7d']

/-! ## Paths -/

/-- Whether a character separates the segments of a path. -/
def isSlash (character : Char) : Bool := character == '/' || character == '\\'

/-- Whether a segment stays in its folder. -/
def isHere (segment : List Char) : Bool :=
  let lowered := segment.map Char.toLower
  lowered == ['.'] || lowered == ['%', '2', 'e']

/-- Whether a segment goes to the parent folder. -/
def isParent (segment : List Char) : Bool :=
  let dot : List (List Char) := [['.'], ['%', '2', 'e']]
  let lowered := segment.map Char.toLower
  dot.any fun first => dot.any fun second => lowered == first ++ second

def segments (path : List Char) : List (List Char) :=
  let step (character : Char) (found : List (List Char)) : List (List Char) :=
    if isSlash character then [] :: found
    else
      match found with
      | [] => [[character]]
      | first :: rest => (character :: first) :: rest
  path.foldr step [[]]

/-- Take the steps of a path; those that were taken before are in reverse. -/
def walk : List (List Char) → List (List Char) → List (List Char)
  | taken, [] => taken.reverse
  | taken, [last] =>
      if isHere last then ([] :: taken).reverse
      else if isParent last then ([] :: taken.drop 1).reverse
      else (encode pathReserved last :: taken).reverse
  | taken, segment :: rest =>
      if isHere segment then walk taken rest
      else if isParent segment then walk (taken.drop 1) rest
      else walk (encode pathReserved segment :: taken) rest

/-- The path that is written behind an authority. -/
def normalPath (path : List Char) : String :=
  let relative :=
    match path with
    | first :: rest => if isSlash first then rest else path
    | [] => []
  String.ofList ((walk [] (segments relative)).flatMap ('/' :: ·))

/-! ## Authorities -/

/-- The value of a digit of a base. -/
def digitOf? (base : Nat) (character : Char) : Option Nat :=
  let lowered := character.toLower
  let value :=
    if lowered.isDigit then lowered.toNat - '0'.toNat
    else if lowered.isLower then lowered.toNat - 'a'.toNat + 10
    else base
  if value < base then some value else none

/-- The number that digits of a base write; no digits write zero. -/
def numberOf? (base : Nat) (digits : List Char) : Option Nat :=
  digits.foldlM (fun value digit => (digitOf? base digit).map (base * value + ·)) 0

/-- A part of a numeric host: decimal, octal or hexadecimal. -/
def numericPart? : List Char → Option Nat
  | [] => none
  | '0' :: 'x' :: digits | '0' :: 'X' :: digits => numberOf? 16 digits
  | '0' :: digits => numberOf? 8 digits
  | digits => numberOf? 10 digits

def hostParts (host : List Char) : List (List Char) :=
  let parts := (host.foldr (fun character found =>
    match character, found with
    | '.', found => [] :: found
    | character, first :: rest => (character :: first) :: rest
    | character, [] => [[character]]) [[]])
  if parts.length > 1 && parts.getLast? == some [] then parts.dropLast else parts

/-- Whether a host is written as numbers. -/
def isNumeric (host : List Char) : Bool :=
  match (hostParts host).getLast? with
  | some last => !last.isEmpty && (last.all Char.isDigit || (numericPart? last).isSome)
  | none => false

/-- The number that the parts of a numeric host stand for; the last part fills the rest. -/
def combine? (parts : List Nat) : Option Nat :=
  match parts.reverse with
  | [] => none
  | last :: leading =>
      if leading.length < 4 && last < Nat.pow 256 (4 - leading.length) &&
          leading.all (· < 256) then
        some (leading.reverse.foldl (fun value part => 256 * value + part) 0 *
          Nat.pow 256 (4 - leading.length) + last)
      else none

/-- A numeric host, in four decimal parts. -/
def numericHost? (host : List Char) : Option String :=
  ((hostParts host).mapM numericPart?).bind fun parts =>
    (combine? parts).map fun value =>
      ".".intercalate
        ([16777216, 65536, 256, 1].map fun unit => toString (value / unit % 256))

/-- What must not stand in a host. -/
def isForbidden (character : Char) : Bool :=
  isControl character || " #/:<>?@[\\]^|%\x7f".toList.contains character

/--
A host between brackets, in a name or in numbers.  A name has to be written in ASCII: one in
another script is refused, and is not brought into its ASCII form.  What stands between
brackets is neither checked nor shortened, only its letters are lowered.
-/
def host? (host : List Char) : Option String :=
  match host with
  | [] => none
  | '[' :: _ =>
      if host.getLast? == some ']' then some (String.ofList (host.map Char.toLower)) else none
  | _ =>
      (decode? host).bind fun decoded =>
        let host := decoded.toList
        if host.any isForbidden then none
        else if isNumeric host then numericHost? host
        else some (String.ofList (host.map Char.toLower))

/-- The port that a scheme has anyway. -/
def defaultPort : String → Option Nat
  | "http" | "ws" => some 80
  | "https" | "wss" => some 443
  | "ftp" => some 21
  | _ => none

/-- Whether the addresses of a scheme have an authority and a path. -/
def isSpecial (scheme : String) : Bool :=
  (defaultPort scheme).isSome

/-- Whether the services of a scheme are spoken to. -/
def isUsable (scheme : String) : Bool :=
  scheme == "http" || scheme == "https"

/-- A port; none if it is missing or the one that the scheme has anyway. -/
def port? (scheme : String) (digits : List Char) : Option (Option Nat) :=
  if digits.isEmpty then some none
  else if !digits.all Char.isDigit then none
  else
    (numberOf? 10 digits).bind fun port =>
      if port < 65536 then
        some (if defaultPort scheme == some port then none else some port)
      else none

/-- What stands in front of the last of some characters and what stands behind it. -/
def splitLast (mark : Char) (characters : List Char) : List Char × List Char :=
  let behind := (characters.reverse.takeWhile (· != mark)).reverse
  (characters.take (characters.length - behind.length - 1), behind)

/--
The user that is written in front of a host; a name or a password has to be there.  There is
none if the name cannot be decoded, and no password if that cannot be decoded.
-/
def user? (written : List Char) : Option UrlUser :=
  let password := (written.dropWhile (· != ':')).drop 1
  (decode? (written.takeWhile (· != ':'))).bind fun name =>
    let password := if password.isEmpty then none else decode? password
    if name.isEmpty && password.isNone then none else some ⟨name, password⟩

/-- Split a host from its port; a colon within brackets is part of the host. -/
def splitHost (named : List Char) : List Char × List Char :=
  let bracketed := (named.reverse.dropWhile (· != ']')).reverse
  let rest := named.drop bracketed.length
  (bracketed ++ rest.takeWhile (· != ':'), (rest.dropWhile (· != ':')).drop 1)

/-! ## Reading -/

/-- Whether a character may stand in a scheme. -/
def isSchemeChar (character : Char) : Bool :=
  character.isAlphanum || "+-.".toList.contains character

/-- A text without what does not count: blanks around it and breaks within it. -/
def significant (text : String) : List Char :=
  let isBlank (character : Char) : Bool := character.toNat ≤ 0x20
  let trimmed := ((text.toList.dropWhile isBlank).reverse.dropWhile isBlank).reverse
  trimmed.filter fun character => !(['\t', '\n', '\r'].contains character)

/-- Split a text into its scheme and what stands behind the colon. -/
def splitScheme? (characters : List Char) : Option (String × List Char) :=
  match characters with
  | first :: _ =>
      if !first.isAlpha then none
      else
        match characters.dropWhile isSchemeChar with
        | ':' :: rest =>
            some (String.ofList ((characters.takeWhile isSchemeChar).map Char.toLower), rest)
        | _ => none
  | [] => none

/-- Read what stands behind the colon of a scheme whose addresses have an authority. -/
def readSpecial? (scheme : String) (rest : List Char) : Option Url :=
  let rest := rest.dropWhile isSlash
  let endsAuthority (character : Char) : Bool :=
    isSlash character || character == '?' || character == '#'
  let (userText, named) := splitLast '@' (rest.takeWhile (!endsAuthority ·))
  let (hostText, portText) := splitHost named
  let rest := rest.dropWhile (!endsAuthority ·)
  let path := rest.takeWhile fun character => character != '?' && character != '#'
  let rest := rest.dropWhile fun character => character != '?' && character != '#'
  let query : Option (List Char) :=
    match rest with
    | '?' :: rest => some (rest.takeWhile (· != '#'))
    | _ => none
  let fragment : Option (List Char) :=
    match rest.dropWhile (· != '#') with
    | '#' :: rest => some rest
    | _ => none
  (host? hostText).bind fun host =>
    (port? scheme portText).map fun port =>
      { scheme
        user := user? userText
        host, port
        path := normalPath path
        query := query.map fun query => String.ofList (encode queryReserved query)
        fragment :=
          fragment.map fun fragment => String.ofList (encode fragmentReserved fragment) }

def read (address : String) : Except UrlProblem Url :=
  match splitScheme? (significant address) with
  | none => .error .malformed
  | some (scheme, rest) =>
      if isSpecial scheme then
        match readSpecial? scheme rest with
        | none => .error .malformed
        | some url => if isUsable scheme then .ok url else .error (.foreignScheme url.text)
      else .error (.foreignScheme (scheme ++ ":" ++ String.ofList (encode [] rest)))

end Url

end LifecycleOperator
