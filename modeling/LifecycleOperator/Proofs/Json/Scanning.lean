import LifecycleOperator.Json.Printer
import LifecycleOperator.Json.Document
import LifecycleOperator.Proofs.Json.Numeral
import Mathlib.Data.List.Forall2

/-!
# Scanning what is written

The characters of a value are scanned into its tokens.  A word or a number is complete
only when something else follows, so that the scanner settles on its tokens at the next
delimiter or at the end.  A string is scanned piece by piece: what was escaped when it was
written stands for the character that it was.
-/

namespace LifecycleOperator

/-- The number that the text of a number is read as. -/
def Number.reread (number : Number) : Option Number :=
  (Numeral.read? number.text.toList).bind Numeral.number?

namespace Json

mutual

/-- The tokens of a value. -/
def tokens : Json → List JsonToken
  | .null => [.null]
  | .bool value => [.bool value]
  | .number value => [.number value.reread]
  | .string text => [.string (some text)]
  | .array items => .openArray :: (itemTokens items ++ [.closeArray])
  | .object fields => .openObject :: (fieldTokens fields ++ [.closeObject])

/-- The tokens of items, with commas in between. -/
def itemTokens : List Json → List JsonToken
  | [] => []
  | [item] => tokens item
  | item :: next :: rest => tokens item ++ .comma :: itemTokens (next :: rest)

/-- The tokens of fields, with commas in between. -/
def fieldTokens : List (String × Json) → List JsonToken
  | [] => []
  | [(name, value)] => .string (some name) :: .colon :: tokens value
  | (name, value) :: next :: rest =>
      .string (some name) :: .colon :: (tokens value ++ .comma :: fieldTokens (next :: rest))

end

end Json

namespace JsonToken
namespace Scanner

/-- The characters that may follow a value or a name. -/
def isDelimiter (char : Char) : Bool :=
  char = ',' || char = ':' || char = ']' || char = '\x7d'

/-- All tokens are complete, or will be as soon as a delimiter or the end follows. -/
structure Settles (scanner : Scanner) (tokens : List JsonToken) : Prop where
  finishes : scanner.finish? = some ⟨tokens, .between⟩
  goesOn : ∀ char, isDelimiter char = true →
    scanner.step? char = (⟨tokens, .between⟩ : Scanner).start? char

/-- Characters are scanned into tokens, whatever was scanned before. -/
def Scans (chars : List Char) (tokens : List JsonToken) : Prop :=
  ∀ earlier, ∃ scanner : Scanner,
    chars.foldlM step? (⟨earlier, .between⟩ : Scanner) = some scanner ∧
      scanner.Settles (tokens.reverse ++ earlier)

/-- A character that is a token of its own. -/
def IsMark (char : Char) (token : JsonToken) : Prop :=
  ∀ earlier, (⟨earlier, .between⟩ : Scanner).start? char = some ⟨token :: earlier, .between⟩

theorem settles_between (tokens : List JsonToken) :
    Settles ⟨tokens, .between⟩ tokens :=
  ⟨rfl, fun _ _ => rfl⟩

namespace Scans

variable {char : Char} {token : JsonToken} {chars others : List Char}
  {tokens more : List JsonToken}

theorem nil : Scans [] [] := fun earlier => ⟨_, rfl, settles_between earlier⟩

/-- A mark in front of what is scanned. -/
theorem cons_mark (isMark : IsMark char token) (scans : Scans chars tokens) :
    Scans (char :: chars) (token :: tokens) := by
  intro earlier
  obtain ⟨scanner, folds, settles⟩ := scans (token :: earlier)
  refine ⟨scanner, ?_, ?_⟩
  · rw [List.foldlM_cons]
    change ((⟨earlier, .between⟩ : Scanner).start? char).bind _ = _
    rw [isMark earlier]
    exact folds
  · rw [List.reverse_cons, List.append_assoc]
    exact settles

/-- A delimiter between what is scanned. -/
theorem delimit
    (first : Scans chars tokens)
    (delimits : isDelimiter char = true)
    (isMark : IsMark char token)
    (second : Scans others more) :
    Scans (chars ++ char :: others) (tokens ++ token :: more) := by
  intro earlier
  obtain ⟨between, foldsFirst, settlesFirst⟩ := first earlier
  obtain ⟨scanner, foldsSecond, settlesSecond⟩ := second (token :: (tokens.reverse ++ earlier))
  refine ⟨scanner, ?_, ?_⟩
  · rw [List.foldlM_append, foldsFirst]
    change (between.step? char).bind _ = _
    rw [settlesFirst.goesOn char delimits, isMark]
    exact foldsSecond
  · simpa using settlesSecond

end Scans

/-- What is scanned up to the end are the tokens. -/
theorem scan?_eq {text : List Char} {tokens : List JsonToken} (scans : Scans text tokens) :
    scan? text = some tokens := by
  obtain ⟨scanner, folds, settles⟩ := scans []
  rw [scan?, folds, Option.bind_some, settles.finishes]
  simp

/-! ## Words and numbers -/

/-- A delimiter is no part of a word, nor of a number. -/
theorem not_alpha_numeric_of_isDelimiter {char : Char} (delimits : isDelimiter char = true) :
    char.isAlpha = false ∧ isNumeric char = false := by
  simp only [isDelimiter, Bool.or_eq_true, decide_eq_true_eq] at delimits
  rcases delimits with ((rfl | rfl) | rfl) | rfl <;> exact ⟨rfl, rfl⟩

/-- A word is scanned if it is one of those that have a meaning. -/
theorem settles_word
    {letters : List Char} {token : JsonToken} (earlier : List JsonToken)
    (means : word? letters.reverse = some token) :
    Settles ⟨earlier, .word letters⟩ (token :: earlier) := by
  have finishes : (⟨earlier, .word letters⟩ : Scanner).finish? =
      some ⟨token :: earlier, .between⟩ := by
    simp [finish?, means, emit]
  refine ⟨finishes, ?_⟩
  intro char delimits
  simp [step?, (not_alpha_numeric_of_isDelimiter delimits).1, finishes]

theorem scans_null : Scans ['n', 'u', 'l', 'l'] [.null] :=
  fun earlier => ⟨_, rfl, settles_word earlier rfl⟩

theorem scans_true : Scans ['t', 'r', 'u', 'e'] [.bool true] :=
  fun earlier => ⟨_, rfl, settles_word earlier rfl⟩

theorem scans_false : Scans ['f', 'a', 'l', 's', 'e'] [.bool false] :=
  fun earlier => ⟨_, rfl, settles_word earlier rfl⟩

/-- A number starts with a digit or a minus sign. -/
theorem start?_number {char : Char} (starts : char.isDigit = true ∨ char = '-')
    (tokens : List JsonToken) :
    (⟨tokens, .between⟩ : Scanner).start? char = some ⟨tokens, .number [char]⟩ := by
  rcases starts with isDigit | rfl
  · have differs (other : Char) (notDigit : other.isDigit = false) : char ≠ other :=
      Numeral.ne_of_isDigit isDigit notDigit
    simp [start?, isBlank, isDigit, differs]
  · rfl

/-- A number goes on as long as its characters do. -/
theorem foldlM_number
    {chars : List Char} (areNumeric : ∀ char ∈ chars, isNumeric char = true)
    (tokens : List JsonToken) (before : List Char) :
    chars.foldlM step? (⟨tokens, .number before⟩ : Scanner) =
      some ⟨tokens, .number (chars.reverse ++ before)⟩ := by
  induction chars generalizing before with
  | nil => rfl
  | cons char rest inductionHypothesis =>
      rw [List.forall_mem_cons] at areNumeric
      have steps : step? ⟨tokens, .number before⟩ char =
          some ⟨tokens, .number (char :: before)⟩ := by
        simp [step?, areNumeric.1]
      rw [List.foldlM_cons, steps, List.reverse_cons, List.append_assoc]
      exact inductionHypothesis areNumeric.2 (char :: before)

/-- The text of a number is scanned as the number that it is read as. -/
theorem scans_number (number : Number) :
    Scans number.text.toList [.number number.reread] := by
  intro earlier
  have isNumeral := number.isNumeral_text
  obtain ⟨numeral, isRead⟩ := isNumeral.exists_read?
  obtain ⟨char, rest, equal, starts⟩ := isNumeral.starts
  have areNumeric : ∀ char ∈ rest, isNumeric char = true := by
    intro other member
    rcases isNumeral.forall_mem other (equal ▸ List.mem_cons_of_mem char member) with
      isDigit | isOther
    · simp [isNumeric, isDigit]
    · simp only [List.mem_cons, List.not_mem_nil, or_false] at isOther
      rcases isOther with rfl | rfl | rfl <;> rfl
  have finishes : (⟨earlier, .number (rest.reverse ++ [char])⟩ : Scanner).finish? =
      some ⟨.number number.reread :: earlier, .between⟩ := by
    have chars : (rest.reverse ++ [char]).reverse = number.text.toList := by simp [equal]
    simp [finish?, chars, isRead, emit, Number.reread]
  refine ⟨⟨earlier, .number (rest.reverse ++ [char])⟩, ?_, finishes, ?_⟩
  · rw [equal, List.foldlM_cons]
    change ((⟨earlier, .between⟩ : Scanner).start? char).bind _ = _
    rw [start?_number starts]
    exact foldlM_number areNumeric earlier [char]
  · intro other delimits
    simp [step?, (not_alpha_numeric_of_isDelimiter delimits).2, finishes]

/-! ## Strings -/

/-- A piece of a string that stands for a character. -/
def Denotes (piece : Piece) (char : Char) : Prop :=
  piece = .char char ∨ piece = .unit char.toNat ∧ char.toNat < 0x20

/-- Pieces that stand for characters are these characters. -/
theorem characters?_eq {pieces : List Piece} {chars : List Char}
    (denote : List.Forall₂ Denotes pieces chars) :
    characters? pieces = some chars := by
  induction denote with
  | nil => rfl
  | @cons piece char pieces chars first others inductionHypothesis =>
      rcases first with rfl | ⟨rfl, isControl⟩
      · simp [characters?, inductionHypothesis]
      · -- A control character is no half of a surrogate pair, whatever stands behind it.
        have notHigh : isHighSurrogate char.toNat = false := by
          simp only [isHighSurrogate, Bool.and_eq_false_iff, decide_eq_false_iff_not]
          omega
        have notLow : isLowSurrogate char.toNat = false := by
          simp only [isLowSurrogate, Bool.and_eq_false_iff, decide_eq_false_iff_not]
          omega
        cases pieces with
        | nil => simp_all [characters?]
        | cons next rest => cases next <;> simp_all [characters?]

/-- Every hexadecimal digit is read back. -/
theorem hexDigit?_hexDigit {value : Nat} (isDigit : value < 16) :
    hexDigit? (Json.hexDigit value) = some value := by
  interval_cases value <;> rfl

/-- A character is written as itself, with a mark behind a backslash, or in hexadecimal. -/
theorem escape_cases (char : Char) :
    (Json.escape char = [char] ∧ char ≠ '"' ∧ char ≠ '\\' ∧ ¬ char.toNat < 0x20) ∨
      (∃ mark, Json.escape char = ['\\', mark] ∧ mark ≠ 'u' ∧ escaped? mark = some char) ∨
      (Json.escape char = ['\\', 'u', '0', '0', Json.hexDigit (char.toNat / 16),
        Json.hexDigit (char.toNat % 16)] ∧ char.toNat < 0x20) := by
  by_cases printable : char.toNat < 0x20
  · by_cases named : char ∈ ['\x08', '\x0c', '\n', '\r', '\t']
    · simp only [List.mem_cons, List.not_mem_nil, or_false] at named
      rcases named with rfl | rfl | rfl | rfl | rfl <;>
        exact .inr (.inl ⟨_, rfl, by decide, rfl⟩)
    · have notQuote : char ≠ '"' := by rintro rfl; simp at printable
      have notBackslash : char ≠ '\\' := by rintro rfl; simp at printable
      simp only [List.mem_cons, List.not_mem_nil, or_false, not_or] at named
      exact .inr (.inr ⟨by simp [Json.escape, *], printable⟩)
  · by_cases marked : char = '"' ∨ char = '\\'
    · rcases marked with rfl | rfl <;> exact .inr (.inl ⟨_, rfl, by decide, rfl⟩)
    · obtain ⟨notQuote, notBackslash⟩ := not_or.mp marked
      have differs (other : Char) (isControl : other.toNat < 0x20) : char ≠ other := by
        rintro rfl
        exact printable isControl
      exact .inl ⟨by simp [Json.escape, *], notQuote, notBackslash, printable⟩

/-- What a character is written as is scanned as a piece that stands for it. -/
theorem foldlM_escape (char : Char) (tokens : List JsonToken) (pieces : List Piece) :
    ∃ piece, Denotes piece char ∧
      (Json.escape char).foldlM step? (⟨tokens, .string pieces⟩ : Scanner) =
        some ⟨tokens, .string (piece :: pieces)⟩ := by
  rcases escape_cases char with ⟨equal, notQuote, notBackslash, printable⟩ |
    ⟨mark, equal, notHexadecimal, escapes⟩ | ⟨equal, isControl⟩
  · refine ⟨.char char, .inl rfl, ?_⟩
    rw [equal]
    simp [step?, notQuote, notBackslash, printable]
  · refine ⟨.char char, .inl rfl, ?_⟩
    rw [equal]
    simp [step?, notHexadecimal, escapes]
  · refine ⟨.unit char.toNat, .inr ⟨rfl, isControl⟩, ?_⟩
    rw [equal]
    have high : hexDigit? (Json.hexDigit (char.toNat / 16)) = some (char.toNat / 16) :=
      hexDigit?_hexDigit (by omega)
    have low : hexDigit? (Json.hexDigit (char.toNat % 16)) = some (char.toNat % 16) :=
      hexDigit?_hexDigit (Nat.mod_lt _ (by decide))
    have zero : hexDigit? '0' = some 0 := rfl
    simp [step?, high, low, zero]
    omega

/-- The characters of a string are scanned piece by piece. -/
theorem foldlM_flatMap_escape (chars : List Char) (tokens : List JsonToken)
    (before : List Piece) :
    ∃ pieces, List.Forall₂ Denotes pieces chars ∧
      (chars.flatMap Json.escape).foldlM step? (⟨tokens, .string before⟩ : Scanner) =
        some ⟨tokens, .string (pieces.reverse ++ before)⟩ := by
  induction chars generalizing before with
  | nil => exact ⟨[], .nil, rfl⟩
  | cons char rest inductionHypothesis =>
      obtain ⟨piece, denotes, foldsFirst⟩ := foldlM_escape char tokens before
      obtain ⟨pieces, denote, foldsOthers⟩ := inductionHypothesis (piece :: before)
      refine ⟨piece :: pieces, .cons denotes denote, ?_⟩
      rw [List.flatMap_cons, List.foldlM_append, foldsFirst, List.reverse_cons,
        List.append_assoc]
      exact foldsOthers

/-- A string in quotes is scanned as the string. -/
theorem scans_quote (text : String) : Scans (Json.quote text) [.string (some text)] := by
  intro earlier
  obtain ⟨pieces, denote, folds⟩ := foldlM_flatMap_escape text.toList earlier []
  refine ⟨⟨.string (some text) :: earlier, .between⟩, ?_, settles_between _⟩
  have opens : step? ⟨earlier, .between⟩ '"' = some ⟨earlier, .string []⟩ := rfl
  have closes : step? ⟨earlier, .string pieces.reverse⟩ '"' =
      some ⟨.string (some text) :: earlier, .between⟩ := by
    simp [step?, characters?_eq denote, emit]
  rw [List.append_nil] at folds
  rw [Json.quote, List.foldlM_append, List.foldlM_cons, opens]
  change (((text.toList.flatMap Json.escape).foldlM step?
    (⟨earlier, .string []⟩ : Scanner)).bind _) = _
  rw [folds, Option.bind_some, List.foldlM_cons, closes]
  rfl

/-! ## Values -/

mutual

/-- The characters of a value are scanned into its tokens. -/
theorem scans_characters : (value : Json) → Scans value.characters value.tokens
  | .null => scans_null
  | .bool true => scans_true
  | .bool false => scans_false
  | .number value => scans_number value
  | .string text => scans_quote text
  | .array items =>
      .cons_mark (fun _ => rfl) <| .delimit (scans_itemCharacters items) rfl (fun _ => rfl) .nil
  | .object fields =>
      .cons_mark (fun _ => rfl) <| .delimit (scans_fieldCharacters fields) rfl (fun _ => rfl) .nil

/-- The characters of items are scanned into their tokens. -/
theorem scans_itemCharacters : (items : List Json) →
    Scans (Json.itemCharacters items) (Json.itemTokens items)
  | [] => .nil
  | [item] => scans_characters item
  | item :: next :: rest =>
      .delimit (scans_characters item) rfl (fun _ => rfl) (scans_itemCharacters (next :: rest))

/-- The characters of fields are scanned into their tokens. -/
theorem scans_fieldCharacters : (fields : List (String × Json)) →
    Scans (Json.fieldCharacters fields) (Json.fieldTokens fields)
  | [] => .nil
  | [(name, value)] =>
      .delimit (scans_quote name) rfl (fun _ => rfl) (scans_characters value)
  | (name, value) :: next :: rest => by
      have first : Scans (Json.quote name ++ ':' :: value.characters)
          (.string (some name) :: .colon :: value.tokens) :=
        .delimit (scans_quote name) rfl (fun _ => rfl) (scans_characters value)
      have both : Scans ((Json.quote name ++ ':' :: value.characters) ++
          ',' :: Json.fieldCharacters (next :: rest)) _ :=
        first.delimit rfl (fun _ => rfl) (scans_fieldCharacters (next :: rest))
      simpa [Json.fieldCharacters, Json.fieldTokens] using both

end

end Scanner
end JsonToken
end LifecycleOperator
