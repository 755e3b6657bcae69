import LifecycleOperator.Metrics.Exposition

/-!
# Reading metrics

A reader of samples in the text format of OpenMetrics.  A sample is one line: a name,
labels in braces if there are any, a number and possibly an exemplar.  The value of a
label stands between double quotes, and contains a double quote, a backslash or the end
of a line only behind a backslash.

Each sample that can be read has exactly one line: the one in which the values of its
labels are escaped.  So the reader finds the samples of a text just when all values are
written as they are escaped.
-/

namespace LifecycleOperator
namespace OpenMetrics

/-- A sample as it is read from its line. -/
structure Reading where
  name : String
  labels : Labels
  value : String
  /-- The labels of an exemplar, and its value. -/
  exemplar : Option (Labels × String)
  deriving DecidableEq, Repr

/-! ## Lines of samples -/

/-- A character in the value of a label. -/
def escapeChar (char : Char) : List Char :=
  if char = '"' then ['\\', '"']
  else if char = '\\' then ['\\', '\\']
  else if char = '\n' then ['\\', 'n']
  else [char]

/-- The value of a label, as it can be read. -/
def escape (text : String) : List Char := text.toList.flatMap escapeChar

/-- A text without anything that has to be escaped. -/
def Plain (text : String) : Prop :=
  ∀ char ∈ text.toList, char ≠ '"' ∧ char ≠ '\\' ∧ char ≠ '\n'

instance (text : String) : Decidable (Plain text) :=
  List.decidableBAll (fun char => char ≠ '"' ∧ char ≠ '\\' ∧ char ≠ '\n') text.toList

/-- A label, whose value is written in some way. -/
def labelLine (write : String → List Char) (label : String × String) : List Char :=
  label.1.toList ++ '=' :: '"' :: write label.2 ++ ['"']

/-- What stands behind the first label. -/
def furtherLine (write : String → List Char) : Labels → List Char
  | [] => ['\x7d']
  | label :: rest => ',' :: labelLine write label ++ furtherLine write rest

/-- Labels in braces; nothing if there are none. -/
def labelsLine (write : String → List Char) : Labels → List Char
  | [] => []
  | label :: rest => '\x7b' :: labelLine write label ++ furtherLine write rest

/-- The exemplar at the end of a line, if there is one. -/
def exemplarLine (write : String → List Char) : Option (Labels × String) → List Char
  | none => []
  | some (labels, value) => ' ' :: '#' :: ' ' :: labelsLine write labels ++ ' ' :: value.toList

/-- The line of a sample, in which the values of labels are written in some way. -/
def Reading.line (write : String → List Char) (reading : Reading) : List Char :=
  reading.name.toList ++ labelsLine write reading.labels ++ ' ' :: reading.value.toList ++
    exemplarLine write reading.exemplar

/-! ## Reading a sample -/

/-- Read a character that has to be there. -/
def skip (char : Char) : List Char → Option (List Char)
  | [] => none
  | head :: rest => if head = char then some rest else none

/-- Read all that is allowed in a token, which has to be valid. -/
def readToken (allowed : Char → Bool) (valid : List Char → Bool) (input : List Char) :
    Option (String × List Char) :=
  if valid (input.takeWhile allowed) then
    some (String.ofList (input.takeWhile allowed), input.dropWhile allowed)
  else none

def isLabelChar (char : Char) : Bool := char.isAlphanum || char == '_'

def isNameChar (char : Char) : Bool := isLabelChar char || char == ':'

/-- A name does not begin with a digit. -/
def isName : List Char → Bool
  | [] => false
  | char :: _ => !char.isDigit

def isNumberChar (char : Char) : Bool := char.isAlphanum || ['.', '+', '-'].contains char

/-- One or more digits. -/
def isRun (digits : List Char) : Bool := !digits.isEmpty && digits.all Char.isDigit

def dropSign : List Char → List Char
  | '+' :: rest | '-' :: rest => rest
  | unsigned => unsigned

/-- A power of ten behind a number, or nothing. -/
def isPower : List Char → Bool
  | [] => true
  | mark :: power => ['e', 'E'].contains mark && isRun (dropSign power)

/-- Digits, with a point in front of them, among them or behind them, and a power of ten. -/
def isReal (unsigned : List Char) : Bool :=
  let whole := unsigned.takeWhile Char.isDigit
  match unsigned.dropWhile Char.isDigit with
  | '.' :: behind =>
      let fraction := behind.takeWhile Char.isDigit
      !(whole.isEmpty && fraction.isEmpty) && isPower (behind.dropWhile Char.isDigit)
  | behind => !whole.isEmpty && isPower behind

/-- A number, or one of the words for what is not finite, in any case. -/
def isNumber (token : List Char) : Bool :=
  isReal (dropSign token) ||
    ["inf".toList, "infinity".toList].contains ((dropSign token).map Char.toLower) ||
    token.map Char.toLower == "nan".toList

/-- Read the value of a label, up to its closing quote. -/
def readValue : List Char → Option (List Char × List Char)
  | [] => none
  | '"' :: rest => some ([], rest)
  | '\n' :: _ => none
  | '\\' :: '"' :: rest => (readValue rest).map fun (value, rest) => ('"' :: value, rest)
  | '\\' :: '\\' :: rest => (readValue rest).map fun (value, rest) => ('\\' :: value, rest)
  | '\\' :: 'n' :: rest => (readValue rest).map fun (value, rest) => ('\n' :: value, rest)
  | '\\' :: _ => none
  | char :: rest => (readValue rest).map fun (value, rest) => (char :: value, rest)

def readLabel (input : List Char) : Option ((String × String) × List Char) := do
  let (name, rest) ← readToken isLabelChar isName input
  let (value, rest) ← readValue (← skip '"' (← skip '=' rest))
  return ((name, String.ofList value), rest)

/-- Read what stands behind a label, which is at most so many labels. -/
def readFurther : Nat → List Char → Option (Labels × List Char)
  | _, '\x7d' :: rest => some ([], rest)
  | fuel + 1, ',' :: rest => do
      let (label, rest) ← readLabel rest
      let (labels, rest) ← readFurther fuel rest
      return (label :: labels, rest)
  | _, _ => none

/-- Read labels behind an opening brace. -/
def readBraced (input : List Char) : Option (Labels × List Char) := do
  let (label, rest) ← readLabel input
  let (labels, rest) ← readFurther rest.length rest
  return (label :: labels, rest)

def readLabels : List Char → Option (Labels × List Char)
  | '\x7b' :: rest => readBraced rest
  | input => some ([], input)

def readNumber : List Char → Option (String × List Char) := readToken isNumberChar isNumber

def readExemplar : List Char → Option (Option (Labels × String) × List Char)
  | ' ' :: '#' :: ' ' :: '\x7b' :: rest => do
      let (labels, rest) ← readBraced rest
      let (value, rest) ← readNumber (← skip ' ' rest)
      return (some (labels, value), rest)
  | input => some (none, input)

/-- Read the line of a sample with its end. -/
def readSample (input : List Char) : Option (Reading × List Char) := do
  let (name, rest) ← readToken isNameChar isName input
  let (labels, rest) ← readLabels rest
  let (value, rest) ← readNumber (← skip ' ' rest)
  let (exemplar, rest) ← readExemplar rest
  return (⟨name, labels, value, exemplar⟩, ← skip '\n' rest)

/-- Read the samples of at most so many lines; other lines begin with a mark. -/
def readLines : Nat → List Char → Option (List Reading)
  | _, [] => some []
  | 0, _ => none
  | fuel + 1, '#' :: rest => readLines fuel ((rest.dropWhile (· != '\n')).drop 1)
  | fuel + 1, input =>
      (readSample input).bind fun (reading, rest) =>
        (readLines fuel rest).map (reading :: ·)

/-- Read the samples of a text, which has no more lines than characters. -/
def read (text : String) : Option (List Reading) := readLines text.length text.toList

/-! ## What is read -/

/-- A text consists of what is allowed in a token, and is valid. -/
def IsToken (allowed : Char → Bool) (valid : List Char → Bool) (text : String) : Prop :=
  text.toList.all allowed = true ∧ valid text.toList = true

instance (allowed : Char → Bool) (valid : List Char → Bool) (text : String) :
    Decidable (IsToken allowed valid text) :=
  inferInstanceAs (Decidable (_ ∧ _))

/-- All labels have names. -/
def Named (labels : Labels) : Prop := ∀ label ∈ labels, IsToken isLabelChar isName label.1

theorem named_nil : Named [] := by
  intro label member
  cases member

theorem named_cons {name value : String} {rest : Labels} :
    Named ((name, value) :: rest) ↔ IsToken isLabelChar isName name ∧ Named rest :=
  List.forall_mem_cons

/-- An exemplar that can be read. -/
def ExemplarValid (exemplar : Option (Labels × String)) : Prop :=
  ∀ traced ∈ exemplar,
    traced.1 ≠ [] ∧ Named traced.1 ∧ IsToken isNumberChar isNumber traced.2

/-- A sample that has a line. -/
structure Reading.IsValid (reading : Reading) : Prop where
  name : IsToken isNameChar isName reading.name
  labels : Named reading.labels
  value : IsToken isNumberChar isNumber reading.value
  exemplar : ExemplarValid reading.exemplar

section Tokens

variable {allowed : Char → Bool} {valid : List Char → Bool} {input rest : List Char}
  {token : String}

theorem skip_eq_some_iff {char : Char} :
    skip char input = some rest ↔ input = char :: rest := by
  cases input with
  | nil => simp [skip]
  | cons head tail =>
      by_cases same : head = char
      · simp [skip, same]
      · simp [skip, same]

/-- What is allowed is taken up to what is not. -/
theorem span_append
    {front : List Char}
    (all : ∀ char ∈ front, allowed char = true)
    (ends : ∀ char ∈ rest.head?, allowed char = false) :
    (front ++ rest).takeWhile allowed = front ∧ (front ++ rest).dropWhile allowed = rest := by
  rw [List.takeWhile_append_of_pos all, List.dropWhile_append_of_pos all]
  cases rest with
  | nil => simp
  | cons char rest => simp [ends char rfl]

/-- A token is read from the beginning. -/
theorem append_of_readToken (reads : readToken allowed valid input = some (token, rest)) :
    IsToken allowed valid token ∧ input = token.toList ++ rest := by
  unfold readToken at reads
  split at reads
  · rename_i isValid
    simp only [Option.some.injEq, Prod.mk.injEq] at reads
    obtain ⟨rfl, rfl⟩ := reads
    rw [IsToken, String.toList_ofList]
    exact ⟨⟨List.all_takeWhile, isValid⟩, List.takeWhile_append_dropWhile.symm⟩
  · cases reads

/-- A token is read up to what is not allowed in it. -/
theorem readToken_append
    {char : Char}
    (isToken : IsToken allowed valid token) (ends : allowed char = false) :
    readToken allowed valid (token.toList ++ char :: rest) = some (token, char :: rest) := by
  obtain ⟨all, isValid⟩ := isToken
  obtain ⟨taken, left⟩ :
      (token.toList ++ char :: rest).takeWhile allowed = token.toList ∧
        (token.toList ++ char :: rest).dropWhile allowed = char :: rest :=
    span_append (List.all_eq_true.mp all) (by simpa using ends)
  simp [readToken, taken, left, isValid]

end Tokens

section Values

variable {input rest : List Char} {value : List Char}

theorem escapeChar_of_plain {char : Char}
    (plain : char ≠ '"' ∧ char ≠ '\\' ∧ char ≠ '\n') :
    escapeChar char = [char] := by
  unfold escapeChar
  rw [if_neg plain.1, if_neg plain.2.1, if_neg plain.2.2]

/-- A value that is read was escaped. -/
theorem append_of_readValue (reads : readValue input = some (value, rest)) :
    input = value.flatMap escapeChar ++ '"' :: rest := by
  fun_induction readValue input generalizing value rest with
  | case1 => cases reads
  | case2 tail =>
      simp only [Option.some.injEq, Prod.mk.injEq] at reads
      obtain ⟨rfl, rfl⟩ := reads
      rfl
  | case3 => cases reads
  | case4 tail inductionHypothesis | case5 tail inductionHypothesis
  | case6 tail inductionHypothesis =>
      obtain ⟨⟨others, left⟩, readsRest, same⟩ := Option.map_eq_some_iff.mp reads
      simp only [Prod.mk.injEq] at same
      obtain ⟨rfl, rfl⟩ := same
      rw [inductionHypothesis readsRest]
      rfl
  | case7 => cases reads
  | case8 char tail notQuote notEnd _ _ _ notEscape inductionHypothesis =>
      obtain ⟨⟨others, left⟩, readsRest, same⟩ := Option.map_eq_some_iff.mp reads
      simp only [Prod.mk.injEq] at same
      obtain ⟨rfl, rfl⟩ := same
      rw [inductionHypothesis readsRest, List.flatMap_cons,
        escapeChar_of_plain ⟨notQuote, notEscape, notEnd⟩]
      rfl

theorem readValue_escapeChar (char : Char) :
    readValue (escapeChar char ++ input) =
      (readValue input).map fun (value, rest) => (char :: value, rest) := by
  by_cases quote : char = '"'
  · subst quote
    rfl
  by_cases escape : char = '\\'
  · subst escape
    rfl
  by_cases lineEnd : char = '\n'
  · subst lineEnd
    rfl
  rw [escapeChar_of_plain ⟨quote, escape, lineEnd⟩, List.singleton_append]
  rw [readValue] <;> simp_all

/-- A value that is escaped is read up to its closing quote. -/
theorem readValue_append :
    readValue (value.flatMap escapeChar ++ '"' :: rest) = some (value, rest) := by
  induction value with
  | nil => rfl
  | cons char value inductionHypothesis =>
      rw [List.flatMap_cons, List.append_assoc, readValue_escapeChar, inductionHypothesis]
      rfl

end Values

section Labels

variable {input rest : List Char} {label : String × String} {labels : Labels}

/-- A label that is read has a name, and its value was escaped. -/
theorem append_of_readLabel (reads : readLabel input = some (label, rest)) :
    IsToken isLabelChar isName label.1 ∧ input = labelLine escape label ++ rest := by
  simp only [readLabel, Option.bind_eq_bind, Option.bind_eq_some_iff, Prod.exists,
    Option.pure_def, Option.some.injEq, Prod.mk.injEq, skip_eq_some_iff] at reads
  obtain ⟨name, _, readsName, _, rfl, _, rfl, value, _, readsValue, rfl, rfl⟩ := reads
  obtain ⟨isToken, rfl⟩ := append_of_readToken readsName
  rw [append_of_readValue readsValue]
  exact ⟨isToken, by simp [labelLine, escape]⟩

/-- A label is read from its line. -/
theorem readLabel_append (named : IsToken isLabelChar isName label.1) :
    readLabel (labelLine escape label ++ rest) = some (label, rest) := by
  have line : labelLine escape label ++ rest =
      label.1.toList ++ '=' :: '"' :: (label.2.toList.flatMap escapeChar ++ '"' :: rest) := by
    simp [labelLine, escape]
  rw [line, readLabel, readToken_append named (by decide)]
  simp [skip, readValue_append]

/-- Labels that are read behind another one have names, and their values were escaped. -/
theorem append_of_readFurther {fuel : Nat}
    (reads : readFurther fuel input = some (labels, rest)) :
    Named labels ∧ input = furtherLine escape labels ++ rest := by
  fun_induction readFurther fuel input generalizing labels rest with
  | case1 fuel tail =>
      simp only [Option.some.injEq, Prod.mk.injEq] at reads
      obtain ⟨rfl, rfl⟩ := reads
      exact ⟨named_nil, rfl⟩
  | case2 fuel tail inductionHypothesis =>
      simp only [Option.bind_eq_bind, Option.bind_eq_some_iff, Prod.exists,
        Option.pure_def, Option.some.injEq, Prod.mk.injEq] at reads
      obtain ⟨name, value, _, readsLabel, others, _, readsRest, rfl, rfl⟩ := reads
      obtain ⟨named, rfl⟩ := append_of_readLabel readsLabel
      obtain ⟨othersNamed, rfl⟩ := inductionHypothesis _ readsRest
      exact ⟨List.forall_mem_cons.mpr ⟨named, othersNamed⟩, by simp [furtherLine]⟩
  | case3 => cases reads

/-- Labels are read behind another one. -/
theorem readFurther_append {fuel : Nat}
    (named : Named labels) (enough : labels.length ≤ fuel) :
    readFurther fuel (furtherLine escape labels ++ rest) = some (labels, rest) := by
  induction labels generalizing fuel with
  | nil => cases fuel <;> rfl
  | cons label labels inductionHypothesis =>
      obtain ⟨first, others⟩ := List.forall_mem_cons.mp named
      cases fuel with
      | zero => simp at enough
      | succ fuel =>
          have readsRest := inductionHypothesis others (Nat.le_of_succ_le_succ enough)
          simp [furtherLine, readFurther, readLabel_append first, readsRest]

theorem length_le_furtherLine (write : String → List Char) (labels : Labels) :
    labels.length ≤ (furtherLine write labels).length := by
  induction labels with
  | nil => simp
  | cons label rest inductionHypothesis =>
      simp only [furtherLine, List.length_cons, List.length_append]
      omega

/-- Labels that are read in braces have names, and their values were escaped. -/
theorem append_of_readBraced (reads : readBraced input = some (labels, rest)) :
    labels ≠ [] ∧ Named labels ∧ '\x7b' :: input = labelsLine escape labels ++ rest := by
  simp only [readBraced, Option.bind_eq_bind, Option.bind_eq_some_iff, Prod.exists,
    Option.pure_def, Option.some.injEq, Prod.mk.injEq] at reads
  obtain ⟨name, value, _, readsLabel, others, _, readsRest, rfl, rfl⟩ := reads
  obtain ⟨named, rfl⟩ := append_of_readLabel readsLabel
  obtain ⟨othersNamed, rfl⟩ := append_of_readFurther readsRest
  exact ⟨by simp, List.forall_mem_cons.mpr ⟨named, othersNamed⟩, by simp [labelsLine]⟩

/-- Labels are read behind their opening brace. -/
theorem readBraced_append (named : Named (label :: labels)) :
    readBraced (labelLine escape label ++ (furtherLine escape labels ++ rest)) =
      some (label :: labels, rest) := by
  obtain ⟨first, others⟩ := List.forall_mem_cons.mp named
  have enough : labels.length ≤ (furtherLine escape labels ++ rest).length := by
    have bound := length_le_furtherLine escape labels
    rw [List.length_append]
    omega
  rw [readBraced, readLabel_append first]
  simp only [Option.bind_eq_bind, Option.bind_some, readFurther_append others enough]
  rfl

/-- Labels that are read have names, and their values were escaped. -/
theorem append_of_readLabels (reads : readLabels input = some (labels, rest)) :
    Named labels ∧ input = labelsLine escape labels ++ rest := by
  unfold readLabels at reads
  split at reads
  · obtain ⟨-, named, same⟩ := append_of_readBraced reads
    exact ⟨named, same⟩
  · simp only [Option.some.injEq, Prod.mk.injEq] at reads
    obtain ⟨rfl, rfl⟩ := reads
    exact ⟨named_nil, rfl⟩

/-- Labels are read up to the blank behind them. -/
theorem readLabels_append (named : Named labels) :
    readLabels (labelsLine escape labels ++ ' ' :: rest) = some (labels, ' ' :: rest) := by
  cases labels with
  | nil => rfl
  | cons label labels =>
      have line : labelsLine escape (label :: labels) ++ ' ' :: rest =
          '\x7b' :: (labelLine escape label ++ (furtherLine escape labels ++ ' ' :: rest)) := by
        simp [labelsLine]
      rw [line]
      exact readBraced_append named

end Labels

section Samples

variable {input rest : List Char} {reading : Reading} {exemplar : Option (Labels × String)}

/-- An exemplar that is read has labels, whose values were escaped. -/
theorem append_of_readExemplar (reads : readExemplar input = some (exemplar, rest)) :
    ExemplarValid exemplar ∧ input = exemplarLine escape exemplar ++ rest := by
  unfold readExemplar at reads
  split at reads
  · simp only [Option.bind_eq_bind, Option.bind_eq_some_iff, Prod.exists,
      Option.pure_def, Option.some.injEq, Prod.mk.injEq, skip_eq_some_iff, readNumber] at reads
    obtain ⟨labels, _, readsLabels, _, rfl, value, _, readsValue, rfl, rfl⟩ := reads
    obtain ⟨nonempty, named, line⟩ := append_of_readBraced readsLabels
    obtain ⟨isToken, rfl⟩ := append_of_readToken readsValue
    refine ⟨?_, by simp [exemplarLine, line]⟩
    rintro _ ⟨⟩
    exact ⟨nonempty, named, isToken⟩
  · simp only [Option.some.injEq, Prod.mk.injEq] at reads
    obtain ⟨rfl, rfl⟩ := reads
    exact ⟨by simp [ExemplarValid], rfl⟩

/-- An exemplar is read up to the end of the line. -/
theorem readExemplar_append (valid : ExemplarValid exemplar) :
    readExemplar (exemplarLine escape exemplar ++ '\n' :: rest) =
      some (exemplar, '\n' :: rest) := by
  match exemplar with
  | none => rfl
  | some ([], value) => exact absurd rfl (valid _ rfl).1
  | some (label :: labels, value) =>
      obtain ⟨-, named, isToken⟩ := valid _ rfl
      have line : exemplarLine escape (some (label :: labels, value)) ++ '\n' :: rest =
          ' ' :: '#' :: ' ' :: '\x7b' :: (labelLine escape label ++
            (furtherLine escape labels ++ ' ' :: (value.toList ++ '\n' :: rest))) := by
        simp [exemplarLine, labelsLine]
      rw [line]
      simp [readExemplar, readBraced_append named, skip, readNumber,
        readToken_append isToken (show isNumberChar '\n' = false by decide)]

/-- A sample that is read is valid, and the values of its labels were escaped. -/
theorem append_of_readSample (reads : readSample input = some (reading, rest)) :
    reading.IsValid ∧ input = reading.line escape ++ '\n' :: rest := by
  simp only [readSample, Option.bind_eq_bind, Option.bind_eq_some_iff, Prod.exists,
    Option.pure_def, Option.some.injEq, Prod.mk.injEq, skip_eq_some_iff, readNumber] at reads
  obtain ⟨name, _, readsName, labels, _, readsLabels, _, rfl, value, _, readsValue,
    exemplar, _, readsExemplar, _, rfl, rfl, rfl⟩ := reads
  obtain ⟨nameValid, rfl⟩ := append_of_readToken readsName
  obtain ⟨labelsValid, rfl⟩ := append_of_readLabels readsLabels
  obtain ⟨valueValid, rfl⟩ := append_of_readToken readsValue
  obtain ⟨exemplarValid, rfl⟩ := append_of_readExemplar readsExemplar
  exact ⟨⟨nameValid, labelsValid, valueValid, exemplarValid⟩, by simp [Reading.line]⟩

/-- A sample is read from the line in which the values of its labels are escaped. -/
theorem readSample_append (valid : reading.IsValid) :
    readSample (reading.line escape ++ '\n' :: rest) = some (reading, rest) := by
  obtain ⟨name, labels, value, exemplar⟩ := reading
  obtain ⟨nameValid, labelsValid, valueValid, exemplarValid⟩ := valid
  have readsName : ∀ rest,
      readToken isNameChar isName (name.toList ++ (labelsLine escape labels ++ ' ' :: rest)) =
        some (name, labelsLine escape labels ++ ' ' :: rest) := by
    intro rest
    cases labels with
    | nil => exact readToken_append nameValid (by decide)
    | cons label labels => exact readToken_append nameValid (by decide)
  have readsValue : readNumber (value.toList ++ (exemplarLine escape exemplar ++ '\n' :: rest)) =
      some (value, exemplarLine escape exemplar ++ '\n' :: rest) := by
    match exemplar with
    | none => exact readToken_append valueValid (by decide)
    | some (labels, number) => exact readToken_append valueValid (by decide)
  have line : Reading.line escape ⟨name, labels, value, exemplar⟩ ++ '\n' :: rest =
      name.toList ++ (labelsLine escape labels ++ ' ' ::
        (value.toList ++ (exemplarLine escape exemplar ++ '\n' :: rest))) := by
    simp [Reading.line]
  rw [line]
  simp [readSample, readsName, readLabels_append labelsValid, skip, readsValue,
    readExemplar_append exemplarValid]

example :
    readSample "a_total\x7bx=\"1\\n\\\"2\",y=\"\"\x7d 2.5e+3\n# EOF".toList =
      some (⟨"a_total", [("x", "1\n\"2"), ("y", "")], "2.5e+3", none⟩, "# EOF".toList) := by
  decide +kernel

end Samples

end OpenMetrics
end LifecycleOperator
