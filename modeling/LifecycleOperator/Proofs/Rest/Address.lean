import LifecycleOperator.Proofs.Rest.Host
import LifecycleOperator.Proofs.Rest.Path
import LifecycleOperator.Rest.Client
import Mathlib.Data.List.TakeWhile

/-!
# The parts of an address

An address is read from the left: a scheme, slashes, an authority, and then a path, a query
and a fragment.  So what is appended to it lands in the last part that it has, and nothing in
front of it is read otherwise.
-/

namespace LifecycleOperator
namespace Url

/-! ## Behind the authority -/

/-- What is written behind the authority of an address. -/
structure Behind where
  path : List Char
  /-- What is written behind the first question mark. -/
  query : Option (List Char)
  /-- What is written behind the first number sign. -/
  fragment : Option (List Char)

namespace Behind

/-- A part behind its mark, if there is one. -/
def marked (mark : Char) (part : Option (List Char)) : List Char :=
  (part.map (mark :: ·)).getD []

variable (behind : Behind)

def written : List Char :=
  behind.path ++ (marked '?' behind.query ++ marked '#' behind.fragment)

/-- Parts that are told apart by their marks. -/
structure IsParted : Prop where
  path : ∀ character ∈ behind.path, character ≠ '?' ∧ character ≠ '#'
  query : ∀ query, behind.query = some query → ∀ character ∈ query, character ≠ '#'

/-- Whether a character may stand in a path. -/
def inPath (character : Char) : Bool := character != '?' && character != '#'

theorem exists_fragment (characters : List Char) :
    ∃ query fragment, (∀ character ∈ query, character ≠ '#') ∧
      characters = query ++ marked '#' fragment := by
  have whole := List.takeWhile_append_dropWhile (p := (· != '#')) (l := characters)
  have stops := List.head?_dropWhile_not (· != '#') characters
  refine ⟨characters.takeWhile (· != '#'), ?_⟩
  cases rest : characters.dropWhile (· != '#') with
  | nil =>
      refine ⟨none, ?_, ?_⟩
      · intro character member
        simpa using List.mem_takeWhile_imp member
      · rw [rest] at whole
        exact whole.symm
  | cons mark fragment =>
      rw [rest] at whole stops
      obtain rfl : mark = '#' := by simpa using stops
      refine ⟨some fragment, ?_, whole.symm⟩
      intro character member
      simpa using List.mem_takeWhile_imp member

/-- Whatever is written behind an authority has these parts. -/
theorem exists_parts (characters : List Char) :
    ∃ behind : Behind, behind.IsParted ∧ characters = behind.written := by
  have whole := List.takeWhile_append_dropWhile (p := inPath) (l := characters)
  have stops := List.head?_dropWhile_not inPath characters
  have inPaths : ∀ character ∈ characters.takeWhile inPath,
      character ≠ '?' ∧ character ≠ '#' := by
    intro character member
    simpa [inPath] using List.mem_takeWhile_imp member
  cases rest : characters.dropWhile inPath with
  | nil =>
      rw [rest] at whole
      exact ⟨⟨characters.takeWhile inPath, none, none⟩, ⟨inPaths, by simp⟩, whole.symm⟩
  | cons mark others =>
      rw [rest] at whole stops
      by_cases asks : mark = '?'
      · subst asks
        obtain ⟨query, fragment, unmarked, rfl⟩ := exists_fragment others
        exact ⟨⟨characters.takeWhile inPath, some query, fragment⟩,
          ⟨inPaths, by simpa using unmarked⟩, whole.symm⟩
      · obtain rfl : mark = '#' := by simpa [inPath, asks] using stops
        exact ⟨⟨characters.takeWhile inPath, none, some others⟩, ⟨inPaths, by simp⟩,
          whole.symm⟩

/-- A number sign ends what contains none. -/
theorem takeWhile_unmarked {query : List Char}
    (unmarked : ∀ character ∈ query, character ≠ '#') (fragment : Option (List Char)) :
    (query ++ marked '#' fragment).takeWhile (· != '#') = query := by
  rw [List.takeWhile_append_of_pos (by simpa using unmarked)]
  cases fragment <;> simp [marked]

theorem dropWhile_unmarked {query : List Char}
    (unmarked : ∀ character ∈ query, character ≠ '#') (fragment : Option (List Char)) :
    (query ++ marked '#' fragment).dropWhile (· != '#') = marked '#' fragment := by
  rw [List.dropWhile_append_of_pos (by simpa using unmarked)]
  cases fragment <;> simp [marked]

variable {behind} (isParted : behind.IsParted)

include isParted

theorem IsParted.inPath_of_mem : ∀ character ∈ behind.path, inPath character = true := by
  intro character member
  simpa [inPath] using isParted.path character member

theorem IsParted.takeWhile_written : behind.written.takeWhile inPath = behind.path := by
  rw [written, List.takeWhile_append_of_pos isParted.inPath_of_mem]
  cases behind.query <;> cases behind.fragment <;> simp [marked, inPath]

theorem IsParted.dropWhile_written :
    behind.written.dropWhile inPath =
      marked '?' behind.query ++ marked '#' behind.fragment := by
  rw [written, List.dropWhile_append_of_pos isParted.inPath_of_mem]
  cases behind.query <;> cases behind.fragment <;> simp [marked, inPath]

end Behind

/-! ## Authorities -/

/-- What is read of the authority of an address. -/
structure Authority where
  user : Option UrlUser
  host : String
  port : Option Nat

/-- Whether a character ends an authority. -/
def endsAuthority (character : Char) : Bool :=
  isSlash character || character == '?' || character == '#'

def readAuthority? (scheme : String) (written : List Char) : Option Authority :=
  let (userText, named) := splitLast '@' written
  let (hostText, portText) := splitHost named
  (host? hostText).bind fun host =>
    (port? scheme portText).map fun port => ⟨user? userText, host, port⟩

/-- An authority has a host. -/
theorem readAuthority?_nil (scheme : String) : readAuthority? scheme [] = none := rfl

/-- An authority does not end in a blank. -/
theorem readAuthority?_concat_blank
    (scheme : String) (written : List Char) {blank : Char} (isBlank : blank.toNat ≤ 0x20) :
    readAuthority? scheme (written ++ [blank]) = none := by
  obtain ⟨named, namedSame⟩ := splitLast_concat_blank isBlank written
  have ends := splitHost_concat_blank isBlank named
  rw [readAuthority?]
  rcases lastSplit : splitLast '@' (written ++ [blank]) with ⟨userText, rest⟩
  rw [lastSplit] at namedSame
  obtain rfl : rest = named ++ [blank] := namedSame
  rcases hostSplit : splitHost (named ++ [blank]) with ⟨hostText, portText⟩
  rw [hostSplit] at ends
  simp only [hostSplit]
  rcases ends with ⟨port, rfl⟩ | ⟨host, rfl⟩
  · rw [port?_concat_blank isBlank]
    cases host? hostText <;> rfl
  · rw [host?_concat_blank isBlank]
    rfl

/-- The address of an authority, with what is written behind it. -/
def Authority.address (authority : Authority) (scheme : String) (behind : Behind) : Url where
  scheme
  user := authority.user
  host := authority.host
  port := authority.port
  path := normalPath behind.path
  query := behind.query.map fun query => String.ofList (encode queryReserved query)
  fragment :=
    behind.fragment.map fun fragment => String.ofList (encode fragmentReserved fragment)

/-- What is written of the authority of an address. -/
def authorityText (rest : List Char) : List Char :=
  (rest.dropWhile isSlash).takeWhile (!endsAuthority ·)

/-- What is written behind the authority of an address. -/
def behindText (rest : List Char) : List Char :=
  (rest.dropWhile isSlash).dropWhile (!endsAuthority ·)

/-- An address is read part by part. -/
theorem readSpecial?_eq
    {scheme : String} {rest : List Char} {behind : Behind}
    (isParted : behind.IsParted) (same : behindText rest = behind.written) :
    readSpecial? scheme rest =
      (readAuthority? scheme (authorityText rest)).map fun authority =>
        authority.address scheme behind := by
  unfold readSpecial?
  extract_lets trimmed ends remainder path others query fragment
  change remainder = _ at same
  have samePath : path = behind.path := by
    rw [← isParted.takeWhile_written, ← same]
    rfl
  have sameOthers : others =
      Behind.marked '?' behind.query ++ Behind.marked '#' behind.fragment := by
    rw [← isParted.dropWhile_written, ← same]
    rfl
  have sameQuery : query = behind.query := by
    simp only [query, sameOthers]
    cases asks : behind.query with
    | none => cases behind.fragment <;> rfl
    | some asked =>
        have unmarked := isParted.query asked asks
        exact congrArg some (Behind.takeWhile_unmarked unmarked behind.fragment)
  have sameFragment : fragment = behind.fragment := by
    have unmarked : ∀ character ∈ Behind.marked '?' behind.query, character ≠ '#' := by
      cases asks : behind.query with
      | none => simp [Behind.marked]
      | some asked => simpa [Behind.marked] using isParted.query asked asks
    simp only [fragment, sameOthers, Behind.dropWhile_unmarked unmarked]
    cases behind.fragment <;> rfl
  have sameText : authorityText rest = trimmed.takeWhile (!ends ·) := rfl
  rw [samePath, sameQuery, sameFragment, readAuthority?, sameText]
  obtain ⟨userText, named⟩ := splitLast '@' (trimmed.takeWhile (!ends ·))
  dsimp only
  obtain ⟨hostText, portText⟩ := splitHost named
  dsimp only
  cases host? hostText with
  | none => rfl
  | some host => cases port? scheme portText <;> rfl

/-! ## Schemes -/

/-- A scheme is what stands in front of the first colon, if that is a name. -/
theorem splitScheme?_eq_some_iff
    {characters rest : List Char} {scheme : String} :
    splitScheme? characters = some (scheme, rest) ↔
      ∃ name : List Char, characters = name ++ ':' :: rest ∧
        (∃ first others, name = first :: others ∧ first.isAlpha = true) ∧
        (∀ character ∈ name, isSchemeChar character = true) ∧
        scheme = String.ofList (name.map Char.toLower) := by
  constructor
  · intro splits
    cases characters with
    | nil => cases splits
    | cons first others =>
        unfold splitScheme? at splits
        by_cases alpha : first.isAlpha = true
        · have whole := List.takeWhile_append_dropWhile (p := isSchemeChar) (l := first :: others)
          have allowed : ∀ character ∈ (first :: others).takeWhile isSchemeChar,
              isSchemeChar character = true := fun _ member => List.mem_takeWhile_imp member
          have starts : (first :: others).takeWhile isSchemeChar =
              first :: others.takeWhile isSchemeChar :=
            List.takeWhile_cons_of_pos (by simp [isSchemeChar, Char.isAlphanum, alpha])
          simp only [alpha, Bool.not_true, Bool.false_eq_true, if_false] at splits
          split at splits
          next rest' behindName =>
            obtain ⟨rfl, rfl⟩ := Prod.mk.inj (Option.some.inj splits)
            rw [behindName] at whole
            exact ⟨_, whole.symm, ⟨first, _, starts, alpha⟩, allowed, rfl⟩
          next => cases splits
        · simp [alpha] at splits
  · rintro ⟨name, rfl, ⟨first, others, rfl, alpha⟩, allowed, rfl⟩
    have named : (first :: others ++ ':' :: rest).takeWhile isSchemeChar = first :: others := by
      rw [List.takeWhile_append_of_pos allowed, List.takeWhile_cons_of_neg (by decide),
        List.append_nil]
    have behind : (first :: others ++ ':' :: rest).dropWhile isSchemeChar = ':' :: rest := by
      rw [List.dropWhile_append_of_pos allowed, List.dropWhile_cons_of_neg (by decide)]
    rw [List.cons_append] at named behind ⊢
    simp only [splitScheme?, alpha, named, behind, Bool.not_true, Bool.false_eq_true, if_false]

/-- What is appended does not belong to the scheme if there is no colon in it. -/
theorem splitScheme?_of_append
    {written tail : List Char} {scheme : String} {rest : List Char}
    (noColon : ':' ∉ tail)
    (splits : splitScheme? (written ++ tail) = some (scheme, rest)) :
    ∃ front behind, written = front ++ behind ∧ rest = behind ++ tail ∧
      splitScheme? written = some (scheme, behind) := by
  obtain ⟨name, whole, starts, allowed, named⟩ := splitScheme?_eq_some_iff.mp splits
  rcases List.append_eq_append_iff.mp whole with
    ⟨between, -, inTail⟩ | ⟨between, inWritten, behindName⟩
  · rw [inTail] at noColon
    exact absurd (List.mem_append_right between List.mem_cons_self) noColon
  · cases between with
    | nil =>
        obtain rfl : ':' :: rest = tail := behindName
        exact absurd List.mem_cons_self noColon
    | cons colon behind =>
        obtain ⟨rfl, rfl⟩ := List.cons.inj behindName
        refine ⟨name ++ [':'], behind, by simp [inWritten], rfl, ?_⟩
        exact splitScheme?_eq_some_iff.mpr ⟨name, inWritten, starts, allowed, named⟩

/-! ## Tails -/

/-- Blanks, and one slash or more behind them, at the end of an address. -/
structure Tail where
  blanks : List Char
  /-- The number of slashes, apart from the first. -/
  more : Nat
  allBlank : ∀ character ∈ blanks, character.toNat ≤ 0x20

namespace Tail

variable (tail : Tail)

def written : List Char := tail.blanks ++ List.replicate (tail.more + 1) '/'

theorem mem_written {character : Char} (member : character ∈ tail.written) :
    character.toNat ≤ 0x20 ∨ character = '/' := by
  rcases List.mem_append.mp member with inBlanks | inSlashes
  · exact .inl (tail.allBlank character inBlanks)
  · exact .inr (List.eq_of_mem_replicate inSlashes)

theorem notMem_written {character : Char} (visible : 0x20 < character.toNat)
    (notSlash : character ≠ '/') : character ∉ tail.written := by
  intro member
  rcases tail.mem_written member with blank | slash
  · omega
  · exact notSlash slash

end Tail

/-- Slashes behind a text make blanks in front of them count. -/
theorem exists_significant_append (text : List Char) (more : Nat) :
    ∃ tail : Tail, tail.more = more ∧
      significant (String.ofList (text ++ List.replicate (more + 1) '/')) =
        significant (String.ofList text) ++ tail.written := by
  let isBlank (character : Char) : Bool := character.toNat ≤ 0x20
  let counts (character : Char) : Bool := !(['\t', '\n', '\r'].contains character)
  let started := text.dropWhile isBlank
  have blanks : ∀ character ∈ (started.rtakeWhile isBlank).filter counts,
      character.toNat ≤ 0x20 := by
    intro character member
    simpa [isBlank] using List.mem_rtakeWhile_imp (List.mem_filter.mp member).1
  have startsSame : (text ++ List.replicate (more + 1) '/').dropWhile isBlank =
      started ++ List.replicate (more + 1) '/' := by
    rw [List.dropWhile_append]
    split
    next none =>
      have empty : started = [] := List.isEmpty_iff.mp none
      rw [empty]
      rfl
    next => rfl
  have endsSame : (started ++ List.replicate (more + 1) '/').rdropWhile isBlank =
      started ++ List.replicate (more + 1) '/' := by
    rw [List.replicate_succ', ← List.append_assoc]
    exact List.rdropWhile_concat_neg _ _ '/' (by decide)
  have slashes : (List.replicate (more + 1) '/').filter counts =
      List.replicate (more + 1) '/' :=
    List.filter_eq_self.mpr fun character member => by
      rw [List.eq_of_mem_replicate member]
      decide
  refine ⟨⟨(started.rtakeWhile isBlank).filter counts, more, blanks⟩, rfl, ?_⟩
  have read : ∀ characters : List Char, significant (String.ofList characters) =
      ((characters.dropWhile isBlank).rdropWhile isBlank).filter counts := by
    intro characters
    rw [significant, String.toList_ofList]
    rfl
  rw [read, read, startsSame, endsSame, List.filter_append, slashes]
  conv_lhs => rw [← List.rdropWhile_append_rtakeWhile (p := isBlank) (l := started)]
  rw [List.filter_append, List.append_assoc]
  rfl

namespace Tail

variable {tail : Tail}

theorem not_endsAuthority_of_mem_blanks :
    ∀ character ∈ tail.blanks, (!endsAuthority character) = true := by
  intro character member
  have blank := tail.allBlank character member
  have noQuestion := ne_of_isBlank blank (by decide : 0x20 < '?'.toNat)
  have noNumber := ne_of_isBlank blank (by decide : 0x20 < '#'.toNat)
  simp [endsAuthority, isSlash_of_blank blank, noQuestion, noNumber]

theorem takeWhile_written : tail.written.takeWhile (!endsAuthority ·) = tail.blanks := by
  rw [written, List.takeWhile_append_of_pos not_endsAuthority_of_mem_blanks,
    List.replicate_succ, List.takeWhile_cons_of_neg (by decide), List.append_nil]

theorem dropWhile_written :
    tail.written.dropWhile (!endsAuthority ·) = List.replicate (tail.more + 1) '/' := by
  rw [written, List.dropWhile_append_of_pos not_endsAuthority_of_mem_blanks,
    List.replicate_succ, List.dropWhile_cons_of_neg (by decide)]

/-- Blanks do not stand at the end of an authority that is read. -/
theorem blanks_eq_nil_of_reads
    {scheme : String} {front : List Char} {authority : Authority}
    (reads : readAuthority? scheme (front ++ tail.blanks) = some authority) :
    tail.blanks = [] := by
  rcases List.eq_nil_or_concat tail.blanks with none | ⟨others, blank, split⟩
  · exact none
  · have isBlank := tail.allBlank blank (by simp [split])
    rw [split, List.concat_eq_append, ← List.append_assoc,
      readAuthority?_concat_blank scheme _ isBlank] at reads
    cases reads

/-- There is an authority in front of what is appended. -/
theorem dropWhile_append_of_reads
    {scheme : String} {rest : List Char} {authority : Authority}
    (reads : readAuthority? scheme (authorityText (rest ++ tail.written)) = some authority) :
    (rest ++ tail.written).dropWhile isSlash = rest.dropWhile isSlash ++ tail.written := by
  rw [List.dropWhile_append]
  split
  next empty =>
    -- Then the tail would have to be the authority, which it cannot be.
    rw [authorityText, List.dropWhile_append, if_pos empty] at reads
    exfalso
    cases spaced : tail.blanks with
    | nil =>
        have slashes : tail.written.dropWhile isSlash = [] := by
          rw [written, spaced, List.nil_append, List.dropWhile_eq_nil_iff]
          intro character member
          rw [List.eq_of_mem_replicate member]
          rfl
        rw [slashes, List.takeWhile_nil, readAuthority?_nil] at reads
        cases reads
    | cons blank others =>
        have noSlash : isSlash blank = false :=
          isSlash_of_blank (tail.allBlank blank (by simp [spaced]))
        have kept : tail.written.dropWhile isSlash = tail.written := by
          rw [written, spaced, List.cons_append,
            List.dropWhile_cons_of_neg (by simp [noSlash])]
        rw [kept, takeWhile_written, ← List.nil_append tail.blanks] at reads
        rw [blanks_eq_nil_of_reads reads] at spaced
        cases spaced
  next => rfl

/-- What is appended does not belong to the authority, nor do blanks stand behind it at once. -/
theorem behindText_append
    {scheme : String} {rest : List Char} {authority : Authority}
    (reads : readAuthority? scheme (authorityText (rest ++ tail.written)) = some authority) :
    authorityText (rest ++ tail.written) = authorityText rest ∧
      behindText (rest ++ tail.written) = behindText rest ++ tail.written ∧
      (behindText rest = [] → tail.blanks = []) := by
  have started := dropWhile_append_of_reads reads
  rw [authorityText, started] at reads
  rw [authorityText, authorityText, behindText, behindText, started]
  generalize rest.dropWhile isSlash = named at reads ⊢
  rw [List.takeWhile_append] at reads ⊢
  rw [List.dropWhile_append]
  cases ended : named.dropWhile (!endsAuthority ·) with
  | nil =>
      have whole : named.takeWhile (!endsAuthority ·) = named :=
        List.takeWhile_eq_self_iff.mpr (List.dropWhile_eq_nil_iff.mp ended)
      rw [whole, if_pos rfl, takeWhile_written] at reads ⊢
      have unspaced := blanks_eq_nil_of_reads reads
      refine ⟨?_, ?_, fun _ => unspaced⟩
      · rw [unspaced, List.append_nil]
      · rw [if_pos (by rfl), dropWhile_written, written, unspaced]
        rfl
  | cons mark others =>
      have stops : (named.takeWhile (!endsAuthority ·)).length ≠ named.length := by
        have lengths := congrArg List.length
          (List.takeWhile_append_dropWhile (p := (!endsAuthority ·)) (l := named))
        rw [List.length_append, ended, List.length_cons] at lengths
        omega
      refine ⟨if_neg stops, rfl, ?_⟩
      intro empty
      cases empty

end Tail
end Url
end LifecycleOperator
