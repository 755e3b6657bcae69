import LifecycleOperator.Text.LowerCase

/-!
# Words that are recognised in any case

A text is in lower case one of the words that a program looks for just when its letters are
those of the word, in upper or in lower case.  That no other character becomes one of these
letters is a property of the tables of letter case: beyond ASCII the only one that becomes an
ASCII letter on its own is the Kelvin sign, and the dotted capital i leaves its dot behind.
Words with a k are therefore left aside.
-/

namespace LifecycleOperator
namespace Text

/-- A small letter of ASCII that no character beyond ASCII becomes. -/
structure IsPlainLetter (letter : Char) : Prop where
  small : 'a' ≤ letter ∧ letter ≤ 'z'
  ne_k : letter ≠ 'k'

instance (letter : Char) : Decidable (IsPlainLetter letter) :=
  decidable_of_iff (('a' ≤ letter ∧ letter ≤ 'z') ∧ letter ≠ 'k')
    ⟨fun ⟨small, ne_k⟩ => ⟨small, ne_k⟩, fun plain => ⟨plain.small, plain.ne_k⟩⟩

theorem IsPlainLetter.toNat_lt {letter : Char} (plain : IsPlainLetter letter) :
    letter.toNat < 0x80 := by
  have below : letter.toNat ≤ 0x7A := plain.small.2
  omega

/-- A code beyond ASCII is none of a plain letter, even if it is no code of a character. -/
theorem not_isPlainLetter_ofNat {code : Nat} (beyond : 0x80 ≤ code) :
    ¬ IsPlainLetter (Char.ofNat code) := by
  intro plain
  by_cases valid : code.isValidChar
  · rw [Char.ofNat, dif_pos valid] at plain
    have below : code < 0x80 := plain.toNat_lt
    omega
  · rw [Char.ofNat, dif_neg valid] at plain
    exact absurd plain (by decide)

/-! ## Single characters -/

/-- In ASCII the capital letters become the small ones, and nothing else changes. -/
theorem lowerChar_of_ascii {character : Char} (ascii : character.toNat < 0x80) :
    lowerChar character = [character.toLower] := by
  have all : ∀ code < 0x80,
      lowerChar (Char.ofNat code) = [(Char.ofNat code).toLower] := by
    decide +kernel
  have own := all character.toNat ascii
  rwa [Char.ofNat_toNat] at own

/-- The lower case of ASCII leaves everything beyond it as it is. -/
theorem toLower_of_beyond {character : Char} (beyond : 0x80 ≤ character.toNat) :
    character.toLower = character := by
  unfold Char.toLower
  split
  · rename_i capital
    have below : character.toNat ≤ 0x5A := capital.2
    omega
  · rfl

/-- Beyond ASCII only the Kelvin sign is taken to a letter of ASCII. -/
theorem target_of_mem_caseRuns :
    ∀ run ∈ caseRuns, 0x80 ≤ run.last →
      0x80 ≤ run.target ∨ run = ⟨0x212A, 0x212A, 1, 0x6B⟩ := by
  decide +kernel

/-- What a run makes of a character beyond ASCII is no plain letter. -/
theorem CaseRun.not_isPlainLetter {run : CaseRun} {character lowered : Char}
    (member : run ∈ caseRuns) (beyond : 0x80 ≤ character.toNat)
    (changes : run.lower? character = some lowered) :
    ¬ IsPlainLetter lowered := by
  simp only [CaseRun.lower?, Option.ite_none_right_eq_some, Option.some.injEq, Bool.and_eq_true,
    decide_eq_true_eq] at changes
  obtain ⟨⟨⟨lower, upper⟩, -⟩, rfl⟩ := changes
  rcases target_of_mem_caseRuns run member (by omega) with far | rfl
  · exact not_isPlainLetter_ofNat (by omega)
  · change 0x212A ≤ character.toNat at lower
    change character.toNat ≤ 0x212A at upper
    have kelvin : character.toNat = 0x212A := by omega
    rw [kelvin]
    exact fun plain => plain.ne_k (by decide)

/-- What becomes of a character beyond ASCII does not consist of plain letters. -/
theorem exists_mem_lowerChar_of_beyond {character : Char} (beyond : 0x80 ≤ character.toNat) :
    ∃ lowered ∈ lowerChar character, ¬ IsPlainLetter lowered := by
  rw [lowerChar]
  split
  · exact ⟨'\u0307', by simp, by decide⟩
  · refine ⟨_, List.mem_singleton_self _, ?_⟩
    cases found : caseRuns.findSome? (·.lower? character) with
    | none =>
        intro plain
        have below : character.toNat < 0x80 := plain.toNat_lt
        omega
    | some lowered =>
        obtain ⟨run, member, changes⟩ := List.exists_of_findSome?_eq_some found
        exact CaseRun.not_isPlainLetter member beyond changes

/-! ## Words -/

/-- A word of plain letters. -/
def IsPlainWord (word : List Char) : Prop := ∀ letter ∈ word, IsPlainLetter letter

instance (word : List Char) : Decidable (IsPlainWord word) := List.decidableBAll _ word

/-- Wherever they stand, characters become a word of plain letters only letter by letter. -/
theorem lowerFrom_eq_iff {before characters word : List Char}
    (plain : IsPlainWord word) :
    lowerFrom before characters = word ↔ characters.map Char.toLower = word := by
  induction characters generalizing before word with
  | nil => rfl
  | cons character rest inductionHypothesis =>
      unfold lowerFrom
      rcases Nat.lt_or_ge character.toNat 0x80 with ascii | beyond
      · have notSigma : character ≠ '\u03a3' := by
          rintro rfl
          exact absurd ascii (by decide)
        simp only [if_neg notSigma, lowerChar_of_ascii ascii, List.singleton_append,
          List.map_cons]
        cases word with
        | nil => simp
        | cons letter others =>
            rw [IsPlainWord, List.forall_mem_cons] at plain
            rw [List.cons.injEq, List.cons.injEq, inductionHypothesis plain.2]
      · -- On both sides there is now a character that is no letter of the word.
        have notLowered : ∀ lowered, ¬ IsPlainLetter lowered → ∀ front back,
            lowered ∈ front → front ++ back ≠ word := by
          rintro lowered notPlain front back member rfl
          exact notPlain (plain lowered (List.mem_append_left back member))
        refine iff_of_false ?_ ?_
        · split
          · split
            · exact notLowered '\u03c2' (by decide) _ _ (List.mem_singleton_self _)
            · exact notLowered '\u03c3' (by decide) _ _ (List.mem_singleton_self _)
          · obtain ⟨lowered, member, notPlain⟩ := exists_mem_lowerChar_of_beyond beyond
            exact notLowered lowered notPlain _ _ member
        · have same : character.toLower = character := toLower_of_beyond beyond
          refine notLowered character ?_ [character.toLower] _ (by simp [same])
          intro letter
          have below : character.toNat < 0x80 := letter.toNat_lt
          omega

/-- A text is a word of plain letters in lower case if it is the word in any case. -/
theorem lowerCase_eq_iff {text word : String}
    (plain : IsPlainWord word.toList) :
    lowerCase text = word ↔ text.map Char.toLower = word := by
  rw [← String.toList_inj, ← String.toList_inj, lowerCase, String.toList_ofList,
    lowerFrom_eq_iff plain, String.toList_map]

end Text
end LifecycleOperator
