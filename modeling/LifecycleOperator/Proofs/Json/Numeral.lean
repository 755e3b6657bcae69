import LifecycleOperator.Json.Numeral
import Mathlib.Data.List.Basic
import Mathlib.Tactic.IntervalCases

/-!
# Numbers that are written can be read

The text of a number is a numeral: a sign, a whole part without superfluous zeros, a
fraction and an exponent.  This holds of every number, however its text is laid out.  A
whole number that fits into 64 bits is read back as the same number.
-/

namespace LifecycleOperator
namespace Numeral

/-! ## The parts of a numeral -/

/-- One or more digits. -/
structure IsRun (chars : List Char) : Prop where
  ne_nil : chars ≠ []
  areDigits : ∀ char ∈ chars, char.isDigit = true

/-- The digits of a whole part, without superfluous zeros. -/
structure IsWhole (chars : List Char) : Prop extends IsRun chars where
  noSuperfluousZero : chars.head? = some '0' → chars.length = 1

/-- A point with digits behind it, or nothing. -/
def IsFraction (chars : List Char) : Prop :=
  chars = [] ∨ ∃ run, IsRun run ∧ chars = '.' :: run

/-- A power of ten, or nothing. -/
def IsExponent (chars : List Char) : Prop :=
  chars = [] ∨ ∃ power : Int, chars = 'e' :: (toString power).toList

/-- The characters of a numeral, part by part. -/
structure IsWritten (sign whole fraction exponent : List Char) : Prop where
  isSign : sign = [] ∨ sign = ['-']
  isWhole : IsWhole whole
  isFraction : IsFraction fraction
  isExponent : IsExponent exponent

/-- A text that is a numeral. -/
def IsNumeral (chars : List Char) : Prop :=
  ∃ sign whole fraction exponent, IsWritten sign whole fraction exponent ∧
    chars = sign ++ (whole ++ (fraction ++ exponent))

/-! ## Digits -/

/-- The values of digits. -/
def values (chars : List Char) : List Nat :=
  chars.map fun char => char.toNat - '0'.toNat

@[simp] theorem values_nil : values [] = [] := rfl

theorem values_ne_nil {chars : List Char} (run : IsRun chars) : values chars ≠ [] :=
  fun none => run.ne_nil (List.map_eq_nil_iff.mp none)

/-- Digits are taken off up to the first character that is none. -/
theorem digits_append
    {front rest : List Char}
    (areDigits : ∀ char ∈ front, char.isDigit = true)
    (ends : ∀ char ∈ rest.head?, char.isDigit = false) :
    digits (front ++ rest) = (values front, rest) := by
  induction front with
  | nil =>
      cases rest with
      | nil => rfl
      | cons char rest => simp [digits, digit?, values, ends char rfl]
  | cons char front inductionHypothesis =>
      rw [List.forall_mem_cons] at areDigits
      simp [digits, digit?, values, areDigits.1, inductionHypothesis areDigits.2]

/-- Digits that stand alone are all taken. -/
theorem digits_eq {chars : List Char} (run : IsRun chars) :
    digits chars = (values chars, []) := by
  have taken : digits (chars ++ []) = (values chars, []) :=
    digits_append run.areDigits (by simp)
  rwa [List.append_nil] at taken

/-- The decimal digits of a number are digits. -/
theorem isRun_toDigits (number : Nat) : IsRun (Nat.toDigits 10 number) where
  ne_nil := Nat.toDigits_ne_nil
  areDigits _ := Nat.isDigit_of_mem_toDigits (by decide) (by decide)

/-- The digits of a positive number start with another one than zero. -/
theorem head?_toDigits {number : Nat} (positive : 0 < number) :
    (Nat.toDigits 10 number).head? ≠ some '0' := by
  induction number using Nat.strongRecOn with
  | _ number inductionHypothesis =>
      by_cases small : number < 10
      · rw [Nat.toDigits_of_lt_base small]
        interval_cases number <;> decide
      · have starts := inductionHypothesis (number / 10) (by omega) (by omega)
        rw [Nat.toDigits_of_base_le (by decide) (by omega),
          List.head?_append_of_ne_nil _ Nat.toDigits_ne_nil]
        exact starts

/-- The decimal digits of a number are a whole part. -/
theorem isWhole_toDigits (number : Nat) : IsWhole (Nat.toDigits 10 number) where
  toIsRun := isRun_toDigits number
  noSuperfluousZero starts := by
    rcases Nat.eq_zero_or_pos number with rfl | positive
    · rfl
    · exact absurd starts (head?_toDigits positive)

/-- The value of the digits of a number is the number. -/
theorem ofDigits_values_toDigits (number : Nat) :
    ofDigits (values (Nat.toDigits 10 number)) = number := by
  calc
    ofDigits (values (Nat.toDigits 10 number))
      = (Nat.toDigits 10 number).foldl
          (fun total char => 10 * total + (char.toNat - '0'.toNat)) 0 := by
        simp only [ofDigits, values, List.foldl_map, Nat.mul_comm 10]
    _ = Nat.ofDigitChars 10 (Nat.toDigits 10 number) 0 := Nat.ofDigitChars_eq_foldl.symm
    _ = number := Nat.ofDigitChars_ten_toDigits

/-! ## Reading what is written -/

/-- An exponent does not go on with digits. -/
theorem IsExponent.isDigit_head? {exponent : List Char} (isExponent : IsExponent exponent) :
    ∀ char ∈ exponent.head?, char.isDigit = false := by
  rcases isExponent with rfl | ⟨power, rfl⟩ <;> simp

/-- What stands behind the whole part does not go on with digits. -/
theorem IsWritten.isDigit_head?
    {sign whole fraction exponent : List Char}
    (written : IsWritten sign whole fraction exponent) :
    ∀ char ∈ (fraction ++ exponent).head?, char.isDigit = false := by
  rcases written.isFraction with rfl | ⟨run, -, rfl⟩
  · exact written.isExponent.isDigit_head?
  · simp

/-- Behind a point there are digits, and the exponent behind them. -/
theorem IsWritten.run_of_point
    {sign whole fraction exponent behind : List Char}
    (written : IsWritten sign whole fraction exponent)
    (point : fraction ++ exponent = '.' :: behind) :
    ∃ run, IsRun run ∧ fraction = '.' :: run ∧ behind = run ++ exponent := by
  rcases written.isFraction with rfl | ⟨run, isRun, rfl⟩
  · rcases written.isExponent with rfl | ⟨power, rfl⟩ <;> simp at point
  · rw [List.cons_append, List.cons.injEq] at point
    exact ⟨run, isRun, rfl, point.2.symm⟩

/-- Without a point there is no fraction. -/
theorem IsFraction.eq_nil_of_noPoint
    {fraction exponent : List Char}
    (isFraction : IsFraction fraction)
    (noPoint : ∀ behind, fraction ++ exponent = '.' :: behind → False) :
    fraction = [] := by
  rcases isFraction with rfl | ⟨run, -, rfl⟩
  · rfl
  · exact (noPoint _ rfl).elim

/-- The text of a whole number: its digits, behind a minus sign if it is negative. -/
theorem toList_toString (value : Int) :
    (toString value).toList =
      (if 0 ≤ value then [] else ['-']) ++ Nat.toDigits 10 value.natAbs := by
  cases value with
  | ofNat number => simp [Int.toString_eq_repr, Int.repr]
  | negSucc number => simp [Int.toString_eq_repr, Int.repr]

/-- Digits do not look like a sign. -/
theorem ne_of_isDigit {char sign : Char} (isDigit : char.isDigit = true)
    (isSign : sign.isDigit = false) : char ≠ sign := by
  rintro rfl
  rw [isDigit] at isSign
  cases isSign

/-- A run does not start with a sign. -/
theorem IsRun.starts {run : List Char} (isRun : IsRun run) :
    ∃ char rest, run = char :: rest ∧ char ≠ '+' ∧ char ≠ '-' := by
  obtain ⟨char, rest, rfl⟩ := List.exists_cons_of_ne_nil isRun.ne_nil
  have isDigit := isRun.areDigits char List.mem_cons_self
  exact ⟨char, rest, rfl, ne_of_isDigit isDigit rfl, ne_of_isDigit isDigit rfl⟩

/-- An exponent without a sign is read. -/
theorem exponent?_run {run : List Char} (isRun : IsRun run) :
    exponent? ('e' :: run) = some (some (ofDigits (values run) : Int)) := by
  have taken := digits_eq isRun
  obtain ⟨char, rest, rfl, notPlus, notMinus⟩ := isRun.starts
  simp [exponent?, taken, notPlus, notMinus, values]

/-- An exponent with a sign is read. -/
theorem exponent?_minus_run {run : List Char} (isRun : IsRun run) :
    exponent? ('e' :: '-' :: run) = some (some (-(ofDigits (values run) : Int))) := by
  have taken := digits_eq isRun
  obtain ⟨char, rest, rfl⟩ := List.exists_cons_of_ne_nil isRun.ne_nil
  simp [exponent?, taken, values]

/-- An exponent that is written can be read. -/
theorem isSome_exponent? {exponent : List Char} (isExponent : IsExponent exponent) :
    (exponent? exponent).isSome := by
  rcases isExponent with rfl | ⟨power, rfl⟩
  · rfl
  · have isRun := isRun_toDigits power.natAbs
    rw [toList_toString]
    split
    · rw [List.nil_append, exponent?_run isRun]
      rfl
    · rw [List.singleton_append, exponent?_minus_run isRun]
      rfl

/-- The first digit of a whole part is zero only if it is the only one. -/
theorem values_of_isWhole {whole : List Char} (isWhole : IsWhole whole) :
    ∃ first others, values whole = first :: others ∧ (first = 0 → others = []) := by
  obtain ⟨char, rest, rfl⟩ := List.exists_cons_of_ne_nil isWhole.ne_nil
  refine ⟨_, _, rfl, ?_⟩
  intro isZero
  have isDigit := isWhole.areDigits char List.mem_cons_self
  have isZeroDigit : char = '0' := by
    rw [Char.isDigit_iff_toNat] at isDigit
    have notAbove : char.toNat ≤ '0'.toNat := Nat.le_of_sub_eq_zero isZero
    exact Char.toNat_inj.mp (Nat.le_antisymm notAbove isDigit.1)
  have single := isWhole.noSuperfluousZero (congrArg some isZeroDigit)
  simpa using single

/-- A numeral without a sign is read as the one with a sign, but is not negative. -/
theorem read?_of_minus {char : Char} {rest : List Char} (notMinus : char ≠ '-') :
    read? (char :: rest) =
      (read? ('-' :: char :: rest)).map fun numeral => { numeral with negative := false } := by
  -- Both look at the same digits, and differ in the sign that they keep.
  simp only [read?]
  split <;> split <;> simp_all [Function.comp_def]

/-- A numeral that is written is read, part by part. -/
theorem read?_eq
    {sign whole fraction exponent : List Char} {power : Option Int}
    (written : IsWritten sign whole fraction exponent)
    (reads : exponent? exponent = some power) :
    read? (sign ++ (whole ++ (fraction ++ exponent))) =
      some ⟨!sign.isEmpty, values whole, values (fraction.drop 1), power⟩ := by
  have taken : digits (whole ++ (fraction ++ exponent)) = (values whole, fraction ++ exponent) :=
    digits_append written.isWhole.areDigits written.isDigit_head?
  obtain ⟨first, others, isValues, noZero⟩ := values_of_isWhole written.isWhole
  obtain ⟨char, rest, equal, -, notMinus⟩ := written.isWhole.starts
  rw [isValues, equal, List.cons_append] at taken
  rw [isValues, equal, List.cons_append]
  have negative : read? ('-' :: char :: (rest ++ (fraction ++ exponent))) =
      some ⟨true, first :: others, values (fraction.drop 1), power⟩ := by
    simp only [read?, taken]
    split
    · rename_i isNil
      cases isNil
    · rename_i superfluous
      simp only [Prod.mk.injEq, List.cons.injEq] at superfluous
      cases (noZero superfluous.1.1).symm.trans superfluous.1.2
    · rename_i behind _ _ isPoint
      obtain ⟨rfl, behindPoint⟩ := Prod.mk.inj isPoint
      obtain ⟨run, isRun, rfl, rfl⟩ := written.run_of_point behindPoint
      rw [digits_append isRun.areDigits written.isExponent.isDigit_head?]
      split
      · rename_i isNil
        exact absurd (Prod.mk.inj isNil).1 (values_ne_nil isRun)
      · rename_i isTaken
        obtain ⟨rfl, rfl⟩ := Prod.mk.inj isTaken
        rw [reads]
        rfl
    · rename_i noPoint isTail
      obtain ⟨rfl, rfl⟩ := Prod.mk.inj isTail
      obtain rfl := written.isFraction.eq_nil_of_noPoint noPoint
      rw [List.nil_append, reads]
      rfl
  rcases written.isSign with rfl | rfl
  · rw [List.nil_append, read?_of_minus notMinus, negative]
    rfl
  · exact negative

/-- The text of a whole number is a numeral. -/
theorem isNumeral_toString (value : Int) : IsNumeral (toString value).toList := by
  refine ⟨if 0 ≤ value then [] else ['-'], Nat.toDigits 10 value.natAbs, [], [],
    ⟨?_, isWhole_toDigits value.natAbs, .inl rfl, .inl rfl⟩, ?_⟩
  · split
    · exact .inl rfl
    · exact .inr rfl
  · rw [toList_toString, List.append_nil, List.append_nil]

/-- A whole number that fits into 64 bits without a sign is read back. -/
theorem number?_of_natural {value : Nat} (fits : value < 0x10000000000000000) :
    (read? (toString (value : Int)).toList).bind number? = some (.integer value) := by
  have written : IsWritten [] (Nat.toDigits 10 value) [] [] :=
    ⟨.inl rfl, isWhole_toDigits value, .inl rfl, .inl rfl⟩
  have isRead := read?_eq written rfl
  rw [List.nil_append, List.nil_append, List.append_nil] at isRead
  rw [toList_toString, if_pos (Int.natCast_nonneg value), List.nil_append, Int.natAbs_natCast,
    isRead]
  simp [number?, ofDigits_values_toDigits, fits]

namespace IsNumeral

variable {chars : List Char}

/-- A numeral can be read. -/
theorem exists_read? (isNumeral : IsNumeral chars) : ∃ numeral, read? chars = some numeral := by
  obtain ⟨sign, whole, fraction, exponent, written, rfl⟩ := isNumeral
  obtain ⟨power, reads⟩ := Option.isSome_iff_exists.mp (isSome_exponent? written.isExponent)
  exact ⟨_, read?_eq written reads⟩

/-- A numeral starts with a digit or a minus sign. -/
theorem starts (isNumeral : IsNumeral chars) :
    ∃ char rest, chars = char :: rest ∧ (char.isDigit = true ∨ char = '-') := by
  obtain ⟨sign, whole, fraction, exponent, written, rfl⟩ := isNumeral
  rcases written.isSign with rfl | rfl
  · obtain ⟨char, rest, rfl⟩ := List.exists_cons_of_ne_nil written.isWhole.ne_nil
    exact ⟨char, _, rfl, .inl (written.isWhole.areDigits char List.mem_cons_self)⟩
  · exact ⟨'-', _, rfl, .inr rfl⟩

/-- There is nothing in a numeral but digits, minus signs, a point and the letter e. -/
theorem forall_mem (isNumeral : IsNumeral chars) :
    ∀ char ∈ chars, char.isDigit = true ∨ char ∈ ['-', '.', 'e'] := by
  obtain ⟨sign, whole, fraction, exponent, written, rfl⟩ := isNumeral
  simp only [List.forall_mem_append]
  refine ⟨?_, fun char member => .inl (written.isWhole.areDigits char member), ?_, ?_⟩
  · rcases written.isSign with rfl | rfl <;> simp
  · rcases written.isFraction with rfl | ⟨run, isRun, rfl⟩
    · simp
    · rw [List.forall_mem_cons]
      exact ⟨by decide, fun char member => .inl (isRun.areDigits char member)⟩
  · rcases written.isExponent with rfl | ⟨power, rfl⟩
    · simp
    · rw [List.forall_mem_cons, toList_toString, List.forall_mem_append]
      refine ⟨by decide, ?_, fun char member => .inl ((isRun_toDigits _).areDigits char member)⟩
      split <;> simp

end IsNumeral

/-! ## Numerals without a sign -/

/-- A text that is a numeral without a sign. -/
def IsUnsigned (chars : List Char) : Prop :=
  ∃ whole fraction exponent, IsWritten [] whole fraction exponent ∧
    chars = whole ++ (fraction ++ exponent)

namespace IsUnsigned

variable {chars whole run : List Char}

/-- A numeral may do without a sign. -/
theorem isNumeral (unsigned : IsUnsigned chars) : IsNumeral chars := by
  obtain ⟨whole, fraction, exponent, written, rfl⟩ := unsigned
  exact ⟨[], whole, fraction, exponent, written, rfl⟩

/-- A numeral may have a minus sign. -/
theorem negative (unsigned : IsUnsigned chars) : IsNumeral ('-' :: chars) := by
  obtain ⟨whole, fraction, exponent, written, rfl⟩ := unsigned
  exact ⟨['-'], whole, fraction, exponent,
    ⟨.inr rfl, written.isWhole, written.isFraction, written.isExponent⟩, rfl⟩

/-- A whole part and digits behind a point. -/
theorem of_fraction (isWhole : IsWhole whole) (isRun : IsRun run) :
    IsUnsigned (whole ++ '.' :: run) :=
  ⟨whole, '.' :: run, [], ⟨.inl rfl, isWhole, .inr ⟨run, isRun, rfl⟩, .inl rfl⟩, by simp⟩

/-- A whole part and a power of ten. -/
theorem of_power (isWhole : IsWhole whole) (power : Int) :
    IsUnsigned (whole ++ 'e' :: (toString power).toList) :=
  ⟨whole, [], _, ⟨.inl rfl, isWhole, .inl rfl, .inr ⟨power, rfl⟩⟩, rfl⟩

/-- A whole part, digits behind a point and a power of ten. -/
theorem of_fraction_power (isWhole : IsWhole whole) (isRun : IsRun run) (power : Int) :
    IsUnsigned (whole ++ '.' :: (run ++ 'e' :: (toString power).toList)) :=
  ⟨whole, '.' :: run, _, ⟨.inl rfl, isWhole, .inr ⟨run, isRun, rfl⟩, .inr ⟨power, rfl⟩⟩, rfl⟩

end IsUnsigned

/-- Zeros are digits. -/
theorem isDigit_of_mem_zeros {count : Nat} : ∀ char ∈ List.replicate count '0',
    char.isDigit = true := by
  intro char member
  rw [List.eq_of_mem_replicate member]
  rfl

/-- Digits behind zeros are digits. -/
theorem IsRun.behind_zeros {run : List Char} (isRun : IsRun run) (count : Nat) :
    IsRun (List.replicate count '0' ++ run) where
  ne_nil := List.append_ne_nil_of_right_ne_nil _ isRun.ne_nil
  areDigits := List.forall_mem_append.mpr ⟨isDigit_of_mem_zeros, isRun.areDigits⟩

/-- Zeros behind the digits of a number, if it is not zero, make a whole part. -/
theorem isWhole_zeros {number zeros : Nat} (noZeros : number = 0 → zeros = 0) :
    IsWhole (Nat.toDigits 10 number ++ List.replicate zeros '0') where
  ne_nil := List.append_ne_nil_of_left_ne_nil Nat.toDigits_ne_nil _
  areDigits :=
    List.forall_mem_append.mpr ⟨(isRun_toDigits number).areDigits, isDigit_of_mem_zeros⟩
  noSuperfluousZero starts := by
    rcases Nat.eq_zero_or_pos number with rfl | positive
    · rw [noZeros rfl]
      rfl
    · rw [List.head?_append_of_ne_nil _ Nat.toDigits_ne_nil] at starts
      exact absurd starts (head?_toDigits positive)

/-- The first digits of a number that is not zero are a whole part. -/
theorem isWhole_take {number count : Nat} (positive : 0 < number) (takesSome : 0 < count) :
    IsWhole ((Nat.toDigits 10 number).take count) := by
  have run := isRun_toDigits number
  refine ⟨⟨?_, fun char member => run.areDigits char (List.mem_of_mem_take member)⟩, ?_⟩
  · rw [Ne, List.take_eq_nil_iff]
    exact not_or.mpr ⟨takesSome.ne', run.ne_nil⟩
  · rw [List.head?_take, if_neg takesSome.ne']
    exact fun starts => absurd starts (head?_toDigits positive)

/-- The digits behind some of a run are a run, if there are any. -/
theorem isRun_drop {run : List Char} {count : Nat} (isRun : IsRun run)
    (leavesSome : count < run.length) : IsRun (run.drop count) where
  ne_nil none := absurd (List.drop_eq_nil_iff.mp none) (Nat.not_le.mpr leavesSome)
  areDigits char member := isRun.areDigits char (List.mem_of_mem_drop member)

end Numeral

namespace Binary64

open Numeral

/-! ## The text of a floating point number -/

/-- A number that is not zero has a significand. -/
theorem significand_pos {number : Binary64} (notZero : number.isZero = false) :
    0 < number.significand := by
  unfold significand
  split
  · rename_i denormal
    simp only [isZero, denormal, Bool.true_and, beq_eq_false_iff_ne] at notZero
    exact Nat.pos_of_ne_zero notZero
  · exact Nat.add_pos_left (by decide) _

/-- Zero does not read back as another number. -/
theorem ne_zero_of_gridPoint
    {number : Binary64} {gridExponent : Int} {point : Nat}
    (positive : 0 < number.significand)
    (reads : number.gridPoint gridExponent = some point) :
    point ≠ 0 := by
  unfold gridPoint at reads
  extract_lets significand below twos scale unit exact lower upper inside floor toFloor
    toCeiling at reads
  have scalePositive : 0 < scale :=
    Nat.mul_pos (Nat.pow_pos (by decide)) (Nat.pow_pos (by decide))
  have belowSmall : below < 4 * significand := by
    have : below ≤ 2 := by
      unfold below
      split <;> decide
    omega
  have lowerPositive : 0 < lower := Nat.mul_pos (Nat.sub_pos_of_lt belowSmall) scalePositive
  -- The interval of what reads back starts above zero.
  have outside : inside 0 = false := by
    have notLower : ¬ lower ≤ 0 := Nat.not_le.mpr lowerPositive
    simp [inside, notLower]
  rintro rfl
  split at reads
  · cases reads
  · rename_i isInside _
    rw [Option.some.inj reads, outside] at isInside
    cases isInside
  · cases reads
  · rename_i isInside _
    split at reads
    · rw [Option.some.inj reads, outside] at isInside
      cases isInside
    · cases reads

/-- If the shortest decimal is zero, it has no power of ten. -/
theorem shortest_exponent {number : Binary64} (isZero : number.shortest.digits = 0) :
    number.shortest.exponent = 0 := by
  unfold shortest at isZero ⊢
  split
  · rfl
  · rename_i notZero
    rw [if_neg notZero] at isZero
    extract_lets bits start grids found at isZero
    change (found.getD ⟨0, 0⟩).exponent = 0
    cases isFound : found with
    | none => rfl
    | some decimal =>
        rw [isFound] at isZero
        obtain ⟨grid, -, isPoint⟩ := List.exists_of_findSome?_eq_some isFound
        obtain ⟨point, reads, rfl⟩ := Option.map_eq_some_iff.mp isPoint
        have positive := significand_pos (Bool.eq_false_iff.mpr notZero)
        exact absurd isZero (ne_zero_of_gridPoint positive reads)

/-- The text of a floating point number is a numeral, in every layout. -/
theorem isNumeral_textIn (layout : Layout) (number : Binary64) :
    IsNumeral (number.textIn layout).toList := by
  have noPower : number.shortest.digits = 0 → number.shortest.exponent = 0 := shortest_exponent
  have chars : toString number.shortest.digits =
      String.ofList (Nat.toDigits 10 number.shortest.digits) := Nat.toString_eq_ofList_toDigits
  unfold textIn
  dsimp only
  rw [chars, String.length_ofList]
  generalize number.shortest.exponent = power at noPower
  generalize number.shortest.digits = digits at noPower
  have run := isRun_toDigits digits
  have someDigits := List.length_pos_iff.mpr run.ne_nil
  have point : IsRun ['0'] := isRun_toDigits 0
  generalize isMagnitude : (if number.isZero = true then "0.0" else _) = magnitude
  suffices unsigned : IsUnsigned magnitude.toList by
    split
    · simpa using unsigned.negative
    · exact unsigned.isNumeral
  subst isMagnitude
  -- The ways to write it: zero, zeros behind the digits, a point among them, zeros in front
  -- of them, and a power of ten behind one digit or several.
  split
  · exact .of_fraction (isWhole_toDigits 0) point
  split
  · have zeros : digits = 0 → power.toNat = 0 := fun isZero => by rw [noPower isZero]; rfl
    simpa using IsUnsigned.of_fraction (isWhole_zeros zeros) point
  split
  · rename_i beyond within
    simp only [Bool.and_eq_true, decide_eq_true_eq] at beyond within
    have positive : 0 < digits := Nat.pos_of_ne_zero fun isZero => by
      have := noPower isZero
      omega
    simpa using IsUnsigned.of_fraction (isWhole_take positive (by omega))
      (isRun_drop run (by omega))
  split
  · simpa using IsUnsigned.of_fraction (isWhole_toDigits 0) (run.behind_zeros _)
  split
  · simpa using IsUnsigned.of_power (isWhole_toDigits digits) _
  · rename_i several
    rw [beq_iff_eq] at several
    have positive : 0 < digits := Nat.pos_of_ne_zero fun isZero => several (by rw [isZero]; rfl)
    have leavesSome : 1 < (Nat.toDigits 10 digits).length := by omega
    simpa using IsUnsigned.of_fraction_power (isWhole_take positive Nat.one_pos)
      (isRun_drop run leavesSome) _

end Binary64

/-- The text of a number is a numeral. -/
theorem Number.isNumeral_text (number : Number) : Numeral.IsNumeral number.text.toList := by
  cases number with
  | integer value => exact Numeral.isNumeral_toString value
  | binary value => exact value.isNumeral_textIn _

end LifecycleOperator
