import LifecycleOperator.Proofs.Metrics.Reader
import Mathlib.Algebra.BigOperators.Group.List.Basic

/-!
# Metrics without escapes

What a reader finds in samples whose values are written as they are.  A value that has to
be escaped cannot be read back from what is written without escapes, whatever stands
behind it: the sample is not read at all, or a different one is.  Nor can this be made up
for by what stands elsewhere in the text.  So all samples of a text are read just when
all of their values are plain.
-/

namespace LifecycleOperator
namespace OpenMetrics

/-! ## Lines without escapes -/

section Verbatim

variable {text : String} {label : String × String} {labels : Labels}
  {exemplar : Option (Labels × String)} {reading : Reading} {front back : List Char}

/-- All values of labels are plain. -/
structure Reading.IsPlain (reading : Reading) : Prop where
  labels : ∀ label ∈ reading.labels, Plain label.2
  exemplar : ∀ exemplar ∈ reading.exemplar, ∀ label ∈ exemplar.1, Plain label.2

theorem flatMap_escapeChar_of_plain {chars : List Char}
    (plain : ∀ char ∈ chars, char ≠ '"' ∧ char ≠ '\\' ∧ char ≠ '\n') :
    chars.flatMap escapeChar = chars := by
  induction chars with
  | nil => rfl
  | cons char rest inductionHypothesis =>
      obtain ⟨first, others⟩ := List.forall_mem_cons.mp plain
      rw [List.flatMap_cons, escapeChar_of_plain first, inductionHypothesis others]
      rfl

theorem escape_of_plain (plain : Plain text) : escape text = text.toList :=
  flatMap_escapeChar_of_plain plain

/--
What begins as its escaped form does, up to a closing quote, needs no escapes.  A
backslash puts the escaped form ahead by one more backslash, which can never be made up
for, and no other character that is escaped agrees with its escaped form.
-/
theorem plain_of_append_eq {chars : List Char} (ahead : Nat)
    (same : chars ++ '"' :: front =
      List.replicate ahead '\\' ++ (chars.flatMap escapeChar ++ '"' :: back)) :
    ahead = 0 ∧ ∀ char ∈ chars, char ≠ '"' ∧ char ≠ '\\' ∧ char ≠ '\n' := by
  induction chars generalizing ahead with
  | nil =>
      cases ahead with
      | zero => simp
      | succ ahead => simp [List.replicate_succ] at same
  | cons char rest inductionHypothesis =>
      cases ahead with
      | zero =>
          by_cases quote : char = '"'
          · subst quote
            simp [escapeChar] at same
          by_cases lineEnd : char = '\n'
          · subst lineEnd
            simp [escapeChar] at same
          by_cases escape : char = '\\'
          · subst escape
            have behind := inductionHypothesis 1 (by simpa [escapeChar] using same)
            exact absurd behind.1 (by decide)
          · have plain : char ≠ '"' ∧ char ≠ '\\' ∧ char ≠ '\n' := ⟨quote, escape, lineEnd⟩
            rw [List.flatMap_cons, escapeChar_of_plain plain] at same
            have others := inductionHypothesis 0 (by simpa using same)
            exact ⟨rfl, List.forall_mem_cons.mpr ⟨plain, others.2⟩⟩
      | succ ahead =>
          simp only [List.cons_append, List.replicate_succ, List.cons.injEq] at same
          obtain ⟨rfl, same⟩ := same
          have behind := inductionHypothesis (ahead + 2) (by
            rw [same]
            simp [escapeChar, List.replicate_succ', List.append_assoc])
          omega

/-- A label that stands there as if it were escaped has a plain value. -/
theorem labelLine_append_eq
    (same : labelLine String.toList label ++ front = labelLine escape label ++ back) :
    Plain label.2 ∧ front = back := by
  simp only [labelLine, List.append_assoc, List.append_cancel_left_eq, List.cons_append,
    List.cons.injEq, true_and, List.nil_append] at same
  have plain : Plain label.2 := (plain_of_append_eq 0 same).2
  rw [escape_of_plain plain, List.append_cancel_left_eq, List.cons.injEq] at same
  exact ⟨plain, same.2⟩

/-- Labels that stand there as if they were escaped have plain values. -/
theorem furtherLine_append_eq
    (same : furtherLine String.toList labels ++ front = furtherLine escape labels ++ back) :
    (∀ label ∈ labels, Plain label.2) ∧ front = back := by
  induction labels with
  | nil =>
      simp only [furtherLine, List.cons_append, List.cons.injEq, true_and] at same
      exact ⟨by simp, same⟩
  | cons label rest inductionHypothesis =>
      simp only [furtherLine, List.cons_append, List.append_assoc, List.cons.injEq,
        true_and] at same
      obtain ⟨first, sameRest⟩ := labelLine_append_eq same
      obtain ⟨others, ends⟩ := inductionHypothesis sameRest
      exact ⟨List.forall_mem_cons.mpr ⟨first, others⟩, ends⟩

theorem labelsLine_append_eq
    (same : labelsLine String.toList labels ++ front = labelsLine escape labels ++ back) :
    (∀ label ∈ labels, Plain label.2) ∧ front = back := by
  cases labels with
  | nil => exact ⟨by simp, same⟩
  | cons label rest =>
      simp only [labelsLine, List.cons_append, List.append_assoc, List.cons.injEq,
        true_and] at same
      obtain ⟨first, sameRest⟩ := labelLine_append_eq same
      obtain ⟨others, ends⟩ := furtherLine_append_eq sameRest
      exact ⟨List.forall_mem_cons.mpr ⟨first, others⟩, ends⟩

theorem exemplarLine_append_eq
    (same : exemplarLine String.toList exemplar ++ front =
      exemplarLine escape exemplar ++ back) :
    (∀ traced ∈ exemplar, ∀ label ∈ traced.1, Plain label.2) ∧ front = back := by
  match exemplar with
  | none => exact ⟨by simp, same⟩
  | some (labels, value) =>
      simp only [exemplarLine, List.cons_append, List.append_assoc, List.cons.injEq,
        true_and] at same
      obtain ⟨plain, ends⟩ := labelsLine_append_eq same
      simp only [List.cons.injEq, true_and, List.append_cancel_left_eq] at ends
      refine ⟨?_, ends⟩
      rintro _ ⟨⟩
      exact plain

/-- A sample that stands there as if its values were escaped has plain values. -/
theorem line_append_eq
    (same : reading.line String.toList ++ front = reading.line escape ++ back) :
    reading.IsPlain ∧ front = back := by
  simp only [Reading.line, List.append_assoc, List.append_cancel_left_eq,
    List.cons_append] at same
  obtain ⟨labels, ends⟩ := labelsLine_append_eq same
  simp only [List.cons.injEq, true_and, List.append_cancel_left_eq] at ends
  obtain ⟨exemplar, ends⟩ := exemplarLine_append_eq ends
  exact ⟨⟨labels, exemplar⟩, ends⟩

theorem furtherLine_of_plain (plain : ∀ label ∈ labels, Plain label.2) :
    furtherLine String.toList labels = furtherLine escape labels := by
  induction labels with
  | nil => rfl
  | cons label rest inductionHypothesis =>
      obtain ⟨first, others⟩ := List.forall_mem_cons.mp plain
      rw [furtherLine, furtherLine, labelLine, labelLine, escape_of_plain first,
        inductionHypothesis others]

/-- Labels whose values are plain are written as they are escaped. -/
theorem labelsLine_of_plain (plain : ∀ label ∈ labels, Plain label.2) :
    labelsLine String.toList labels = labelsLine escape labels := by
  cases labels with
  | nil => rfl
  | cons label rest =>
      obtain ⟨first, others⟩ := List.forall_mem_cons.mp plain
      rw [labelsLine, labelsLine, labelLine, labelLine, escape_of_plain first,
        furtherLine_of_plain others]

/-- A sample whose values are plain is written as it is escaped. -/
theorem line_of_isPlain (plain : reading.IsPlain) :
    reading.line String.toList = reading.line escape := by
  have exemplar : exemplarLine String.toList reading.exemplar =
      exemplarLine escape reading.exemplar := by
    cases traced : reading.exemplar with
    | none => rfl
    | some exemplar =>
        rw [exemplarLine, exemplarLine, labelsLine_of_plain (plain.exemplar exemplar traced)]
  rw [Reading.line, Reading.line, labelsLine_of_plain plain.labels, exemplar]

/-- A sample is read from the line in which nothing is escaped just when all is plain. -/
theorem readSample_line_iff {after rest : List Char} (valid : reading.IsValid) :
    readSample (reading.line String.toList ++ '\n' :: rest) = some (reading, after) ↔
      reading.IsPlain ∧ after = rest := by
  constructor
  · intro reads
    obtain ⟨plain, ends⟩ := line_append_eq (append_of_readSample reads).2
    simp only [List.cons.injEq, true_and] at ends
    exact ⟨plain, ends.symm⟩
  · rintro ⟨plain, rfl⟩
    rw [line_of_isPlain plain]
    exact readSample_append valid

end Verbatim

/-! ## Texts without escapes -/

/-- Lines show samples, in which nothing is escaped, among lines that begin with a mark. -/
inductive Show : List String → List Reading → Prop
  | none : Show [] []
  | mark {lines : List String} {readings : List Reading} (line : String)
      (marked : line.toList.head? = some '#') (oneLine : '\n' ∉ line.toList)
      (others : Show lines readings) :
      Show (line :: lines) readings
  | sample {lines : List String} {readings : List Reading} (reading : Reading)
      (valid : reading.IsValid) (line : String)
      (written : line.toList = reading.line String.toList) (others : Show lines readings) :
      Show (line :: lines) (reading :: readings)

namespace Show

variable {lines others : List String} {readings further : List Reading}

theorem append (first : Show lines readings) (second : Show others further) :
    Show (lines ++ others) (readings ++ further) := by
  induction first with
  | none => exact second
  | mark line marked oneLine _ inductionHypothesis =>
      exact .mark line marked oneLine inductionHypothesis
  | sample reading valid line written _ inductionHypothesis =>
      exact .sample reading valid line written inductionHypothesis

/-- Lines that begin with a mark show nothing. -/
theorem marks {marks : List String} (shows : Show lines readings)
    (marked : ∀ line ∈ marks, line.toList.head? = some '#' ∧ '\n' ∉ line.toList) :
    Show (marks ++ lines) readings := by
  induction marks with
  | nil => exact shows
  | cons line rest inductionHypothesis =>
      obtain ⟨⟨begins, oneLine⟩, others⟩ := List.forall_mem_cons.mp marked
      exact .mark line begins oneLine (inductionHypothesis others)

/-- Samples are shown line by line. -/
theorem map {α : Type} {line : α → String} {reading : α → Reading} (shown : List α)
    (valid : ∀ sample ∈ shown, (reading sample).IsValid)
    (written : ∀ sample, (line sample).toList = (reading sample).line String.toList) :
    Show (shown.map line) (shown.map reading) := by
  induction shown with
  | nil => exact .none
  | cons sample rest inductionHypothesis =>
      obtain ⟨first, others⟩ := List.forall_mem_cons.mp valid
      exact .sample (reading sample) first (line sample) (written sample)
        (inductionHypothesis others)

/-- A marked line is passed over. -/
theorem readLines_mark {fuel : Nat} {line : String} {rest : List Char}
    (marked : line.toList.head? = some '#') (oneLine : '\n' ∉ line.toList) :
    readLines (fuel + 1) (line.toList ++ '\n' :: rest) = readLines fuel rest := by
  obtain ⟨tail, begins⟩ := List.head?_eq_some_iff.mp marked
  rw [begins] at oneLine ⊢
  have within : ∀ char ∈ tail, (char != '\n') = true := by
    intro char member
    rw [bne_iff_ne]
    rintro rfl
    exact oneLine (List.mem_cons_of_mem _ member)
  rw [List.cons_append, readLines, List.dropWhile_append_of_pos within]
  rfl

/-- A line that is not marked is read as a sample. -/
theorem readLines_sample {fuel : Nat} {reading : Reading} {rest : List Char}
    (valid : reading.IsValid) :
    readLines (fuel + 1) (reading.line String.toList ++ '\n' :: rest) =
      (readSample (reading.line String.toList ++ '\n' :: rest)).bind fun (reading, rest) =>
        (readLines fuel rest).map (reading :: ·) := by
  obtain ⟨allowed, begins⟩ := valid.name
  cases name : reading.name.toList with
  | nil =>
      rw [name] at begins
      cases begins
  | cons char tail =>
      rw [name, List.all_cons, Bool.and_eq_true] at allowed
      have unmarked : char ≠ '#' := by
        rintro rfl
        exact absurd allowed.1 (by decide)
      simp only [Reading.line, name, List.cons_append]
      rw [readLines]
      · simp
      · simp [unmarked]

/-- The samples of lines are read just when all of their values are plain. -/
theorem readLines_iff {fuel : Nat}
    (shows : Show lines readings) (enough : lines.length ≤ fuel) :
    readLines fuel (lines.flatMap fun line => line.toList ++ ['\n']) = some readings ↔
      ∀ reading ∈ readings, reading.IsPlain := by
  induction shows generalizing fuel with
  | none => simp [readLines]
  | mark line marked oneLine _ inductionHypothesis =>
      obtain ⟨fuel, rfl⟩ := Nat.exists_eq_succ_of_ne_zero (Nat.ne_zero_of_lt enough)
      rw [List.flatMap_cons, List.append_assoc, List.singleton_append,
        readLines_mark marked oneLine]
      exact inductionHypothesis (Nat.le_of_succ_le_succ enough)
  | sample reading valid line written _ inductionHypothesis =>
      obtain ⟨fuel, rfl⟩ := Nat.exists_eq_succ_of_ne_zero (Nat.ne_zero_of_lt enough)
      rw [List.flatMap_cons, List.append_assoc, List.singleton_append, written,
        readLines_sample valid, List.forall_mem_cons,
        ← inductionHypothesis (Nat.le_of_succ_le_succ enough)]
      simp only [Option.bind_eq_some_iff, Option.map_eq_some_iff, Prod.exists, List.cons.injEq]
      constructor
      · rintro ⟨_, after, reads, _, readsRest, rfl, rfl⟩
        obtain ⟨plain, rfl⟩ := (readSample_line_iff valid).mp reads
        exact ⟨plain, readsRest⟩
      · rintro ⟨plain, readsRest⟩
        exact ⟨reading, _, (readSample_line_iff valid).mpr ⟨plain, rfl⟩, _, readsRest,
          rfl, rfl⟩

/-- The samples of a text are read just when all of their values are plain. -/
theorem read_iff (shows : Show lines readings) :
    read (String.join (lines.map fun line => line ++ "\n")) = some readings ↔
      ∀ reading ∈ readings, reading.IsPlain := by
  have chars : (String.join (lines.map fun line => line ++ "\n")).toList =
      lines.flatMap fun line => line.toList ++ ['\n'] := by
    simp [String.toList_join, List.flatMap_def, List.map_map, Function.comp_def]
  have enough : lines.length ≤
      (lines.flatMap fun line => line.toList ++ ['\n']).length := by
    simp [List.length_flatMap]
  unfold read
  rw [← String.length_toList, chars]
  exact shows.readLines_iff enough

end Show

end OpenMetrics
end LifecycleOperator
