import LifecycleOperator.Rest.Url
import Mathlib.Data.List.DropRight

/-!
# Slashes at the end of a path

Slashes at the end of a path add empty segments to it, apart from one case: a path that is
empty, or that ends in a step to the same or to the parent folder, leads to a folder already,
so that a single slash makes no difference.  What is compared is the length of what is
written: a path only ever grows by what is appended to it.
-/

namespace LifecycleOperator
namespace Url

/-! ## Steps -/

/-- A segment that is no name but a step to the same or to the parent folder. -/
def IsStep (segment : List Char) : Prop := isHere segment = true ∨ isParent segment = true

/-- A step is written in dots, which may be encoded. -/
theorem IsStep.mem_toLower {segment : List Char} (isStep : IsStep segment) :
    ∀ character ∈ segment, character.toLower ∈ ['.', '%', '2', 'e'] := by
  have written : segment.map Char.toLower ∈
      [['.'], "%2e".toList, "..".toList, ".%2e".toList, "%2e.".toList, "%2e%2e".toList] := by
    rcases isStep with here | parent
    · simp only [isHere, Bool.or_eq_true, beq_iff_eq] at here
      rcases here with same | same <;> simp [same]
    · simp only [isParent, List.any_cons, List.any_nil, Bool.or_false, Bool.or_eq_true,
        beq_iff_eq] at parent
      rcases parent with (same | same) | same | same <;> simp [same]
  have all : ∀ word ∈ [['.'], "%2e".toList, "..".toList, ".%2e".toList, "%2e.".toList,
      "%2e%2e".toList], ∀ letter ∈ word, letter ∈ ['.', '%', '2', 'e'] := by
    simp
  intro character member
  exact all _ written _ (List.mem_map_of_mem member)

theorem not_isStep_nil : ¬ IsStep [] := by
  simp [IsStep, isHere, isParent]

/-- A character outside of the letters that is none of a step. -/
theorem IsStep.notMem {segment : List Char} (isStep : IsStep segment) {character : Char}
    (same : character.toLower = character)
    (foreign : character ∉ ['.', '%', '2', 'e']) :
    character ∉ segment :=
  fun member => foreign (same ▸ isStep.mem_toLower character member)

/-! ## Segments -/

/-- What contains no slash is a segment of its own. -/
theorem segments_of_unbroken {path : List Char}
    (unbroken : ∀ character ∈ path, isSlash character = false) :
    segments path = [path] := by
  induction path with
  | nil => rfl
  | cons character rest inductionHypothesis =>
      rw [List.forall_mem_cons] at unbroken
      have others := inductionHypothesis unbroken.2
      unfold segments at others ⊢
      rw [List.foldr_cons, others, if_neg (by simp [unbroken.1])]

theorem segments_ne_nil (path : List Char) : segments path ≠ [] := by
  induction path with
  | nil => exact List.cons_ne_nil _ _
  | cons character rest inductionHypothesis =>
      unfold segments at inductionHypothesis ⊢
      rw [List.foldr_cons]
      split
      · exact List.cons_ne_nil _ _
      · split <;> exact List.cons_ne_nil _ _

/-- At a slash the segments in front of it and behind it come together. -/
theorem segments_append {slash : Char} (isSlash_slash : isSlash slash = true)
    (front back : List Char) :
    segments (front ++ slash :: back) = segments front ++ segments back := by
  induction front with
  | nil =>
      unfold segments
      rw [List.nil_append, List.foldr_cons, if_pos isSlash_slash]
      rfl
  | cons character rest inductionHypothesis =>
      have nonempty := segments_ne_nil rest
      unfold segments at inductionHypothesis nonempty ⊢
      rw [List.cons_append, List.foldr_cons, List.foldr_cons, inductionHypothesis]
      split
      · rfl
      · obtain ⟨first, others, same⟩ := List.exists_cons_of_ne_nil nonempty
        rw [same]
        rfl

/-- A path with a slash in it ends in a segment behind the last slash. -/
theorem exists_last_segment {path : List Char}
    (broken : ∃ character ∈ path, isSlash character = true) :
    ∃ front slash last, path = front ++ slash :: last ∧ isSlash slash = true ∧
      ∀ character ∈ last, isSlash character = false := by
  induction path with
  | nil => simp at broken
  | cons character rest inductionHypothesis =>
      by_cases later : ∃ character ∈ rest, isSlash character = true
      · obtain ⟨front, slash, last, rfl, isSlash_slash, unbroken⟩ := inductionHypothesis later
        exact ⟨character :: front, slash, last, rfl, isSlash_slash, unbroken⟩
      · simp only [not_exists, not_and, Bool.not_eq_true] at later
        obtain ⟨slash, member, isSlash_slash⟩ := broken
        rcases List.mem_cons.mp member with rfl | inRest
        · exact ⟨[], slash, rest, rfl, isSlash_slash, later⟩
        · rw [later slash inRest] at isSlash_slash
          cases isSlash_slash

/-- There is one such segment only. -/
theorem last_segment_unique
    {front front' last last' : List Char} {slash slash' : Char}
    (same : front ++ slash :: last = front' ++ slash' :: last')
    (isSlash_slash : isSlash slash = true) (isSlash_slash' : isSlash slash' = true)
    (unbroken : ∀ character ∈ last, isSlash character = false)
    (unbroken' : ∀ character ∈ last', isSlash character = false) :
    last = last' := by
  have behind : ∀ {front last : List Char} {slash : Char}, isSlash slash = true →
      (∀ character ∈ last, isSlash character = false) →
      (front ++ slash :: last).rtakeWhile (!isSlash ·) = last := by
    intro front last slash isSlash_slash unbroken
    rw [List.rtakeWhile, List.reverse_append, List.reverse_cons, List.append_assoc,
      List.takeWhile_append_of_pos (by simpa using unbroken), List.singleton_append,
      List.takeWhile_cons_of_neg (by simp [isSlash_slash]), List.append_nil,
      List.reverse_reverse]
  rw [← behind isSlash_slash unbroken, same, behind isSlash_slash' unbroken']

/-! ## Walking a path -/

/-- The segments that are left after one that is not the last. -/
def kept (taken : List (List Char)) (segment : List Char) : List (List Char) :=
  if isHere segment then taken
  else if isParent segment then taken.drop 1
  else encode pathReserved segment :: taken

theorem walk_cons (taken : List (List Char)) (segment : List Char)
    {rest : List (List Char)} (more : rest ≠ []) :
    walk taken (segment :: rest) = walk (kept taken segment) rest := by
  obtain ⟨next, others, rfl⟩ := List.exists_cons_of_ne_nil more
  rw [walk, kept]
  · split_ifs <;> rfl
  · simp

/-- A step at the end leads to a folder. -/
theorem walk_last_of_isStep {taken : List (List Char)} {last : List Char}
    (isStep : IsStep last) :
    walk taken [last] = (kept taken last).reverse ++ [[]] := by
  rw [walk, kept, ← List.reverse_cons]
  by_cases here : isHere last
  · rw [if_pos here, if_pos here]
  · have parent : isParent last = true := isStep.resolve_left here
    rw [if_neg here, if_neg here, if_pos parent, if_pos parent]

theorem walk_last_of_not_isStep {taken : List (List Char)} {last : List Char}
    (notStep : ¬ IsStep last) :
    walk taken [last] = (kept taken last).reverse := by
  obtain ⟨notHere, notParent⟩ := not_or.mp notStep
  rw [walk, kept, if_neg notHere, if_neg notHere, if_neg notParent, if_neg notParent]

/-- The folders in front of some segments can be walked first. -/
theorem exists_taken (taken folders : List (List Char)) :
    ∃ left, ∀ segments : List (List Char), segments ≠ [] →
      walk taken (folders ++ segments) = walk left segments := by
  induction folders generalizing taken with
  | nil => exact ⟨taken, fun segments _ => rfl⟩
  | cons folder others inductionHypothesis =>
      obtain ⟨left, walks⟩ := inductionHypothesis (kept taken folder)
      refine ⟨left, fun segments nonempty => ?_⟩
      rw [List.cons_append, walk_cons taken folder (by simp [nonempty])]
      exact walks segments nonempty

/-- Empty segments are written as they are. -/
theorem walk_replicate (taken : List (List Char)) (count : Nat) :
    walk taken (List.replicate (count + 1) []) =
      taken.reverse ++ List.replicate (count + 1) [] := by
  induction count generalizing taken with
  | zero =>
      rw [List.replicate_one, walk_last_of_not_isStep not_isStep_nil]
      exact List.reverse_cons
  | succ count inductionHypothesis =>
      rw [List.replicate_succ, walk_cons taken [] (by simp), inductionHypothesis]
      change ([] :: taken).reverse ++ _ = _
      rw [List.reverse_cons, List.append_assoc]
      rfl

/-! ## The length of a path -/

/-- How long the path of some segments is. -/
def width (segments : List (List Char)) : Nat :=
  (segments.flatMap ('/' :: ·)).length

@[simp] theorem width_nil : width [] = 0 := rfl

@[simp] theorem width_cons (segment : List Char) (segments : List (List Char)) :
    width (segment :: segments) = segment.length + 1 + width segments := by
  rw [width, List.flatMap_cons, List.length_append, List.length_cons]
  rfl

@[simp] theorem width_append (front back : List (List Char)) :
    width (front ++ back) = width front + width back := by
  simp [width]

@[simp] theorem width_reverse (segments : List (List Char)) :
    width segments.reverse = width segments := by
  induction segments with
  | nil => rfl
  | cons segment rest inductionHypothesis =>
      rw [List.reverse_cons, width_append, inductionHypothesis, width_cons, width_cons,
        width_nil]
      omega

@[simp] theorem width_replicate (count : Nat) :
    width (List.replicate count []) = count := by
  induction count with
  | zero => rfl
  | succ count inductionHypothesis =>
      rw [List.replicate_succ, width_cons, inductionHypothesis, List.length_nil]
      omega

theorem width_drop_le (segments : List (List Char)) :
    width (segments.drop 1) ≤ width segments := by
  cases segments with
  | nil => rfl
  | cons segment rest =>
      rw [List.drop_one, List.tail_cons, width_cons]
      omega

theorem length_encode_append (reserved front back : List Char) :
    (encode reserved front).length ≤ (encode reserved (front ++ back)).length := by
  rw [encode, encode, List.flatMap_append, List.length_append]
  exact Nat.le_add_right _ _

/-! ## What slashes at the end come to -/

/-- A path to which blanks and so many slashes can be appended without making a difference. -/
structure ClosesIdly (path blanks : List Char) (slashes : Nat) : Prop where
  unspaced : blanks = []
  single : slashes = 1
  /-- The path is empty, or ends in a step. -/
  folder : path = [] ∨ ∃ front slash step,
    path = front ++ slash :: step ∧ isSlash slash = true ∧ IsStep step

/-- What is behind the last slash is walked from where the folders lead to. -/
theorem exists_normalPath_eq {path : List Char}
    (starts : ∃ slash rest, path = slash :: rest ∧ isSlash slash = true) :
    ∃ front slash last taken, path = front ++ slash :: last ∧ isSlash slash = true ∧
      (∀ character ∈ last, isSlash character = false) ∧
      ∀ back, normalPath (path ++ back) =
        String.ofList ((walk taken (segments (last ++ back))).flatMap ('/' :: ·)) := by
  obtain ⟨first, rest, rfl, isSlash_first⟩ := starts
  obtain ⟨front, slash, last, split, isSlash_slash, unbroken⟩ :=
    exists_last_segment ⟨first, List.mem_cons_self, isSlash_first⟩
  cases front with
  | nil =>
      obtain ⟨rfl, rfl⟩ := List.cons.inj split
      refine ⟨[], first, rest, [], rfl, isSlash_slash, unbroken, fun back => ?_⟩
      rw [List.cons_append, normalPath]
      simp only [isSlash_first, if_true]
  | cons other folders =>
      rw [List.cons_append, List.cons.injEq] at split
      obtain ⟨rfl, rfl⟩ := split
      obtain ⟨taken, walks⟩ := exists_taken [] (segments folders)
      refine ⟨first :: folders, slash, last, taken, rfl, isSlash_slash, unbroken,
        fun back => ?_⟩
      rw [List.cons_append, normalPath]
      simp only [isSlash_first, if_true, List.append_assoc, List.cons_append,
        segments_append isSlash_slash, walks _ (segments_ne_nil _)]

theorem segments_replicate (count : Nat) :
    segments (List.replicate count '/') = List.replicate (count + 1) [] := by
  induction count with
  | zero => rfl
  | succ count inductionHypothesis =>
      rw [List.replicate_succ, ← List.nil_append ('/' :: _), segments_append rfl,
        inductionHypothesis]
      rfl

theorem toLower_of_blank {character : Char} (blank : character.toNat ≤ 0x20) :
    character.toLower = character := by
  unfold Char.toLower
  split
  · rename_i capital
    have above : 0x41 ≤ character.toNat := capital.1
    omega
  · rfl

theorem isSlash_of_blank {character : Char} (blank : character.toNat ≤ 0x20) :
    isSlash character = false := by
  by_contra slash
  simp only [isSlash, Bool.or_eq_true, beq_iff_eq, Bool.not_eq_false] at slash
  rcases slash with rfl | rfl <;> exact absurd blank (by decide)

/-- Slashes behind a last segment are empty segments behind what is kept of it. -/
theorem walk_segments_append
    (taken : List (List Char)) {last blanks : List Char} (more : Nat)
    (unbroken : ∀ character ∈ last, isSlash character = false)
    (allBlank : ∀ character ∈ blanks, character.toNat ≤ 0x20) :
    walk taken (segments (last ++ (blanks ++ List.replicate (more + 1) '/'))) =
      (kept taken (last ++ blanks)).reverse ++ List.replicate (more + 1) [] := by
  have unbrokenBoth : ∀ character ∈ last ++ blanks, isSlash character = false :=
    List.forall_mem_append.mpr
      ⟨unbroken, fun character member => isSlash_of_blank (allBlank character member)⟩
  rw [List.replicate_succ, ← List.append_assoc, segments_append rfl,
    segments_of_unbroken unbrokenBoth, segments_replicate, List.singleton_append,
    walk_cons taken _ (by simp), walk_replicate]

/-- There are no blanks in a step. -/
theorem IsStep.visible {step : List Char} (isStep : IsStep step) :
    ∀ character ∈ step, 0x20 < character.toNat := by
  intro character member
  by_contra notVisible
  have blank : character.toNat ≤ 0x20 := Nat.not_lt.mp notVisible
  refine isStep.notMem (toLower_of_blank blank) ?_ member
  simp only [List.mem_cons, List.not_mem_nil, or_false]
  rintro (rfl | rfl | rfl | rfl) <;> exact absurd blank (by decide)

theorem IsStep.eq_nil_of_blanks {last blanks : List Char} (isStep : IsStep (last ++ blanks))
    (allBlank : ∀ character ∈ blanks, character.toNat ≤ 0x20) : blanks = [] := by
  cases blanks with
  | nil => rfl
  | cons blank rest =>
      have isBlank := allBlank blank List.mem_cons_self
      have visible := isStep.visible blank (List.mem_append_right last List.mem_cons_self)
      omega

/-- There are no slashes in a step. -/
theorem IsStep.unbroken {step : List Char} (isStep : IsStep step) :
    ∀ character ∈ step, isSlash character = false := by
  intro character member
  by_contra slash
  simp only [isSlash, Bool.or_eq_true, beq_iff_eq, Bool.not_eq_false] at slash
  rcases slash with rfl | rfl <;> exact isStep.notMem (by decide) (by decide) member

/-- A path that ends in a segment closes idly if the segment is a step. -/
theorem closesIdly_iff
    {front last blanks : List Char} {slash : Char} {slashes : Nat}
    (isSlash_slash : isSlash slash = true)
    (unbroken : ∀ character ∈ last, isSlash character = false) :
    ClosesIdly (front ++ slash :: last) blanks slashes ↔
      blanks = [] ∧ slashes = 1 ∧ IsStep last := by
  constructor
  · rintro ⟨unspaced, single, empty | ⟨front', slash', step, same, isSlash_slash', isStep⟩⟩
    · simp at empty
    · obtain rfl := last_segment_unique same isSlash_slash isSlash_slash' unbroken
        isStep.unbroken
      exact ⟨unspaced, single, isStep⟩
  · rintro ⟨unspaced, single, isStep⟩
    exact ⟨unspaced, single, .inr ⟨front, slash, last, rfl, isSlash_slash, isStep⟩⟩

theorem width_kept_le {taken : List (List Char)} {segment : List Char}
    (isStep : IsStep segment) : width (kept taken segment) ≤ width taken := by
  rw [kept]
  split_ifs with here parent
  · exact Nat.le_refl _
  · exact width_drop_le taken
  · exact absurd isStep (not_or.mpr ⟨here, parent⟩)

theorem width_kept {taken : List (List Char)} {segment : List Char}
    (notStep : ¬ IsStep segment) :
    width (kept taken segment) = (encode pathReserved segment).length + 1 + width taken := by
  obtain ⟨notHere, notParent⟩ := not_or.mp notStep
  rw [kept, if_neg notHere, if_neg notParent, width_cons]

/-- Where blanks and slashes make no difference to the length, the last segment is a step. -/
theorem isStep_of_width_eq
    {taken : List (List Char)} {last blanks : List Char} {more : Nat}
    (allBlank : ∀ character ∈ blanks, character.toNat ≤ 0x20)
    (same : width ((kept taken (last ++ blanks)).reverse ++ List.replicate (more + 1) []) =
      width (walk taken [last])) :
    blanks = [] ∧ more + 1 = 1 ∧ IsStep last := by
  rw [width_append, width_reverse, width_replicate] at same
  by_cases isStep : IsStep (last ++ blanks)
  · obtain rfl := isStep.eq_nil_of_blanks allBlank
    rw [List.append_nil] at isStep same
    rw [walk_last_of_isStep isStep, width_append, width_reverse, width_cons, width_nil,
      List.length_nil] at same
    exact ⟨rfl, by omega, isStep⟩
  · have grows := length_encode_append pathReserved last blanks
    rw [width_kept isStep] at same
    by_cases lastStep : IsStep last
    · have shrinks : width (kept taken last) ≤ width taken := width_kept_le lastStep
      rw [walk_last_of_isStep lastStep, width_append, width_reverse, width_cons, width_nil,
        List.length_nil] at same
      omega
    · rw [walk_last_of_not_isStep lastStep, width_reverse, width_kept lastStep] at same
      omega

/-- A path behind an authority, if there is one. -/
def IsRooted (path : List Char) : Prop :=
  path = [] ∨ ∃ slash rest, path = slash :: rest ∧ isSlash slash = true

/-- What is written for a path is as long as what is left of its segments. -/
theorem width_eq_of_written_eq {left right : List (List Char)}
    (same : String.ofList (left.flatMap ('/' :: ·)) = String.ofList (right.flatMap ('/' :: ·))) :
    width left = width right :=
  congrArg List.length (String.ofList_injective same)

/-- Blanks and slashes behind a path make no difference just when it closes idly. -/
theorem normalPath_append_eq_iff
    {path blanks : List Char} {more : Nat}
    (rooted : IsRooted path)
    (allBlank : ∀ character ∈ blanks, character.toNat ≤ 0x20)
    (attached : path = [] → blanks = []) :
    normalPath (path ++ (blanks ++ List.replicate (more + 1) '/')) = normalPath path ↔
      ClosesIdly path blanks (more + 1) := by
  rcases rooted with rfl | starts
  · obtain rfl := attached rfl
    have written : normalPath ([] ++ ([] ++ List.replicate (more + 1) '/')) =
        String.ofList ((walk [] (segments (List.replicate more '/'))).flatMap ('/' :: ·)) := rfl
    rw [written, segments_replicate, walk_replicate]
    constructor
    · intro same
      have widths : _ = width [[]] := width_eq_of_written_eq same
      rw [width_append, width_replicate] at widths
      exact ⟨rfl, by simpa using widths, .inl rfl⟩
    · rintro ⟨-, single, -⟩
      obtain rfl : more = 0 := by omega
      rfl
  · obtain ⟨front, slash, last, taken, rfl, isSlash_slash, unbroken, normal⟩ :=
      exists_normalPath_eq starts
    have plain := normal []
    rw [List.append_nil, List.append_nil, segments_of_unbroken unbroken] at plain
    rw [normal, plain, walk_segments_append taken more unbroken allBlank,
      closesIdly_iff isSlash_slash unbroken]
    constructor
    · intro same
      exact isStep_of_width_eq allBlank (width_eq_of_written_eq same)
    · rintro ⟨rfl, single, isStep⟩
      obtain rfl : more = 0 := by omega
      rw [List.append_nil, walk_last_of_isStep isStep]
      rfl

/-- A path to which all that was appended leaves just a slash closes idly. -/
theorem closesIdly_of_normalPath_eq_root
    {path blanks : List Char} {more : Nat}
    (rooted : IsRooted path)
    (allBlank : ∀ character ∈ blanks, character.toNat ≤ 0x20)
    (attached : path = [] → blanks = [])
    (root : normalPath (path ++ (blanks ++ List.replicate (more + 1) '/')) = "/") :
    ClosesIdly path blanks (more + 1) := by
  rcases rooted with rfl | starts
  · exact (normalPath_append_eq_iff (.inl rfl) allBlank attached).mp root
  · obtain ⟨front, slash, last, taken, rfl, isSlash_slash, unbroken, normal⟩ :=
      exists_normalPath_eq starts
    rw [normal, walk_segments_append taken more unbroken allBlank] at root
    have widths : _ = width [[]] := width_eq_of_written_eq root
    rw [width_append, width_reverse, width_replicate, width_cons, width_nil,
      List.length_nil] at widths
    rw [closesIdly_iff isSlash_slash unbroken]
    by_cases isStep : IsStep (last ++ blanks)
    · obtain rfl := isStep.eq_nil_of_blanks allBlank
      rw [List.append_nil] at isStep
      exact ⟨rfl, by omega, isStep⟩
    · rw [width_kept isStep] at widths
      omega

end Url
end LifecycleOperator
