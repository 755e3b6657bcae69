import LifecycleOperator.Proofs.Rest.Address

/-!
# Addresses without the slashes at their end

A client drops the slashes at the end of the address that it is given.  What is left is an
address of the same service, but what is asked of the service may be something else: it is the
same only if the slashes belong to a fragment, or if there is one that leads to a folder to
which the rest of the path leads anyway.
-/

namespace LifecycleOperator
namespace Url

/-- What is requested of a service: neither the user nor the fragment is part of it. -/
def requested (url : Url) : Url := { url with user := none, fragment := none }

/-- Two addresses lead the same user to the same service. -/
structure SameService (left right : Url) : Prop where
  scheme : left.scheme = right.scheme
  user : left.user = right.user
  host : left.host = right.host
  port : left.port = right.port

/-! ## Appending to parts -/

namespace Behind

variable (behind : Behind) (tail : List Char)

/-- What is appended belongs to the last part. -/
def extend : Behind :=
  match behind.fragment, behind.query with
  | some fragment, _ => { behind with fragment := some (fragment ++ tail) }
  | none, some query => { behind with query := some (query ++ tail) }
  | none, none => { behind with path := behind.path ++ tail }

theorem written_extend : (behind.extend tail).written = behind.written ++ tail := by
  obtain ⟨path, query, fragment⟩ := behind
  cases fragment <;> cases query <;> simp [extend, written, marked]

variable {behind tail}

theorem IsParted.extend
    (isParted : behind.IsParted)
    (plain : ∀ character ∈ tail, character ≠ '?' ∧ character ≠ '#') :
    (behind.extend tail).IsParted := by
  obtain ⟨path, query, fragment⟩ := behind
  cases fragment with
  | some fragment => exact ⟨isParted.path, isParted.query⟩
  | none =>
      cases query with
      | none => exact ⟨List.forall_mem_append.mpr ⟨isParted.path, plain⟩, isParted.query⟩
      | some query =>
          refine ⟨isParted.path, ?_⟩
          intro extended same
          obtain rfl : query ++ tail = extended := Option.some.inj same
          refine List.forall_mem_append.mpr ⟨isParted.query query rfl, ?_⟩
          exact fun character member => (plain character member).2

end Behind

/-! ## Reading -/

/-- An address that can be used has a scheme and is read behind it. -/
theorem read_eq_ok_iff {address : String} {url : Url} :
    read address = .ok url ↔
      ∃ scheme rest, splitScheme? (significant address) = some (scheme, rest) ∧
        isUsable scheme = true ∧ readSpecial? scheme rest = some url := by
  have special : ∀ {scheme : String}, isUsable scheme = true → isSpecial scheme = true := by
    intro scheme usable
    simp only [isUsable, Bool.or_eq_true, beq_iff_eq] at usable
    rcases usable with rfl | rfl <;> rfl
  unfold read
  constructor
  · intro reads
    cases splits : splitScheme? (significant address) with
    | none =>
        rw [splits] at reads
        cases reads
    | some parts =>
        obtain ⟨scheme, rest⟩ := parts
        simp only [splits] at reads
        split at reads
        · cases found : readSpecial? scheme rest with
          | none =>
              rw [found] at reads
              cases reads
          | some other =>
              simp only [found] at reads
              split at reads
              next usable =>
                obtain rfl := Except.ok.inj reads
                exact ⟨scheme, rest, rfl, usable, found⟩
              next => cases reads
        · cases reads
  · rintro ⟨scheme, rest, splits, usable, reads⟩
    simp only [splits, special usable, reads, usable, if_true]

/-- How an address with slashes at its end is read, and how without them. -/
structure Trimming (address trimmed : String) where
  scheme : String
  authority : Authority
  /-- What is written up to the end of the authority. -/
  front : List Char
  behind : Behind
  /-- What is lost. -/
  tail : Tail
  isParted : behind.IsParted
  rooted : IsRooted behind.path
  attached : behind.written = [] → tail.blanks = []
  significant_eq : significant address = front ++ (behind.written ++ tail.written)
  reads : read trimmed = .ok (authority.address scheme behind)

namespace Trimming

variable {address trimmed : String} (trimming : Trimming address trimmed)

/-- What is read of the address. -/
def long : Url :=
  trimming.authority.address trimming.scheme (trimming.behind.extend trimming.tail.written)

/-- What is read of the address without the slashes. -/
def short : Url := trimming.authority.address trimming.scheme trimming.behind

end Trimming

/-- A path in front of which an authority ends begins with a slash, or is empty. -/
theorem isRooted_path {rest : List Char} {behind : Behind}
    (isParted : behind.IsParted) (same : behindText rest = behind.written) :
    IsRooted behind.path := by
  have stops := List.head?_dropWhile_not (!endsAuthority ·) (rest.dropWhile isSlash)
  cases starts : behind.path with
  | nil => exact .inl rfl
  | cons first others =>
      right
      refine ⟨first, others, rfl, ?_⟩
      have first_mem : first ∈ behind.path := by simp [starts]
      obtain ⟨noQuestion, noNumber⟩ := isParted.path first first_mem
      rw [behindText] at same
      rw [same, Behind.written, starts] at stops
      simpa [endsAuthority, noQuestion, noNumber] using stops

/-- An address that is read has an authority. -/
theorem exists_authority
    {scheme : String} {rest : List Char} {url : Url}
    (reads : readSpecial? scheme rest = some url) :
    ∃ authority, readAuthority? scheme (authorityText rest) = some authority := by
  obtain ⟨behind, isParted, same⟩ := Behind.exists_parts (behindText rest)
  rw [readSpecial?_eq isParted same] at reads
  obtain ⟨authority, readsAuthority, -⟩ := Option.map_eq_some_iff.mp reads
  exact ⟨authority, readsAuthority⟩

/-- What is left of an address that can be used can be used as well. -/
theorem exists_trimming
    {text : List Char} {more : Nat} {url : Url}
    (reads : read (String.ofList (text ++ List.replicate (more + 1) '/')) = .ok url) :
    ∃ trimming : Trimming (String.ofList (text ++ List.replicate (more + 1) '/'))
      (String.ofList text), url = trimming.long := by
  obtain ⟨scheme, rest, splits, usable, special⟩ := read_eq_ok_iff.mp reads
  obtain ⟨tail, rfl, significant_eq⟩ := exists_significant_append text more
  rw [significant_eq] at splits
  have noColon : ':' ∉ tail.written := tail.notMem_written (by decide) (by decide)
  obtain ⟨front, left, written, rfl, splitsShort⟩ := splitScheme?_of_append noColon splits
  obtain ⟨behind, isParted, parts⟩ := Behind.exists_parts (behindText left)
  have plain : ∀ character ∈ tail.written, character ≠ '?' ∧ character ≠ '#' := by
    intro character member
    constructor
    · rintro rfl
      exact tail.notMem_written (by decide) (by decide) member
    · rintro rfl
      exact tail.notMem_written (by decide) (by decide) member
  obtain ⟨authority, readsAuthority⟩ := exists_authority special
  obtain ⟨authoritySame, behindSame, attached⟩ := Tail.behindText_append readsAuthority
  rw [authoritySame] at readsAuthority
  have readsShort : readSpecial? scheme left = some (authority.address scheme behind) := by
    rw [readSpecial?_eq isParted parts, readsAuthority]
    rfl
  have readsLong : readSpecial? scheme (left ++ tail.written) =
      some (authority.address scheme (behind.extend tail.written)) := by
    have partsLong : behindText (left ++ tail.written) =
        (behind.extend tail.written).written := by
      rw [behindSame, parts, behind.written_extend]
    rw [readSpecial?_eq (isParted.extend plain) partsLong, authoritySame, readsAuthority]
    rfl
  have whole : left = left.takeWhile isSlash ++ authorityText left ++ behind.written := by
    rw [← parts, List.append_assoc, authorityText, behindText,
      List.takeWhile_append_dropWhile, List.takeWhile_append_dropWhile]
  refine ⟨⟨scheme, authority, front ++ (left.takeWhile isSlash ++ authorityText left), behind,
    tail, isParted, isRooted_path isParted parts, ?_, ?_, ?_⟩, ?_⟩
  · rwa [← parts]
  · rw [significant_eq, written, ← List.append_assoc _ behind.written,
      List.append_assoc front _ behind.written, ← whole]
  · exact read_eq_ok_iff.mpr ⟨scheme, left, splitsShort, usable, readsShort⟩
  · exact Option.some.inj (special.symm.trans readsLong)

/-! ## What the slashes come to -/

/-- The slashes at the end of an address make no difference to what is requested. -/
inductive EndsIdly (address : String) (url : Url) : Prop
  /-- There are none. -/
  | absent (unslashed : address.toList.getLast? ≠ some '/')
  /-- They belong to the fragment, which is not sent. -/
  | fragment (placed : url.fragment.isSome)
  /-- The path is a slash, which is there anyway. -/
  | root (unasked : url.query = none) (root : url.path = "/")
  /-- There is one, behind a step to the same or to the parent folder. -/
  | step (unasked : url.query = none) (front : List Char) (slash : Char) (step : List Char)
      (separates : isSlash slash = true) (isStep : IsStep step)
      (written : significant address = front ++ slash :: step ++ ['/'])

/-- What is written of a query grows with what is appended to it. -/
theorem encode_append_written_ne (reserved query : List Char) (tail : Tail)
    (plain : '/' ∉ reserved) :
    encode reserved (query ++ tail.written) ≠ encode reserved query := by
  have slash : '/' ∈ encode reserved tail.written := by
    refine List.mem_flatMap.mpr ⟨'/', ?_, ?_⟩
    · exact List.mem_append_right _ (List.mem_replicate.mpr ⟨Nat.succ_ne_zero _, rfl⟩)
    · have unreserved : (isControl '/' || reserved.contains '/') = false := by
        simpa [isControl] using plain
      rw [encodeChar, unreserved]
      exact List.mem_singleton_self _
  intro same
  rw [encode, encode, List.flatMap_append] at same
  have empty : encode reserved tail.written = [] :=
    List.append_cancel_left (same.trans (List.append_nil _).symm)
  rw [empty] at slash
  cases slash

/-- The slashes make no difference if they belong to the fragment, or close a path idly. -/
theorem requested_extend_iff
    {authority : Authority} {scheme : String} {behind : Behind} {tail : Tail}
    (rooted : IsRooted behind.path) (attached : behind.written = [] → tail.blanks = []) :
    (authority.address scheme (behind.extend tail.written)).requested =
        (authority.address scheme behind).requested ↔
      behind.fragment.isSome ∨ (behind.query = none ∧
        ClosesIdly behind.path tail.blanks (tail.more + 1)) := by
  obtain ⟨path, query, fragment⟩ := behind
  cases fragment with
  | some fragment => exact iff_of_true rfl (.inl rfl)
  | none =>
      cases query with
      | some query =>
          refine iff_of_false ?_ (by simp)
          intro same
          have queries := congrArg Url.query same
          have written : encode queryReserved (query ++ tail.written) =
              encode queryReserved query :=
            String.ofList_injective (Option.some.inj queries)
          exact encode_append_written_ne _ _ _ (by decide) written
      | none =>
          have attachedPath : path = [] → tail.blanks = [] := by
            rintro rfl
            exact attached rfl
          have closes : normalPath (path ++ tail.written) = normalPath path ↔
              ClosesIdly path tail.blanks (tail.more + 1) :=
            normalPath_append_eq_iff rooted tail.allBlank attachedPath
          rw [← closes]
          constructor
          · intro same
            exact .inr ⟨rfl, congrArg Url.path same⟩
          · rintro (placed | ⟨-, same⟩)
            · cases placed
            · exact congrArg
                (fun path : String => (⟨scheme, none, authority.host, authority.port, path,
                  none, none⟩ : Url)) same

/-- Neither blanks nor slashes are part of a step. -/
theorem IsStep.eq_nil_of_suffix {step front back extra : List Char} {tail : Tail}
    (isStep : IsStep step) (part : extra ⊆ tail.written)
    (same : front ++ extra = back ++ step) : extra = [] := by
  rcases List.eq_nil_or_concat extra with none | ⟨others, last, split⟩
  · exact none
  rw [List.concat_eq_append] at split
  rcases List.eq_nil_or_concat step with empty | ⟨letters, letter, written⟩
  · exact absurd (empty ▸ isStep) not_isStep_nil
  rw [List.concat_eq_append] at written
  rw [split, written, ← List.append_assoc, ← List.append_assoc] at same
  obtain rfl : last = letter := (List.append_singleton_inj.mp same).2
  have inStep : last ∈ step := by simp [written]
  rcases tail.mem_written (part (by simp [split] : last ∈ extra)) with blank | rfl
  · have visible := isStep.visible last inStep
    omega
  · cases isStep.unbroken _ inStep

/-- A step with a slash behind it at the end of an address belongs to its path, if it has one. -/
theorem closesIdly_of_written
    {front path back step : List Char} {slash : Char} {tail : Tail}
    (rooted : IsRooted path) (separates : isSlash slash = true) (isStep : IsStep step)
    (written : front ++ (path ++ tail.written) = back ++ slash :: step ++ ['/']) :
    ClosesIdly path tail.blanks (tail.more + 1) := by
  have tailSplit : tail.written = (tail.blanks ++ List.replicate tail.more '/') ++ ['/'] := by
    rw [Tail.written, List.replicate_succ', List.append_assoc]
  have cut : front ++ path ++ (tail.blanks ++ List.replicate tail.more '/') =
      back ++ slash :: step := by
    rw [tailSplit, ← List.append_assoc, ← List.append_assoc] at written
    exact (List.append_singleton_inj.mp written).1
  have part : tail.blanks ++ List.replicate tail.more '/' ⊆ tail.written := by
    rw [tailSplit]
    exact List.subset_append_left _ _
  have ends : (front ++ path) ++ (tail.blanks ++ List.replicate tail.more '/') =
      (back ++ [slash]) ++ step := by
    rw [cut, List.append_assoc, List.singleton_append]
  have nothing := isStep.eq_nil_of_suffix part ends
  rw [nothing, List.append_nil] at cut
  obtain ⟨unspaced, noMore⟩ := List.append_eq_nil_iff.mp nothing
  refine ⟨unspaced, by simpa using noMore, ?_⟩
  rcases rooted with empty | ⟨first, rest, rfl, isSlash_first⟩
  · exact .inl empty
  · obtain ⟨front', slash', last, split, separates', unbroken⟩ :=
      exists_last_segment ⟨first, List.mem_cons_self, isSlash_first⟩
    rw [split, ← List.append_assoc] at cut
    obtain rfl := last_segment_unique cut separates' separates unbroken isStep.unbroken
    exact .inr ⟨front', slash', last, split, separates', isStep⟩

namespace Trimming

variable {address trimmed : String} (trimming : Trimming address trimmed)

theorem sameService : SameService trimming.long trimming.short := ⟨rfl, rfl, rfl, rfl⟩

/-- Slashes at the end of an address are idle if nothing else is requested without them. -/
theorem endsIdly_iff (endsInSlash : address.toList.getLast? = some '/') :
    EndsIdly address trimming.long ↔ trimming.long.requested = trimming.short.requested := by
  rw [long, short, requested_extend_iff trimming.rooted trimming.attached]
  obtain ⟨scheme, authority, front, ⟨path, query, fragment⟩, tail, isParted, rooted, attached,
    written, reads⟩ := trimming
  dsimp only at written attached rooted ⊢
  cases fragment with
  | some fragment => exact iff_of_true (.fragment rfl) (.inl rfl)
  | none =>
      cases query with
      | some query =>
          refine iff_of_false ?_ (by simp)
          intro idle
          cases idle with
          | absent unslashed => exact unslashed endsInSlash
          | fragment placed => cases placed
          | root unasked | step unasked => cases unasked
      | none =>
          rw [Behind.written, Behind.marked, Behind.marked] at written attached
          simp only [Option.map_none, Option.getD_none, List.append_nil] at written attached
          constructor
          · intro idle
            refine .inr ⟨rfl, ?_⟩
            cases idle with
            | absent unslashed => exact absurd endsInSlash unslashed
            | fragment placed => cases placed
            | root _ root =>
                exact closesIdly_of_normalPath_eq_root rooted tail.allBlank attached root
            | step _ back slash step separates isStep ends =>
                exact closesIdly_of_written rooted separates isStep (written.symm.trans ends)
          · rintro (placed | ⟨-, unspaced, single, folder⟩)
            · cases placed
            have single : tail.written = ['/'] := by
              have none : tail.more = 0 := by omega
              rw [Tail.written, unspaced, none]
              rfl
            rw [single] at written ⊢
            rcases folder with rfl | ⟨folders, slash, step, rfl, separates, isStep⟩
            · exact .root rfl rfl
            · refine .step rfl (front ++ folders) slash step separates isStep ?_
              rw [written, List.append_assoc, List.append_assoc, List.append_assoc]

end Trimming
end Url
end LifecycleOperator
