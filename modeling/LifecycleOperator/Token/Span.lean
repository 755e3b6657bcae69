/-!
# Spans of time

A span of time is measured in whole seconds, as many as a word of sixty-four bits can
count, and in the nanoseconds that go beyond them.  Two spans that are put one behind the
other may be too long for that.
-/

namespace LifecycleOperator

/-- One second, in nanoseconds. -/
def second : Nat := 1000000000

/-- A span of time. -/
structure Span where
  seconds : UInt64
  /-- What goes beyond the whole seconds. -/
  nanoseconds : Nat
  nanoseconds_lt : nanoseconds < second
  deriving DecidableEq, Repr

namespace Span

/-- The whole length of a span, in nanoseconds. -/
def total (span : Span) : Nat := span.seconds.toNat * second + span.nanoseconds

/-- The lengths, in nanoseconds, from which on there is no span. -/
def limit : Nat := UInt64.size * second

def ofSeconds (seconds : UInt64) : Span := ⟨seconds, 0, by decide⟩

/-- The longest span of all. -/
def longest : Span := ⟨.ofNat (UInt64.size - 1), second - 1, by decide⟩

/-- The span of a length in nanoseconds, if there is one. -/
def ofTotal? (nanoseconds : Nat) : Option Span :=
  if nanoseconds < limit then
    some ⟨.ofNat (nanoseconds / second), nanoseconds % second, Nat.mod_lt _ (by decide)⟩
  else none

/--
The span from one moment to another one: an empty one if the other moment is earlier, and
the longest one if the moments are even farther apart.
-/
def between (earlier later : Nat) : Span := (ofTotal? (later - earlier)).getD longest

/-- Two spans, one behind the other, unless there is no span as long as both. -/
def add? (first other : Span) : Option Span := ofTotal? (first.total + other.total)

/-- Spans are compared by their lengths. -/
instance : LE Span := ⟨fun first other => first.total ≤ other.total⟩

/-- Lengths can be compared. -/
instance (first other : Span) : Decidable (first ≤ other) :=
  inferInstanceAs (Decidable (first.total ≤ other.total))

theorem le_iff {first other : Span} : first ≤ other ↔ first.total ≤ other.total := .rfl

@[simp] theorem total_ofSeconds (seconds : UInt64) :
    (ofSeconds seconds).total = seconds.toNat * second := Nat.add_zero _

@[simp] theorem total_longest : longest.total = limit - 1 := rfl

theorem total_lt_limit (span : Span) : span.total < limit := by
  have fewSeconds := span.seconds.toNat_lt_size
  have fewNanoseconds := span.nanoseconds_lt
  unfold total limit second at *
  omega

/-- A span is determined by its length. -/
theorem ofTotal?_eq_some_iff {nanoseconds : Nat} {span : Span} :
    ofTotal? nanoseconds = some span ↔ span.total = nanoseconds := by
  unfold ofTotal?
  constructor
  · intro found
    split at found
    · rename_i short
      obtain rfl := Option.some.inj found
      have fits : nanoseconds / second < UInt64.size := Nat.div_lt_of_lt_mul (by
        rwa [limit, Nat.mul_comm] at short)
      rw [total, UInt64.toNat_ofNat_of_lt' fits]
      exact Nat.div_add_mod' nanoseconds second
    · cases found
  · rintro rfl
    have positive : 0 < second := by decide
    have whole : span.total / second = span.seconds.toNat := by
      rw [total, Nat.mul_comm, Nat.mul_add_div positive,
        Nat.div_eq_of_lt span.nanoseconds_lt, Nat.add_zero]
    have beyond : span.total % second = span.nanoseconds := by
      rw [total, Nat.mul_comm, Nat.mul_add_mod, Nat.mod_eq_of_lt span.nanoseconds_lt]
    rw [if_pos span.total_lt_limit]
    simp only [whole, beyond, UInt64.ofNat_toNat]

/-- There is no span from the limit on. -/
theorem ofTotal?_eq_none_iff {nanoseconds : Nat} :
    ofTotal? nanoseconds = none ↔ limit ≤ nanoseconds := by
  unfold ofTotal?
  split
  · rename_i short
    simpa using short
  · rename_i long
    simpa using long

/-- A sum, where there is one, is as long as both spans. -/
theorem add?_eq_some_iff {first other sum : Span} :
    first.add? other = some sum ↔ sum.total = first.total + other.total :=
  ofTotal?_eq_some_iff

/-- There is no sum just where both spans together reach the limit. -/
theorem add?_eq_none_iff {first other : Span} :
    first.add? other = none ↔ limit ≤ first.total + other.total :=
  ofTotal?_eq_none_iff

/-- A span that is shorter than a number of seconds can be a second longer. -/
theorem exists_add?_second
    {span : Span} {seconds : UInt64}
    (shorter : ¬ ofSeconds seconds ≤ span) :
    ∃ sum, span.add? (ofSeconds 1) = some sum ∧ sum.total = span.total + second := by
  have few := seconds.toNat_lt_size
  rw [le_iff, total_ofSeconds] at shorter
  have oneSecond : (ofSeconds 1).total = second := rfl
  cases added : span.add? (ofSeconds 1) with
  | some sum =>
      have sumTotal := add?_eq_some_iff.mp added
      rw [oneSecond] at sumTotal
      exact ⟨sum, rfl, sumTotal⟩
  | none =>
      have tooLong := add?_eq_none_iff.mp added
      rw [oneSecond] at tooLong
      unfold limit second at *
      omega

/-- The span between two moments is as long as they are apart, if that can be measured. -/
theorem total_between (earlier later : Nat) :
    (between earlier later).total = min (later - earlier) (limit - 1) := by
  unfold between
  cases found : ofTotal? (later - earlier) with
  | some span =>
      have exact := ofTotal?_eq_some_iff.mp found
      have short := span.total_lt_limit
      rw [Option.getD_some]
      omega
  | none =>
      have long := ofTotal?_eq_none_iff.mp found
      rw [Option.getD_none, total_longest]
      omega

end Span
end LifecycleOperator
