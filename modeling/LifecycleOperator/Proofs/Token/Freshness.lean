import LifecycleOperator.Token.Cache

/-!
# How credentials age

The freshness of a credential is computed with spans, whose sums may fail.  Counted in
nanoseconds without a bound it is a comparison of the age of the credential with its
validity, and everything else follows from that: a credential only ever gets staler, the
time that an expiring one is left is enough for it to expire, and one that is valid for a
second at most is never fresh.
-/

namespace LifecycleOperator

namespace Freshness

/-- How stale a freshness is. -/
def rank : Freshness → Nat
  | .valid => 0
  | .expiring => 1
  | .expired => 2

end Freshness

namespace Credential

variable (credential : Credential) (now : Nat)

/-- How long a credential is valid, in nanoseconds. -/
theorem total_validity :
    credential.validity.total = credential.authorization.expiresIn.toNat * second :=
  Span.total_ofSeconds _

/-- That the age is cut at the longest span does not show next to a validity. -/
theorem validity_le_elapsed_iff :
    credential.validity ≤ credential.elapsed now ↔
      credential.authorization.expiresIn.toNat * second ≤ now - credential.issuedAt := by
  have measurable := credential.validity.total_lt_limit
  rw [total_validity] at measurable
  rw [Span.le_iff, elapsed, Span.total_between, total_validity]
  omega

/-- The age of a credential that is not expired is measured exactly. -/
theorem total_elapsed
    (younger : ¬ credential.validity ≤ credential.elapsed now) :
    (credential.elapsed now).total = now - credential.issuedAt := by
  have measurable := credential.validity.total_lt_limit
  rw [validity_le_elapsed_iff, ← total_validity] at younger
  rw [elapsed, Span.total_between]
  omega

/-- One second can be added to the age of a credential that is not expired. -/
theorem exists_add?_elapsed
    (younger : ¬ credential.validity ≤ credential.elapsed now) :
    ∃ soon, (credential.elapsed now).add? (.ofSeconds 1) = some soon ∧
      soon.total = now - credential.issuedAt + second := by
  obtain ⟨soon, added, total⟩ := Span.exists_add?_second younger
  rw [credential.total_elapsed now younger] at total
  exact ⟨soon, added, total⟩

/-- The freshness in nanoseconds, however many these are. -/
theorem freshness_eq :
    credential.freshness now =
      if credential.authorization.expiresIn.toNat * second ≤ now - credential.issuedAt then
        .expired
      else if credential.authorization.expiresIn.toNat * second ≤
          now - credential.issuedAt + second then .expiring
      else .valid := by
  unfold freshness
  apply Option.get_of_eq_some
  unfold freshness?
  by_cases older : credential.validity ≤ credential.elapsed now
  · rw [if_pos older, if_pos ((credential.validity_le_elapsed_iff now).mp older)]
  · obtain ⟨soon, added, total⟩ := credential.exists_add?_elapsed now older
    have sameOrder : credential.validity ≤ soon ↔
        credential.authorization.expiresIn.toNat * second ≤
          now - credential.issuedAt + second := by
      rw [Span.le_iff, total, total_validity]
    rw [if_neg older, if_neg (mt (credential.validity_le_elapsed_iff now).mpr older), added,
      Option.map_some]
    simp only [sameOrder]

/-- A credential is expired when its whole validity has passed. -/
theorem freshness_eq_expired_iff :
    credential.freshness now = .expired ↔
      credential.authorization.expiresIn.toNat * second ≤ now - credential.issuedAt := by
  rw [freshness_eq]
  split
  · rename_i passed
    simp [passed]
  · rename_i notPassed
    split <;> simp [notPassed]

/-- A credential is expiring in the last second of its validity. -/
theorem freshness_eq_expiring_iff :
    credential.freshness now = .expiring ↔
      now - credential.issuedAt < credential.authorization.expiresIn.toNat * second ∧
        credential.authorization.expiresIn.toNat * second ≤
          now - credential.issuedAt + second := by
  rw [freshness_eq]
  split
  · simp only [reduceCtorEq, false_iff]
    omega
  · split
    · simp only [true_iff]
      omega
    · simp only [reduceCtorEq, false_iff]
      omega

/-- A credential is valid as long as more than its last second is left. -/
theorem freshness_eq_valid_iff :
    credential.freshness now = .valid ↔
      now - credential.issuedAt + second <
        credential.authorization.expiresIn.toNat * second := by
  rw [freshness_eq]
  split
  · simp only [reduceCtorEq, false_iff]
    omega
  · split
    · simp only [reduceCtorEq, false_iff]
      omega
    · simp only [true_iff]
      omega

/-- The staleness of a credential depends on its age alone, and grows with it. -/
theorem rank_freshness_mono {now later : Nat} (passes : now ≤ later) :
    (credential.freshness now).rank ≤ (credential.freshness later).rank := by
  cases isFresh : credential.freshness now with
  | valid => exact Nat.zero_le _
  | expiring =>
      -- It is not valid any more, because its age only grows.
      have expiring := (credential.freshness_eq_expiring_iff now).mp isFresh
      have notValid : credential.freshness later ≠ .valid := by
        rw [Ne, freshness_eq_valid_iff]
        omega
      cases isFreshLater : credential.freshness later with
      | valid => exact absurd isFreshLater notValid
      | expiring | expired => decide
  | expired =>
      have expired := (credential.freshness_eq_expired_iff now).mp isFresh
      have expiredLater : credential.freshness later = .expired := by
        rw [freshness_eq_expired_iff]
        omega
      exact Nat.le_of_eq (congrArg Freshness.rank expiredLater.symm)

/-- How a credential ages. -/
structure Ages : Prop where
  /-- It is expired when it is at least as old as it is valid. -/
  expired_iff : ∀ now, credential.freshness now = .expired ↔
    credential.authorization.expiresIn.toNat * second ≤ now - credential.issuedAt
  /-- It is expiring when it is younger than that, but not by more than a second. -/
  expiring_iff : ∀ now, credential.freshness now = .expiring ↔
    now - credential.issuedAt < credential.authorization.expiresIn.toNat * second ∧
      credential.authorization.expiresIn.toNat * second ≤ now - credential.issuedAt + second
  /-- It is valid otherwise. -/
  valid_iff : ∀ now, credential.freshness now = .valid ↔
    ¬ credential.authorization.expiresIn.toNat * second ≤ now - credential.issuedAt ∧
      ¬ credential.authorization.expiresIn.toNat * second ≤ now - credential.issuedAt + second
  /-- The freshness is always found, and the second that is added to the age fits. -/
  measurable : ∀ now, credential.freshness? now = some (credential.freshness now) ∧
    (¬ credential.validity ≤ credential.elapsed now →
      ∃ soon, (credential.elapsed now).add? (.ofSeconds 1) = some soon ∧
        soon.total = now - credential.issuedAt + second)
  /-- As time passes it gets staler. -/
  ages : ∀ now later, now ≤ later →
    (credential.freshness now).rank ≤ (credential.freshness later).rank
  /-- The time that it is left when it is expiring is enough for it to expire. -/
  runsOut : ∀ now, credential.issuedAt ≤ now → credential.freshness now = .expiring →
    credential.freshness (now + TokenCache.grace) = .expired
  /-- If it is valid for a second at most, it is never fresh. -/
  brief : credential.authorization.expiresIn ≤ 1 → ∀ now, credential.freshness now ≠ .valid

/--
Whatever its validity and whenever it is issued, a credential ages from valid over expiring
to expired, at the nanosecond, and no sum of spans on the way is too long.
-/
theorem ages_exactly : credential.Ages where
  expired_iff := credential.freshness_eq_expired_iff
  expiring_iff := credential.freshness_eq_expiring_iff
  valid_iff now := by
    rw [freshness_eq_valid_iff]
    omega
  measurable now := ⟨(Option.some_get _).symm, credential.exists_add?_elapsed now⟩
  ages _ _ passes := credential.rank_freshness_mono passes
  runsOut now issued isExpiring := by
    have expiring := (credential.freshness_eq_expiring_iff now).mp isExpiring
    rw [freshness_eq_expired_iff, TokenCache.grace]
    omega
  brief isBrief now := by
    rw [UInt64.le_iff_toNat_le, UInt64.toNat_one] at isBrief
    have shorter := Nat.mul_le_mul_right second isBrief
    rw [Ne, freshness_eq_valid_iff]
    omega

/-- At the greatest validity the sum fits where it is needed, and only there. -/
example :
    let credential : Credential := ⟨⟨"", "", .ofNat (UInt64.size - 1), ""⟩, 0⟩
    credential.freshness? (Span.limit - 2 * second - 1) = some .valid ∧
      credential.freshness? (Span.limit - 2 * second) = some .expiring ∧
      credential.freshness? (Span.limit - second) = some .expired ∧
      (credential.elapsed (Span.limit - second)).add? (.ofSeconds 1) = none := by
  decide +kernel

end Credential
end LifecycleOperator
