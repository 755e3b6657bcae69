import LifecycleOperator.Proofs.Token.Callers
import LifecycleOperator.Proofs.Token.Freshness

/-!
# Renewal of the token

What the callers of the token cache obtain, however their steps are interleaved.  The
invariant says of each caller which part of its program is left, and ties the
credential that is kept to the logins that have ended: while nobody is at it, it is
the one of the last login that succeeded, and it is not fresh any more if the last
login failed.  A credential never becomes fresh again, which is why a failed renewal
is followed by another login.
-/

namespace LifecycleOperator

namespace TokenCache

/-- There is no credential, or no more than its last second is left. -/
def Due (kept : Option Credential) (now : Nat) : Prop :=
  ∀ credential, kept = some credential →
    credential.authorization.expiresIn.toNat * second ≤
      now - credential.issuedAt + second

/-- There is a credential, which is not expired. -/
def Unexpired (kept : Option Credential) (now : Nat) : Prop :=
  ∃ credential, kept = some credential ∧
    now - credential.issuedAt < credential.authorization.expiresIn.toNat * second

/-- A renewal that is due stays due. -/
theorem Due.mono
    {kept : Option Credential} {now later : Nat}
    (due : Due kept now)
    (passes : now ≤ later) :
    Due kept later := by
  intro credential isKept
  have dueNow := due credential isKept
  omega

/-! ## The program of a caller -/

/-- What a login leaves behind that has ended. -/
def renewed (kept : Option Credential) (outcome : Except Fault Authorization)
    (endedAt : Nat) : Outcome :=
  match outcome with
  | .error fault => ⟨.error fault, kept⟩
  | .ok authorization => handOut (some ⟨authorization, endedAt⟩)

/-- A renewal is a login, whose end is all that matters. -/
theorem renew_eq (kept : Option Credential) :
    ∃ next, renew kept = .ask .login next ∧
      ∀ outcome endedAt,
        settle endedAt (next outcome) = .done (.ok (renewed kept outcome endedAt)) := by
  refine ⟨_, rfl, ?_⟩
  intro outcome endedAt
  cases outcome <;> rfl

theorem renew_ne_done (kept : Option Credential) (ended : Except Fault Outcome) :
    .done ended ≠ renew kept := by
  intro equal
  cases equal

theorem renew_ne_pause
    (kept : Option Credential) (nanoseconds : Nat)
    (next : Unit → Program interface Outcome) :
    .ask (.pause nanoseconds) next ≠ renew kept := by
  intro equal
  cases equal

/-- What a caller is about to do once it has looked at the credential. -/
theorem settle_access (kept : Option Credential) (now : Nat) :
    (¬ Due kept now ∧ settle now (access kept) = .done (.ok (handOut kept))) ∨
      (Due kept now ∧ Unexpired kept now ∧
        settle now (access kept) = .ask (.pause grace) fun _ => renew kept) ∨
      (Due kept now ∧ ¬ Unexpired kept now ∧ settle now (access kept) = renew kept) := by
  cases kept with
  | none =>
      refine .inr (.inr ⟨?_, ?_, rfl⟩)
      · intro credential impossible
        cases impossible
      · rintro ⟨credential, impossible, -⟩
        cases impossible
  | some credential =>
      have due : Due (some credential) now ↔ credential.freshness now ≠ .valid := by
        rw [Ne, credential.freshness_eq_valid_iff]
        simp only [Due, Option.some.injEq, forall_eq']
        omega
      have unexpired : Unexpired (some credential) now ↔
          credential.freshness now ≠ .expired := by
        rw [Ne, credential.freshness_eq_expired_iff]
        simp only [Unexpired, Option.some.injEq, exists_eq_left']
        omega
      rw [due, unexpired]
      simp only [access, settle]
      cases isFresh : credential.freshness now with
      | valid => exact .inl ⟨by simp, rfl⟩
      | expiring => exact .inr (.inl ⟨by simp, by simp, rfl⟩)
      | expired => exact .inr (.inr ⟨by simp, by simp, rfl⟩)

/-! ## The invariant -/

/-- The credential that is kept while nobody is at it. -/
structure Quiet (kept : Option Credential) (logins : List Login) (now : Nat) : Prop where
  /-- It is the one of the last login that succeeded. -/
  latest_eq : kept = latest logins
  /-- It is due if the last login failed. -/
  due : ∀ fault endedAt rest, logins = ⟨.error fault, endedAt⟩ :: rest → Due kept now

/-- What is quiet stays quiet as time passes. -/
theorem Quiet.mono
    {kept : Option Credential} {logins : List Login} {now later : Nat}
    (quiet : Quiet kept logins now)
    (passes : now ≤ later) :
    Quiet kept logins later where
  latest_eq := quiet.latest_eq
  due := fun fault endedAt rest last => (quiet.due fault endedAt rest last).mono passes

/-- What a caller does before it logs in: it sleeps if the credential is not expired. -/
def Prepared (visit : Visit) (acts : List Act) : Prop :=
  Unexpired visit.found visit.lookedAt ∧ acts = [.slept grace] ∨
    ¬ Unexpired visit.found visit.lookedAt ∧ acts = []

/-- What holds of a caller that has been served, whatever the others did. -/
structure Faithful (visit : Visit) (logins : List Login) (token : Except Fault String) :
    Prop where
  /-- The caller found the credential of the last login that had succeeded. -/
  found_eq : visit.found = latest visit.before
  /-- If a credential is valid its token is handed out, and nothing else is done. -/
  keeps : ¬ Due visit.found visit.lookedAt →
    visit.acts = [] ∧ logins = visit.before ∧
      ∃ credential, visit.found = some credential ∧
        token = .ok credential.authorization.accessToken
  /-- If a renewal is due there is one login, after a sleep if there is time for it. -/
  renews : Due visit.found visit.lookedAt →
    ∃ outcome endedAt preparation,
      Prepared visit preparation ∧ visit.acts = preparation ++ [.loggedIn outcome] ∧
      logins = ⟨outcome, endedAt⟩ :: visit.before ∧
      token = outcome.map Authorization.accessToken
  /-- A renewal is due if the last login had failed. -/
  again : ∀ fault endedAt rest, visit.before = ⟨.error fault, endedAt⟩ :: rest →
    Due visit.found visit.lookedAt

/-- A caller has looked at what is kept, and nothing has happened to it since. -/
structure Looked (kept : Option Credential) (now : Nat) (visit : Visit) : Prop where
  /-- What the caller found is still kept. -/
  found_eq : visit.found = kept
  passed : visit.lookedAt ≤ now
  /-- Nobody was at it when the caller looked. -/
  quiet : Quiet visit.found visit.before visit.lookedAt

/-- What may be left to do for a caller. -/
inductive Fits (kept : Option Credential) (logins : List Login) (now : Nat) :
    Activity → Prop
  | waiting : Fits kept logins now .waiting
  | holding (quiet : Quiet kept logins now) : Fits kept logins now .holding
  /-- It hands out the token of a valid credential. -/
  | handing (visit : Visit) (looked : Looked kept now visit)
      (current : logins = visit.before)
      (valid : ¬ Due visit.found visit.lookedAt) (idle : visit.acts = []) :
      Fits kept logins now (.working visit (.done (.ok (handOut visit.found))))
  /-- It is to sleep, and then to log in. -/
  | pausing (visit : Visit) (looked : Looked kept now visit)
      (current : logins = visit.before) (due : Due visit.found visit.lookedAt)
      (unexpired : Unexpired visit.found visit.lookedAt) (idle : visit.acts = []) :
      Fits kept logins now
        (.working visit (.ask (.pause grace) fun _ => renew visit.found))
  /-- It sleeps, and is to log in. -/
  | sleeping (visit : Visit) (wakesAt : Nat) (looked : Looked kept now visit)
      (current : logins = visit.before) (due : Due visit.found visit.lookedAt)
      (prepared : Prepared visit visit.acts) :
      Fits kept logins now (.sleeping visit wakesAt fun _ => renew visit.found)
  /-- It is to log in. -/
  | renewing (visit : Visit) (looked : Looked kept now visit)
      (current : logins = visit.before) (due : Due visit.found visit.lookedAt)
      (prepared : Prepared visit visit.acts)
      (program : Program interface Outcome) (isRenewal : program = renew visit.found) :
      Fits kept logins now (.working visit program)
  /-- It is logging in. -/
  | loggingIn (visit : Visit)
      (next : Except Fault Authorization → Program interface Outcome)
      (looked : Looked kept now visit)
      (current : logins = visit.before) (due : Due visit.found visit.lookedAt)
      (prepared : Prepared visit visit.acts)
      (continues : ∀ outcome endedAt,
        settle endedAt (next outcome) = .done (.ok (renewed visit.found outcome endedAt))) :
      Fits kept logins now (.loggingIn visit next)
  /-- It has logged in, and is to release the lock. -/
  | renewed (visit : Visit) (outcome : Except Fault Authorization) (endedAt : Nat)
      (preparation : List Act) (looked : Looked kept now visit)
      (due : Due visit.found visit.lookedAt) (prepared : Prepared visit preparation)
      (acts : visit.acts = preparation ++ [.loggedIn outcome])
      (current : logins = ⟨outcome, endedAt⟩ :: visit.before) :
      Fits kept logins now
        (.working visit (.done (.ok (renewed visit.found outcome endedAt))))
  | served (visit : Visit) (past : List Login) (token : Except Fault String)
      (faithful : Faithful visit past token) :
      Fits kept logins now (.served visit past token)

theorem Fits.mono
    {kept : Option Credential} {logins : List Login} {now later : Nat}
    {activity : Activity}
    (fits : Fits kept logins now activity)
    (passes : now ≤ later) :
    Fits kept logins later activity := by
  have looks : ∀ {visit}, Looked kept now visit → Looked kept later visit :=
    fun looked => ⟨looked.found_eq, Nat.le_trans looked.passed passes, looked.quiet⟩
  cases fits with
  | waiting => exact .waiting
  | holding quiet => exact .holding (quiet.mono passes)
  | handing visit looked current valid idle =>
      exact .handing visit (looks looked) current valid idle
  | pausing visit looked current due unexpired idle =>
      exact .pausing visit (looks looked) current due unexpired idle
  | sleeping visit wakesAt looked current due prepared =>
      exact .sleeping visit wakesAt (looks looked) current due prepared
  | renewing visit looked current due prepared program isRenewal =>
      exact .renewing visit (looks looked) current due prepared program isRenewal
  | loggingIn visit next looked current due prepared continues =>
      exact .loggingIn visit next (looks looked) current due prepared continues
  | renewed visit outcome endedAt preparation looked due prepared acts current =>
      exact .renewed visit outcome endedAt preparation (looks looked) due prepared acts current
  | served visit past token faithful => exact .served visit past token faithful

/-- What is left to do for a caller outside does not depend on what is kept. -/
theorem Fits.outside
    {kept other : Option Credential} {logins more : List Login} {now later : Nat}
    {activity : Activity}
    (fits : Fits kept logins now activity)
    (isOutside : ¬ activity.IsInside) :
    Fits other more later activity := by
  cases fits with
  | waiting => exact .waiting
  | served visit past token faithful => exact .served visit past token faithful
  | _ => exact absurd trivial isOutside

/-- A caller that hands out the token of a valid credential is served. -/
theorem faithful_of_handing
    {kept : Option Credential} {now : Nat} {visit : Visit}
    (looked : Looked kept now visit)
    (valid : ¬ Due visit.found visit.lookedAt)
    (idle : visit.acts = []) :
    Faithful visit visit.before (handOut visit.found).token := by
  refine ⟨looked.quiet.latest_eq, ?_, fun due => absurd due valid, looked.quiet.due⟩
  intro _
  cases found : visit.found with
  | none =>
      refine absurd ?_ valid
      intro credential isFound
      rw [found] at isFound
      cases isFound
  | some credential => exact ⟨idle, rfl, credential, rfl, rfl⟩

/-- A caller that has logged in is served with the outcome of its login. -/
theorem faithful_of_renewed
    {kept : Option Credential} {now : Nat} {visit : Visit}
    {outcome : Except Fault Authorization} {endedAt : Nat} {preparation : List Act}
    (looked : Looked kept now visit)
    (due : Due visit.found visit.lookedAt)
    (prepared : Prepared visit preparation)
    (acts : visit.acts = preparation ++ [.loggedIn outcome]) :
    Faithful visit (⟨outcome, endedAt⟩ :: visit.before)
      (renewed visit.found outcome endedAt).token := by
  refine ⟨looked.quiet.latest_eq, fun valid => absurd due valid, ?_, looked.quiet.due⟩
  intro _
  refine ⟨outcome, endedAt, preparation, prepared, acts, rfl, ?_⟩
  cases outcome <;> rfl

/-- What a login leaves behind is quiet. -/
theorem quiet_renewed
    {kept : Option Credential} {now : Nat} {visit : Visit}
    (looked : Looked kept now visit)
    (due : Due visit.found visit.lookedAt)
    (outcome : Except Fault Authorization) (endedAt : Nat) :
    Quiet (renewed visit.found outcome endedAt).kept (⟨outcome, endedAt⟩ :: visit.before)
      now := by
  cases outcome with
  | error fault =>
      refine ⟨looked.quiet.latest_eq, ?_⟩
      intro _ _ _ _
      exact due.mono looked.passed
  | ok authorization =>
      refine ⟨rfl, ?_⟩
      intro _ _ _ impossible
      cases impossible

/-- The invariant of the callers. -/
structure Callers.Orderly {ι : Type} (callers : Callers ι) : Prop where
  /-- Only who has the lock is inside. -/
  exclusive : ∀ caller, (callers.activity caller).IsInside → callers.lock = some caller
  /-- Nobody is at the credential while the lock is free. -/
  free : callers.lock = none → Quiet callers.kept callers.logins callers.now
  /-- What is left to do for each caller fits. -/
  fits : ∀ caller,
    Fits callers.kept callers.logins callers.now (callers.activity caller)

namespace Callers

variable {ι : Type} {callers next : Callers ι} {caller : ι}

/-- The invariant holds at the beginning. -/
theorem orderly_initial (now : Nat) : (initial now : Callers ι).Orderly where
  exclusive := fun _ impossible => impossible.elim
  free := fun _ => ⟨rfl, fun _ _ _ impossible => by cases impossible⟩
  fits := fun _ => .waiting

namespace Orderly

/-- What is left to do fits what a caller is about. -/
theorem own
    {activity : Activity}
    (orderly : callers.Orderly)
    (about : callers.activity caller = activity) :
    Fits callers.kept callers.logins callers.now activity := by
  rw [← about]
  exact orderly.fits caller

/-- Who is inside has the lock. -/
theorem holds
    {activity : Activity}
    (orderly : callers.Orderly)
    (about : callers.activity caller = activity)
    (isInside : activity.IsInside) :
    callers.lock = some caller := by
  rw [← about] at isInside
  exact orderly.exclusive caller isInside

/-- All others are outside while a caller has the lock. -/
theorem alone
    (orderly : callers.Orderly)
    (holds : callers.lock = some caller)
    (other : ι)
    (different : other ≠ caller) :
    ¬ (callers.activity other).IsInside := by
  intro isInside
  have holdsOther := orderly.exclusive other isInside
  rw [holds, Option.some.injEq] at holdsOther
  exact different holdsOther.symm

theorem tick
    (orderly : callers.Orderly)
    (nanoseconds : Nat) :
    Orderly { callers with now := callers.now + nanoseconds } where
  exclusive := orderly.exclusive
  free := fun isFree => (orderly.free isFree).mono (Nat.le_add_right _ _)
  fits := fun caller => (orderly.fits caller).mono (Nat.le_add_right _ _)

variable [DecidableEq ι]

/--
A step of a caller while all others are outside keeps the invariant, if what is left
to do for this caller fits, and if it has the lock or has left everything quiet.
-/
theorem of_alone
    (orderly : callers.Orderly)
    (areOutside : ∀ other, other ≠ caller → ¬ (callers.activity other).IsInside)
    (others : ∀ other, other ≠ caller → next.activity other = callers.activity other)
    (own : Fits next.kept next.logins next.now (next.activity caller))
    (locked : next.lock = some caller ∨
      next.lock = none ∧ ¬ (next.activity caller).IsInside ∧
        Quiet next.kept next.logins next.now) :
    next.Orderly where
  exclusive := by
    intro other isInside
    by_cases same : other = caller
    · subst same
      rcases locked with holds | ⟨-, isOutside, -⟩
      · exact holds
      · exact absurd isInside isOutside
    · rw [others other same] at isInside
      exact absurd isInside (areOutside other same)
  free := by
    intro isFree
    rcases locked with holds | ⟨-, -, quiet⟩
    · rw [isFree] at holds
      cases holds
    · exact quiet
  fits := by
    intro other
    by_cases same : other = caller
    · rw [same]
      exact own
    · rw [others other same]
      exact (orderly.fits other).outside (areOutside other same)

/-- A caller that has the lock and does not touch what is shared keeps the invariant. -/
theorem of_become
    {former activity : Activity}
    (orderly : callers.Orderly)
    (about : callers.activity caller = former)
    (isInside : former.IsInside)
    (fits : Fits callers.kept callers.logins callers.now activity) :
    (callers.become caller activity).Orderly := by
  have holds := orderly.holds about isInside
  refine orderly.of_alone (orderly.alone holds) ?_ ?_ (.inl holds)
  · intro other different
    exact callers.become_activity_of_ne caller activity different
  · rw [become_activity_self]
    exact fits

theorem acquire
    (orderly : callers.Orderly)
    (isFree : callers.lock = none) :
    Orderly { callers.become caller .holding with lock := some caller } := by
  refine orderly.of_alone ?_ ?_ ?_ (.inl rfl)
  · intro other _ isInside
    have holds := orderly.exclusive other isInside
    rw [isFree] at holds
    cases holds
  · intro other different
    exact callers.become_activity_of_ne caller .holding different
  · change Fits _ _ _ ((callers.become caller .holding).activity caller)
    rw [become_activity_self]
    exact .holding (orderly.free isFree)

theorem look
    (orderly : callers.Orderly)
    (holds : callers.activity caller = .holding) :
    (callers.become caller
      (.working ⟨callers.kept, callers.now, callers.logins, []⟩
        (settle callers.now (access callers.kept)))).Orderly := by
  cases orderly.own holds with
  | holding quiet =>
      refine orderly.of_become holds trivial ?_
      have looked : Looked callers.kept callers.now
          ⟨callers.kept, callers.now, callers.logins, []⟩ := ⟨rfl, Nat.le_refl _, quiet⟩
      rcases settle_access callers.kept callers.now with
        ⟨valid, left⟩ | ⟨due, unexpired, left⟩ | ⟨due, expired, left⟩
      · rw [left]
        exact .handing _ looked rfl valid rfl
      · rw [left]
        exact .pausing _ looked rfl due unexpired rfl
      · exact .renewing _ looked rfl due (.inr ⟨expired, rfl⟩) _ left

theorem sleep
    (orderly : callers.Orderly)
    {visit : Visit} {nanoseconds : Nat} {left : Unit → Program interface Outcome}
    (works : callers.activity caller = .working visit (.ask (.pause nanoseconds) left)) :
    (callers.become caller
      (.sleeping { visit with acts := visit.acts ++ [.slept nanoseconds] }
        (callers.now + nanoseconds) left)).Orderly := by
  refine orderly.of_become works trivial ?_
  cases orderly.own works with
  | pausing _ looked current due unexpired idle =>
      refine .sleeping _ _ ⟨looked.found_eq, looked.passed, looked.quiet⟩ current due ?_
      exact .inl ⟨unexpired, by rw [idle, List.nil_append]⟩
  | renewing _ looked current due prepared _ isRenewal =>
      exact absurd isRenewal (renew_ne_pause _ _ _)

theorem wake
    (orderly : callers.Orderly)
    {visit : Visit} {wakesAt : Nat} {left : Unit → Program interface Outcome}
    (sleeps : callers.activity caller = .sleeping visit wakesAt left) :
    (callers.become caller (.working visit (settle callers.now (left ())))).Orderly := by
  refine orderly.of_become sleeps trivial ?_
  cases orderly.own sleeps with
  | sleeping _ _ looked current due prepared =>
      exact .renewing visit looked current due prepared _ rfl

theorem start
    (orderly : callers.Orderly)
    {visit : Visit} {left : Except Fault Authorization → Program interface Outcome}
    (works : callers.activity caller = .working visit (.ask .login left)) :
    (callers.become caller (.loggingIn visit left)).Orderly := by
  refine orderly.of_become works trivial ?_
  cases orderly.own works with
  | renewing _ looked current due prepared _ isRenewal =>
      obtain ⟨next, renews, continues⟩ := renew_eq visit.found
      rw [renews] at isRenewal
      cases isRenewal
      exact .loggingIn visit left looked current due prepared continues

theorem finish
    (orderly : callers.Orderly)
    {visit : Visit} {left : Except Fault Authorization → Program interface Outcome}
    (logsIn : callers.activity caller = .loggingIn visit left)
    (outcome : Except Fault Authorization) :
    Orderly
      { callers.become caller
          (.working { visit with acts := visit.acts ++ [.loggedIn outcome] }
            (settle callers.now (left outcome))) with
        logins := ⟨outcome, callers.now⟩ :: callers.logins } := by
  have holds := orderly.holds logsIn trivial
  refine orderly.of_alone (orderly.alone holds) ?_ ?_ (.inl holds)
  · intro other different
    exact callers.become_activity_of_ne caller _ different
  · change Fits _ _ _ ((callers.become caller _).activity caller)
    rw [become_activity_self]
    cases orderly.own logsIn with
    | loggingIn _ _ looked current due prepared continues =>
        rw [continues]
        exact .renewed { visit with acts := visit.acts ++ [.loggedIn outcome] } outcome
          callers.now visit.acts ⟨looked.found_eq, looked.passed, looked.quiet⟩ due prepared
          rfl (by rw [current])

theorem release
    (orderly : callers.Orderly)
    {visit : Visit} {ended : Except Fault Outcome}
    (works : callers.activity caller = .working visit (.done ended)) :
    Orderly
      { callers.become caller
          (.served visit callers.logins (ending callers.kept ended).token) with
        lock := none
        kept := (ending callers.kept ended).kept } := by
  have holds := orderly.holds works trivial
  have faithful : Faithful visit callers.logins (ending callers.kept ended).token ∧
      Quiet (ending callers.kept ended).kept callers.logins callers.now := by
    cases orderly.own works with
    | handing _ looked current valid idle =>
        rw [current]
        exact ⟨faithful_of_handing looked valid idle, looked.quiet.mono looked.passed⟩
    | renewing _ looked current due prepared _ isRenewal =>
        exact absurd isRenewal (renew_ne_done _ _)
    | renewed _ outcome endedAt preparation looked due prepared acts current =>
        rw [current]
        exact ⟨faithful_of_renewed looked due prepared acts,
          quiet_renewed looked due outcome endedAt⟩
  refine orderly.of_alone (orderly.alone holds) ?_ ?_ (.inr ⟨rfl, ?_, faithful.2⟩)
  · intro other different
    exact callers.become_activity_of_ne caller _ different
  · change Fits _ _ _ ((callers.become caller _).activity caller)
    rw [become_activity_self]
    exact .served visit callers.logins _ faithful.1
  · change ¬ ((callers.become caller _).activity caller).IsInside
    rw [become_activity_self]
    exact id

/-- Every step keeps the invariant. -/
theorem step
    (orderly : callers.Orderly)
    (step : Step callers next) :
    next.Orderly := by
  cases step with
  | tick nanoseconds => exact orderly.tick nanoseconds
  | acquire caller waits free => exact orderly.acquire free
  | look caller holds => exact orderly.look holds
  | sleep caller visit nanoseconds left works => exact orderly.sleep works
  | wake caller visit wakesAt left sleeps due => exact orderly.wake sleeps
  | start caller visit left works => exact orderly.start works
  | finish caller visit left logsIn outcome => exact orderly.finish logsIn outcome
  | release caller visit ended works => exact orderly.release works

end Orderly

/-- The invariant holds whatever the callers come to. -/
theorem Reachable.orderly
    [DecidableEq ι]
    (reachable : Reachable callers) :
    callers.Orderly := by
  induction reachable with
  | initial now => exact orderly_initial now
  | step callers next reachable step inductionHypothesis =>
      exact inductionHypothesis.step step

end Callers

end TokenCache
end LifecycleOperator
