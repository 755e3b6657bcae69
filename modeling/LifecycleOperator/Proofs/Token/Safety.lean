import LifecycleOperator.Proofs.Token.Renewal

/-!
# What callers of the token cache obtain

The invariant of the callers speaks of what is left to do for each of them.  Here it
is read at the end: what a caller has done once it is served, which token or fault it
was given, and what became of the credential that is kept.
-/

namespace LifecycleOperator
namespace TokenCache

/-- The token that a caller obtains is the one of the last login that had succeeded. -/
theorem Faithful.token_eq
    {visit : Visit} {logins : List Login} {text : String}
    (faithful : Faithful visit logins (.ok text)) :
    ∃ credential, latest logins = some credential ∧
      text = credential.authorization.accessToken ∧
      (visit.found = some credential ∧ ¬ Due visit.found visit.lookedAt ∨
        .loggedIn (.ok credential.authorization) ∈ visit.acts) := by
  by_cases due : Due visit.found visit.lookedAt
  · obtain ⟨outcome, endedAt, preparation, -, acts, ended, obtained⟩ := faithful.renews due
    cases outcome with
    | error fault => cases obtained
    | ok authorization =>
        cases obtained
        refine ⟨⟨authorization, endedAt⟩, by rw [ended]; rfl, rfl, .inr ?_⟩
        rw [acts]
        exact List.mem_append_right _ (List.mem_singleton_self _)
  · obtain ⟨-, current, credential, found, obtained⟩ := faithful.keeps due
    cases obtained
    refine ⟨credential, ?_, rfl, .inl ⟨found, due⟩⟩
    rw [current, ← faithful.found_eq, found]

/-- A fault that a caller obtains is the one of its own login. -/
theorem Faithful.fault_eq
    {visit : Visit} {logins : List Login} {fault : Fault}
    (faithful : Faithful visit logins (.error fault)) :
    ∃ endedAt, logins = ⟨.error fault, endedAt⟩ :: visit.before ∧
      .loggedIn (.error fault) ∈ visit.acts := by
  by_cases due : Due visit.found visit.lookedAt
  · obtain ⟨outcome, endedAt, preparation, -, acts, ended, obtained⟩ := faithful.renews due
    cases outcome with
    | ok authorization => cases obtained
    | error cause =>
        cases obtained
        refine ⟨endedAt, ended, ?_⟩
        rw [acts]
        exact List.mem_append_right _ (List.mem_singleton_self _)
  · obtain ⟨-, -, credential, -, impossible⟩ := faithful.keeps due
    cases impossible

/-- Whether a caller has logged in. -/
def Act.isLogin : Act → Bool
  | .slept _ => false
  | .loggedIn _ => true

/-- How many logins a caller has started. -/
def Activity.loginsStarted : Activity → Nat
  | .waiting | .holding => 0
  | .working visit _ | .sleeping visit _ _ | .served visit _ _ =>
      visit.acts.countP Act.isLogin
  | .loggingIn visit _ => visit.acts.countP Act.isLogin + 1

/-- Nobody has logged in before it is time for that. -/
theorem Prepared.countP_eq_zero
    {visit : Visit} {acts : List Act}
    (prepared : Prepared visit acts) :
    acts.countP Act.isLogin = 0 := by
  rcases prepared with ⟨-, rfl⟩ | ⟨-, rfl⟩ <;> rfl

/-- A caller has logged in once if it was prepared for that. -/
theorem Prepared.countP_concat
    {visit : Visit} {preparation : List Act}
    (prepared : Prepared visit preparation)
    (outcome : Except Fault Authorization) :
    (preparation ++ [Act.loggedIn outcome]).countP Act.isLogin = 1 := by
  rw [List.countP_append, prepared.countP_eq_zero]
  rfl

/-- A caller for which what is left to do fits has started one login at most. -/
theorem Fits.loginsStarted_le_one
    {kept : Option Credential} {logins : List Login} {now : Nat} {activity : Activity}
    (fits : Fits kept logins now activity) :
    activity.loginsStarted ≤ 1 := by
  unfold Activity.loginsStarted
  cases fits with
  | waiting | holding => exact Nat.zero_le 1
  | handing visit looked current valid idle => simp [idle]
  | pausing visit looked current due unexpired idle => simp [idle]
  | sleeping visit wakesAt looked current due prepared => simp [prepared.countP_eq_zero]
  | renewing visit looked current due prepared => simp [prepared.countP_eq_zero]
  | loggingIn visit next looked current due prepared => simp [prepared.countP_eq_zero]
  | renewed visit outcome endedAt preparation looked due prepared acts =>
      simp only [acts, prepared.countP_concat outcome, Nat.le_refl]
  | served visit past token faithful =>
      by_cases due : Due visit.found visit.lookedAt
      · obtain ⟨outcome, -, preparation, prepared, acts, -, -⟩ := faithful.renews due
        simp only [acts, prepared.countP_concat outcome, Nat.le_refl]
      · simp [(faithful.keeps due).1]

/-- What is asked of the callers of the token cache, wherever they have come to. -/
structure Callers.Safe {ι : Type} [DecidableEq ι] (callers : Callers ι) : Prop where
  /-- At most one login is in flight. -/
  single : ∀ first second, (callers.activity first).IsLoggingIn →
    (callers.activity second).IsLoggingIn → first = second
  /-- Nobody starts more than one login. -/
  once : ∀ caller, (callers.activity caller).loginsStarted ≤ 1
  /-- Who is served has logged in just when it was due, and has slept just when it was
  not too late for that. -/
  faithful : ∀ caller visit logins token,
    callers.activity caller = .served visit logins token → Faithful visit logins token
  /-- A token is the one of the last login that succeeded: one's own, or a valid one. -/
  token : ∀ caller visit logins text,
    callers.activity caller = .served visit logins (.ok text) →
      ∃ credential, latest logins = some credential ∧
        text = credential.authorization.accessToken ∧
        (visit.found = some credential ∧ ¬ Due visit.found visit.lookedAt ∨
          .loggedIn (.ok credential.authorization) ∈ visit.acts)
  /-- A fault is the one of one's own login; there always is a credential to hand out. -/
  fault : ∀ caller visit logins fault,
    callers.activity caller = .served visit logins (.error fault) →
      ∃ endedAt, logins = ⟨.error fault, endedAt⟩ :: visit.before ∧
        .loggedIn (.error fault) ∈ visit.acts
  /-- What is kept changes only when a caller is served that has logged in with success. -/
  kept : ∀ next, Step callers next → next.kept = callers.kept ∨
    ∃ caller visit credential, callers.lock = some caller ∧
      next.activity caller =
        .served visit callers.logins (.ok credential.authorization.accessToken) ∧
      .loggedIn (.ok credential.authorization) ∈ visit.acts ∧ next.kept = some credential

namespace Callers

variable {ι : Type} {callers next : Callers ι}

/-- Callers that log in at the same time are the same. -/
theorem Orderly.single
    (orderly : callers.Orderly)
    {first second : ι}
    (logsIn : (callers.activity first).IsLoggingIn)
    (logsInToo : (callers.activity second).IsLoggingIn) :
    first = second := by
  have inside : ∀ {activity : Activity}, activity.IsLoggingIn → activity.IsInside := by
    intro activity isLoggingIn
    cases activity with
    | loggingIn => trivial
    | _ => exact isLoggingIn.elim
  have holds := orderly.exclusive first (inside logsIn)
  have holdsToo := orderly.exclusive second (inside logsInToo)
  rw [holds, Option.some.injEq] at holdsToo
  exact holdsToo

/-- Only a login that has succeeded changes what is kept. -/
theorem Orderly.kept
    [DecidableEq ι]
    (orderly : callers.Orderly)
    (step : Step callers next) :
    next.kept = callers.kept ∨
      ∃ caller visit credential, callers.lock = some caller ∧
        next.activity caller =
          .served visit callers.logins (.ok credential.authorization.accessToken) ∧
        .loggedIn (.ok credential.authorization) ∈ visit.acts ∧
        next.kept = some credential := by
  cases step with
  | tick | acquire | look | sleep | wake | start | finish => exact .inl rfl
  | release caller visit ended works =>
      cases orderly.own works with
      | handing _ looked current valid idle => exact .inl looked.found_eq
      | renewing _ looked current due prepared _ isRenewal =>
          exact absurd isRenewal (renew_ne_done _ _)
      | renewed _ outcome endedAt preparation looked due prepared acts current =>
          cases outcome with
          | error fault => exact .inl looked.found_eq
          | ok authorization =>
              refine .inr ⟨caller, visit, ⟨authorization, endedAt⟩,
                orderly.holds works trivial, ?_, ?_, rfl⟩
              · exact callers.become_activity_self caller _
              · rw [acts]
                exact List.mem_append_right _ (List.mem_singleton_self _)

/--
The safety of renewals.  Whatever the callers of a cache that starts empty come to,
however their steps and the clock are interleaved, however long logins take and
however they end, the callers are safe.
-/
theorem safe_of_reachable
    [DecidableEq ι]
    (callers : Callers ι)
    (reachable : Reachable callers) :
    callers.Safe := by
  have orderly := reachable.orderly
  have faithful : ∀ caller visit logins token,
      callers.activity caller = .served visit logins token →
        Faithful visit logins token := by
    intro caller visit logins token isServed
    cases orderly.own isServed with
    | served _ _ _ faithful => exact faithful
  refine ⟨fun _ _ => orderly.single, fun caller => (orderly.fits caller).loginsStarted_le_one,
    faithful, ?_, ?_, fun _ => orderly.kept⟩
  · intro caller visit logins text isServed
    exact (faithful caller visit logins _ isServed).token_eq
  · intro caller visit logins fault isServed
    exact (faithful caller visit logins _ isServed).fault_eq

/-- Two callers, of which the first one fails to log in and the second one succeeds. -/
theorem safe_after_failure :
    ∃ callers : Callers Bool, Reachable callers ∧ callers.Safe ∧
      (∃ visit logins, callers.activity false =
        .served visit logins (.error (.loginFailed "user" "why"))) ∧
      ∃ visit logins, callers.activity true = .served visit logins (.ok "token") := by
  have reached := Reachable.step _ _ (.initial 0) (.acquire _ false rfl rfl)
  have reached := Reachable.step _ _ reached (.look _ false rfl)
  have reached := Reachable.step _ _ reached (.start _ false _ _ rfl)
  have reached := Reachable.step _ _ reached (.tick _ 5)
  have reached := Reachable.step _ _ reached
    (.finish _ false _ _ rfl (.error (.loginFailed "user" "why")))
  have reached := Reachable.step _ _ reached (.release _ false _ _ rfl)
  have reached := Reachable.step _ _ reached (.acquire _ true rfl rfl)
  have reached := Reachable.step _ _ reached (.look _ true rfl)
  have reached := Reachable.step _ _ reached (.start _ true _ _ rfl)
  have reached := Reachable.step _ _ reached
    (.finish _ true _ _ rfl (.ok ⟨"token", "", 60, ""⟩))
  have reached := Reachable.step _ _ reached (.release _ true _ _ rfl)
  exact ⟨_, reached, safe_of_reachable _ reached, ⟨_, _, rfl⟩, _, _, rfl⟩

end Callers
end TokenCache
end LifecycleOperator
