import LifecycleOperator.Token.Cache
import Mathlib.Logic.Function.Basic

/-!
# Callers of the token cache

Any number of callers share one token cache and one lock.  What a caller does while
it holds the lock is the program of the cache; here its steps are taken one at a
time, among those of all the other callers and of the clock.  A login starts and
ends in two steps, so that it may take any time, and it may end in any way.

The logins that have ended, and what each caller did, are remembered beside the
state; no step depends on them.
-/

namespace LifecycleOperator
namespace TokenCache

/-- A login that has ended. -/
structure Login where
  outcome : Except Fault Authorization
  endedAt : Nat

/-- The credential of the last login that succeeded; the last login comes first. -/
def latest : List Login → Option Credential
  | [] => none
  | ⟨.ok authorization, endedAt⟩ :: _ => some ⟨authorization, endedAt⟩
  | ⟨.error _, _⟩ :: rest => latest rest

/-- What a caller did while it held the lock. -/
inductive Act
  /-- It has slept for a time. -/
  | slept (nanoseconds : Nat)
  /-- It has logged in. -/
  | loggedIn (outcome : Except Fault Authorization)

/-- What is remembered of a caller since it looked at the credential. -/
structure Visit where
  found : Option Credential
  lookedAt : Nat
  /-- The logins that had ended by then. -/
  before : List Login
  /-- What the caller has done since, in order. -/
  acts : List Act

/-- What a caller is about. -/
inductive Activity
  /-- It waits for the lock. -/
  | waiting
  /-- It has the lock, and has not looked at the credential. -/
  | holding
  /-- It is about to make its next call. -/
  | working (visit : Visit) (program : Program interface Outcome)
  /-- It sleeps. -/
  | sleeping (visit : Visit) (wakesAt : Nat) (next : Unit → Program interface Outcome)
  /-- It is logging in. -/
  | loggingIn (visit : Visit)
      (next : Except Fault Authorization → Program interface Outcome)
  /-- It has released the lock with a result, when these logins had ended. -/
  | served (visit : Visit) (logins : List Login) (token : Except Fault String)

/-- Between taking and releasing the lock. -/
def Activity.IsInside : Activity → Prop
  | .waiting | .served _ _ _ => False
  | .holding | .working _ _ | .sleeping _ _ _ | .loggingIn _ _ => True

/-- A login is in flight. -/
def Activity.IsLoggingIn : Activity → Prop
  | .loggingIn _ _ => True
  | _ => False

/-- Callers that share a cache. -/
structure Callers (ι : Type) where
  now : Nat
  lock : Option ι
  kept : Option Credential
  /-- The logins that have ended, from the last one. -/
  logins : List Login
  activity : ι → Activity

/-- Go on with a program as long as it only reads the clock, which takes no time. -/
def settle {α : Type} (now : Nat) : Program interface α → Program interface α
  | .done outcome => .done outcome
  | .ask .now next => settle now (next now)
  | .ask (.pause nanoseconds) next => .ask (.pause nanoseconds) next
  | .ask .login next => .ask .login next

/-- What a program leaves behind that has ended. -/
def ending (kept : Option Credential) : Except Fault Outcome → Outcome
  | .ok outcome => outcome
  | .error fault => ⟨.error fault, kept⟩

namespace Callers

variable {ι : Type} [DecidableEq ι]

/-- All callers wait, and nothing is kept. -/
def initial (now : Nat) : Callers ι := ⟨now, none, none, [], fun _ => .waiting⟩

/-- A caller is about something else. -/
def become (callers : Callers ι) (caller : ι) (activity : Activity) : Callers ι :=
  { callers with activity := Function.update callers.activity caller activity }

/-- What may happen next. -/
inductive Step : Callers ι → Callers ι → Prop
  /-- Time passes. -/
  | tick (callers : Callers ι) (nanoseconds : Nat) :
      Step callers { callers with now := callers.now + nanoseconds }
  /-- A caller that waits takes the lock, which is free. -/
  | acquire (callers : Callers ι) (caller : ι)
      (waits : callers.activity caller = .waiting) (free : callers.lock = none) :
      Step callers { callers.become caller .holding with lock := some caller }
  /-- A caller looks at the credential that is kept, and at the clock. -/
  | look (callers : Callers ι) (caller : ι)
      (holds : callers.activity caller = .holding) :
      Step callers (callers.become caller
        (.working ⟨callers.kept, callers.now, callers.logins, []⟩
          (settle callers.now (access callers.kept))))
  /-- A caller falls asleep. -/
  | sleep (callers : Callers ι) (caller : ι) (visit : Visit) (nanoseconds : Nat)
      (next : Unit → Program interface Outcome)
      (works : callers.activity caller = .working visit (.ask (.pause nanoseconds) next)) :
      Step callers (callers.become caller
        (.sleeping { visit with acts := visit.acts ++ [.slept nanoseconds] }
          (callers.now + nanoseconds) next))
  /-- A caller wakes up, when its time has come. -/
  | wake (callers : Callers ι) (caller : ι) (visit : Visit) (wakesAt : Nat)
      (next : Unit → Program interface Outcome)
      (sleeps : callers.activity caller = .sleeping visit wakesAt next)
      (due : wakesAt ≤ callers.now) :
      Step callers (callers.become caller (.working visit (settle callers.now (next ()))))
  /-- A caller starts to log in. -/
  | start (callers : Callers ι) (caller : ι) (visit : Visit)
      (next : Except Fault Authorization → Program interface Outcome)
      (works : callers.activity caller = .working visit (.ask .login next)) :
      Step callers (callers.become caller (.loggingIn visit next))
  /-- A login ends, in whatever way. -/
  | finish (callers : Callers ι) (caller : ι) (visit : Visit)
      (next : Except Fault Authorization → Program interface Outcome)
      (logsIn : callers.activity caller = .loggingIn visit next)
      (outcome : Except Fault Authorization) :
      Step callers
        { callers.become caller
            (.working { visit with acts := visit.acts ++ [.loggedIn outcome] }
              (settle callers.now (next outcome))) with
          logins := ⟨outcome, callers.now⟩ :: callers.logins }
  /-- A caller releases the lock with its result. -/
  | release (callers : Callers ι) (caller : ι) (visit : Visit)
      (ended : Except Fault Outcome)
      (works : callers.activity caller = .working visit (.done ended)) :
      Step callers
        { callers.become caller
            (.served visit callers.logins (ending callers.kept ended).token) with
          lock := none
          kept := (ending callers.kept ended).kept }

/-- What callers can come to that start when nothing is kept. -/
inductive Reachable : Callers ι → Prop
  | initial (now : Nat) : Reachable (initial now)
  | step (callers next : Callers ι) (reachable : Reachable callers)
      (step : Step callers next) : Reachable next

variable (callers : Callers ι) (caller : ι) (activity : Activity)

@[simp] theorem become_activity_self :
    (callers.become caller activity).activity caller = activity := by
  unfold become
  exact Function.update_self ..

theorem become_activity_of_ne {other : ι} (different : other ≠ caller) :
    (callers.become caller activity).activity other = callers.activity other := by
  unfold become
  exact Function.update_of_ne different ..

end Callers
end TokenCache
end LifecycleOperator
