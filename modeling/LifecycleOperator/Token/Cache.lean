import LifecycleOperator.Program.Basic
import LifecycleOperator.Token.Credential

/-!
# The token cache

The cache keeps one credential and renews it before it hands out a stale token.
Only the caller that holds the lock of the cache looks at the credential or
renews it, so that a renewal is never raced.  What a caller does while it holds
the lock is a program that reads the clock, waits and logs in.
-/

namespace LifecycleOperator
namespace TokenCache

/-- What the holder of the lock asks for. -/
inductive Call
  | now
  | pause (nanoseconds : Nat)
  | login
  deriving DecidableEq, Repr

/-- The answer to a call; only a login can fail. -/
@[reducible] def Call.Answer : Call → Type
  | .now => Nat
  | .pause _ => Unit
  | .login => Except Fault Authorization

/-- The interface of the holder of the lock. -/
@[reducible] def interface : Interface where
  Call := Call
  Answer := Call.Answer

/-- The time that a token in its last second is left to run out. -/
def grace : Nat := 2 * second

/-- What the holder leaves behind: its token or a fault, and the credential that is kept. -/
structure Outcome where
  token : Except Fault String
  kept : Option Credential

/-- The fault of handing a token out when no credential is kept. -/
def nothingKept : Fault := .other "no credential after login"

/-- Hand out the token of the credential that is kept. -/
def handOut (kept : Option Credential) : Outcome where
  token :=
    match kept with
    | some credential => .ok credential.authorization.accessToken
    | none => .error nothingKept
  kept := kept

/-- Log in; a failure is handed on and leaves the credential that was kept as it was. -/
def renew (kept : Option Credential) : Program interface Outcome :=
  .ask .login fun
    | .error fault => pure ⟨.error fault, kept⟩
    | .ok authorization =>
        .ask .now fun now => pure (handOut (some ⟨authorization, now⟩))

/-- Obtain a token, from the credential that is kept or by a login. -/
def access : Option Credential → Program interface Outcome
  | none => renew none
  | some credential =>
      .ask .now fun now =>
        match credential.freshness now with
        | .valid => pure (handOut (some credential))
        | .expiring => .ask (.pause grace) fun _ => renew (some credential)
        | .expired => renew (some credential)

end TokenCache
end LifecycleOperator
