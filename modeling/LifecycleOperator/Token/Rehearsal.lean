import LifecycleOperator.Token.Cache

/-!
# Rehearsals of the token cache

A clock that moves only when something waits, and logins that end as they are
told to.  Callers that come at once are served in their order.
-/

namespace LifecycleOperator
namespace TokenCache

/-- How a login ends. -/
structure ScriptedLogin where
  /-- How long the login takes, in nanoseconds. -/
  delay : Nat
  outcome : Except Fault Authorization

/-- A clock, the logins to come and the credential that is kept. -/
structure Rehearsal where
  /-- The clock, in nanoseconds. -/
  now : Nat
  logins : List ScriptedLogin
  started : Nat
  kept : Option Credential

namespace Rehearsal

/-- Nothing is kept and nothing has happened. -/
def first (logins : List ScriptedLogin) : Rehearsal := ⟨0, logins, 0, none⟩

def advance (rehearsal : Rehearsal) (nanoseconds : Nat) : Rehearsal :=
  { rehearsal with now := rehearsal.now + nanoseconds }

def login (rehearsal : Rehearsal) : Except Fault Authorization × Rehearsal :=
  let counted := { rehearsal with started := rehearsal.started + 1 }
  match rehearsal.logins with
  | [] => (.error (.loginFailed "script" "exhausted"), counted)
  | login :: rest =>
      (login.outcome, { counted with logins := rest }.advance login.delay)

def respond : Program.Responder interface Rehearsal
  | .now, rehearsal => (rehearsal.now, rehearsal)
  | .pause nanoseconds, rehearsal => ((), rehearsal.advance nanoseconds)
  | .login, rehearsal => rehearsal.login

def serve (rehearsal : Rehearsal) : Except Fault String × Rehearsal :=
  let run := (access rehearsal.kept).run respond rehearsal
  match run.outcome with
  | .ok outcome => (outcome.token, { run.state with kept := outcome.kept })
  | .error fault => (.error fault, run.state)

def serveAll : Nat → Rehearsal → List (Except Fault String) × Rehearsal
  | 0, rehearsal => ([], rehearsal)
  | callers + 1, rehearsal =>
      let (token, rehearsal) := rehearsal.serve
      let (tokens, rehearsal) := serveAll callers rehearsal
      (token :: tokens, rehearsal)

end Rehearsal
end TokenCache
end LifecycleOperator
