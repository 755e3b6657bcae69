import LifecycleOperator.Json.Decode
import LifecycleOperator.Token.Span

/-!
# Credentials

What the security service answers to a login, and how long it can be used.  Moments
are counted in nanoseconds; the time between them is a span.
-/

namespace LifecycleOperator

/-- The answer to a successful login. -/
structure Authorization where
  /-- The token to show to other services. -/
  accessToken : String
  /-- The token to ask for another one with. -/
  refreshToken : String
  /-- How long the access token is valid, in seconds. -/
  expiresIn : UInt64
  scope : String
  deriving DecidableEq, Repr, Inhabited

namespace Authorization

/-- The wire names of the fields, in their order. -/
def fieldNames : List String := ["accessToken", "refreshToken", "expiresIn", "scope"]

def toJson (authorization : Authorization) : Json :=
  Json.ofFields
    [("accessToken", .string authorization.accessToken),
      ("refreshToken", .string authorization.refreshToken),
      ("expiresIn", Json.ofInt authorization.expiresIn.toNat),
      ("scope", .string authorization.scope)]

def decode : Decoder Authorization := fun document => do
  let members ← Decoder.members fieldNames document
  let accessToken ← Decoder.required .string members "accessToken"
  let refreshToken ← Decoder.defaulted .string "" members "refreshToken"
  let expiresIn ← Decoder.required .unsigned64 members "expiresIn"
  let scope ← Decoder.defaulted .string "" members "scope"
  return { accessToken, refreshToken, expiresIn, scope }

end Authorization

/-- An authorization with the moment at which it was obtained. -/
structure Credential where
  authorization : Authorization
  issuedAt : Nat
  deriving DecidableEq, Repr, Inhabited

/-- How far a credential can still be used. -/
inductive Freshness
  | valid
  | expiring
  | expired
  deriving DecidableEq, Repr, Inhabited

namespace Freshness

def name : Freshness → String
  | .valid => "Valid"
  | .expiring => "Expiring"
  | .expired => "Expired"

end Freshness

namespace Credential

/-- How old a credential is at a moment; one that is issued in the future has not aged yet. -/
def elapsed (credential : Credential) (now : Nat) : Span :=
  .between credential.issuedAt now

/-- How long a credential is valid. -/
def validity (credential : Credential) : Span :=
  .ofSeconds credential.authorization.expiresIn

/--
The freshness at a moment.  A credential is expiring in the last second of its
validity.  There is no answer if its age and one more second are too long for a span.
-/
def freshness? (credential : Credential) (now : Nat) : Option Freshness :=
  if credential.validity ≤ credential.elapsed now then some .expired
  else
    ((credential.elapsed now).add? (.ofSeconds 1)).map fun soon =>
      if credential.validity ≤ soon then .expiring else .valid

/-- There always is an answer: one second is only added to an age below the validity. -/
theorem isSome_freshness? (credential : Credential) (now : Nat) :
    (credential.freshness? now).isSome := by
  unfold freshness?
  split
  · rfl
  · rename_i younger
    obtain ⟨soon, added, -⟩ := Span.exists_add?_second younger
    rw [added]
    rfl

/-- The freshness at a moment. -/
def freshness (credential : Credential) (now : Nat) : Freshness :=
  (credential.freshness? now).get (credential.isSome_freshness? now)

end Credential

end LifecycleOperator
