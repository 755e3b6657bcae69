import LifecycleOperator.Proofs.Rest.Exchange
import LifecycleOperator.Token.Login

/-!
# Obtaining a token

A token is obtained from the credential that is kept, or by a login.  The ways in which this
goes over the wire are listed once: how long it takes until a login is sent, how the login
goes, and what is kept afterwards.  There is always an outcome, and only a login that succeeds
changes what is kept.
-/

namespace LifecycleOperator
namespace SecurityService

variable {service : SecurityService} {kept : Option Credential}

/-- A login goes this way, and is answered in this way. -/
def LogsIn (service : SecurityService) :
    List Wire.Exchange → Except TransportFault WebResponse → Prop :=
  service.client.speakingJson.Exchanging "POST" "api/login" service.credentials.text

/-- What comes in front of a login, which is due. -/
inductive Prepares : Option Credential → List Wire.Exchange → Prop
  /-- There is no credential. -/
  | missing : Prepares none []
  /-- The credential is expired. -/
  | expired (credential : Credential) (now : Nat)
      (isExpired : credential.freshness now = .expired) :
      Prepares (some credential) [⟨.now, now⟩]
  /-- The credential is left to run out. -/
  | expiring (credential : Credential) (now : Nat)
      (isExpiring : credential.freshness now = .expiring) :
      Prepares (some credential) [⟨.now, now⟩, ⟨.pause TokenCache.grace, ()⟩]

/-- What a login leaves behind that is answered in this way. -/
inductive Renewing (service : SecurityService) (kept : Option Credential)
    (answer : Except TransportFault WebResponse) :
    List Wire.Exchange → TokenCache.Outcome → Prop
  /-- The login fails, and what is kept stays as it is. -/
  | failed (fault : Fault) (fails : service.authorizationOf answer = .error fault) :
      Renewing service kept answer [] ⟨.error fault, kept⟩
  /-- The login succeeds, and its credential is kept from now on. -/
  | renewed (authorization : Authorization) (now : Nat)
      (succeeds : service.authorizationOf answer = .ok authorization) :
      Renewing service kept answer [⟨.now, now⟩]
        (TokenCache.handOut (some ⟨authorization, now⟩))

/-- The ways in which obtaining a token goes. -/
inductive Obtaining (service : SecurityService) (kept : Option Credential) :
    List Wire.Exchange → TokenCache.Outcome → Prop
  /-- The credential that is kept is valid. -/
  | valid (credential : Credential) (now : Nat) (isKept : kept = some credential)
      (isValid : credential.freshness now = .valid) :
      Obtaining service kept [⟨.now, now⟩] (TokenCache.handOut kept)
  /-- A login is due. -/
  | due (preparation login rest : List Wire.Exchange)
      (answer : Except TransportFault WebResponse) (obtained : TokenCache.Outcome)
      (prepares : Prepares kept preparation) (logsIn : service.LogsIn login answer)
      (renewing : service.Renewing kept answer rest obtained) :
      Obtaining service kept (preparation ++ (login ++ rest)) obtained

/-- A login always has an answer, if only that there is none. -/
theorem yields_login_iff
    {transcript : List Wire.Exchange} {outcome : Except Fault (Except Fault Authorization)} :
    service.login.Yields transcript outcome ↔
      ∃ result, outcome = .ok result ∧
        ∃ answer, result = service.authorizationOf answer ∧ service.LogsIn transcript answer := by
  unfold login
  rw [Program.yields_bind_iff_of_ok RestClient.yields_exchange_iff]
  constructor
  · rintro ⟨answer, front, back, rfl, exchanging, ends⟩
    obtain ⟨rfl, rfl⟩ := Program.yields_done_iff.mp ends
    rw [List.append_nil]
    exact ⟨_, rfl, answer, rfl, exchanging⟩
  · rintro ⟨_, rfl, answer, rfl, exchanging⟩
    exact ⟨answer, transcript, [], (List.append_nil _).symm, exchanging, .done _⟩

/-! ## What the cache asks for, over the wire -/

theorem translate_now (next : Nat → Program TokenCache.interface TokenCache.Outcome) :
    (Program.ask TokenCache.Call.now next).translate service.implement () =
      .ask .now fun now => (next now).translate service.implement () := rfl

theorem translate_pause
    (nanoseconds : Nat) (next : Unit → Program TokenCache.interface TokenCache.Outcome) :
    (Program.ask (TokenCache.Call.pause nanoseconds) next).translate service.implement () =
      .ask (.pause nanoseconds) fun _ => (next ()).translate service.implement () := rfl

theorem translate_login
    (next : Except Fault Authorization → Program TokenCache.interface TokenCache.Outcome) :
    (Program.ask TokenCache.Call.login next).translate service.implement () =
      service.login >>= fun outcome => (next outcome).translate service.implement () := by
  rw [Program.translate_ask, implement, bind_assoc]
  rfl

/-- A renewal is a login, and a look at the clock if the login succeeds. -/
theorem yields_renew_iff
    {transcript : List Wire.Exchange}
    {outcome : Except Fault (Except Fault TokenCache.Outcome × Unit)} :
    ((TokenCache.renew kept).translate service.implement ()).Yields transcript outcome ↔
      ∃ obtained, outcome = .ok (.ok obtained, ()) ∧
        ∃ login answer rest, transcript = login ++ rest ∧ service.LogsIn login answer ∧
          service.Renewing kept answer rest obtained := by
  rw [TokenCache.renew, translate_login, Program.yields_bind_iff_of_ok yields_login_iff]
  constructor
  · rintro ⟨_, login, rest, rfl, ⟨answer, rfl, logsIn⟩, ends⟩
    cases means : service.authorizationOf answer with
    | error fault =>
        rw [means] at ends
        obtain ⟨rfl, rfl⟩ := Program.yields_done_iff.mp ends
        exact ⟨_, rfl, login, answer, [], rfl, logsIn, .failed fault means⟩
    | ok authorization =>
        rw [means] at ends
        obtain ⟨now, last, rfl, looked⟩ := Program.yields_ask_iff.mp ends
        obtain ⟨rfl, rfl⟩ := Program.yields_done_iff.mp looked
        exact ⟨_, rfl, login, answer, _, rfl, logsIn, .renewed authorization now means⟩
  · rintro ⟨obtained, rfl, login, answer, rest, rfl, logsIn, renewing⟩
    refine ⟨_, login, rest, rfl, ⟨answer, rfl, logsIn⟩, ?_⟩
    cases renewing with
    | failed fault fails =>
        rw [fails]
        exact .done _
    | renewed authorization now succeeds =>
        rw [succeeds]
        refine Program.yields_ask_iff.mpr ⟨now, [], rfl, ?_⟩
        exact .done _

/-- A credential that is kept is handed out, or renewed when it is about to run out. -/
theorem translate_access_some (credential : Credential) :
    (TokenCache.access (some credential)).translate service.implement () =
      .ask .now fun now =>
        match credential.freshness now with
        | .valid => .done (.ok (.ok (TokenCache.handOut (some credential)), ()))
        | .expiring => .ask (.pause TokenCache.grace) fun _ =>
            (TokenCache.renew (some credential)).translate service.implement ()
        | .expired => (TokenCache.renew (some credential)).translate service.implement () := by
  rw [TokenCache.access, translate_now]
  congr 1
  funext now
  cases credential.freshness now with
  | valid => simp only [Program.pure_eq, Program.translate_done]
  | expiring => exact translate_pause _ _
  | expired => simp only

/-- A renewal that was prepared obtains a token, or fails to. -/
theorem Prepares.obtaining
    {preparation transcript : List Wire.Exchange}
    {outcome : Except Fault (Except Fault TokenCache.Outcome × Unit)}
    (prepares : Prepares kept preparation)
    (renews : ((TokenCache.renew kept).translate service.implement ()).Yields
      transcript outcome) :
    ∃ ended, outcome = .ok ended ∧ ∃ obtained, ended = (.ok obtained, ()) ∧
      service.Obtaining kept (preparation ++ transcript) obtained := by
  obtain ⟨obtained, rfl, login, answer, rest, rfl, logsIn, renewing⟩ := yields_renew_iff.mp renews
  exact ⟨_, rfl, obtained, rfl,
    .due preparation login rest answer obtained prepares logsIn renewing⟩

theorem yields_access_iff
    {transcript : List Wire.Exchange}
    {outcome : Except Fault (Except Fault TokenCache.Outcome × Unit)} :
    ((TokenCache.access kept).translate service.implement ()).Yields transcript outcome ↔
      ∃ ended, outcome = .ok ended ∧
        ∃ obtained, ended = (.ok obtained, ()) ∧ service.Obtaining kept transcript obtained := by
  constructor
  · intro yields
    cases kept with
    | none => exact Prepares.missing.obtaining yields
    | some credential =>
        rw [translate_access_some] at yields
        obtain ⟨now, rest, rfl, goesOn⟩ := Program.yields_ask_iff.mp yields
        cases fresh : credential.freshness now with
        | valid =>
            rw [fresh] at goesOn
            obtain ⟨rfl, rfl⟩ := Program.yields_done_iff.mp goesOn
            exact ⟨_, rfl, _, rfl, .valid credential now rfl fresh⟩
        | expiring =>
            rw [fresh] at goesOn
            obtain ⟨_, last, rfl, renews⟩ := Program.yields_ask_iff.mp goesOn
            exact (Prepares.expiring credential now fresh).obtaining renews
        | expired =>
            rw [fresh] at goesOn
            exact (Prepares.expired credential now fresh).obtaining goesOn
  · rintro ⟨_, rfl, obtained, rfl, obtaining⟩
    cases obtaining with
    | valid credential now isKept isValid =>
        subst isKept
        rw [translate_access_some]
        refine Program.yields_ask_iff.mpr ⟨now, [], rfl, ?_⟩
        rw [isValid]
        exact .done _
    | due preparation login rest answer _ prepares logsIn renewing =>
        have renews := yields_renew_iff.mpr
          ⟨obtained, rfl, login, answer, rest, rfl, logsIn, renewing⟩
        cases prepares with
        | missing => exact renews
        | expired credential now isExpired =>
            rw [translate_access_some]
            refine Program.yields_ask_iff.mpr ⟨now, _, rfl, ?_⟩
            rw [isExpired]
            exact renews
        | expiring credential now isExpiring =>
            rw [translate_access_some]
            refine Program.yields_ask_iff.mpr ⟨now, _, rfl, ?_⟩
            rw [isExpiring]
            exact Program.yields_ask_iff.mpr ⟨(), _, rfl, renews⟩

/-- A token is obtained in one of these ways, and in no other. -/
theorem yields_token_iff
    {transcript : List Wire.Exchange} {outcome : Except Fault TokenCache.Outcome} :
    (service.token kept).Yields transcript outcome ↔
      ∃ obtained, outcome = .ok obtained ∧ service.Obtaining kept transcript obtained := by
  unfold token
  rw [Program.yields_bind_iff_of_ok yields_access_iff]
  constructor
  · rintro ⟨_, front, back, rfl, ⟨obtained, rfl, obtaining⟩, ends⟩
    obtain ⟨rfl, rfl⟩ := Program.yields_done_iff.mp ends
    rw [List.append_nil]
    exact ⟨obtained, rfl, obtaining⟩
  · rintro ⟨obtained, rfl, obtaining⟩
    exact ⟨_, transcript, [], (List.append_nil _).symm, ⟨obtained, rfl, obtaining⟩, .done _⟩

/-- Each of these ways is one of the program's. -/
theorem Obtaining.yields
    {transcript : List Wire.Exchange} {obtained : TokenCache.Outcome}
    (obtaining : service.Obtaining kept transcript obtained) :
    (service.token kept).Yields transcript (.ok obtained) :=
  yields_token_iff.mpr ⟨obtained, rfl, obtaining⟩

end SecurityService
end LifecycleOperator
