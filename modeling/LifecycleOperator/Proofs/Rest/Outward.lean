import LifecycleOperator.Pass.Phase
import LifecycleOperator.Proofs.Ishtar.Errand
import LifecycleOperator.Rest.Release

/-!
# Faults of the services outside

Whatever the security service, ishtar and the server of releases do, a fault that comes of it
is known for one of theirs: there was no answer or not all of it, the answer was a refusal, it
was no release, or nobody could log in.  So the pass is taken up again soon.  The fault of a
cache that keeps nothing after a login exists in the program, but is never met.
-/

namespace LifecycleOperator

/-- A fault of a service outside, after which the pass is taken up again soon. -/
structure Fault.IsOutward (fault : Fault) : Prop where
  isExternal : fault.isExternal = true
  /-- The pass is taken up again after the time that is set for it. -/
  requeues : ∀ requeue, Action.ofFault requeue fault = .requeueAfter requeue
  notSerialization : ∀ report, fault ≠ .serialization report
  notOther : ∀ text, fault ≠ .other text
  notCluster : ∀ cause, fault ≠ .cluster cause

/-- An external fault is none of the others. -/
theorem Fault.isOutward_of_isExternal {fault : Fault} (isExternal : fault.isExternal = true) :
    fault.IsOutward where
  isExternal := isExternal
  requeues requeue := by
    cases fault with
    | transport | manifest | methodFailed | loginFailed => rfl
    | serialization | cluster | registration | rendering | alreadyExists | statusUpdate
    | other => cases isExternal
  notSerialization := by
    rintro report rfl
    cases isExternal
  notOther := by
    rintro text rfl
    cases isExternal
  notCluster := by
    rintro cause rfl
    cases isExternal

/-! ## Tokens -/

namespace SecurityService

/-- What nobody can log in for: the answer, or how it was carried. -/
def IsLoginFault (service : SecurityService) (fault : Fault) : Prop :=
  (∃ why, fault = .loginFailed service.username why) ∨ ∃ cause, fault = .transport cause

variable {service : SecurityService} {kept : Option Credential}

theorem IsLoginFault.isExternal {fault : Fault} (isLoginFault : service.IsLoginFault fault) :
    fault.isExternal = true := by
  rcases isLoginFault with ⟨why, rfl⟩ | ⟨cause, rfl⟩ <;> rfl

/-- An answer to a login that means a fault. -/
theorem isLoginFault_of_authorizationOf
    {answer : Except TransportFault WebResponse} {fault : Fault}
    (fails : service.authorizationOf answer = .error fault) :
    service.IsLoginFault fault := by
  unfold authorizationOf at fails
  split at fails
  · obtain rfl := Except.error.inj fails
    exact .inl ⟨_, rfl⟩
  · split at fails
    · obtain rfl := Except.error.inj fails
      exact .inl ⟨_, rfl⟩
    · split at fails
      · obtain rfl := Except.error.inj fails
        exact .inr ⟨_, rfl⟩
      · split at fails
        · cases fails
        · obtain rfl := Except.error.inj fails
          exact .inl ⟨_, rfl⟩

/-- Where there is no token, a login has failed; what was kept before is still kept. -/
theorem Obtaining.failed
    {transcript : List Wire.Exchange} {fault : Fault} {left : Option Credential}
    (obtaining : service.Obtaining kept transcript ⟨.error fault, left⟩) :
    service.IsLoginFault fault ∧ left = kept := by
  generalize ended : (⟨.error fault, left⟩ : TokenCache.Outcome) = outcome at obtaining
  cases obtaining with
  | valid credential now isKept isValid =>
      subst isKept
      cases ended
  | due preparation login rest answer _ prepares logsIn renewing =>
      cases renewing with
      | failed other fails =>
          cases ended
          exact ⟨isLoginFault_of_authorizationOf fails, rfl⟩
      | renewed authorization now succeeds => cases ended

end SecurityService

/-! ## The calls -/

namespace IshtarClient

/-- A probe fails because of a login, or for want of an answer in full. -/
theorem isLoginFault_of_health
    {ishtar : IshtarClient} {kept left : Option Credential}
    {transcript : List Wire.Exchange} {fault : Fault}
    (performing : ishtar.Performing kept .health transcript ⟨.error fault, left⟩) :
    ishtar.security.IsLoginFault fault := by
  rcases performing.result_eq with
    ⟨_, same, obtaining⟩ | ⟨front, back, token, answer, -, -, -, means⟩
  · obtain rfl := Except.error.inj same
    exact obtaining.failed.1
  · cases answer with
    | error cause =>
        obtain rfl := Except.error.inj means
        exact .inr ⟨cause, rfl⟩
    | ok response =>
        rw [Errand.meaning_health] at means
        cases received : response.received with
        | error cause =>
            rw [received] at means
            obtain rfl := Except.error.inj means
            exact .inr ⟨cause, rfl⟩
        | ok text =>
            rw [received] at means
            cases means

end IshtarClient

namespace Manifest

/-- A release is fetched by one request, whose response is read as a manifest. -/
theorem fetch_eq (agent url : String) :
    fetch agent url =
      (RestClient.ofBase agent url).send "GET" "" "" >>= fun response =>
        Program.ofExcept ((RestClient.textOf response).bind read) := by
  unfold fetch
  rw [RestClient.getText_eq, bind_assoc]
  refine bind_congr fun response => ?_
  cases RestClient.textOf response with
  | error fault => rfl
  | ok text => rfl

/-- The faults of fetching a release. -/
def IsFetchFault (fault : Fault) : Prop :=
  (∃ cause, fault = .transport cause) ∨
    (∃ code detail, fault = .methodFailed "Get" code detail) ∨ ∃ report, fault = .manifest report

theorem IsFetchFault.isExternal {fault : Fault} (isFetchFault : IsFetchFault fault) :
    fault.isExternal = true := by
  rcases isFetchFault with ⟨cause, rfl⟩ | ⟨code, detail, rfl⟩ | ⟨report, rfl⟩ <;> rfl

/-- A text that is no manifest is told of as such. -/
theorem read_eq_error {text : String} {fault : Fault} (fails : read text = .error fault) :
    ∃ report, fault = .manifest report := by
  unfold read at fails
  split at fails
  · cases fails
  · obtain rfl := Except.error.inj fails
    exact ⟨_, rfl⟩

theorem isFetchFault_of_yields
    {agent url : String} {transcript : List Wire.Exchange} {fault : Fault}
    (yields : (fetch agent url).Yields transcript (.error fault)) :
    IsFetchFault fault := by
  rw [fetch_eq] at yields
  obtain ⟨answer, means, -⟩ := RestClient.yields_reading_iff.mp yields
  cases answer with
  | error cause =>
      obtain rfl := Except.error.inj means
      exact .inl ⟨cause, rfl⟩
  | ok response =>
      change _ = (RestClient.textOf response).bind read at means
      cases content : RestClient.textOf response with
      | error cause =>
          rw [content] at means
          obtain rfl := Except.error.inj means
          rcases RestClient.textOf_eq_error content with unread | refused
          · exact .inl unread
          · exact .inr (.inl ⟨_, _, refused⟩)
      | ok text =>
          rw [content] at means
          exact .inr (.inr (read_eq_error means.symm))

end Manifest

/--
The faults of the services outside are known for theirs.  A probe of ishtar always comes to
an outcome, and if that is a fault it is one of the login or of the transport; a release that
cannot be fetched is one that did not arrive, was refused or is no manifest.  After each of
these faults the pass is taken up again soon.
-/
theorem services_failOutward :
    (∀ (ishtar : IshtarClient) (kept : Option Credential) transcript outcome,
      (ishtar.health kept).Yields transcript outcome →
        ∃ result left, outcome = .ok ⟨result, left⟩ ∧
          ∀ fault, result = .error fault →
            ishtar.security.IsLoginFault fault ∧ fault.IsOutward) ∧
    ∀ (agent url : String) transcript outcome,
      (Manifest.fetch agent url).Yields transcript outcome →
        ∀ fault, outcome = .error fault → Manifest.IsFetchFault fault ∧ fault.IsOutward := by
  constructor
  · intro ishtar kept transcript outcome yields
    rw [IshtarClient.health_eq] at yields
    obtain ⟨⟨result, left⟩, rfl, performing⟩ := IshtarClient.yields_perform_iff.mp yields
    refine ⟨result, left, rfl, ?_⟩
    rintro fault rfl
    have isLoginFault := IshtarClient.isLoginFault_of_health performing
    exact ⟨isLoginFault, Fault.isOutward_of_isExternal isLoginFault.isExternal⟩
  · rintro agent url transcript outcome yields fault rfl
    have isFetchFault := Manifest.isFetchFault_of_yields yields
    exact ⟨isFetchFault, Fault.isOutward_of_isExternal isFetchFault.isExternal⟩

/-- A probe without the right to log in, and a release whose content breaks off. -/
theorem services_failOutward_demo :
    let refused : Fault := .loginFailed "user" "the server answered 401 Unauthorized"
    let broken : Fault := .transport (.brokenOff "end of file")
    let probe := (IshtarClient.demo.health none).run Web.Rehearsal.respond
      (IshtarClient.demoServices [⟨401, [], "no such user"⟩])
    let fetching := (Manifest.fetch "agent" "http://localhost/release").run Web.Rehearsal.respond
      (IshtarClient.demoServices [⟨200, [], .brokenOff "end of file"⟩])
    probe.outcome = .ok ⟨.error refused, none⟩ ∧ fetching.outcome = .error broken ∧
      refused.IsOutward ∧ broken.IsOutward := by
  intro refused broken probe fetching
  have probed : probe.outcome = .ok ⟨.error refused, none⟩ := by decide +kernel
  have fetched : fetching.outcome = .error broken := by decide +kernel
  refine ⟨probed, fetched, ?_, ?_⟩
  · obtain ⟨result, left, same, outward⟩ :=
      services_failOutward.1 IshtarClient.demo none _ _ (Program.run_yields _ _ _)
    obtain ⟨rfl, rfl⟩ : result = .error refused ∧ left = none := by
      have same := Except.ok.inj (same.symm.trans probed)
      exact ⟨congrArg IshtarClient.Outcome.result same, congrArg IshtarClient.Outcome.kept same⟩
    exact (outward refused rfl).2
  · exact (services_failOutward.2 "agent" "http://localhost/release" _ _
      (Program.run_yields _ _ _) broken fetched).2

end LifecycleOperator
