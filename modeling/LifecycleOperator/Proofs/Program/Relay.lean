import LifecycleOperator.Proofs.Program.Transcript

/-!
# Programs that only relay faults

An exchange may raise a fault.  A program relays faults if it ends at once with the
fault that an exchange raises, and goes on after an exchange that raises none; it never
fails on its own account.  So a run that fails has been stopped by its last exchange,
and all that went before has been put up with.
-/

namespace LifecycleOperator
namespace Program

variable {interface : Interface} {α β : Type}

/-- A program fails where an exchange raises a fault, with this fault, and nowhere else. -/
def Relays (raised? : Exchange interface → Option Fault) : Program interface α → Prop
  | .done (.ok _) => True
  | .done (.error _) => False
  | .ask call next => ∀ answer,
      match raised? ⟨call, answer⟩ with
      | some fault => next answer = .done (.error fault)
      | none => (next answer).Relays raised?

/-- The last exchange of a transcript raises a fault, and none before it raises any. -/
def StoppedBy
    (raised? : Exchange interface → Option Fault)
    (transcript : List (Exchange interface))
    (fault : Fault) : Prop :=
  ∃ front last, transcript = front ++ [last] ∧ raised? last = some fault ∧
    ∀ exchange ∈ front, raised? exchange = none

variable {raised? : Exchange interface → Option Fault}

/-- A program that relays faults goes on after an exchange that raises none. -/
theorem relays_ask
    {call : interface.Call}
    {next : interface.Answer call → Program interface α}
    (stops : ∀ answer fault, raised? ⟨call, answer⟩ = some fault →
      next answer = .done (.error fault))
    (continues : ∀ answer, raised? ⟨call, answer⟩ = none → (next answer).Relays raised?) :
    (Program.ask call next).Relays raised? := by
  intro answer
  cases raises : raised? ⟨call, answer⟩ with
  | some fault => exact stops answer fault raises
  | none => exact continues answer raises

/-- A program that relays faults goes on after an exchange that can raise none. -/
theorem relays_ask_of_tolerated
    {call : interface.Call}
    {next : interface.Answer call → Program interface α}
    (tolerated : ∀ answer, raised? ⟨call, answer⟩ = none)
    (continues : ∀ answer, (next answer).Relays raised?) :
    (Program.ask call next).Relays raised? := by
  apply relays_ask
  · intro answer fault raises
    rw [tolerated answer] at raises
    cases raises
  · intro answer _
    exact continues answer

/-- A composed program relays faults if its parts do. -/
theorem Relays.bind
    {program : Program interface α}
    {next : α → Program interface β}
    (first : program.Relays raised?)
    (others : ∀ result, (next result).Relays raised?) :
    (program >>= next).Relays raised? := by
  induction program with
  | done outcome =>
      cases outcome with
      | ok result => exact others result
      | error fault => exact first.elim
  | ask call continuation inductionHypothesis =>
      rw [ask_bind]
      apply relays_ask
      · intro answer fault raises
        have stops := first answer
        rw [raises] at stops
        rw [stops, done_error_bind]
      · intro answer raises
        have continues := first answer
        rw [raises] at continues
        exact inductionHypothesis answer continues

namespace StoppedBy

variable {transcript : List (Exchange interface)} {fault : Fault}

/-- An exchange in front that raises no fault changes nothing. -/
theorem cons
    {exchange : Exchange interface}
    (stopped : StoppedBy raised? transcript fault)
    (tolerated : raised? exchange = none) :
    StoppedBy raised? (exchange :: transcript) fault := by
  obtain ⟨front, last, rfl, raises, others⟩ := stopped
  refine ⟨exchange :: front, last, rfl, raises, ?_⟩
  rw [List.forall_mem_cons]
  exact ⟨tolerated, others⟩

/-- The exchange that raises the fault is one of the transcript. -/
theorem exists_mem (stopped : StoppedBy raised? transcript fault) :
    ∃ exchange ∈ transcript, raised? exchange = some fault := by
  obtain ⟨front, last, rfl, raises, -⟩ := stopped
  exact ⟨last, by simp, raises⟩

/-- Only the exchange that stopped the transcript raises a fault. -/
theorem eq_of_mem
    (stopped : StoppedBy raised? transcript fault)
    {exchange : Exchange interface} {other : Fault}
    (member : exchange ∈ transcript)
    (raises : raised? exchange = some other) :
    other = fault := by
  obtain ⟨front, last, rfl, raisesLast, others⟩ := stopped
  rcases List.mem_append.mp member with inFront | isLast
  · rw [others exchange inFront] at raises
    cases raises
  · rw [List.mem_singleton.mp isLast, raisesLast] at raises
    exact (Option.some.inj raises).symm

end StoppedBy

/-- A transcript that ends well raises nothing, and one that fails is stopped by its end. -/
theorem Relays.of_yields
    {program : Program interface α}
    {transcript : List (Exchange interface)}
    {outcome : Except Fault α}
    (relays : program.Relays raised?)
    (yields : program.Yields transcript outcome) :
    (∃ result, outcome = .ok result ∧ ∀ exchange ∈ transcript, raised? exchange = none) ∨
      ∃ fault, outcome = .error fault ∧ StoppedBy raised? transcript fault := by
  induction yields with
  | done outcome =>
      cases outcome with
      | ok result => exact .inl ⟨result, rfl, by simp⟩
      | error fault => exact relays.elim
  | ask call next answer rest outcome follows inductionHypothesis =>
      have here := relays answer
      cases raises : raised? ⟨call, answer⟩ with
      | some fault =>
          rw [raises] at here
          rw [here] at follows
          obtain ⟨rfl, rfl⟩ := yields_done_iff.mp follows
          exact .inr ⟨fault, rfl, [], ⟨call, answer⟩, rfl, raises, by simp⟩
      | none =>
          rw [raises] at here
          rcases inductionHypothesis here with ⟨result, rfl, others⟩ | ⟨fault, rfl, stopped⟩
          · refine .inl ⟨result, rfl, ?_⟩
            rw [List.forall_mem_cons]
            exact ⟨raises, others⟩
          · exact .inr ⟨fault, rfl, stopped.cons raises⟩

end Program
end LifecycleOperator
