import LifecycleOperator.Proofs.Program.Interleaving

/-!
# Callers that keep to their regions

A state that falls into regions is shared without harm by callers that keep apart: if
the calls of each caller belong to a region of its own, are answered by what lies in
this region, and leave what lies in others alone, then no caller notices the others.
Whatever the order of their turns, each goes through the very run that it would go
through alone, and leaves its region as it would leave it alone.

The invariant is about what is left to do: at any time, running the rest of a caller
alone from the present state completes the run that it would have had alone from the
beginning.
-/

namespace LifecycleOperator
namespace Program

variable {interface : Interface} {σ ι α ρ : Type}

/--
Answers to the calls of a region are given by what lies in it, and change nothing that
lies in another one.
-/
structure Regional
    (respond : ι → Responder interface σ)
    (belongs : ρ → interface.Call → Prop)
    (alike : ρ → σ → σ → Prop) : Prop where
  equivalence : ∀ region, Equivalence (alike region)
  answers : ∀ {region call}, belongs region call →
    ∀ {state other}, alike region state other → ∀ caller,
      (respond caller call state).1 = (respond caller call other).1
  follows : ∀ {region call}, belongs region call →
    ∀ {state other}, alike region state other → ∀ caller,
      alike region (respond caller call state).2 (respond caller call other).2
  spares : ∀ {region elsewhere call}, belongs region call → elsewhere ≠ region →
    ∀ caller state, alike elsewhere state (respond caller call state).2

/-- All calls of a run belong to a region. -/
def Run.KeepsTo (belongs : ρ → interface.Call → Prop) (region : ρ)
    (run : Run interface σ α) : Prop :=
  ∀ exchange ∈ run.transcript, belongs region exchange.call

/-- The first call of a run that keeps to a region belongs to it, and the rest keeps to it. -/
theorem keepsTo_ask
    {respond : Responder interface σ} {belongs : ρ → interface.Call → Prop} {region : ρ}
    {state : σ} {call : interface.Call}
    {next : interface.Answer call → Program interface α} :
    ((Program.ask call next).run respond state).KeepsTo belongs region ↔
      belongs region call ∧
        ((next (respond call state).1).run respond (respond call state).2).KeepsTo belongs
          region := by
  simp [Run.KeepsTo]

section Runs

variable {respond : ι → Responder interface σ} {belongs : ρ → interface.Call → Prop}
  {alike : ρ → σ → σ → Prop} {region elsewhere : ρ} {caller : ι}
  {program : Program interface α} {state other : σ}

/-- A program that asks only for what belongs to a region keeps to it. -/
theorem Asks.keepsTo
    (asks : program.Asks (belongs region)) (respond : Responder interface σ) (state : σ) :
    (program.run respond state).KeepsTo belongs region :=
  (run_yields respond program state).leads.asks asks

namespace Regional

variable (regional : Regional respond belongs alike)

include regional

/-- A run that keeps to a region sees nothing of the state but this region. -/
theorem run_eq
    (caller : ι)
    (keeps : (program.run (respond caller) state).KeepsTo belongs region)
    (same : alike region state other) :
    (program.run (respond caller) other).outcome =
        (program.run (respond caller) state).outcome ∧
      (program.run (respond caller) other).transcript =
        (program.run (respond caller) state).transcript ∧
      alike region (program.run (respond caller) other).state
        (program.run (respond caller) state).state := by
  induction program generalizing state other with
  | done outcome => exact ⟨rfl, rfl, (regional.equivalence region).symm same⟩
  | ask call next inductionHypothesis =>
      obtain ⟨member, rest⟩ := keepsTo_ask.mp keeps
      have answered := regional.answers member same caller
      have after := regional.follows member same caller
      simp only [run_ask, ← answered]
      obtain ⟨outcome, transcript, last⟩ := inductionHypothesis _ rest after
      exact ⟨outcome, by rw [transcript], last⟩

/-- A run that keeps to a region leaves all others as they are. -/
theorem run_spares
    (caller : ι)
    (keeps : (program.run (respond caller) state).KeepsTo belongs region)
    (different : elsewhere ≠ region) :
    alike elsewhere state (program.run (respond caller) state).state := by
  induction program generalizing state with
  | done outcome => exact (regional.equivalence elsewhere).refl state
  | ask call next inductionHypothesis =>
      obtain ⟨member, rest⟩ := keepsTo_ask.mp keeps
      have first := regional.spares member different caller state
      exact (regional.equivalence elsewhere).trans first (inductionHypothesis _ rest)

/-- A run that keeps to its region is the same after a run that keeps to another one. -/
theorem run_after
    (caller earlier : ι) {before : Program interface α}
    (keeps : (program.run (respond caller) state).KeepsTo belongs region)
    (keepsBefore : (before.run (respond earlier) state).KeepsTo belongs elsewhere)
    (apart : region ≠ elsewhere) :
    let after := program.run (respond caller) (before.run (respond earlier) state).state
    after.outcome = (program.run (respond caller) state).outcome ∧
      after.transcript = (program.run (respond caller) state).transcript ∧
      alike region after.state (program.run (respond caller) state).state :=
  regional.run_eq caller keeps (regional.run_spares earlier keepsBefore apart)

end Regional
end Runs

/-! ## Taking turns -/

namespace Ensemble

variable [DecidableEq ι]

/-- Callers take their turns in the order of a schedule, each answered in its own way. -/
def playEach (respond : ι → Responder interface σ) (ensemble : Ensemble interface σ ι α)
    (schedule : List ι) : Ensemble interface σ ι α :=
  schedule.foldl (fun middle caller => middle.turn (respond caller) caller) ensemble

/-- The last turn is taken from what all earlier ones have left. -/
theorem playEach_concat
    (respond : ι → Responder interface σ) (ensemble : Ensemble interface σ ι α)
    (schedule : List ι) (caller : ι) :
    ensemble.playEach respond (schedule ++ [caller]) =
      (ensemble.playEach respond schedule).turn (respond caller) caller :=
  List.foldl_concat ..

/--
Running what is left to do for a caller completes the run that it would have had alone.
-/
structure OnTrack (respond : ι → Responder interface σ) (alike : σ → σ → Prop)
    (caller : ι) (alone : Run interface σ α) (ensemble : Ensemble interface σ ι α) :
    Prop where
  outcome :
    ((ensemble.remaining caller).run (respond caller) ensemble.state).outcome = alone.outcome
  transcript :
    callsOf caller ensemble.log ++
      ((ensemble.remaining caller).run (respond caller) ensemble.state).transcript =
        alone.transcript
  state :
    alike ((ensemble.remaining caller).run (respond caller) ensemble.state).state alone.state

namespace OnTrack

variable {respond : ι → Responder interface σ} {belongs : ρ → interface.Call → Prop}
  {alike : ρ → σ → σ → Prop} {region elsewhere : ρ} {caller other : ι}
  {alone : Run interface σ α} {ensemble : Ensemble interface σ ι α}

/-- What is left to do for a caller keeps to its region if its run alone does. -/
theorem keepsTo
    (onTrack : ensemble.OnTrack respond (alike region) caller alone)
    (keeps : alone.KeepsTo belongs region) :
    ((ensemble.remaining caller).run (respond caller) ensemble.state).KeepsTo belongs
      region := by
  intro exchange member
  apply keeps
  rw [← onTrack.transcript]
  exact List.mem_append_right _ member

/-- The calls of a caller are the first ones of its run alone. -/
theorem begins_callsOf
    (onTrack : ensemble.OnTrack respond (alike region) caller alone) :
    callsOf caller ensemble.log <+: alone.transcript :=
  ⟨_, onTrack.transcript⟩

/-- A caller that has ended has gone through the whole of its run alone. -/
theorem of_ended
    {outcome : Except Fault α}
    (onTrack : ensemble.OnTrack respond (alike region) caller alone)
    (ended : ensemble.remaining caller = .done outcome) :
    outcome = alone.outcome ∧ callsOf caller ensemble.log = alone.transcript ∧
      alike region ensemble.state alone.state := by
  obtain ⟨same, transcript, last⟩ := onTrack
  rw [ended] at same transcript last
  rw [run_done, List.append_nil] at transcript
  exact ⟨same, transcript, last⟩

/-- A caller that has made all the calls of its run alone has ended. -/
theorem ended_of_length_le
    (onTrack : ensemble.OnTrack respond (alike region) caller alone)
    (all : alone.transcript.length ≤ (callsOf caller ensemble.log).length) :
    ensemble.remaining caller = .done alone.outcome := by
  cases left : ensemble.remaining caller with
  | done outcome => rw [(onTrack.of_ended left).1]
  | ask call next =>
      have length := congrArg List.length onTrack.transcript
      rw [left, run_ask, List.length_append, List.length_cons] at length
      omega

/-- A turn of its own takes a caller one call further on its run alone. -/
theorem turn_self
    (onTrack : ensemble.OnTrack respond (alike region) caller alone) :
    (ensemble.turn (respond caller) caller).OnTrack respond (alike region) caller alone := by
  unfold turn
  cases left : ensemble.remaining caller with
  | done outcome => exact onTrack
  | ask call next =>
      obtain ⟨outcome, transcript, state⟩ := onTrack
      rw [left] at outcome transcript state
      constructor
      · simpa using outcome
      · simpa [callsOf_concat_self] using transcript
      · simpa using state

/-- A turn of another caller, whose calls belong to another region, is not noticed. -/
theorem turn_other
    (regional : Regional respond belongs alike)
    (onTrack : ensemble.OnTrack respond (alike region) caller alone)
    (keeps : alone.KeepsTo belongs region)
    (others : ((ensemble.remaining other).run (respond other) ensemble.state).KeepsTo
      belongs elsewhere)
    (apart : region ≠ elsewhere)
    (different : other ≠ caller) :
    (ensemble.turn (respond other) other).OnTrack respond (alike region) caller alone := by
  unfold turn
  cases left : ensemble.remaining other with
  | done outcome => exact onTrack
  | ask call next =>
      rw [left, keepsTo_ask] at others
      have unnoticed := regional.spares others.1 apart other ensemble.state
      obtain ⟨outcome, transcript, state⟩ :=
        regional.run_eq caller (onTrack.keepsTo keeps) unnoticed
      constructor
      · simpa [Function.update_of_ne (Ne.symm different)] using
          outcome.trans onTrack.outcome
      · simpa [Function.update_of_ne (Ne.symm different), callsOf_concat_of_ne different,
          transcript] using onTrack.transcript
      · simpa [Function.update_of_ne (Ne.symm different)] using
          (regional.equivalence region).trans state onTrack.state

end OnTrack

section Play

variable {respond : ι → Responder interface σ} {belongs : ρ → interface.Call → Prop}
  {alike : ρ → σ → σ → Prop} {home : ι → ρ} {programs : ι → Program interface α} {state : σ}

/-- Callers that keep to regions of their own stay on track. -/
theorem onTrack_play
    (regional : Regional respond belongs alike)
    (apart : Function.Injective home)
    (keeps : ∀ caller,
      ((programs caller).run (respond caller) state).KeepsTo belongs (home caller))
    (schedule : List ι) (caller : ι) :
    ((start programs state).playEach respond schedule).OnTrack respond (alike (home caller))
      caller ((programs caller).run (respond caller) state) := by
  induction schedule using List.reverseRecOn generalizing caller with
  | nil => exact ⟨rfl, rfl, (regional.equivalence _).refl _⟩
  | append_singleton schedule active inductionHypothesis =>
      rw [playEach_concat]
      by_cases same : active = caller
      · subst same
        exact (inductionHypothesis active).turn_self
      · have others := (inductionHypothesis active).keepsTo (keeps active)
        refine (inductionHypothesis caller).turn_other regional (keeps caller) others ?_ same
        exact fun equal => same (apart equal.symm)

/-- A region that is the home of no caller stays as it is. -/
theorem untouched_play
    (regional : Regional respond belongs alike)
    (apart : Function.Injective home)
    (keeps : ∀ caller,
      ((programs caller).run (respond caller) state).KeepsTo belongs (home caller))
    (schedule : List ι)
    {region : ρ} (foreign : ∀ caller, region ≠ home caller) :
    alike region state ((start programs state).playEach respond schedule).state := by
  induction schedule using List.reverseRecOn with
  | nil => exact (regional.equivalence region).refl state
  | append_singleton schedule caller inductionHypothesis =>
      have left := (onTrack_play regional apart keeps schedule caller).keepsTo (keeps caller)
      rw [playEach_concat]
      refine (regional.equivalence region).trans inductionHypothesis ?_
      unfold turn
      cases next : ((start programs state).playEach respond schedule).remaining caller with
      | done outcome => exact (regional.equivalence region).refl _
      | ask call continuation =>
          rw [next, keepsTo_ask] at left
          exact regional.spares left.1 (foreign caller) caller _

/-- A caller that has not ended has made a call in each of its turns. -/
theorem length_callsOf_playEach
    (respond : ι → Responder interface σ) (schedule : List ι) (caller : ι) :
    (∃ outcome,
      ((start programs state).playEach respond schedule).remaining caller = .done outcome) ∨
    (callsOf caller ((start programs state).playEach respond schedule).log).length =
      schedule.count caller := by
  induction schedule using List.reverseRecOn with
  | nil => exact .inr rfl
  | append_singleton schedule active inductionHypothesis =>
      rw [playEach_concat]
      exact length_callsOf_turn (respond active) active inductionHypothesis

/-- A caller that has had a turn for each call of its run alone has ended as it would alone. -/
theorem ended_play
    (regional : Regional respond belongs alike)
    (apart : Function.Injective home)
    (keeps : ∀ caller,
      ((programs caller).run (respond caller) state).KeepsTo belongs (home caller))
    {schedule : List ι} {caller : ι}
    (enough : ((programs caller).run (respond caller) state).transcript.length ≤
      schedule.count caller) :
    ((start programs state).playEach respond schedule).remaining caller =
      .done ((programs caller).run (respond caller) state).outcome := by
  have onTrack := onTrack_play regional apart keeps schedule caller
  rcases length_callsOf_playEach respond schedule caller with
    ⟨outcome, ended⟩ | length
  · rw [ended, (onTrack.of_ended ended).1]
  · apply onTrack.ended_of_length_le
    omega

end Play
end Ensemble
end Program
end LifecycleOperator
