import LifecycleOperator.Proofs.Program.Calls
import Mathlib.Algebra.BigOperators.Group.Finset.Piecewise
import Mathlib.Logic.Function.Basic

/-!
# Interleaved programs

Programs that are run at the same time over one state take turns: in each turn one
caller makes its next call, which is answered at once.  A schedule says whose turn it
is.  What each caller asks and is answered is a part of a run of its own program, in
whatever order the turns are taken, so that what is known of one program alone can be
used for each of the callers.
-/

namespace LifecycleOperator
namespace Program

/-- Programs that are run at the same time, over one state. -/
structure Ensemble (interface : Interface) (σ ι α : Type) where
  state : σ
  /-- What is left to do for each caller. -/
  remaining : ι → Program interface α
  /-- The calls so far, each with its caller, in their order. -/
  log : List (ι × Exchange interface)

/-- The calls of one caller, in their order. -/
def callsOf {interface : Interface} {ι : Type} [DecidableEq ι]
    (caller : ι) (log : List (ι × Exchange interface)) : List (Exchange interface) :=
  (log.filter fun entry => entry.1 = caller).map Prod.snd

namespace Ensemble

variable {interface : Interface} {σ ι α : Type} [DecidableEq ι]

/-- No caller has made a call yet. -/
def start (programs : ι → Program interface α) (state : σ) : Ensemble interface σ ι α :=
  ⟨state, programs, []⟩

/-- A caller makes its next call; one that has ended does nothing in its turn. -/
def turn (respond : Responder interface σ) (ensemble : Ensemble interface σ ι α)
    (caller : ι) : Ensemble interface σ ι α :=
  match ensemble.remaining caller with
  | .done _ => ensemble
  | .ask call next =>
      let (answer, after) := respond call ensemble.state
      ⟨after, Function.update ensemble.remaining caller (next answer),
        ensemble.log ++ [(caller, ⟨call, answer⟩)]⟩

/-- Callers take their turns in the order of a schedule. -/
def play (respond : Responder interface σ) (ensemble : Ensemble interface σ ι α)
    (schedule : List ι) : Ensemble interface σ ι α :=
  schedule.foldl (turn respond) ensemble

/-- What holds at the beginning, and after a turn if it held before, holds in the end. -/
theorem play_induction
    {respond : Responder interface σ}
    {ensemble : Ensemble interface σ ι α}
    {motive : List ι → Ensemble interface σ ι α → Prop}
    (start : motive [] ensemble)
    (turn : ∀ schedule middle caller, motive schedule middle →
      motive (schedule ++ [caller]) (middle.turn respond caller))
    (schedule : List ι) :
    motive schedule (ensemble.play respond schedule) := by
  -- From the last turn backwards: a turn is taken from what all earlier ones have left.
  induction schedule using List.reverseRecOn with
  | nil => exact start
  | append_singleton schedule caller inductionHypothesis =>
      have last : ensemble.play respond (schedule ++ [caller]) =
          (ensemble.play respond schedule).turn respond caller := by
        unfold play
        rw [List.foldl_concat]
      rw [last]
      exact turn schedule _ caller inductionHypothesis

end Ensemble

/-! ## One caller among others -/

section Callers

variable {interface : Interface} {σ ι α : Type} [DecidableEq ι]
  {caller other : ι} {exchange : Exchange interface} {log : List (ι × Exchange interface)}

@[simp] theorem callsOf_nil :
    callsOf caller ([] : List (ι × Exchange interface)) = [] := rfl

theorem callsOf_concat_self :
    callsOf caller (log ++ [(caller, exchange)]) = callsOf caller log ++ [exchange] := by
  simp [callsOf]

theorem callsOf_concat_of_ne (different : other ≠ caller) :
    callsOf caller (log ++ [(other, exchange)]) = callsOf caller log := by
  simp [callsOf, different]

/-- The calls of a caller are among all calls. -/
theorem mem_map_of_mem_callsOf (member : exchange ∈ callsOf caller log) :
    exchange ∈ log.map Prod.snd := by
  obtain ⟨entry, kept, rfl⟩ := List.mem_map.mp member
  exact List.mem_map_of_mem (List.mem_filter.mp kept).1

/-- Every call is a call of its caller. -/
theorem mem_callsOf (member : (caller, exchange) ∈ log) : exchange ∈ callsOf caller log := by
  have kept : (caller, exchange) ∈ log.filter fun entry => entry.1 = caller :=
    List.mem_filter.mpr ⟨member, by simp⟩
  exact List.mem_map_of_mem kept

/-- The calls of a kind are those of all the callers together. -/
theorem countP_map_eq_sum
    (counted : Exchange interface → Bool)
    (callers : Finset ι)
    (all : ∀ entry ∈ log, entry.1 ∈ callers) :
    (log.map Prod.snd).countP counted =
      ∑ caller ∈ callers, (callsOf caller log).countP counted := by
  induction log with
  | nil => simp
  | cons entry log inductionHypothesis =>
      obtain ⟨caller, exchange⟩ := entry
      have known : caller ∈ callers := all (caller, exchange) List.mem_cons_self
      have rest := inductionHypothesis fun other member =>
        all other (List.mem_cons_of_mem _ member)
      have head : ∀ other, (callsOf other ((caller, exchange) :: log)).countP counted =
          (callsOf other log).countP counted +
            if caller = other then (if counted exchange then 1 else 0) else 0 := by
        intro other
        by_cases same : caller = other
        · simp [callsOf, same, List.countP_cons]
        · simp [callsOf, same]
      simp only [head, Finset.sum_add_distrib, Finset.sum_ite_eq, known, if_true,
        List.map_cons, List.countP_cons, rest]

/-- What each caller does equally often is done equally often by all together. -/
theorem countP_map_eq_of_callsOf
    {counted countedToo : Exchange interface → Bool}
    (same : ∀ caller,
      (callsOf caller log).countP counted = (callsOf caller log).countP countedToo) :
    (log.map Prod.snd).countP counted = (log.map Prod.snd).countP countedToo := by
  have all : ∀ entry ∈ log, entry.1 ∈ (log.map Prod.fst).toFinset := by
    intro entry member
    exact List.mem_toFinset.mpr (List.mem_map_of_mem member)
  rw [countP_map_eq_sum counted _ all, countP_map_eq_sum countedToo _ all]
  exact Finset.sum_congr rfl fun caller _ => same caller

end Callers

namespace Ensemble

variable {interface : Interface} {σ ι α : Type} [DecidableEq ι]

/-- A turn is a call of its caller, unless this one has ended. -/
theorem length_callsOf_turn
    (respond : Responder interface σ) {ensemble : Ensemble interface σ ι α}
    {turns : List ι} {caller : ι} (other : ι)
    (counted : (∃ outcome, ensemble.remaining caller = .done outcome) ∨
      (callsOf caller ensemble.log).length = turns.count caller) :
    (∃ outcome, (ensemble.turn respond other).remaining caller = .done outcome) ∨
      (callsOf caller (ensemble.turn respond other).log).length =
        (turns ++ [other]).count caller := by
  unfold turn
  by_cases same : other = caller
  · subst same
    cases next : ensemble.remaining other with
    | done outcome => exact .inl ⟨outcome, next⟩
    | ask call continuation =>
        rcases counted with ⟨outcome, ended⟩ | equal
        · rw [next] at ended
          cases ended
        · right
          simp [callsOf_concat_self, equal]
  · have turnsOf : (turns ++ [other]).count caller = turns.count caller := by
      simp [List.count_append, same]
    rw [turnsOf]
    cases next : ensemble.remaining other with
    | done outcome => exact counted
    | ask call continuation =>
        simp only [Function.update_of_ne (Ne.symm same), callsOf_concat_of_ne same]
        exact counted

variable (respond : Responder interface σ) (programs : ι → Program interface α)
  (state : σ) (schedule : List ι)

/-- Every caller is on the way of its own program. -/
theorem leads_play (caller : ι) :
    let last := (start programs state).play respond schedule
    (programs caller).Leads (callsOf caller last.log) (last.remaining caller) := by
  refine play_induction (motive := fun _ ensemble =>
    (programs caller).Leads (callsOf caller ensemble.log) (ensemble.remaining caller))
    (.here _) ?_ schedule
  intro _ middle other leads
  unfold turn
  cases next : middle.remaining other with
  | done outcome => exact leads
  | ask call continuation =>
      by_cases same : other = caller
      · subst same
        rw [next] at leads
        simp only [Function.update_self, callsOf_concat_self]
        exact leads.concat _
      · simp only [Function.update_of_ne (Ne.symm same), callsOf_concat_of_ne same]
        exact leads

/-- A caller that has not ended has made a call in each of its turns. -/
theorem length_callsOf_play (caller : ι) :
    let last := (start programs state).play respond schedule
    (∃ outcome, last.remaining caller = .done outcome) ∨
      (callsOf caller last.log).length = schedule.count caller := by
  refine play_induction (motive := fun schedule ensemble =>
    (∃ outcome, ensemble.remaining caller = .done outcome) ∨
      (callsOf caller ensemble.log).length = schedule.count caller)
    (.inr rfl) ?_ schedule
  intro turns middle other counted
  exact length_callsOf_turn respond other counted

/-- A caller that has had enough turns has ended. -/
theorem ended_of_le_count
    {caller : ι} {calls : Nat}
    (ends : (programs caller).EndsWithin calls)
    (enough : calls ≤ schedule.count caller) :
    ∃ outcome,
      ((start programs state).play respond schedule).remaining caller = .done outcome := by
  have leads : (programs caller).Leads _
      (((start programs state).play respond schedule).remaining caller) :=
    leads_play respond programs state schedule caller
  have turns : (∃ outcome,
      ((start programs state).play respond schedule).remaining caller = .done outcome) ∨
        _ = schedule.count caller :=
    length_callsOf_play respond programs state schedule caller
  rcases turns with ended | equal
  · exact ended
  · cases next : ((start programs state).play respond schedule).remaining caller with
    | done outcome => exact ⟨outcome, rfl⟩
    | ask call continuation =>
        rw [next] at leads
        have fewer := leads.length_lt ends
        omega

/-- What holds of all answers to permitted calls holds of all calls that are made. -/
theorem forall_mem_log
    {property : Exchange interface → Prop}
    (answers : ∀ call state, property ⟨call, (respond call state).1⟩) :
    ∀ entry ∈ ((start programs state).play respond schedule).log, property entry.2 := by
  refine play_induction (motive := fun _ ensemble =>
    ∀ entry ∈ ensemble.log, property entry.2) (by simp [start]) ?_ schedule
  intro _ middle caller holds
  unfold turn
  cases next : middle.remaining caller with
  | done outcome => exact holds
  | ask call continuation =>
      intro entry member
      rcases List.mem_append.mp member with before | isLast
      · exact holds entry before
      · rw [List.mem_singleton.mp isLast]
        exact answers call middle.state

end Ensemble
end Program
end LifecycleOperator
