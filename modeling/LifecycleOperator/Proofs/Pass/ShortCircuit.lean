import LifecycleOperator.Pass.Progress
import LifecycleOperator.Program.Basic

/-!
# Steps in sequence

Steps are taken one after the other, each where the one before left things, up to the
first one that is not complete.  A step may do anything to what it works on, and how it
ends may depend on all that was done before it.  That no step is taken twice, or behind the
one that ends the sequence, is seen by steps that note down when they are taken.

The steps of a rollout are programs.  Put in sequence they are run like the steps that
running each of them amounts to, whatever answers them.
-/

namespace LifecycleOperator

/-- Work on a store; it leaves a store behind, whether it succeeds or fails. -/
abbrev Work (ε σ : Type) : Type → Type := ExceptT ε (StateM σ)

/-- A step is work that says whether there is anything left to wait for. -/
abbrev Step (ε σ : Type) : Type := Work ε σ Progress

variable {ε σ : Type}

namespace Work

variable {α β : Type}

/-- The work that is given by how it ends, and what it leaves behind, at each store. -/
def ofTake (behavior : σ → Except ε α × σ) : Work ε σ α := ExceptT.mk behavior

/-- How work ends that is taken up at a store, and what store it leaves behind. -/
def take (work : Work ε σ α) (store : σ) : Except ε α × σ := (work.run.run store).run

@[simp] theorem take_ofTake (behavior : σ → Except ε α × σ) (store : σ) :
    (ofTake behavior).take store = behavior store := rfl

@[simp] theorem take_pure (result : α) (store : σ) :
    (pure result : Work ε σ α).take store = (.ok result, store) := rfl

/-- Work that follows other work is taken up where that one succeeds, at the store it leaves. -/
theorem take_bind (work : Work ε σ α) (next : α → Work ε σ β) (store : σ) :
    (work >>= next).take store =
      match work.take store with
      | (.ok result, left) => (next result).take left
      | (.error fault, left) => (.error fault, left) := by
  have first : work.run.run store = work.take store := rfl
  rw [take, ExceptT.run_bind, StateT.run_bind, first]
  rcases work.take store with ⟨ending, left⟩
  cases ending <;> rfl

/-- Work is what it does at each store. -/
theorem ext {work other : Work ε σ α} (same : ∀ store, work.take store = other.take store) :
    work = other :=
  funext same

end Work

namespace Step

/-- Whether a step has ended, and has nothing left to wait for. -/
def isComplete : Except ε Progress → Bool
  | .ok .complete => true
  | _ => false

/-- The step that notes down, next to the notes before, itself and the store that it finds. -/
def noting (step : Step ε σ) : Step ε (σ × List (Step ε σ × σ)) :=
  Work.ofTake fun (store, notes) =>
    let (ending, left) := Work.take step store
    (ending, left, notes ++ [(step, store)])

/--
The step that a program amounts to, run against what answers it.  It works on the state of
what answers, and on the transcript so far.
-/
def ofProgram {interface : Interface} (respond : Program.Responder interface σ)
    (program : Program interface Progress) :
    Step Fault (σ × List (Program.Exchange interface)) :=
  Work.ofTake fun (state, transcript) =>
    let run := program.run respond state
    (run.outcome, run.state, transcript ++ run.transcript)

/-- The steps of a list, each with the store that it finds where all those before it left it. -/
def encounters : List (Step ε σ) → σ → List (Step ε σ × σ)
  | [], _ => []
  | step :: rest, store => (step, store) :: encounters rest (Work.take step store).2

/-- The place of the first step that is not complete; the number of all if there is none. -/
def stop (steps : List (Step ε σ)) (store : σ) : Nat :=
  (encounters steps store).findIdx fun (step, found) => !isComplete (Work.take step found).1

/-- What steps leave behind that are all taken. -/
def leave (steps : List (Step ε σ)) (store : σ) : σ :=
  steps.foldl (fun found step => (Work.take step found).2) store

end Step

namespace Progress

open Step Work

/-! ## One step -/

section OneStep

variable (steps : List (Step ε σ)) {step : Step ε σ} {store left : σ}

/-- A step is complete, or it ends the sequence. -/
theorem complete_or_not (step : Step ε σ) (store : σ) :
    (∃ left, take step store = (.ok .complete, left)) ∨
      isComplete (take step store).1 = false := by
  rcases take step store with ⟨ending, left⟩
  cases ending with
  | error fault => exact .inr rfl
  | ok progress =>
      cases progress with
      | complete => exact .inl ⟨left, rfl⟩
      | requeue => exact .inr rfl

/-- A step that is complete is followed by the others. -/
theorem take_sequence_of_complete (complete : take step store = (.ok .complete, left)) :
    take (sequence (step :: steps)) store = take (sequence steps) left := by
  rw [sequence, take_bind, complete]

/-- A step that is not complete is followed by no other. -/
theorem take_sequence_of_not_complete (ends : isComplete (take step store).1 = false) :
    take (sequence (step :: steps)) store = take step store := by
  rw [sequence, take_bind]
  revert ends
  rcases take step store with ⟨ending, left⟩
  intro ends
  cases ending with
  | error fault => rfl
  | ok progress =>
      cases progress with
      | complete => cases ends
      | requeue => rfl

theorem stop_of_complete (complete : take step store = (.ok .complete, left)) :
    stop (step :: steps) store = stop steps left + 1 := by
  simp [stop, encounters, List.findIdx_cons, complete, isComplete]

theorem stop_of_not_complete (ends : isComplete (take step store).1 = false) :
    stop (step :: steps) store = 0 := by
  simp [stop, encounters, List.findIdx_cons, ends]

end OneStep

/-! ## All steps -/

/-- What happens in a sequence of steps that is taken at a store. -/
structure ShortCircuits (steps : List (Step ε σ)) (store : σ) : Prop where
  /--
  The steps up to the first one that is not complete are taken, each once and in their
  order, where the one before left the store; no other step is taken.
  -/
  takes : (take (sequence (steps.map noting)) (store, [])).2.2 =
    (encounters steps store).take (stop steps store + 1)
  /-- Taking notes makes no difference to anything else. -/
  unnoticed : (take (sequence (steps.map noting)) (store, [])).1 =
      (take (sequence steps) store).1 ∧
    (take (sequence (steps.map noting)) (store, [])).2.1 = (take (sequence steps) store).2
  /-- The first step that is not complete decides how all ends, and what is left behind. -/
  ends : ∀ step found, (encounters steps store)[stop steps store]? = some (step, found) →
    take (sequence steps) store = take step found
  /-- If there is none, all is complete. -/
  completes : (encounters steps store)[stop steps store]? = none →
    take (sequence steps) store = (.ok .complete, leave steps store)

/-- Steps that take notes note down what is taken, behind the notes before. -/
theorem take_sequence_noting
    (steps : List (Step ε σ)) (store : σ) (notes : List (Step ε σ × σ)) :
    take (sequence (steps.map noting)) (store, notes) =
      ((take (sequence steps) store).1, (take (sequence steps) store).2,
        notes ++ (encounters steps store).take (stop steps store + 1)) := by
  -- A later step finds the notes of all those before it, not none at all.
  induction steps generalizing store notes with
  | nil => simp [encounters, sequence]
  | cons step rest inductionHypothesis =>
      rw [List.map_cons]
      rcases complete_or_not step store with ⟨left, complete⟩ | ends
      · have noted : take step.noting (store, notes) =
            (.ok .complete, left, notes ++ [(step, store)]) := by
          simp only [noting, take_ofTake, complete]
        rw [take_sequence_of_complete _ noted, take_sequence_of_complete _ complete,
          inductionHypothesis, stop_of_complete _ complete]
        simp [encounters, complete]
      · have noted : isComplete (take step.noting (store, notes)).1 = false := ends
        rw [take_sequence_of_not_complete _ noted, take_sequence_of_not_complete _ ends,
          stop_of_not_complete _ ends]
        rfl

/-- The sequence ends as the first step does that is not complete, if there is one. -/
theorem take_sequence_eq (steps : List (Step ε σ)) (store : σ) :
    take (sequence steps) store =
      match (encounters steps store)[stop steps store]? with
      | some (step, found) => take step found
      | none => (.ok .complete, leave steps store) := by
  induction steps generalizing store with
  | nil => rfl
  | cons head rest inductionHypothesis =>
      rcases complete_or_not head store with ⟨left, complete⟩ | ends
      · rw [take_sequence_of_complete _ complete, inductionHypothesis, stop_of_complete _ complete,
          encounters, List.getElem?_cons_succ, complete, leave, leave, List.foldl_cons, complete]
      · rw [take_sequence_of_not_complete _ ends, stop_of_not_complete _ ends, encounters,
          List.getElem?_cons_zero]

/-- Behind steps that are put in sequence, others are taken if those are complete. -/
theorem sequence_append
    {m : Type → Type} [Monad m] [LawfulMonad m] (first second : List (m Progress)) :
    sequence (first ++ second) =
      sequence first >>= fun
        | .complete => sequence second
        | .requeue => pure .requeue := by
  induction first with
  | nil => simp [sequence]
  | cons step first inductionHypothesis =>
      rw [List.cons_append, sequence, sequence, bind_assoc]
      refine bind_congr fun progress => ?_
      cases progress with
      | complete => exact inductionHypothesis
      | requeue => simp

/-- Programs in sequence are run like the steps that they amount to. -/
theorem sequence_map_ofProgram
    {interface : Interface} (respond : Program.Responder interface σ)
    (programs : List (Program interface Progress)) :
    sequence (programs.map (ofProgram respond)) = ofProgram respond (sequence programs) := by
  refine Work.ext fun (state, transcript) => ?_
  induction programs generalizing state transcript with
  | nil => simp [ofProgram, sequence]
  | cons program rest inductionHypothesis =>
      rw [List.map_cons, sequence, sequence, take_bind]
      simp only [ofProgram, take_ofTake, Program.run_bind] at inductionHypothesis ⊢
      cases (program.run respond state).outcome with
      | error fault => rfl
      | ok progress =>
          cases progress with
          | complete => simp [inductionHypothesis]
          | requeue => simp

/--
Steps in sequence, of whatever kind and wherever they are taken, are taken up to the first
one that is not complete; those of a second list are taken just if those of the first list
are complete.  The same holds of programs, whatever answers them.
-/
theorem sequence_shortCircuits :
    (∀ {ε σ : Type} (steps : List (Step ε σ)) (store : σ), ShortCircuits steps store) ∧
      (∀ {ε σ : Type} (first second : List (Step ε σ)),
        sequence (first ++ second) =
          sequence first >>= fun
            | .complete => sequence second
            | .requeue => pure .requeue) ∧
      ∀ {interface : Interface} {σ : Type} (respond : Program.Responder interface σ)
        (programs : List (Program interface Progress)),
        sequence (programs.map (ofProgram respond)) =
          ofProgram respond (sequence programs) := by
  refine ⟨fun steps store => ?_, fun first second => sequence_append first second,
    fun respond programs => sequence_map_ofProgram respond programs⟩
  have noted := take_sequence_noting steps store []
  constructor
  · rw [noted, List.nil_append]
  · rw [noted]
    exact ⟨rfl, rfl⟩
  · intro step found stops
    rw [take_sequence_eq, stops]
  · intro passes
    rw [take_sequence_eq, passes]

end Progress
end LifecycleOperator
