import LifecycleOperator.Controller.Basic
import LifecycleOperator.Proofs.Store.Outside
import Mathlib.Data.List.Induction

/-!
# Visits

A visit is one pass that the controller makes over an installation, with all that the
pass asked for and was answered.  Nothing is assumed of the answers, nor of what happens
to the cluster between two visits, so that a statement about every list of visits covers
every way in which passes can succeed and fail, over whatever installations.

What the controller has counted after some visits is told from the visits, one by one.
-/

namespace LifecycleOperator
namespace Controller

/-- A pass over an installation, as it went. -/
structure Visit where
  installation : Installation
  transcript : List Pass.Exchange
  outcome : Except Fault Phase
  passes : (Pass.visit installation).Yields transcript outcome

namespace Visit

/-- The visit that is made in a world outside. -/
def ofRun (outside : Outside) (installation : Installation) (store : Store) : Visit where
  installation := installation
  transcript := (outside.perform (Pass.visit installation) store).transcript
  outcome := (outside.perform (Pass.visit installation) store).outcome
  passes := Store.yields_perform outside (Pass.visit installation) store

/-- The labels under which the health of the installation is kept. -/
def labels (visit : Visit) : InstanceLabels := Metrics.instanceLabels visit.installation

/-- The health that a visit has reported. -/
def reported? (visit : Visit) : Option Bool :=
  match visit.outcome with
  | .ok (.steady isHealthy) => some isHealthy
  | _ => none

end Visit

/-- A turn of the controller in which the pass goes this way. -/
def Takes (controller : Controller) (visit : Visit) (after : Controller) : Prop :=
  ∃ exchanges, (controller.turn visit.installation).Yields exchanges
    (.ok (visit.outcome, after))

/-- What is asked for in a turn, one after the other. -/
theorem turn_eq (controller : Controller) (installation : Installation) :
    controller.turn installation =
      .ask .now fun start =>
      .ask (.present (controller.started ⟨start⟩).diagnostics) fun _ =>
      .ask (.pass installation) fun outcome =>
      .ask .now fun finish =>
      let ended := (controller.started ⟨start⟩).ended installation
        ((finish - start) / millisecond) outcome
      .ask (.present ended.diagnostics) fun _ => .done (.ok (outcome, ended)) := rfl

/-- A turn counts the pass, whenever it begins and ends. -/
theorem takes_iff {controller after : Controller} {visit : Visit} :
    controller.Takes visit after ↔
      ∃ start finish, after = (controller.started ⟨start⟩).ended visit.installation
        ((finish - start) / millisecond) visit.outcome := by
  unfold Takes
  rw [turn_eq]
  constructor
  · rintro ⟨exchanges, yields⟩
    obtain ⟨start, rest, -, yields⟩ := Program.yields_ask_iff.mp yields
    obtain ⟨-, rest, -, yields⟩ := Program.yields_ask_iff.mp yields
    obtain ⟨outcome, rest, -, yields⟩ := Program.yields_ask_iff.mp yields
    obtain ⟨finish, rest, -, yields⟩ := Program.yields_ask_iff.mp yields
    obtain ⟨-, rest, -, yields⟩ := Program.yields_ask_iff.mp yields
    obtain ⟨-, ends⟩ := Program.yields_done_iff.mp yields
    simp only [Except.ok.injEq, Prod.mk.injEq] at ends
    obtain ⟨rfl, rfl⟩ := ends
    exact ⟨start, finish, rfl⟩
  · rintro ⟨start, finish, rfl⟩
    exact ⟨_, .ask _ _ start _ _ (.ask _ _ () _ _ (.ask _ _ visit.outcome _ _
      (.ask _ _ finish _ _ (.ask _ _ () _ _ (.done _)))))⟩

/-- A controller has made these visits, one after the other. -/
inductive Visits (first : Controller) : List Visit → Controller → Prop
  | none : Visits first [] first
  | next {visits : List Visit} {middle last : Controller} (visit : Visit)
      (before : Visits first visits middle) (takes : middle.Takes visit last) :
      Visits first (visits ++ [visit]) last

/-- Visits can be made in any order, whatever the controller has done before. -/
theorem exists_visits (first : Controller) (visits : List Visit) :
    ∃ last, Visits first visits last := by
  induction visits using List.reverseRecOn with
  | nil => exact ⟨first, .none⟩
  | append_singleton visits visit inductionHypothesis =>
      obtain ⟨middle, before⟩ := inductionHypothesis
      exact ⟨_, .next visit before (takes_iff.mpr ⟨0, 0, rfl⟩)⟩

/-- What is counted in a turn. -/
theorem Takes.metrics
    {controller after : Controller} {visit : Visit}
    (takes : controller.Takes visit after) :
    ∃ milliseconds, after.diagnostics.metrics =
      count visit.installation (controller.diagnostics.metrics.started.ended milliseconds 0)
        visit.outcome := by
  obtain ⟨start, finish, rfl⟩ := takes_iff.mp takes
  exact ⟨(finish - start) / millisecond, rfl⟩

/-- A visit sets the gauge of its installation when it reports a health. -/
theorem healthy_count (visit : Visit) (metrics : Metrics) :
    (count visit.installation metrics visit.outcome).healthy =
      match visit.reported? with
      | some isHealthy => metrics.healthy.set visit.labels isHealthy
      | none => metrics.healthy := by
  unfold Visit.reported?
  match visit.outcome with
  | .ok (.steady isHealthy) => rfl
  | .ok .gone | .ok .jobCreated | .ok .jobRunning | .ok (.rollout _) | .error _ => rfl

end Controller
end LifecycleOperator
