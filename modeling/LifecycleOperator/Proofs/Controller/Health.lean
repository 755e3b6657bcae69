import LifecycleOperator.Metrics.Exposition
import LifecycleOperator.Proofs.Controller.Visits
import LifecycleOperator.Proofs.Metrics.Family
import LifecycleOperator.Proofs.Pass.Provenance

/-!
# What the health gauge shows

A pass that follows the health of an installation probes it, sets its status, and only
then ends in the phase from which the gauge of the installation is set.  If the status
cannot be set the pass fails, and the gauge stays as it was, although the probe has told
the health.  So the gauge shows what the latest pass reported that set a status, which is
not always what the latest probe has told.
-/

namespace LifecycleOperator
namespace Pass

/-! ## What a pass is told and what it reports -/

/-- The health that a probe has told. -/
def Exchange.probed? : Exchange → Option Bool
  | ⟨.probe, .ok isHealthy⟩ => some isHealthy
  | _ => none

/-- The health that was told in the course of a transcript. -/
def probed? (transcript : List Exchange) : Option Bool :=
  transcript.findSome? Exchange.probed?

theorem probed?_eq_none
    {transcript : List Exchange}
    (unprobed : ∀ exchange ∈ transcript, exchange.call ≠ .probe) :
    probed? transcript = none := by
  refine List.findSome?_eq_none_iff.mpr ?_
  intro exchange member
  have other := unprobed exchange member
  match exchange with
  | ⟨.probe, _⟩ => exact absurd rfl other
  | ⟨.cluster _, _⟩ | ⟨.fetchRelease _, _⟩ => rfl

/-- A pass that installs something does not probe. -/
theorem Installing.unprobed
    {namespaceName name : String} {transcript : List Exchange}
    {outcome : Except Fault Phase}
    (installing : Installing namespaceName name transcript outcome) :
    ∀ exchange ∈ transcript, exchange.call ≠ .probe := by
  obtain ⟨installation, manifest, rest, rfl, asks⟩ := installing.opens
  refine List.forall_mem_append.mpr ⟨forall_mem_opening ?_ ?_ ?_, ?_⟩
  · simp [found]
  · simp [markerLookup]
  · simp
  · intro exchange member same
    have cluster := asks exchange member
    rw [same] at cluster
    cases cluster

/--
A pass that is told no health reports none; one that is told the health then sets the
status, and reports what it was told unless that fails.
-/
theorem probed?_cases
    {namespaceName name : String} {transcript : List Exchange}
    {outcome : Except Fault Phase}
    (yields : (reconcile namespaceName name).Yields transcript outcome) :
    (probed? transcript = none ∧ ∀ isHealthy, outcome ≠ .ok (.steady isHealthy)) ∨
    ∃ isHealthy answer, probed? transcript = some isHealthy ∧
      ⟨.cluster (.patchStatus namespaceName name ⟨isHealthy⟩), answer⟩ ∈ transcript ∧
      outcome = reported isHealthy answer := by
  rcases (yields_reconcile yields).reading_or_following_or_installing with
    reading | ⟨installation, marker, rest, rfl, follows⟩ | installing
  · have unprobed := fun exchange member => (reading.reads exchange member).2
    exact .inl ⟨probed?_eq_none unprobed, reading.unreported⟩
  · cases follows with
    | unanswered fault => exact .inl ⟨rfl, by simp⟩
    | healthy answer _ ends => exact .inr ⟨true, answer, rfl, by simp, ends⟩
    | unhealthy told answer _ ends => exact .inr ⟨false, answer, rfl, by simp, ends⟩
  · exact .inl ⟨probed?_eq_none installing.unprobed, installing.unreported⟩

end Pass

/-! ## The gauge -/

namespace Metrics

/-- The gauge of an installation shows that it is healthy, or that it is not. -/
def ShowsHealth (metrics : Metrics) (labels : InstanceLabels) (isHealthy : Bool) : Prop :=
  ∃ metric ∈ metrics.exposed, metric.fullName = "alm_ishtar_healthy" ∧
    Sample.gauge
      [("namespace", labels.namespaceName), ("instance", labels.instanceName)] isHealthy ∈
      metric.samples

/-- The gauge shows what is kept of an installation. -/
theorem showsHealth_iff
    {metrics : Metrics} (distinct : metrics.healthy.keys.Nodup)
    {labels : InstanceLabels} {isHealthy : Bool} :
    metrics.ShowsHealth labels isHealthy ↔ metrics.healthy.lookup labels = some isHealthy := by
  rw [Family.lookup_eq_some_iff_mem distinct]
  constructor
  · rintro ⟨metric, member, named, shown⟩
    simp only [exposed, List.mem_cons, List.not_mem_nil, or_false] at member
    rcases member with rfl | rfl | rfl | rfl | rfl
    · simp [Metric.fullName] at named
    · simp [Metric.fullName] at named
    · simp [Metric.fullName] at named
    · simp [Metric.fullName] at named
    · obtain ⟨⟨other, value⟩, kept, same⟩ := List.mem_map.mp shown
      obtain ⟨namespaceName, instanceName⟩ := labels
      obtain ⟨otherNamespace, otherInstance⟩ := other
      simp only [Sample.gauge, Sample.mk.injEq, List.cons.injEq, Prod.mk.injEq] at same
      obtain ⟨-, ⟨⟨-, rfl⟩, ⟨-, rfl⟩, -⟩, digit, -⟩ := same
      have equal : value = isHealthy := by
        cases value <;> cases isHealthy <;> simp at digit ⊢
      rw [← equal]
      exact kept
  · intro kept
    refine ⟨_, List.mem_cons_of_mem _ <| List.mem_cons_of_mem _ <| List.mem_cons_of_mem _ <|
      List.mem_cons_of_mem _ <| List.mem_singleton.mpr rfl, rfl, ?_⟩
    exact List.mem_map.mpr ⟨(labels, isHealthy), kept, rfl⟩

end Metrics

namespace Controller

namespace Visit

/-- The health that the probe of a visit has told. -/
def probed? (visit : Visit) : Option Bool := Pass.probed? visit.transcript

/-- The status of the installation could not be set in a visit, which has failed. -/
def RefusesStatus (visit : Visit) (isHealthy : Bool) : Prop :=
  ∃ fault,
    ⟨.cluster (.patchStatus visit.labels.namespaceName visit.labels.instanceName ⟨isHealthy⟩),
      .error fault⟩ ∈ visit.transcript ∧
    visit.outcome = .error (.statusUpdate fault)

/-- A visit that reports a health has ended with it. -/
theorem outcome_of_reported {visit : Visit} {isHealthy : Bool}
    (reports : visit.reported? = some isHealthy) :
    visit.outcome = .ok (.steady isHealthy) := by
  unfold reported? at reports
  split at reports
  · rename_i reported ends
    rw [ends, Option.some.inj reports]
  · cases reports

/-- A visit that is not told the health reports none. -/
theorem reported?_of_unprobed {visit : Visit} (unprobed : visit.probed? = none) :
    visit.reported? = none := by
  rcases Pass.probed?_cases visit.passes with
    ⟨-, unreported⟩ | ⟨isHealthy, answer, told, -⟩
  · unfold reported?
    split
    · rename_i isHealthy ends
      exact absurd ends (unreported isHealthy)
    · rfl
  · rw [probed?, told] at unprobed
    cases unprobed

/-- A visit that is told the health reports it, unless it cannot set the status. -/
theorem reported?_of_probed {visit : Visit} {isHealthy : Bool}
    (told : visit.probed? = some isHealthy) :
    visit.reported? = some isHealthy ∨
      visit.reported? = none ∧ visit.RefusesStatus isHealthy := by
  rcases Pass.probed?_cases visit.passes with
    ⟨untold, -⟩ | ⟨other, answer, toldToo, asked, ends⟩
  · rw [probed?, untold] at told
    cases told
  rw [probed?, toldToo, Option.some.injEq] at told
  subst told
  cases answer with
  | ok done =>
      left
      rw [reported?, ends]
      rfl
  | error fault =>
      right
      refine ⟨?_, fault, asked, ends⟩
      rw [reported?, ends]
      rfl

end Visit

/-- What the latest of the visits to an installation tells, if any of them tells anything. -/
def latest (tells : Visit → Option Bool) (labels : InstanceLabels) (visits : List Visit) :
    Option Bool :=
  visits.reverse.findSome? fun visit => if visit.labels = labels then tells visit else none

/-- A visit is the latest one to an installation that tells something. -/
structure IsLatest (tells : Visit → Option Bool) (labels : InstanceLabels)
    (visits earlier : List Visit) (visit : Visit) (isHealthy : Bool) : Prop where
  among : ∃ later, visits = earlier ++ visit :: later ∧ latest tells labels later = none
  labelled : visit.labels = labels
  told : tells visit = some isHealthy

section Latest

variable {tells : Visit → Option Bool} {labels : InstanceLabels} {visits back : List Visit}
  {visit : Visit}

/-- A visit to the installation that tells something is the latest one. -/
theorem latest_concat_of_some {isHealthy : Bool}
    (same : visit.labels = labels) (told : tells visit = some isHealthy) :
    latest tells labels (visits ++ [visit]) = some isHealthy := by
  simp [latest, same, told]

/-- A visit that tells nothing, or is to another installation, makes no difference. -/
theorem latest_concat_of_none
    (silent : visit.labels = labels → tells visit = none) :
    latest tells labels (visits ++ [visit]) = latest tells labels visits := by
  simp only [latest, List.reverse_append, List.reverse_singleton, List.singleton_append,
    List.findSome?_cons]
  split
  · rename_i told
    split at told
    · rename_i same
      rw [silent same] at told
      cases told
    · cases told
  · rfl

/-- Later visits that say nothing make no difference. -/
theorem latest_append_of_none (silent : latest tells labels back = none) :
    latest tells labels (visits ++ back) = latest tells labels visits := by
  unfold latest at silent ⊢
  rw [List.reverse_append, List.findSome?_append, silent, Option.none_or]

/-- What is told latest is told in the latest visit that tells something. -/
theorem latest_eq_some_iff {isHealthy : Bool} :
    latest tells labels visits = some isHealthy ↔
      ∃ earlier visit, IsLatest tells labels visits earlier visit isHealthy := by
  constructor
  · intro told
    obtain ⟨later, visit, earlier, split, tellsIt, silent⟩ := List.findSome?_eq_some_iff.mp told
    obtain ⟨same, tellsIt⟩ := Option.ite_none_right_eq_some.mp tellsIt
    refine ⟨earlier.reverse, visit, ⟨later.reverse, ?_, ?_⟩, same, tellsIt⟩
    · rw [← List.reverse_reverse visits, split]
      simp
    · rw [latest, List.reverse_reverse]
      exact List.findSome?_eq_none_iff.mpr silent
  · rintro ⟨earlier, visit, ⟨later, rfl, silent⟩, same, told⟩
    rw [← List.singleton_append, ← List.append_assoc, latest_append_of_none silent]
    exact latest_concat_of_some same told

/-- What tells nothing whenever another one does not is not heard where that one is not. -/
theorem latest_eq_none_of_imp {other : Visit → Option Bool}
    (silent : ∀ visit, tells visit = none → other visit = none)
    (none : latest tells labels visits = none) :
    latest other labels visits = .none := by
  unfold latest at none ⊢
  rw [List.findSome?_eq_none_iff] at none ⊢
  intro visit member
  have told := none visit member
  by_cases same : visit.labels = labels
  · rw [if_pos same] at told ⊢
    exact silent visit told
  · rw [if_neg same]

end Latest

variable {requeue : Nat} {moment : Timestamp} {visits : List Visit} {last : Controller}

/-- Gauges are kept for the installations apart, and hold what was reported latest. -/
theorem Visits.healthy (made : Visits (first requeue moment) visits last) :
    last.diagnostics.metrics.healthy.keys.Nodup ∧
      ∀ labels, last.diagnostics.metrics.healthy.lookup labels =
        latest Visit.reported? labels visits := by
  induction made with
  | none => exact ⟨List.nodup_nil, fun labels => rfl⟩
  | @next visits middle last visit before takes inductionHypothesis =>
      obtain ⟨distinct, kept⟩ := inductionHypothesis
      obtain ⟨milliseconds, counted⟩ := takes.metrics
      rw [counted, healthy_count]
      cases ends : visit.reported? with
      | none =>
          refine ⟨distinct, fun labels => ?_⟩
          rw [latest_concat_of_none fun _ => ends]
          exact kept labels
      | some isHealthy =>
          refine ⟨Family.nodup_keys_update distinct, fun labels => ?_⟩
          by_cases same : visit.labels = labels
          · subst same
            rw [latest_concat_of_some rfl ends]
            exact Family.lookup_update_self ..
          · rw [latest_concat_of_none fun equal => absurd equal same, ← kept labels]
            exact Family.lookup_update_of_ne _ _ _ same

/-- The gauge of an installation shows what was reported latest. -/
theorem Visits.showsHealth_iff (made : Visits (first requeue moment) visits last)
    {labels : InstanceLabels} {shown : Bool} :
    last.diagnostics.metrics.ShowsHealth labels shown ↔
      latest Visit.reported? labels visits = some shown := by
  obtain ⟨distinct, kept⟩ := made.healthy
  rw [Metrics.showsHealth_iff distinct, kept labels]

/-- Where no probe has told the health, none was reported. -/
theorem latest_reported?_of_unprobed {labels : InstanceLabels}
    (unprobed : latest Visit.probed? labels visits = none) :
    latest Visit.reported? labels visits = none :=
  latest_eq_none_of_imp (fun _ => Visit.reported?_of_unprobed) unprobed

/--
What the latest probe has told is shown if the status could be set then.  Otherwise the
visit changed nothing that is shown.
-/
theorem Visits.showsHealth_of_isLatest (made : Visits (first requeue moment) visits last)
    {labels : InstanceLabels} {earlier : List Visit} {visit : Visit} {isHealthy : Bool}
    (isLatest : IsLatest Visit.probed? labels visits earlier visit isHealthy) :
    (visit.outcome = .ok (.steady isHealthy) ∧
      ∀ shown, last.diagnostics.metrics.ShowsHealth labels shown ↔ shown = isHealthy) ∨
    (visit.RefusesStatus isHealthy ∧
      ∀ shown, last.diagnostics.metrics.ShowsHealth labels shown ↔
        latest Visit.reported? labels earlier = some shown) := by
  obtain ⟨⟨later, split, quiet⟩, same, told⟩ := isLatest
  -- The visits after the latest probe report nothing, so that they can be left out.
  have upTo : latest Visit.reported? labels visits =
      latest Visit.reported? labels (earlier ++ [visit]) := by
    rw [split, ← List.singleton_append, ← List.append_assoc]
    exact latest_append_of_none (latest_reported?_of_unprobed quiet)
  rcases Visit.reported?_of_probed told with reports | ⟨unreported, refuses⟩
  · refine .inl ⟨Visit.outcome_of_reported reports, fun shown => ?_⟩
    rw [made.showsHealth_iff, upTo, latest_concat_of_some same reports, Option.some.injEq]
    exact eq_comm
  · refine .inr ⟨refuses, fun shown => ?_⟩
    rw [made.showsHealth_iff, upTo, latest_concat_of_none fun _ => unreported]

/-- What the gauge of an installation shows after some visits. -/
structure FollowsReports (labels : InstanceLabels) (visits : List Visit) (metrics : Metrics) :
    Prop where
  /-- Nothing is shown before a probe has told the health. -/
  unprobed : latest Visit.probed? labels visits = none →
    ∀ shown, ¬ metrics.ShowsHealth labels shown
  /-- What the latest probe has told is shown, or what was shown before it. -/
  probed : ∀ earlier visit isHealthy,
    IsLatest Visit.probed? labels visits earlier visit isHealthy →
    (visit.outcome = .ok (.steady isHealthy) ∧
      ∀ shown, metrics.ShowsHealth labels shown ↔ shown = isHealthy) ∨
    (visit.RefusesStatus isHealthy ∧
      ∀ shown, metrics.ShowsHealth labels shown ↔
        latest Visit.reported? labels earlier = some shown)
  /--
  So the gauge shows what the latest probe has told just when the visit has reported it,
  or the same had been reported before.
  -/
  follows :
    (∀ shown, metrics.ShowsHealth labels shown ↔
      latest Visit.probed? labels visits = some shown) ↔
    ∀ earlier visit isHealthy,
      IsLatest Visit.probed? labels visits earlier visit isHealthy →
      visit.outcome = .ok (.steady isHealthy) ∨
        latest Visit.reported? labels earlier = some isHealthy

/--
The gauge of an installation shows what was reported latest: after every list of visits,
over whatever installations, with whatever answers.
-/
theorem Visits.followsReports
    (made : Visits (first requeue moment) visits last) (labels : InstanceLabels) :
    FollowsReports labels visits last.diagnostics.metrics := by
  have unprobed : latest Visit.probed? labels visits = .none →
      ∀ shown, ¬ last.diagnostics.metrics.ShowsHealth labels shown := by
    intro unprobed shown isShown
    rw [made.showsHealth_iff, latest_reported?_of_unprobed unprobed] at isShown
    cases isShown
  refine ⟨unprobed, fun _ _ _ => made.showsHealth_of_isLatest, ?_, ?_⟩
  · intro follows earlier visit isHealthy isLatest
    have isShown := (follows isHealthy).mpr (latest_eq_some_iff.mpr ⟨earlier, visit, isLatest⟩)
    rcases made.showsHealth_of_isLatest isLatest with ⟨reports, -⟩ | ⟨-, shownBefore⟩
    · exact .inl reports
    · exact .inr ((shownBefore isHealthy).mp isShown)
  · intro settled shown
    cases told : latest Visit.probed? labels visits with
    | none => simpa using unprobed told shown
    | some isHealthy =>
        obtain ⟨earlier, visit, isLatest⟩ := latest_eq_some_iff.mp told
        rcases made.showsHealth_of_isLatest isLatest with
          ⟨-, shownNow⟩ | ⟨⟨fault, -, fails⟩, shownBefore⟩
        · rw [shownNow, Option.some.injEq]
          exact eq_comm
        · rcases settled earlier visit isHealthy isLatest with reports | before
          · rw [fails] at reports
            cases reports
          · rw [shownBefore, before]

/-- The cluster in which `demo` is installed. -/
def installedDemo : Store :=
  let marker : Object .deployment :=
    ⟨{ Metadata.empty with name := some markerDeployment }, []⟩
  (Store.empty.insert "lm" (Installation.demo false)).insert "lm" marker

/-- A healthy installation is visited, and again when it is not and its status is not set. -/
def demoVisits : List Visit :=
  let sick : Outside := { Pass.refusingStatus with probe := fun _ => .ok false }
  [.ofRun .calm (Installation.demo false) installedDemo,
    .ofRun sick (Installation.demo false) installedDemo]

/--
The gauge still shows that `demo` is healthy although the latest probe has told that it
is not: the status could not be set.
-/
theorem followsReports_demoVisits :
    ∃ last, Visits (first 10000 ⟨0⟩) demoVisits last ∧
      FollowsReports ⟨"lm", "demo"⟩ demoVisits last.diagnostics.metrics ∧
      latest Visit.probed? ⟨"lm", "demo"⟩ demoVisits = some false ∧
      last.diagnostics.metrics.ShowsHealth ⟨"lm", "demo"⟩ true ∧
      ¬ last.diagnostics.metrics.ShowsHealth ⟨"lm", "demo"⟩ false := by
  obtain ⟨last, made⟩ := exists_visits (first 10000 ⟨0⟩) demoVisits
  have reported : latest Visit.reported? ⟨"lm", "demo"⟩ demoVisits = some true := by
    decide +kernel
  refine ⟨last, made, made.followsReports ⟨"lm", "demo"⟩, by decide +kernel, ?_, ?_⟩
  · rw [made.showsHealth_iff, reported]
  · rw [made.showsHealth_iff, reported]
    decide

end Controller
end LifecycleOperator
