import LifecycleOperator.Proofs.Controller.Health

/-!
# The counters balance

Passes are counted when they begin, their durations when they end, and then either the
phase that they have reached or the fault with which they have failed.  After every list
of visits the four agree: as many durations as passes were taken down, and each pass is
counted just once, as a success or as a failure, under the label that it ended with.

What a single visit adds to every counter is said once; the rest is an induction on the
visits.
-/

namespace LifecycleOperator

namespace Histogram

/-- The observations in some buckets. -/
def counted (buckets : List Bucket) : Nat := (buckets.map Bucket.count).sum

/-- An observation is taken down in one bucket, where any of them admits it. -/
theorem counted_observeIn
    {milliseconds : Nat} {trace : Option Nat} {buckets : List Bucket}
    (admitted : ∃ bucket ∈ buckets, bucket.admits milliseconds = true) :
    counted (observeIn milliseconds trace buckets) = counted buckets + 1 := by
  induction buckets with
  | nil =>
      obtain ⟨bucket, member, -⟩ := admitted
      cases member
  | cons bucket rest inductionHypothesis =>
      unfold observeIn
      by_cases admits : bucket.admits milliseconds = true
      · rw [if_pos admits]
        simp only [counted, List.map_cons, List.sum_cons, Bucket.observe]
        omega
      · rw [if_neg admits]
        have among : ∃ other ∈ rest, other.admits milliseconds = true := by
          obtain ⟨other, member, admitsIt⟩ := admitted
          rcases List.mem_cons.mp member with rfl | inRest
          · exact absurd admitsIt admits
          · exact ⟨other, inRest, admitsIt⟩
        have counts := inductionHypothesis among
        simp only [counted, List.map_cons, List.sum_cons] at counts ⊢
        omega

/-- Bounds stay as they are. -/
theorem bounds_observeIn
    {milliseconds : Nat} {trace : Option Nat} {buckets : List Bucket} :
    (observeIn milliseconds trace buckets).map Bucket.bound = buckets.map Bucket.bound := by
  induction buckets with
  | nil => rfl
  | cons bucket rest inductionHypothesis =>
      unfold observeIn
      split
      · rfl
      · simp only [List.map_cons, inductionHypothesis]

/-- The buckets hold what was observed, and one of them has no bound. -/
structure Complete (histogram : Histogram) : Prop where
  unbounded : none ∈ histogram.buckets.map Bucket.bound
  counts : counted histogram.buckets = histogram.count

theorem complete_ofBounds (bounds : List Nat) : Complete (ofBounds bounds) where
  unbounded := by simp [ofBounds]
  counts := by simp [ofBounds, counted, Function.comp_def]

/-- A bucket without a bound admits whatever the others do not. -/
theorem Complete.observe
    {histogram : Histogram} (complete : histogram.Complete)
    (milliseconds : Nat) (trace : Option Nat) :
    (histogram.observe milliseconds trace).Complete where
  unbounded := by
    rw [Histogram.observe, bounds_observeIn]
    exact complete.unbounded
  counts := by
    obtain ⟨bucket, member, unbounded⟩ := List.mem_map.mp complete.unbounded
    have admitted : ∃ bucket ∈ histogram.buckets, bucket.admits milliseconds = true :=
      ⟨bucket, member, by simp [Bucket.admits, unbounded]⟩
    rw [Histogram.observe, counted_observeIn admitted, complete.counts]

end Histogram

namespace Controller

namespace Visit

/-- The label of the phase that a visit has reached. -/
def phaseLabel? (visit : Visit) : Option String :=
  match visit.outcome with
  | .ok phase => some phase.label
  | .error _ => none

/-- The labels of the failure of a visit. -/
def failureLabels? (visit : Visit) : Option FailureLabels :=
  match visit.outcome with
  | .ok _ => none
  | .error fault => some ⟨visit.installation.anyName, fault.metricLabel⟩

end Visit

/-- A visit has either reached a phase or failed. -/
theorem Visit.isSome_failureLabels? (visit : Visit) :
    visit.failureLabels?.isSome = !visit.phaseLabel?.isSome := by
  unfold failureLabels? phaseLabel?
  cases visit.outcome <;> rfl

/-- What is counted is told by the visits. -/
structure Counted (visits : List Visit) (metrics : Metrics) : Prop where
  runs : metrics.runs = visits.length
  durations : metrics.duration.count = visits.length
  complete : metrics.duration.Complete
  phases : metrics.phases.Tallies Visit.phaseLabel? visits
  failures : metrics.failures.Tallies Visit.failureLabels? visits

theorem counted_initial : Counted [] .initial where
  runs := rfl
  durations := rfl
  complete := Histogram.complete_ofBounds _
  phases := .none
  failures := .none

/-- One more visit is counted once everywhere, and in one of the families. -/
theorem Counted.next
    {visits : List Visit} {metrics : Metrics} (counted : Counted visits metrics)
    (visit : Visit) (milliseconds : Nat) :
    Counted (visits ++ [visit])
      (count visit.installation (metrics.started.ended milliseconds 0) visit.outcome) := by
  have runs : metrics.runs + 1 = (visits ++ [visit]).length := by
    rw [counted.runs, List.length_append, List.length_singleton]
  have durations : metrics.duration.count + 1 = (visits ++ [visit]).length := by
    rw [counted.durations, List.length_append, List.length_singleton]
  have complete := counted.complete.observe milliseconds none
  cases ends : visit.outcome with
  | ok phase =>
      have labelled : visit.phaseLabel? = some phase.label := by rw [Visit.phaseLabel?, ends]
      have unlabelled : visit.failureLabels? = none := by rw [Visit.failureLabels?, ends]
      exact ⟨runs, durations, complete, counted.phases.increment labelled,
        counted.failures.pass unlabelled⟩
  | error fault =>
      have unlabelled : visit.phaseLabel? = none := by rw [Visit.phaseLabel?, ends]
      have labelled : visit.failureLabels? =
          some ⟨visit.installation.anyName, fault.metricLabel⟩ := by
        rw [Visit.failureLabels?, ends]
      exact ⟨runs, durations, complete, counted.phases.pass unlabelled,
        counted.failures.increment labelled⟩

/-- After every list of visits all of them are counted. -/
theorem Visits.counted
    {requeue : Nat} {moment : Timestamp} {visits : List Visit} {last : Controller}
    (made : Visits (first requeue moment) visits last) :
    Counted visits last.diagnostics.metrics := by
  induction made with
  | none => exact counted_initial
  | next visit before takes inductionHypothesis =>
      obtain ⟨milliseconds, same⟩ := takes.metrics
      rw [same]
      exact inductionHypothesis.next visit milliseconds

/-- The counters agree with the visits, and with each other. -/
structure Balanced (visits : List Visit) (metrics : Metrics) : Prop where
  /-- Every visit is counted. -/
  runs : metrics.runs = visits.length
  /-- The duration of every visit was taken down, in one of the buckets. -/
  measured : metrics.duration.count = metrics.runs ∧
    Histogram.counted metrics.duration.buckets = metrics.runs
  /-- Every visit is counted once, where it has reached a phase or where it has failed. -/
  balanced : metrics.runs = metrics.phases.total + metrics.failures.total
  /-- A phase is counted as often as a visit has ended in it. -/
  phases : ∀ label, metrics.phases.countOf label =
    visits.countP fun visit => visit.phaseLabel? = some label
  /-- A failure is counted as often as a visit has failed under its labels. -/
  failures : ∀ labels, metrics.failures.countOf labels =
    visits.countP fun visit => visit.failureLabels? = some labels
  /-- No label has two counters. -/
  distinct : metrics.phases.keys.Nodup ∧ metrics.failures.keys.Nodup

/--
The counters balance after every list of visits, over whatever installations and with
whatever outcomes.
-/
theorem Visits.balanced
    {requeue : Nat} {moment : Timestamp} {visits : List Visit} {last : Controller}
    (made : Visits (first requeue moment) visits last) :
    Balanced visits last.diagnostics.metrics := by
  obtain ⟨runs, durations, complete, phases, failures⟩ := made.counted
  refine ⟨runs, ⟨durations.trans runs.symm, ?_⟩, ?_, phases.counts, failures.counts,
    phases.distinct, failures.distinct⟩
  · rw [complete.counts, durations, runs]
  · rw [runs, phases.totals, failures.totals,
      visits.length_eq_countP_add_countP fun visit => visit.phaseLabel?.isSome]
    simp only [Visit.isSome_failureLabels?, Bool.not_eq_true, Bool.decide_eq_false]

/-- Of the two visits to `demo` the first has reached a phase, and the second has failed. -/
theorem balanced_demoVisits :
    ∃ last, Visits (first 10000 ⟨0⟩) demoVisits last ∧
      Balanced demoVisits last.diagnostics.metrics ∧
      last.diagnostics.metrics.runs = 2 ∧
      last.diagnostics.metrics.phases.countOf "steady" = 1 ∧
      last.diagnostics.metrics.failures.countOf
        ⟨"demo", (Fault.statusUpdate
          (.methodFailed "Patch" 503 "upstream is down")).metricLabel⟩ = 1 := by
  obtain ⟨last, made⟩ := exists_visits (first 10000 ⟨0⟩) demoVisits
  have balanced : Balanced demoVisits last.diagnostics.metrics := made.balanced
  refine ⟨last, made, balanced, balanced.runs, ?_, ?_⟩
  · rw [balanced.phases]
    decide +kernel
  · rw [balanced.failures]
    decide +kernel

end Controller
end LifecycleOperator
