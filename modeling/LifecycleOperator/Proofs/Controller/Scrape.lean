import LifecycleOperator.Proofs.Controller.Visits
import LifecycleOperator.Proofs.Metrics.Readability
import LifecycleOperator.Proofs.Pass.Identity

/-!
# Scraping the metrics

The label under which a failed pass is counted describes the fault, and the descriptions
of most faults quote some text: what the cluster or a service has answered, or a name.
Labels are written as they are.  So after a pass has failed with such a fault the metrics
cannot be read any more, whatever happens later; as long as none has, they can.  Neither
depends on the order in which the labels are shown.
-/

namespace LifecycleOperator

open OpenMetrics (Plain)

/-! ## Quotes in labels -/

namespace Text

/-- A double quote has no other case. -/
theorem quote_mem_lowerFrom {before chars : List Char} (member : '"' ∈ chars) :
    '"' ∈ lowerFrom before chars := by
  induction chars generalizing before with
  | nil => cases member
  | cons char rest inductionHypothesis =>
      unfold lowerFrom
      rcases List.mem_cons.mp member with same | inRest
      · subst same
        have kept : lowerChar '"' = ['"'] := by decide +kernel
        simp [kept]
      · exact List.mem_append_right _ (inductionHypothesis inRest)

theorem quote_mem_quoted (text : String) : '"' ∈ (quoted text).toList := by
  simp [quoted]

theorem quote_mem_append {front back : String}
    (member : '"' ∈ front.toList ∨ '"' ∈ back.toList) :
    '"' ∈ (front ++ back).toList := by
  rw [String.toList_append]
  exact List.mem_append.mpr member

end Text

/-- What the cluster answers is quoted. -/
theorem ApiStatus.quote_mem_description (status : ApiStatus) :
    '"' ∈ status.description.toList := by
  refine Text.quote_mem_append (.inl (Text.quote_mem_append (.inl ?_)))
  exact Text.quote_mem_append (.inl (Text.quote_mem_append (.inr (Text.quote_mem_quoted _))))

namespace Fault

/-- The description of a fault quotes some text. -/
def quotesText : Fault → Bool
  | .methodFailed _ _ _ | .loginFailed _ _ | .alreadyExists _ _ _ | .other _ => true
  | .cluster (.refused _) => true
  | .transport (.foreignScheme _) | .transport (.noAnswer _) => true
  | .statusUpdate source => source.quotesText
  | _ => false

theorem quote_mem_content {fault : Fault} (quotes : fault.quotesText = true) :
    '"' ∈ fault.content.toList := by
  induction fault with
  | methodFailed | loginFailed | alreadyExists =>
      exact Text.quote_mem_append (.inr (Text.quote_mem_quoted _))
  | other => exact Text.quote_mem_quoted _
  | cluster cause =>
      cases cause with
      | refused status =>
          refine Text.quote_mem_append (.inl (Text.quote_mem_append (.inr ?_)))
          exact status.quote_mem_description
      | unusable report => cases quotes
  | transport cause =>
      cases cause with
      | foreignScheme url | noAnswer url =>
          refine Text.quote_mem_append (.inl (Text.quote_mem_append (.inr ?_)))
          exact Text.quote_mem_quoted _
      | unusableRequest | brokenOff why => cases quotes
  | statusUpdate source inductionHypothesis =>
      refine Text.quote_mem_append (.inl (Text.quote_mem_append (.inr ?_)))
      exact inductionHypothesis quotes
  | serialization | manifest | registration | rendering => cases quotes

/-- A fault whose description quotes a text has a label that has to be escaped. -/
theorem not_plain_metricLabel {fault : Fault} (quotes : fault.quotesText = true) :
    ¬ Plain fault.metricLabel := by
  intro plain
  have described : '"' ∈ fault.description.toList := by
    simp [description, quote_mem_content quotes]
  have labelled : '"' ∈ fault.metricLabel.toList := by
    rw [metricLabel, Text.lowerCase, String.toList_ofList]
    exact Text.quote_mem_lowerFrom described
  exact (plain '"' labelled).1 rfl

end Fault

theorem Phase.plain_label (phase : Phase) : Plain phase.label := by
  cases phase <;> (simp only [Phase.label]; decide +kernel)

/-- A text of the characters of names in a cluster. -/
def IsClusterName (text : String) : Prop :=
  ∀ char ∈ text.toList,
    (char.isLower || char.isDigit || char == '-' || char == '.') = true

instance (text : String) : Decidable (IsClusterName text) :=
  List.decidableBAll
    (fun char => (char.isLower || char.isDigit || char == '-' || char == '.') = true) text.toList

theorem IsClusterName.plain {text : String} (named : IsClusterName text) : Plain text := by
  intro char member
  have allowed := named char member
  refine ⟨?_, ?_, ?_⟩ <;> rintro rfl <;> exact absurd allowed (by decide)

namespace Controller

/-- The installation of a visit has a name and a namespace as the cluster permits them. -/
def Visit.Named (visit : Visit) : Prop :=
  IsClusterName visit.installation.namespaceName ∧ IsClusterName visit.installation.anyName

variable {requeue : Nat} {moment : Timestamp} {visits : List Visit} {last : Controller}

namespace Visits

/-- Failures are counted under the names of installations and the faults of visits. -/
theorem mem_failures_iff (made : Visits (first requeue moment) visits last)
    {labels : FailureLabels} :
    labels ∈ last.diagnostics.metrics.failures.keys ↔
      ∃ visit ∈ visits, ∃ fault, visit.outcome = .error fault ∧
        labels = ⟨visit.installation.anyName, fault.metricLabel⟩ := by
  induction made with
  | none => simp [first, Metrics.initial, Family.keys]
  | @next visits middle last visit before takes inductionHypothesis =>
      obtain ⟨milliseconds, counted⟩ := takes.metrics
      rw [counted]
      simp only [List.mem_append, List.mem_singleton, or_and_right, exists_or, exists_eq_left,
        ← inductionHypothesis]
      cases ends : visit.outcome with
      | ok phase => simp [count, Metrics.reached, Metrics.ended, Metrics.started]
      | error fault =>
          simp only [count, Metrics.failed, Metrics.ended, Metrics.started, Family.increment,
            Family.mem_keys_update, Except.error.injEq, exists_eq_left']
          exact or_comm

/-- Passes are counted under the labels of phases. -/
theorem label_of_mem_phases (made : Visits (first requeue moment) visits last)
    {label : String} (member : label ∈ last.diagnostics.metrics.phases.keys) :
    ∃ phase : Phase, label = phase.label := by
  induction made with
  | none => simp [first, Metrics.initial, Family.keys] at member
  | next visit before takes inductionHypothesis =>
      obtain ⟨milliseconds, counted⟩ := takes.metrics
      rw [counted] at member
      cases ends : visit.outcome with
      | error fault =>
          rw [ends] at member
          exact inductionHypothesis member
      | ok phase =>
          rw [ends] at member
          rcases Family.mem_keys_update.mp member with same | former
          · exact ⟨phase, same⟩
          · exact inductionHypothesis former

/-- Health is kept of installations that were visited. -/
theorem visited_of_mem_healthy (made : Visits (first requeue moment) visits last)
    {labels : InstanceLabels} (member : labels ∈ last.diagnostics.metrics.healthy.keys) :
    ∃ visit ∈ visits, labels = visit.labels := by
  induction made with
  | none => simp [first, Metrics.initial, Family.keys] at member
  | @next visits middle last visit before takes inductionHypothesis =>
      obtain ⟨milliseconds, counted⟩ := takes.metrics
      rw [counted, healthy_count] at member
      have visited : labels = visit.labels ∨
          labels ∈ middle.diagnostics.metrics.healthy.keys := by
        cases reports : visit.reported? with
        | none =>
            rw [reports] at member
            exact .inr member
        | some isHealthy =>
            rw [reports] at member
            exact Family.mem_keys_update.mp member
      rcases visited with same | former
      · exact ⟨visit, by simp, same⟩
      · obtain ⟨earlier, among, same⟩ := inductionHypothesis former
        exact ⟨earlier, by simp [among], same⟩

end Visits

/--
Whether the metrics can be read after some visits, in whatever order the labels are shown
under which something was counted.
-/
structure Scraped (visits : List Visit) (metrics : Metrics) : Prop where
  /-- All that is recorded is read, unless a fault has a label that has to be escaped. -/
  readsBack : ∀ shown : Metrics, shown.Reorders metrics →
    (OpenMetrics.read shown.text = some shown.recorded ↔
      ∀ visit ∈ visits, ∀ fault, visit.outcome = .error fault → Plain fault.metricLabel)
  /-- The order makes no difference to what is recorded. -/
  sameRecords : ∀ shown : Metrics, shown.Reorders metrics →
    shown.recorded.Perm metrics.recorded
  /-- A fault that quotes a text has such a label. -/
  unreadable : ∀ shown : Metrics, shown.Reorders metrics →
    ∀ visit ∈ visits, ∀ fault, visit.outcome = .error fault → fault.quotesText = true →
      OpenMetrics.read shown.text ≠ some shown.recorded

/-- All labels are plain just when those are under which failures are counted. -/
theorem Visits.plainLabels_iff
    (made : Visits (first requeue moment) visits last)
    (named : ∀ visit ∈ visits, visit.Named) :
    last.diagnostics.metrics.PlainLabels ↔
      ∀ visit ∈ visits, ∀ fault, visit.outcome = .error fault → Plain fault.metricLabel := by
  constructor
  · intro plain visit member fault ends
    exact (plain.failures _ (made.mem_failures_iff.mpr ⟨visit, member, fault, ends, rfl⟩)).2
  · intro plain
    constructor
    case failures =>
      intro labels member
      obtain ⟨visit, among, fault, ends, rfl⟩ := made.mem_failures_iff.mp member
      exact ⟨(named visit among).2.plain, plain visit among fault ends⟩
    case phases =>
      intro label member
      obtain ⟨phase, rfl⟩ := made.label_of_mem_phases member
      exact phase.plain_label
    case healthy =>
      intro labels member
      obtain ⟨visit, among, rfl⟩ := made.visited_of_mem_healthy member
      exact ⟨(named visit among).1.plain, (named visit among).2.plain⟩

/--
The metrics are read back as they were recorded, after all visits to installations with
names and namespaces as the cluster permits them, just when no visit has failed with a
fault whose label would have to be escaped.
-/
theorem Visits.scraped
    (made : Visits (first requeue moment) visits last)
    (named : ∀ visit ∈ visits, visit.Named) :
    Scraped visits last.diagnostics.metrics := by
  have readsBack : ∀ shown : Metrics, shown.Reorders last.diagnostics.metrics →
      (OpenMetrics.read shown.text = some shown.recorded ↔
        ∀ visit ∈ visits, ∀ fault, visit.outcome = .error fault → Plain fault.metricLabel) := by
    intro shown reorders
    rw [Metrics.read_text_iff, reorders.plainLabels_iff]
    exact made.plainLabels_iff named
  refine ⟨readsBack, fun shown reorders => reorders.recorded_perm, ?_⟩
  intro shown reorders visit member fault ends quotes reads
  have plain := (readsBack shown reorders).mp reads visit member fault ends
  exact Fault.not_plain_metricLabel quotes plain

/-- The world in which nothing can be looked up. -/
def unreadableCluster : Outside :=
  { Outside.calm with verdict := fun _ _ => .refuse (.other "boom") }

/-- A single visit that fails makes the metrics unreadable. -/
theorem scraped_unreadableCluster :
    let visit := Visit.ofRun unreadableCluster (Installation.demo false) .empty
    ∃ last, Visits (first 10000 ⟨0⟩) [visit] last ∧
      Scraped [visit] last.diagnostics.metrics ∧
      OpenMetrics.read last.diagnostics.metrics.text ≠
        some last.diagnostics.metrics.recorded := by
  intro visit
  obtain ⟨last, made⟩ := exists_visits (first 10000 ⟨0⟩) [visit]
  have named : ∀ other ∈ [visit], other.Named := by
    intro other member
    rw [List.mem_singleton.mp member]
    exact (by decide +kernel : IsClusterName "lm" ∧ IsClusterName "demo")
  have scraped : Scraped [visit] last.diagnostics.metrics := made.scraped named
  exact ⟨last, made, scraped, scraped.unreadable _ (.refl _) visit List.mem_cons_self
    (.other "boom") rfl rfl⟩

end Controller
end LifecycleOperator
