import LifecycleOperator.Proofs.Json.Numeral
import LifecycleOperator.Proofs.Metrics.Family
import LifecycleOperator.Proofs.Metrics.Verbatim
import Mathlib.Data.List.TakeWhile

/-!
# Whether the metrics can be read

What a reader is to find in the text of the metrics: the samples of the histogram, of the
families by their labels, and of the number of runs.  Their names and numbers can always
be read, and so can the bounds of buckets and the identities of traces.  All that decides
about the text are the labels under which something was counted: it is read as what was
recorded just when these are plain, in whatever order the labels are shown.
-/

namespace LifecycleOperator

open OpenMetrics (Reading Plain IsToken isNumberChar isNumber isNameChar isName isLabelChar)

/-! ## Numbers -/

namespace Numeral

open OpenMetrics (dropSign isRun isPower isReal span_append)

variable {sign whole fraction exponent rest chars : List Char}

/-- Digits do not begin with a sign. -/
theorem IsRun.dropSign_append (run : IsRun whole) :
    dropSign (whole ++ rest) = whole ++ rest := by
  obtain ⟨first, others, rfl, notPlus, notMinus⟩ := run.starts
  rw [List.cons_append, dropSign]
  · exact fun _ same => notPlus (List.cons.inj same).1
  · exact fun _ same => notMinus (List.cons.inj same).1

theorem IsRun.isRun (run : IsRun chars) : OpenMetrics.isRun chars = true := by
  rw [OpenMetrics.isRun, Bool.and_eq_true, List.all_eq_true]
  exact ⟨by simpa using run.ne_nil, run.areDigits⟩

/-- The power of ten of a numeral is one of the text format. -/
theorem IsExponent.isPower (isExponent : IsExponent exponent) :
    OpenMetrics.isPower exponent = true := by
  rcases isExponent with rfl | ⟨power, rfl⟩
  · rfl
  · have run := isRun_toDigits power.natAbs
    have unsigned : dropSign (toString power).toList = Nat.toDigits 10 power.natAbs := by
      rw [toList_toString]
      split
      · have kept : dropSign (Nat.toDigits 10 power.natAbs ++ []) = _ := run.dropSign_append
        rwa [List.append_nil] at kept
      · rfl
    rw [OpenMetrics.isPower, unsigned, run.isRun]
    rfl

/-- The parts of a numeral behind its sign are a number of the text format. -/
theorem IsWritten.isReal (written : IsWritten sign whole fraction exponent) :
    OpenMetrics.isReal (whole ++ (fraction ++ exponent)) = true := by
  obtain ⟨taken, left⟩ := span_append written.isWhole.areDigits written.isDigit_head?
  have isPower := written.isExponent.isPower
  have nonempty : whole.isEmpty = false := by
    simpa using written.isWhole.ne_nil
  unfold OpenMetrics.isReal
  dsimp only
  rw [taken, left, nonempty]
  split
  · rename_i behind point
    obtain ⟨run, isRun, rfl, rfl⟩ := written.run_of_point point
    rw [(span_append isRun.areDigits written.isExponent.isDigit_head?).2, isPower]
    rfl
  · rename_i noPoint
    obtain rfl := written.isFraction.eq_nil_of_noPoint noPoint
    rw [List.nil_append, isPower]
    rfl

/-- A numeral is a number of the text format. -/
theorem IsNumeral.isToken {text : String} (isNumeral : IsNumeral text.toList) :
    IsToken isNumberChar isNumber text := by
  constructor
  · rw [List.all_eq_true]
    intro char member
    rcases isNumeral.forall_mem char member with isDigit | mark
    · simp [isNumberChar, Char.isAlphanum, isDigit]
    · have allowed : ['-', '.', 'e'].all isNumberChar = true := by decide +kernel
      exact List.all_eq_true.mp allowed char mark
  · obtain ⟨sign, whole, fraction, exponent, written, same⟩ := isNumeral
    have unsigned : dropSign text.toList = whole ++ (fraction ++ exponent) := by
      rw [same]
      rcases written.isSign with rfl | rfl
      · exact written.isWhole.dropSign_append
      · rfl
    rw [isNumber, unsigned, written.isReal, Bool.true_or, Bool.true_or]

end Numeral

/-- Digits are a number. -/
theorem isToken_toString (number : Nat) : IsToken isNumberChar isNumber (toString number) :=
  (Numeral.isNumeral_toString number).isToken

/-- Every number of seconds can be read, and so can the words for what is not finite. -/
theorem Seconds.isToken_text (seconds : Binary64) :
    IsToken isNumberChar isNumber (Seconds.text seconds) := by
  unfold Seconds.text
  split
  · exact (seconds.isNumeral_textIn Seconds.layout).isToken
  · split
    · decide +kernel
    · split <;> decide +kernel

/-- A sum may need more digits than what was added. -/
example :
    Seconds.text ((Seconds.ofMilliseconds 100).plus (Seconds.ofMilliseconds 200)) =
      "0.30000000000000004" := by
  decide +kernel

/-! ## Samples -/

/-- What stands behind the opening brace of labels. -/
theorem Labels.toList_intercalate (first : String × String) (rest : Labels) :
    (",".intercalate ((first :: rest).map pairText)).toList ++ ['\x7d'] =
      OpenMetrics.labelLine String.toList first ++
        OpenMetrics.furtherLine String.toList rest := by
  induction rest generalizing first with
  | nil => simp [pairText, OpenMetrics.labelLine, OpenMetrics.furtherLine]
  | cons second rest inductionHypothesis =>
      have behind := inductionHypothesis second
      rw [List.map_cons] at behind
      rw [List.map_cons, List.map_cons, String.intercalate_cons_cons, String.toList_append,
        List.append_assoc, behind]
      simp [pairText, OpenMetrics.labelLine, OpenMetrics.furtherLine]

theorem Labels.toList_text (labels : Labels) :
    labels.text.toList = OpenMetrics.labelsLine String.toList labels := by
  cases labels with
  | nil => rfl
  | cons first rest =>
      have behind := toList_intercalate first rest
      have chars : (Labels.text (first :: rest)).toList =
          '\x7b' :: ((",".intercalate ((first :: rest).map pairText)).toList ++ ['\x7d']) := by
        simp [Labels.text]
      rw [chars, behind]
      rfl

/-- What can be read of a sample. -/
def Sample.reading (metric : String) (sample : Sample) : Reading where
  name := metric ++ sample.ending
  labels := sample.labels
  value := sample.value
  exemplar := sample.exemplar.map fun exemplar =>
    ([("trace_id", Exemplar.traceText exemplar.trace)],
      Seconds.text (Seconds.ofMilliseconds exemplar.milliseconds))

theorem Sample.toList_line (metric : String) (sample : Sample) :
    (sample.line metric).toList = (sample.reading metric).line String.toList := by
  obtain ⟨ending, labels, value, exemplar⟩ := sample
  cases exemplar with
  | none =>
      simp [Sample.line, Sample.reading, Reading.line, OpenMetrics.exemplarLine,
        Labels.toList_text]
  | some exemplar =>
      simp [Sample.line, Sample.reading, Reading.line, OpenMetrics.exemplarLine,
        Labels.toList_text, Exemplar.text]

/-- A sample is valid if its name, the names of its labels and its value are. -/
theorem Sample.isValid_reading {metric ending value : String} {labels : Labels}
    (exemplar : Option Exemplar)
    (name : IsToken isNameChar isName (metric ++ ending))
    (named : OpenMetrics.Named labels)
    (number : IsToken isNumberChar isNumber value) :
    (Sample.reading metric ⟨ending, labels, value, exemplar⟩).IsValid := by
  refine ⟨name, named, number, ?_⟩
  intro traced member
  obtain ⟨exemplar, -, rfl⟩ := Option.map_eq_some_iff.mp member
  exact ⟨by simp, OpenMetrics.named_cons.mpr ⟨by decide, OpenMetrics.named_nil⟩,
    Seconds.isToken_text _⟩

/-- The buckets of a histogram have valid samples. -/
theorem Histogram.isValid_bucketSamples {metric : String}
    (named : IsToken isNameChar isName (metric ++ "_bucket")) (below : Nat)
    (buckets : List Bucket) :
    ∀ sample ∈ bucketSamples below buckets, (sample.reading metric).IsValid := by
  induction buckets generalizing below with
  | nil => simp [bucketSamples]
  | cons bucket rest inductionHypothesis =>
      refine List.forall_mem_cons.mpr ⟨?_, inductionHypothesis _⟩
      exact Sample.isValid_reading _ named
        (OpenMetrics.named_cons.mpr ⟨by decide, OpenMetrics.named_nil⟩) (isToken_toString _)

namespace Metrics

/-- What is to be read of the metrics. -/
def recorded (metrics : Metrics) : List Reading :=
  metrics.duration.samples.map (Sample.reading "alm_reconcile_duration_seconds") ++
    metrics.failures.map (fun (labels, count) =>
      ⟨"alm_reconcile_failures_total",
        [("instance", labels.instanceName), ("error", labels.fault)], toString count, none⟩) ++
    [⟨"alm_reconcile_runs_total", [], toString metrics.runs, none⟩] ++
    metrics.phases.map (fun (phase, count) =>
      ⟨"alm_reconcile_phases_total", [("phase", phase)], toString count, none⟩) ++
    metrics.healthy.map (fun (labels, isHealthy) =>
      ⟨"alm_ishtar_healthy",
        [("namespace", labels.namespaceName), ("instance", labels.instanceName)],
        if isHealthy then "1" else "0", none⟩)

/-- A metric shows its samples, if it is headed by lines that begin with a mark. -/
theorem show_metric {name help kind : String} {unit : Option String} {samples : List Sample}
    {readings : List Reading}
    (shows : OpenMetrics.Show
      (samples.map (Sample.line (Metric.fullName ⟨name, help, kind, unit, []⟩))) readings)
    (headed : ∀ line ∈ Metric.lines ⟨name, help, kind, unit, []⟩,
      line.toList.head? = some '#' ∧ '\n' ∉ line.toList) :
    OpenMetrics.Show (Metric.lines ⟨name, help, kind, unit, samples⟩) readings := by
  have lines : Metric.lines ⟨name, help, kind, unit, samples⟩ =
      Metric.lines ⟨name, help, kind, unit, []⟩ ++
        samples.map (Sample.line (Metric.fullName ⟨name, help, kind, unit, []⟩)) := by
    cases unit <;> simp [Metric.lines, Metric.fullName]
  rw [lines]
  exact shows.marks headed

/-- The samples of a histogram are shown one by one. -/
theorem show_histogram {metric : String} (histogram : Histogram)
    (sum : IsToken isNameChar isName (metric ++ "_sum"))
    (count : IsToken isNameChar isName (metric ++ "_count"))
    (bucket : IsToken isNameChar isName (metric ++ "_bucket")) :
    OpenMetrics.Show (histogram.samples.map (Sample.line metric))
      (histogram.samples.map (Sample.reading metric)) := by
  refine .map _ ?_ (Sample.toList_line _)
  refine List.forall_mem_cons.mpr ⟨?_, List.forall_mem_cons.mpr ⟨?_, ?_⟩⟩
  · exact Sample.isValid_reading none sum OpenMetrics.named_nil (Seconds.isToken_text _)
  · exact Sample.isValid_reading none count OpenMetrics.named_nil (isToken_toString _)
  · exact Histogram.isValid_bucketSamples bucket 0 _

/-- The counters of a family are shown one by one. -/
theorem show_counters {α : Type} {metric : String} (labels : α → Labels) (count : α → Nat)
    (family : List α)
    (name : IsToken isNameChar isName (metric ++ "_total"))
    (named : ∀ entry, OpenMetrics.Named (labels entry)) :
    OpenMetrics.Show
      ((family.map fun entry => Sample.counter (labels entry) (count entry)).map
        (Sample.line metric))
      (family.map fun entry =>
        ⟨metric ++ "_total", labels entry, toString (count entry), none⟩) := by
  rw [List.map_map]
  refine .map family (fun entry _ => ?_) fun entry => Sample.toList_line metric _
  exact Sample.isValid_reading none name (named entry) (isToken_toString _)

/-- The gauges of a family are shown one by one. -/
theorem show_gauges {α : Type} {metric : String} (labels : α → Labels) (holds : α → Bool)
    (family : List α)
    (name : IsToken isNameChar isName (metric ++ ""))
    (named : ∀ entry, OpenMetrics.Named (labels entry)) :
    OpenMetrics.Show
      ((family.map fun entry => Sample.gauge (labels entry) (holds entry)).map
        (Sample.line metric))
      (family.map fun entry =>
        ⟨metric ++ "", labels entry, if holds entry then "1" else "0", none⟩) := by
  rw [List.map_map]
  refine .map family (fun entry _ => ?_) fun entry => Sample.toList_line metric _
  refine Sample.isValid_reading none name (named entry) ?_
  cases holds entry <;> decide

/-- The lines of the metrics show what is recorded. -/
theorem show_lines (metrics : Metrics) : OpenMetrics.Show metrics.lines metrics.recorded := by
  have named : ∀ {name : String}, IsToken isLabelChar isName name →
      ∀ value : String, OpenMetrics.Named [(name, value)] := fun isToken value =>
    OpenMetrics.named_cons.mpr ⟨isToken, OpenMetrics.named_nil⟩
  have bothNamed : ∀ {name other : String},
      IsToken isLabelChar isName name → IsToken isLabelChar isName other →
      ∀ one two : String, OpenMetrics.Named [(name, one), (other, two)] :=
    fun isToken otherIsToken one two =>
      OpenMetrics.named_cons.mpr ⟨isToken, named otherIsToken two⟩
  have duration : OpenMetrics.Show
      (Metric.lines ⟨"alm_reconcile_duration", "reconcile duration", "histogram",
        some "seconds", metrics.duration.samples⟩) _ :=
    show_metric
      (show_histogram _ (by decide +kernel) (by decide +kernel) (by decide +kernel))
      (by decide +kernel)
  have failures : OpenMetrics.Show
      (Metric.lines ⟨"alm_reconcile_failures", "reconciliation errors", "counter", none, _⟩) _ :=
    show_metric (show_counters
      (fun entry : FailureLabels × Nat =>
        [("instance", entry.1.instanceName), ("error", entry.1.fault)])
      Prod.snd metrics.failures (by decide +kernel)
      fun entry => bothNamed (by decide +kernel) (by decide +kernel) _ _) (by decide +kernel)
  have runs : OpenMetrics.Show
      (Metric.lines ⟨"alm_reconcile_runs", "reconciliations", "counter", none, _⟩) _ :=
    show_metric (show_counters (fun _ : Nat => []) id [metrics.runs] (by decide +kernel)
      fun _ => OpenMetrics.named_nil) (by decide +kernel)
  have phases : OpenMetrics.Show
      (Metric.lines ⟨"alm_reconcile_phases", "reconciliations by resulting phase", "counter",
        none, _⟩) _ :=
    show_metric (show_counters (fun entry : String × Nat => [("phase", entry.1)])
      Prod.snd metrics.phases (by decide +kernel)
      fun entry => named (by decide +kernel) _) (by decide +kernel)
  have healthy : OpenMetrics.Show
      (Metric.lines ⟨"alm_ishtar_healthy", "health of ishtar in installed ALMs", "gauge",
        none, _⟩) _ :=
    show_metric (show_gauges
      (fun entry : InstanceLabels × Bool =>
        [("namespace", entry.1.namespaceName), ("instance", entry.1.instanceName)])
      Prod.snd metrics.healthy (by decide +kernel)
      fun entry => bothNamed (by decide +kernel) (by decide +kernel) _ _) (by decide +kernel)
  have ends : OpenMetrics.Show ["# EOF"] [] :=
    .mark "# EOF" (by decide +kernel) (by decide +kernel) .none
  have all := ((((duration.append failures).append runs).append phases).append healthy).append
    ends
  simpa [lines, exposed, recorded, Metric.fullName] using all

/-! ## Labels -/

/-- A label that is a number is plain. -/
theorem plain_of_isNumber {text : String} (isToken : IsToken isNumberChar isNumber text) :
    Plain text := by
  intro char member
  have allowed := List.all_eq_true.mp isToken.1 char member
  refine ⟨?_, ?_, ?_⟩ <;> rintro rfl <;> exact absurd allowed (by decide)

/-- Hexadecimal digits need not be escaped. -/
theorem plain_of_mem_hexadecimal (places value : Nat) :
    ∀ char ∈ Exemplar.hexadecimal places value,
      char ≠ '"' ∧ char ≠ '\\' ∧ char ≠ '\n' := by
  have digit : ∀ value < 16, Nat.digitChar value ≠ '"' ∧
      Nat.digitChar value ≠ '\\' ∧ Nat.digitChar value ≠ '\n' := by
    decide
  induction places generalizing value with
  | zero => simp [Exemplar.hexadecimal]
  | succ places inductionHypothesis =>
      exact List.forall_mem_cons.mpr
        ⟨digit _ (Nat.mod_lt _ (by decide)), inductionHypothesis _⟩

/-- The identity of a trace is plain. -/
theorem plain_traceText (trace : Nat) : Plain (Exemplar.traceText trace) := by
  intro char member
  rw [Exemplar.traceText, String.toList_ofList, List.mem_reverse] at member
  exact plain_of_mem_hexadecimal 32 trace char member

/-- A sample is plain if its labels are; exemplars always are. -/
theorem isPlain_reading {metric : String} {sample : Sample}
    (plain : ∀ label ∈ sample.labels, Plain label.2) :
    (sample.reading metric).IsPlain := by
  refine ⟨plain, ?_⟩
  intro traced member label inLabels
  obtain ⟨exemplar, -, rfl⟩ := Option.map_eq_some_iff.mp member
  rw [List.mem_singleton.mp inLabels]
  exact plain_traceText exemplar.trace

/-- The bounds of buckets are plain. -/
theorem isPlain_bucketSamples (metric : String) (below : Nat) (buckets : List Bucket) :
    ∀ sample ∈ Histogram.bucketSamples below buckets, (sample.reading metric).IsPlain := by
  induction buckets generalizing below with
  | nil => simp [Histogram.bucketSamples]
  | cons bucket rest inductionHypothesis =>
      refine List.forall_mem_cons.mpr ⟨isPlain_reading ?_, inductionHypothesis _⟩
      intro label inLabels
      rw [List.mem_singleton.mp inLabels]
      cases bucket.bound with
      | none => exact (by decide +kernel : Plain "+Inf")
      | some bound => exact plain_of_isNumber (Seconds.isToken_text _)

/-- Whatever was observed, the samples of a histogram are plain. -/
theorem isPlain_histogram (metric : String) (histogram : Histogram) :
    ∀ sample ∈ histogram.samples, (sample.reading metric).IsPlain := by
  refine List.forall_mem_cons.mpr ⟨isPlain_reading ?_, List.forall_mem_cons.mpr
    ⟨isPlain_reading ?_, isPlain_bucketSamples metric 0 histogram.buckets⟩⟩
  · simp
  · simp

/-- A sample without an exemplar is plain just when its labels are. -/
theorem isPlain_iff {name value : String} {labels : Labels} :
    (⟨name, labels, value, none⟩ : Reading).IsPlain ↔ ∀ label ∈ labels, Plain label.2 :=
  ⟨fun plain => plain.labels, fun plain => ⟨plain, by simp⟩⟩

/-- All labels under which something was counted are plain. -/
structure PlainLabels (metrics : Metrics) : Prop where
  failures : ∀ labels ∈ metrics.failures.keys, Plain labels.instanceName ∧ Plain labels.fault
  phases : ∀ phase ∈ metrics.phases.keys, Plain phase
  healthy : ∀ labels ∈ metrics.healthy.keys,
    Plain labels.namespaceName ∧ Plain labels.instanceName

theorem isPlain_recorded_iff (metrics : Metrics) :
    (∀ reading ∈ metrics.recorded, reading.IsPlain) ↔ metrics.PlainLabels := by
  have duration := isPlain_histogram "alm_reconcile_duration_seconds" metrics.duration
  simp only [recorded, List.forall_mem_append, List.forall_mem_map, List.forall_mem_singleton,
    isPlain_iff, List.forall_mem_cons, List.not_mem_nil, false_implies, implies_true, and_true,
    true_and, eq_true duration]
  constructor
  · rintro ⟨⟨failures, phases⟩, healthy⟩
    exact ⟨List.forall_mem_map.mpr failures, List.forall_mem_map.mpr phases,
      List.forall_mem_map.mpr healthy⟩
  · rintro ⟨failures, phases, healthy⟩
    exact ⟨⟨List.forall_mem_map.mp failures, List.forall_mem_map.mp phases⟩,
      List.forall_mem_map.mp healthy⟩

/-- The text of the metrics is read as what is recorded just when all labels are plain. -/
theorem read_text_iff (metrics : Metrics) :
    OpenMetrics.read metrics.text = some metrics.recorded ↔ metrics.PlainLabels := by
  rw [← isPlain_recorded_iff]
  exact metrics.show_lines.read_iff

/-! ## The order of what was counted -/

/-- The same was counted, but the labels may come in another order. -/
structure Reorders (shown metrics : Metrics) : Prop where
  runs : shown.runs = metrics.runs
  duration : shown.duration = metrics.duration
  failures : shown.failures.Perm metrics.failures
  phases : shown.phases.Perm metrics.phases
  healthy : shown.healthy.Perm metrics.healthy

namespace Reorders

variable {shown metrics : Metrics}

theorem refl (metrics : Metrics) : metrics.Reorders metrics :=
  ⟨rfl, rfl, .refl _, .refl _, .refl _⟩

/-- The same is recorded in any order. -/
theorem recorded_perm (reorders : shown.Reorders metrics) :
    shown.recorded.Perm metrics.recorded := by
  obtain ⟨runs, duration, failures, phases, healthy⟩ := reorders
  unfold recorded
  rw [runs, duration]
  exact ((((List.Perm.refl _).append (failures.map _)).append_right _).append
    (phases.map _)).append (healthy.map _)

/-- Labels are plain in any order. -/
theorem plainLabels_iff (reorders : shown.Reorders metrics) :
    shown.PlainLabels ↔ metrics.PlainLabels := by
  rw [← isPlain_recorded_iff, ← isPlain_recorded_iff]
  simp only [reorders.recorded_perm.mem_iff]

end Reorders

end Metrics
end LifecycleOperator
