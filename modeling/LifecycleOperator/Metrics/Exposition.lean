import LifecycleOperator.Metrics.Basic

/-!
# Exposition of the metrics

The metrics as text: for every metric a help line, a type line and, where there
is a unit, a unit line, followed by its samples.  The values of labels are
written as they are.
-/

namespace LifecycleOperator

namespace Seconds

/-- A number of seconds has a power of ten when it is tiny or huge. -/
def layout : Binary64.Layout := ⟨-6, 21⟩

/-- The text of a number of seconds, with a word for what is not finite. -/
def text (seconds : Binary64) : String :=
  if seconds.isFinite then seconds.textIn layout
  else if seconds.fractionField != 0 then "NaN"
  else if seconds.isNegative then "-inf"
  else "inf"

end Seconds

/-- Names and values of labels. -/
abbrev Labels := List (String × String)

namespace Labels

def pairText (label : String × String) : String :=
  label.1 ++ "=\"" ++ label.2 ++ "\""

/-- The labels of a sample; nothing if there are none. -/
def text (labels : Labels) : String :=
  if labels.isEmpty then ""
  else "\x7b" ++ ",".intercalate (labels.map pairText) ++ "\x7d"

end Labels

namespace Exemplar

/-- The hexadecimal digits of a number, from the last one. -/
def hexadecimal : Nat → Nat → List Char
  | 0, _ => []
  | places + 1, value => Nat.digitChar (value % 16) :: hexadecimal places (value / 16)

/-- The identity of a trace, in 32 hexadecimal digits. -/
def traceText (trace : Nat) : String :=
  String.ofList (hexadecimal 32 trace).reverse

/-- An exemplar at the end of a sample. -/
def text (exemplar : Exemplar) : String :=
  " # " ++ Labels.text [("trace_id", traceText exemplar.trace)] ++ " " ++
    Seconds.text (Seconds.ofMilliseconds exemplar.milliseconds)

end Exemplar

/-- One value of a metric. -/
structure Sample where
  /-- What is added to the name of the metric. -/
  ending : String
  labels : Labels
  value : String
  exemplar : Option Exemplar
  deriving DecidableEq, Repr, Inhabited

namespace Sample

def counter (labels : Labels) (count : Nat) : Sample :=
  ⟨"_total", labels, toString count, none⟩

/-- A gauge that tells whether something holds. -/
def gauge (labels : Labels) (holds : Bool) : Sample :=
  ⟨"", labels, if holds then "1" else "0", none⟩

def line (metric : String) (sample : Sample) : String :=
  metric ++ sample.ending ++ sample.labels.text ++ " " ++ sample.value ++
    (sample.exemplar.map Exemplar.text).getD ""

end Sample

namespace Histogram

def boundText : Option Nat → String
  | some bound => Seconds.text (Seconds.ofMilliseconds bound)
  | none => "+Inf"

/-- The samples of buckets; each counts what is below it as well. -/
def bucketSamples : Nat → List Bucket → List Sample
  | _, [] => []
  | below, bucket :: rest =>
      let count := below + bucket.count
      ⟨"_bucket", [("le", boundText bucket.bound)], toString count, bucket.exemplar⟩ ::
        bucketSamples count rest

def samples (histogram : Histogram) : List Sample :=
  ⟨"_sum", [], Seconds.text histogram.total, none⟩ ::
    ⟨"_count", [], toString histogram.count, none⟩ ::
    bucketSamples 0 histogram.buckets

end Histogram

/-- A metric with all of its values. -/
structure Metric where
  name : String
  help : String
  kind : String
  unit : Option String
  samples : List Sample
  deriving DecidableEq, Repr, Inhabited

namespace Metric

/-- The name with the unit at its end. -/
def fullName (metric : Metric) : String :=
  match metric.unit with
  | some unit => metric.name ++ "_" ++ unit
  | none => metric.name

def lines (metric : Metric) : List String :=
  ["# HELP " ++ metric.fullName ++ " " ++ metric.help ++ ".",
    "# TYPE " ++ metric.fullName ++ " " ++ metric.kind] ++
  (metric.unit.map fun unit => "# UNIT " ++ metric.fullName ++ " " ++ unit).toList ++
  metric.samples.map (Sample.line metric.fullName)

end Metric

namespace Metrics

def exposed (metrics : Metrics) : List Metric :=
  [{ name := "alm_reconcile_duration"
     help := "reconcile duration"
     kind := "histogram"
     unit := some "seconds"
     samples := metrics.duration.samples },
    { name := "alm_reconcile_failures"
      help := "reconciliation errors"
      kind := "counter"
      unit := none
      samples := metrics.failures.map fun (labels, count) =>
        .counter [("instance", labels.instanceName), ("error", labels.fault)] count },
    { name := "alm_reconcile_runs"
      help := "reconciliations"
      kind := "counter"
      unit := none
      samples := [.counter [] metrics.runs] },
    { name := "alm_reconcile_phases"
      help := "reconciliations by resulting phase"
      kind := "counter"
      unit := none
      samples := metrics.phases.map fun (phase, count) =>
        .counter [("phase", phase)] count },
    { name := "alm_ishtar_healthy"
      help := "health of ishtar in installed ALMs"
      kind := "gauge"
      unit := none
      samples := metrics.healthy.map fun (labels, isHealthy) =>
        .gauge [("namespace", labels.namespaceName), ("instance", labels.instanceName)]
          isHealthy }]

def lines (metrics : Metrics) : List String :=
  metrics.exposed.flatMap Metric.lines ++ ["# EOF"]

/-- The text, every line ended. -/
def text (metrics : Metrics) : String :=
  String.join (metrics.lines.map fun line => line ++ "\n")

end Metrics

end LifecycleOperator
