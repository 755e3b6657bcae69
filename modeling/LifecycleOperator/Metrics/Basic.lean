import LifecycleOperator.Binary64
import LifecycleOperator.Pass.Phase

/-!
# Metrics

What is counted about passes: how many there were, how long they took, in which
phase they left an installation or why they failed, and whether an installation
was healthy when it was last looked at.
-/

namespace LifecycleOperator

/--
Values by their labels.  They are kept in the order in which the labels first appeared, but
nothing follows from this order: whoever shows them may choose another one.
-/
abbrev Family (κ α : Type) := List (κ × α)

namespace Family

variable {κ α : Type} [DecidableEq κ]

/-- Change the value of a label; a label that is new starts from a given value. -/
def update (start : α) (change : α → α) : Family κ α → κ → Family κ α
  | [], label => [(label, change start)]
  | (key, value) :: rest, label =>
      if key = label then (key, change value) :: rest
      else (key, value) :: update start change rest label

def increment (family : Family κ Nat) (label : κ) : Family κ Nat :=
  update 0 (· + 1) family label

def set (family : Family κ α) (label : κ) (value : α) : Family κ α :=
  update value (fun _ => value) family label

/-- What was updated is found as it was left. -/
theorem lookup_update_self
    (start : α) (change : α → α) (family : Family κ α) (label : κ) :
    (update start change family label).lookup label =
      some (change ((family.lookup label).getD start)) := by
  induction family with
  | nil => simp [update]
  | cons entry rest inductionStep =>
      obtain ⟨key, value⟩ := entry
      by_cases same : key = label
      · subst same
        simp [update]
      · have notSame : (label == key) = false := by simpa using Ne.symm same
        simp [update, same, List.lookup_cons, notSame, inductionStep]

/-- What is kept under other labels is not touched by an update. -/
theorem lookup_update_of_ne
    (start : α) (change : α → α) (family : Family κ α) {label other : κ}
    (different : label ≠ other) :
    (update start change family label).lookup other = family.lookup other := by
  induction family with
  | nil =>
      have notFound : (other == label) = false := by simpa using Ne.symm different
      simp [update, List.lookup_cons, notFound]
  | cons entry rest inductionStep =>
      obtain ⟨key, value⟩ := entry
      by_cases same : key = label
      · subst same
        have notSame : (other == key) = false := by simpa using Ne.symm different
        simp [update, List.lookup_cons, notSame]
      · by_cases found : other = key
        · subst found
          simp [update, same]
        · have notFound : (other == key) = false := by simpa using found
          simp [update, same, List.lookup_cons, notFound, inductionStep]

end Family

/-- A number of milliseconds, as a number of seconds. -/
def Seconds.ofMilliseconds (milliseconds : Nat) : Binary64 :=
  .ofFloat (milliseconds.toFloat / 1000.0)

/-- An observation that can be traced. -/
structure Exemplar where
  trace : Nat
  /-- What was observed, in milliseconds. -/
  milliseconds : Nat
  deriving DecidableEq, Repr, Inhabited

/-- Observations that are not greater than a bound, and greater than the bound before. -/
structure Bucket where
  /-- The bound in milliseconds; the last bucket has none. -/
  bound : Option Nat
  count : Nat
  /-- The last one that can be traced. -/
  exemplar : Option Exemplar
  deriving DecidableEq, Repr, Inhabited

namespace Bucket

/-- Whether an observation is within the bound. -/
def admits (bucket : Bucket) (milliseconds : Nat) : Bool :=
  match bucket.bound with
  | some bound => decide (milliseconds ≤ bound)
  | none => true

/-- Take an observation down; one that cannot be traced leaves the exemplar alone. -/
def observe (bucket : Bucket) (milliseconds : Nat) (trace : Option Nat) : Bucket :=
  { bucket with
    count := bucket.count + 1
    exemplar := (trace.map fun trace => ⟨trace, milliseconds⟩).or bucket.exemplar }

end Bucket

/-- How long things took. -/
structure Histogram where
  count : Nat
  /-- All of them together, in seconds; the sum was rounded each time that one was added. -/
  total : Binary64
  buckets : List Bucket
  deriving DecidableEq, Repr, Inhabited

namespace Histogram

/-- No observations between these bounds, which are in milliseconds. -/
def ofBounds (bounds : List Nat) : Histogram where
  count := 0
  total := .zero
  buckets := (bounds.map some ++ [none]).map fun bound => ⟨bound, 0, none⟩

/-- Take an observation down in the first bucket that admits it. -/
def observeIn (milliseconds : Nat) (trace : Option Nat) : List Bucket → List Bucket
  | [] => []
  | bucket :: rest =>
      if bucket.admits milliseconds then bucket.observe milliseconds trace :: rest
      else bucket :: observeIn milliseconds trace rest

def observe (histogram : Histogram) (milliseconds : Nat) (trace : Option Nat) :
    Histogram where
  count := histogram.count + 1
  total := histogram.total.plus (Seconds.ofMilliseconds milliseconds)
  buckets := observeIn milliseconds trace histogram.buckets

end Histogram

/-- The labels of a failure. -/
structure FailureLabels where
  instanceName : String
  fault : String
  deriving DecidableEq, Repr, Inhabited

/-- The labels of an installation. -/
structure InstanceLabels where
  namespaceName : String
  instanceName : String
  deriving DecidableEq, Repr, Inhabited

/-- What is counted about passes. -/
structure Metrics where
  runs : Nat
  duration : Histogram
  failures : Family FailureLabels Nat
  /-- The passes that succeeded, by the label of the phase. -/
  phases : Family String Nat
  /-- Whether an installation was healthy when it was last looked at. -/
  healthy : Family InstanceLabels Bool
  deriving DecidableEq, Repr

namespace Metrics

/-- The bounds between which passes are told apart by their duration, in milliseconds. -/
def durationBounds : List Nat := [10, 100, 250, 500, 1000, 5000, 15000, 60000]

def initial : Metrics := ⟨0, .ofBounds durationBounds, [], [], []⟩

instance : Inhabited Metrics := ⟨initial⟩

def instanceLabels (installation : Installation) : InstanceLabels :=
  ⟨installation.namespaceName, installation.anyName⟩

def started (metrics : Metrics) : Metrics :=
  { metrics with runs := metrics.runs + 1 }

/-- A pass has ended; a trace of zero is none. -/
def ended (metrics : Metrics) (milliseconds trace : Nat) : Metrics :=
  { metrics with
    duration :=
      metrics.duration.observe milliseconds (if trace = 0 then none else some trace) }

/-- A pass left an installation in a phase. -/
def reached (metrics : Metrics) (installation : Installation) (phase : Phase) : Metrics :=
  { metrics with
    phases := metrics.phases.increment phase.label
    healthy :=
      match phase with
      | .steady isHealthy => metrics.healthy.set (instanceLabels installation) isHealthy
      | _ => metrics.healthy }

def failed (metrics : Metrics) (installation : Installation) (fault : Fault) : Metrics :=
  { metrics with
    failures := metrics.failures.increment ⟨installation.anyName, fault.metricLabel⟩ }

end Metrics

end LifecycleOperator
