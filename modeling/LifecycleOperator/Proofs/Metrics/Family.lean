import LifecycleOperator.Metrics.Basic
import Mathlib.Algebra.Ring.Nat
import Mathlib.Data.List.Nodup

/-!
# Labels of a family

A family keeps one value for each label that it was ever updated under, and no other
label.  Where the values are counters, each of them counts on its own, and all of them
together count every increment.
-/

namespace LifecycleOperator
namespace Family

variable {κ α : Type}

/-- The labels of a family. -/
def keys (family : Family κ α) : List κ := family.map Prod.fst

variable [DecidableEq κ] {start : α} {change : α → α} {family : Family κ α} {label other : κ}

/-- An update adds the label that it is made under, and no other one. -/
theorem mem_keys_update :
    other ∈ (update start change family label).keys ↔ other = label ∨ other ∈ family.keys := by
  induction family with
  | nil => simp [update, keys]
  | cons entry rest inductionHypothesis =>
      obtain ⟨key, value⟩ := entry
      unfold update
      by_cases same : key = label
      · rw [if_pos same]
        simp only [keys, List.map_cons, List.mem_cons, same]
        tauto
      · rw [if_neg same]
        simp only [keys, List.map_cons, List.mem_cons] at inductionHypothesis ⊢
        rw [inductionHypothesis]
        tauto

/-- No label occurs twice after an update. -/
theorem nodup_keys_update (distinct : family.keys.Nodup) :
    (update start change family label).keys.Nodup := by
  induction family with
  | nil => simp [update, keys]
  | cons entry rest inductionHypothesis =>
      obtain ⟨key, value⟩ := entry
      obtain ⟨notIn, distinctRest⟩ := List.nodup_cons.mp distinct
      unfold update
      by_cases same : key = label
      · rw [if_pos same]
        exact distinct
      · rw [if_neg same]
        refine List.nodup_cons.mpr ⟨?_, inductionHypothesis distinctRest⟩
        intro member
        rcases mem_keys_update.mp member with equal | member
        · exact same equal
        · exact notIn member

/-- Where no label occurs twice, a value is found just when it is kept. -/
theorem lookup_eq_some_iff_mem (distinct : family.keys.Nodup) {value : α} :
    family.lookup label = some value ↔ (label, value) ∈ family := by
  rw [List.lookup_eq_some_iff]
  constructor
  · rintro ⟨front, back, rfl, -⟩
    simp
  · intro member
    obtain ⟨front, back, rfl⟩ := List.append_of_mem member
    refine ⟨front, back, rfl, ?_⟩
    intro entry inFront
    have apart : label ∉ front.map Prod.fst := by
      simp only [keys, List.map_append, List.map_cons] at distinct
      exact fun also => (List.nodup_append.mp distinct).2.2 label also label
        List.mem_cons_self rfl
    simp only [bne_iff_ne, ne_eq]
    rintro rfl
    exact apart (List.mem_map_of_mem inFront)

/-! ## Counters -/

/-- What is counted under a label; nothing at first. -/
def countOf (counters : Family κ Nat) (label : κ) : Nat := (counters.lookup label).getD 0

/-- What is counted under all labels together. -/
def total {κ : Type} (counters : Family κ Nat) : Nat := (counters.map Prod.snd).sum

variable {counters : Family κ Nat}

/-- An increment counts one more under its label. -/
theorem countOf_increment :
    (counters.increment label).countOf other =
      counters.countOf other + if label = other then 1 else 0 := by
  by_cases same : label = other
  · subst same
    rw [if_pos rfl, countOf, increment, lookup_update_self]
    rfl
  · rw [if_neg same, countOf, increment, lookup_update_of_ne _ _ _ same]
    rfl

/-- An increment counts one more in all. -/
theorem total_increment : (counters.increment label).total = counters.total + 1 := by
  induction counters with
  | nil => rfl
  | cons entry rest inductionHypothesis =>
      obtain ⟨key, value⟩ := entry
      simp only [increment, total] at inductionHypothesis
      unfold increment update
      by_cases same : key = label
      · rw [if_pos same]
        simp only [total, List.map_cons, List.sum_cons]
        omega
      · rw [if_neg same]
        simp only [total, List.map_cons, List.sum_cons, inductionHypothesis]
        omega

/-- The counters tell how many of some things go by each label; others have none. -/
structure Tallies
    (counters : Family κ Nat) (labelOf : α → Option κ) (things : List α) : Prop where
  counts : ∀ label,
    counters.countOf label = things.countP fun thing => labelOf thing = some label
  totals : counters.total = things.countP fun thing => (labelOf thing).isSome
  /-- No label has two counters. -/
  distinct : counters.keys.Nodup

namespace Tallies

variable {labelOf : α → Option κ} {things : List α} {thing : α}

theorem none : Tallies [] labelOf [] where
  counts _ := rfl
  totals := rfl
  distinct := List.nodup_nil

/-- A thing that goes by no label is not counted. -/
theorem pass (tallies : Tallies counters labelOf things) (unlabelled : labelOf thing = .none) :
    Tallies counters labelOf (things ++ [thing]) where
  counts other := by simp [tallies.counts other, List.countP_append, unlabelled]
  totals := by simp [tallies.totals, List.countP_append, unlabelled]
  distinct := tallies.distinct

/-- A thing that goes by a label is counted under it. -/
theorem increment (tallies : Tallies counters labelOf things)
    (labelled : labelOf thing = some label) :
    Tallies (counters.increment label) labelOf (things ++ [thing]) where
  counts other := by
    rw [countOf_increment, tallies.counts other, List.countP_append]
    simp [labelled, List.countP_singleton]
  totals := by
    rw [total_increment, tallies.totals, List.countP_append]
    simp [labelled]
  distinct := nodup_keys_update tallies.distinct

end Tallies

end Family
end LifecycleOperator
