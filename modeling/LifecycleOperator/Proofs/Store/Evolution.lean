import LifecycleOperator.Store.Basic

/-!
# How stores evolve

A store evolves into another one when no object is lost, every object changes
only in the permitted way, and every new object is of the permitted form.  A
store that merely grows keeps its objects as they are.  Both are preorders, so
that what a long run does to a store follows from what its parts do.
-/

namespace LifecycleOperator
namespace Store

/-- Says of an object, by its key, whether it may be added. -/
abbrev Addition := (key : Key) → Object key.kind → Prop

/-- Says of an object, by its key, what it may be changed to. -/
abbrev Change := (key : Key) → Object key.kind → Object key.kind → Prop

/-- Nothing is lost, and objects are changed and added only as permitted. -/
structure Evolves (change : Change) (addition : Addition) (before after : Store) : Prop where
  /-- Every object is still there, and changed as permitted. -/
  kept : ∀ key former, before.find? key = some former →
    ∃ later, after.find? key = some later ∧ change key former later
  /-- Every object that was not there before has been added as permitted. -/
  added : ∀ key later, before.find? key = none → after.find? key = some later →
    addition key later

/-- No object changes. -/
def Unchanged : Change := fun _ former later => later = former

/-- Nothing is added. -/
def NoAddition : Addition := fun _ _ => False

/-- Objects stay as they are, and others are added as permitted. -/
abbrev Grows (addition : Addition) (before after : Store) : Prop :=
  Evolves Unchanged addition before after

namespace Evolves

variable {change : Change} {addition : Addition} {before middle after : Store}

theorem refl
    (reflexive : ∀ key object, change key object object)
    (store : Store) :
    Evolves change addition store store where
  kept := fun key former found => ⟨former, found, reflexive key former⟩
  added := fun key later absent found => by
    rw [absent] at found
    cases found

/-- A store that evolves twice evolves. -/
theorem trans
    (transitive : ∀ key first second third,
      change key first second → change key second third → change key first third)
    (closed : ∀ key first second,
      addition key first → change key first second → addition key second)
    (first : Evolves change addition before middle)
    (second : Evolves change addition middle after) :
    Evolves change addition before after where
  kept := by
    intro key former found
    obtain ⟨between, foundBetween, changedFirst⟩ := first.kept key former found
    obtain ⟨later, foundLater, changedSecond⟩ := second.kept key between foundBetween
    exact ⟨later, foundLater, transitive key former between later changedFirst changedSecond⟩
  added := by
    intro key later absent found
    cases state : middle.find? key with
    | none => exact second.added key later state found
    | some between =>
        obtain ⟨other, foundOther, changed⟩ := second.kept key between state
        rw [found, Option.some.injEq] at foundOther
        subst foundOther
        exact closed key between later (first.added key between absent state) changed

/-- Less may be permitted to the parts than to the whole. -/
theorem mono
    {wider : Change} {more : Addition}
    (evolves : Evolves change addition before after)
    (changes : ∀ key former later, change key former later → wider key former later)
    (additions : ∀ key later, addition key later → more key later) :
    Evolves wider more before after where
  kept := by
    intro key former found
    obtain ⟨later, foundLater, changed⟩ := evolves.kept key former found
    exact ⟨later, foundLater, changes key former later changed⟩
  added := fun key later absent found =>
    additions key later (evolves.added key later absent found)

theorem has
    {key : Key}
    (evolves : Evolves change addition before after)
    (present : (before.find? key).isSome) :
    (after.find? key).isSome := by
  obtain ⟨former, found⟩ := Option.isSome_iff_exists.mp present
  obtain ⟨later, foundLater, -⟩ := evolves.kept key former found
  simp [foundLater]

/-- An object is put in the place of one that may be changed to it. -/
theorem of_put
    (reflexive : ∀ key object, change key object object)
    {key : Key} {former later : Object key.kind}
    (found : before.find? key = some former)
    (changed : change key former later) :
    Evolves change addition before (before.put key later) where
  kept := by
    intro other object foundOther
    by_cases same : key = other
    · subst same
      rw [found, Option.some.injEq] at foundOther
      subst foundOther
      exact ⟨later, find?_put_self before key later, changed⟩
    · exact ⟨object, (find?_put_of_ne before later same).trans foundOther,
        reflexive other object⟩
  added := by
    intro other object absent foundOther
    by_cases same : key = other
    · subst same
      rw [found] at absent
      cases absent
    · rw [find?_put_of_ne before later same, absent] at foundOther
      cases foundOther

end Evolves

namespace Grows

variable {addition : Addition} {before middle after : Store}

theorem refl (store : Store) : Grows addition store store := by
  refine Evolves.refl ?_ store
  intro key object
  rfl

/-- A store that grows twice grows. -/
theorem trans
    (first : Grows addition before middle)
    (second : Grows addition middle after) :
    Grows addition before after := by
  refine Evolves.trans ?_ ?_ first second
  · intro key one two three changed changedAgain
    exact changedAgain.trans changed
  · intro key one two permitted same
    rw [show two = one from same]
    exact permitted

/-- More may be added to the whole than to its parts. -/
theorem mono
    {more : Addition}
    (grows : Grows addition before after)
    (additions : ∀ key later, addition key later → more key later) :
    Grows more before after :=
  Evolves.mono grows (fun _ _ _ changed => changed) additions

/-- An object is found again after a store has grown. -/
theorem find?
    {key : Key} {object : Object key.kind}
    (grows : Grows addition before after)
    (found : before.find? key = some object) :
    after.find? key = some object := by
  obtain ⟨later, foundLater, same⟩ := grows.kept key object found
  rw [foundLater, show later = object from same]

/-- What may not be added is not there afterwards either. -/
theorem find?_eq_of_not_added
    {key : Key}
    (grows : Grows addition before after)
    (excluded : ∀ object, ¬ addition key object) :
    after.find? key = before.find? key := by
  cases former : before.find? key with
  | some object => exact grows.find? former
  | none =>
      cases later : after.find? key with
      | none => rfl
      | some object => exact absurd (grows.added key object former later) (excluded object)

/-- An object is put where there was none. -/
theorem of_put
    {key : Key} {object : Object key.kind}
    (absent : before.find? key = none)
    (permitted : addition key object) :
    Grows addition before (before.put key object) where
  kept := by
    intro other former found
    have different : key ≠ other := by
      intro same
      subst same
      rw [absent] at found
      cases found
    exact ⟨former, (find?_put_of_ne before object different).trans found, rfl⟩
  added := by
    intro other later absentOther found
    by_cases same : key = other
    · subst same
      rw [find?_put_self, Option.some.injEq] at found
      subst found
      exact permitted
    · rw [find?_put_of_ne before object same, absentOther] at found
      cases found

end Grows

/-- A store that evolves without additions and then grows evolves. -/
theorem Evolves.grow
    {change : Change} {addition : Addition} {before middle after : Store}
    (evolves : Evolves change NoAddition before middle)
    (grows : Grows addition middle after) :
    Evolves change addition before after where
  kept := by
    intro key former found
    obtain ⟨later, foundLater, changed⟩ := evolves.kept key former found
    exact ⟨later, grows.find? foundLater, changed⟩
  added := by
    intro key later absent found
    cases between : middle.find? key with
    | none => exact grows.added key later between found
    | some object => exact (evolves.added key object absent between).elim

end Store
end LifecycleOperator
