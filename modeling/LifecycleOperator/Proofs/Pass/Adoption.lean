import LifecycleOperator.Proofs.Pass.Course

/-!
# What adopting secrets changes

Adopting a secret writes it back under the name that it carries.  Where every
object lies under its own name, this is the name under which the secret was found,
so that nothing but the owners of the secret changes.  Adopting one secret keeps
the names in order, which carries the argument over to the next one.
-/

namespace LifecycleOperator

/-- Two objects differ in their owners at most. -/
def Object.SameButOwners {kind : Kind} (former later : Object kind) : Prop :=
  later.body = former.body ∧
    later.metadata =
      { former.metadata with ownerReferences := later.metadata.ownerReferences }

namespace Object.SameButOwners

variable {kind : Kind} {first second third : Object kind}

/-- Objects that differ in their owners at most have one name. -/
theorem name_eq (same : first.SameButOwners second) :
    second.metadata.name = first.metadata.name := by
  rw [same.2]

/-- Changing the owners twice changes the owners. -/
theorem trans
    (before : first.SameButOwners second)
    (after : second.SameButOwners third) :
    first.SameButOwners third := by
  refine ⟨after.1.trans before.1, ?_⟩
  rw [after.2, before.2]

end Object.SameButOwners

namespace Store

/-- Every object lies under its own name. -/
def WellNamed (store : Store) : Prop :=
  ∀ key object, store.find? key = some object → object.metadata.name.getD "" = key.name

/-- There is no object that could be misplaced. -/
theorem wellNamed_empty : empty.WellNamed := by
  intro key object found
  cases found

/-- Objects are put under their own names. -/
theorem WellNamed.insert
    {store : Store}
    (wellNamed : store.WellNamed)
    {kind : Kind} (namespaceName : String) (object : Object kind) :
    (store.insert namespaceName object).WellNamed := by
  intro key found isFound
  unfold Store.insert at isFound
  by_cases same : (⟨kind, namespaceName, object.metadata.name.getD ""⟩ : Key) = key
  · subst same
    rw [find?_put_self, Option.some.injEq] at isFound
    rw [isFound]
  · rw [find?_put_of_ne store object same] at isFound
    exact wellNamed key found isFound

end Store

namespace Pass

/-- Secrets of these names may get other owners. -/
def OwnersChanged (namespaceName : String) (names : List String) : Store.Change :=
  fun key former later => later = former ∨
    key.kind = .secret ∧ key.namespaceName = namespaceName ∧ key.name ∈ names ∧
      former.SameButOwners later

namespace OwnersChanged

variable {namespaceName : String} {names : List String} {key : Key}

theorem name_eq
    {former later : Object key.kind}
    (changed : OwnersChanged namespaceName names key former later) :
    later.metadata.name = former.metadata.name := by
  rcases changed with rfl | ⟨-, -, -, same⟩
  · rfl
  · exact same.name_eq

/-- What may change twice may change. -/
theorem trans
    {first second third : Object key.kind}
    (before : OwnersChanged namespaceName names key first second)
    (after : OwnersChanged namespaceName names key second third) :
    OwnersChanged namespaceName names key first third := by
  rcases before with rfl | ⟨isSecret, place, member, same⟩
  · exact after
  · rcases after with rfl | ⟨-, -, -, sameAgain⟩
    · exact .inr ⟨isSecret, place, member, same⟩
    · exact .inr ⟨isSecret, place, member, same.trans sameAgain⟩

theorem mono
    {more : List String}
    {former later : Object key.kind}
    (changed : OwnersChanged namespaceName names key former later)
    (included : names ⊆ more) :
    OwnersChanged namespaceName more key former later := by
  rcases changed with rfl | ⟨isSecret, place, member, same⟩
  · exact .inl rfl
  · exact .inr ⟨isSecret, place, included member, same⟩

end OwnersChanged

/-- Only the owners of secrets of these names change. -/
abbrev Adopts (namespaceName : String) (names : List String) (before after : Store) : Prop :=
  Store.Evolves (OwnersChanged namespaceName names) Store.NoAddition before after

namespace Adopts

variable {namespaceName : String} {names : List String} {before middle after : Store}

theorem refl (store : Store) : Adopts namespaceName names store store :=
  Store.Evolves.refl (fun _ _ => .inl rfl) store

/-- Owners may be changed by two parts of a pass. -/
theorem trans
    (first : Adopts namespaceName names before middle)
    (second : Adopts namespaceName names middle after) :
    Adopts namespaceName names before after := by
  refine Store.Evolves.trans ?_ ?_ first second
  · intro key one two three changed changedAgain
    exact changed.trans changedAgain
  · intro key one two impossible
    exact impossible.elim

/-- More secrets may be adopted by the whole than by its parts. -/
theorem mono
    {more : List String}
    (adopts : Adopts namespaceName names before after)
    (included : names ⊆ more) :
    Adopts namespaceName more before after := by
  refine Store.Evolves.mono adopts ?_ fun _ _ impossible => impossible
  intro key former later changed
  exact changed.mono included

/-- Every object stays under its own name. -/
theorem wellNamed
    (adopts : Adopts namespaceName names before after)
    (wellNamed : before.WellNamed) :
    after.WellNamed := by
  intro key later found
  cases former : before.find? key with
  | none => exact (adopts.added key later former found).elim
  | some object =>
      obtain ⟨other, foundOther, changed⟩ := adopts.kept key object former
      rw [found, Option.some.injEq] at foundOther
      subst foundOther
      rw [changed.name_eq]
      exact wellNamed key object former

/-- A secret is written back with other owners. -/
theorem of_insert
    {name : String} {secret : Object .secret}
    (wellNamed : before.WellNamed)
    (found : before.find? ⟨.secret, namespaceName, name⟩ = some secret)
    (reference : OwnerReference) :
    Adopts namespaceName [name] before
      (before.insert namespaceName
        { secret with metadata := secret.metadata.adoptedBy reference }) := by
  have place : secret.metadata.name.getD "" = name :=
    wellNamed ⟨.secret, namespaceName, name⟩ secret found
  have sameName : (secret.metadata.adoptedBy reference).name = secret.metadata.name := rfl
  unfold Store.insert
  rw [sameName, place]
  refine .of_put (fun _ _ => .inl rfl) found ?_
  exact .inr ⟨rfl, rfl, List.mem_singleton_self name, rfl, rfl⟩

end Adopts

/-- Adopting a secret changes nothing but its owners. -/
theorem Adopting.adopts
    {installation : Installation} {reference : OwnerReference} {name : String}
    {transcript : List Exchange}
    {permitted : ClusterCall → Verdict → Prop} {store after : Store}
    (adopting : Adopting installation reference name transcript)
    (wellNamed : store.WellNamed)
    (explains : Store.Explains permitted store transcript after) :
    Adopts installation.namespaceName [name] store after := by
  cases adopting with
  | unreadable | missing | owned =>
      obtain ⟨middle, looked, rfl⟩ := explains
      rw [looked.lookup.1]
      exact .refl store
  | unwritable secret notOwned fault =>
      obtain ⟨middle, looked, last, written, rfl⟩ := explains
      obtain ⟨rfl, found⟩ := looked.lookup
      rcases written.replace with rfl | rfl
      · exact .refl after
      · exact .of_insert wellNamed (found _ rfl) reference
  | adopted secret notOwned answer told =>
      obtain ⟨middle, looked, next, written, last, published, rfl⟩ := explains
      obtain ⟨rfl, found⟩ := looked.lookup
      rw [published.publish]
      rcases written.replace with rfl | rfl
      · exact .refl next
      · exact .of_insert wellNamed (found _ rfl) reference

/-- Adopting secrets changes nothing but their owners. -/
theorem AdoptingEach.adopts
    {installation : Installation} {reference : OwnerReference} {names : List String}
    {transcript : List Exchange}
    {permitted : ClusterCall → Verdict → Prop} {store after : Store}
    (adopting : AdoptingEach installation reference names transcript)
    (wellNamed : store.WellNamed)
    (explains : Store.Explains permitted store transcript after) :
    Adopts installation.namespaceName names store after := by
  induction adopting generalizing store with
  | nil =>
      obtain rfl := explains
      exact .refl after
  | @cons name rest front back first others inductionHypothesis =>
      obtain ⟨middle, explainsFirst, explainsOthers⟩ := Store.explains_append.mp explains
      have adopts := first.adopts wellNamed explainsFirst
      have adoptsOthers := inductionHypothesis (adopts.wellNamed wellNamed) explainsOthers
      have included : [name] ⊆ name :: rest := by simp
      exact .trans (adopts.mono included) (adoptsOthers.mono (List.subset_cons_self name rest))

/-- Adopting the secrets of an installation changes nothing but their owners. -/
theorem adopts_of_yields_propagateSecrets
    {installation : Installation}
    {transcript : List Exchange} {outcome : Except Fault Unit}
    {permitted : ClusterCall → Verdict → Prop} {store after : Store}
    (yields : (propagateSecrets installation).Yields transcript outcome)
    (wellNamed : store.WellNamed)
    (explains : Store.Explains permitted store transcript after) :
    Adopts installation.namespaceName bootstrapSecrets store after := by
  rcases (yields_propagateSecrets yields).2 with ⟨-, rfl⟩ | ⟨reference, -, adopts⟩
  · obtain rfl := explains
    exact .refl after
  · exact adopts.adopts wellNamed explains

end Pass
end LifecycleOperator
